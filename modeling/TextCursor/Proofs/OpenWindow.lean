import TextCursor.Proofs.Progress
/-!
# Windows that are still open

A window may stay open until someone looks at the token, and a look settles it at the next blank of its start.  No command
but one that sets the blanks can tell whether that has happened (`perform_settle`): it replaces the window, settles it at
ends of its own, or leaves its stop to the next look.  So a look can be put anywhere in a run (`look_unseen`), and what it
shows depends on the window's start and not on where the cursor went since.
-/
namespace TextCursor

variable {α β : Type}

/-- The outcome with the window that a look at the token would leave. -/
def Outcome.settled (o : Outcome α) : Outcome α := ⟨o.answer, o.cursor.settle none⟩

/-- The cursor at another position, with the window it has. -/
def Cursor.setPos (c : Cursor) (p : Nat) : Cursor := { c with pos := p }

namespace Cursor

variable (c : Cursor)

/-! ## Settling early -/

/-- A look leaves the cursor itself or one with another stop of the window. -/
theorem exists_settle_eq (e : Option Ends) : ∃ w, w.start = c.window.start ∧ c.settle e = { c with window := w } := by
  cases e with
  | some e => exact ⟨⟨c.window.start, some (c.stopAt e)⟩, rfl, rfl⟩
  | none =>
    unfold settle
    dsimp only
    split
    · exact ⟨⟨c.window.start, some (c.stopAt .atBlank)⟩, rfl, rfl⟩
    · exact ⟨c.window, rfl, rfl⟩

@[simp] theorem text_settle (e : Option Ends) : (c.settle e).text = c.text := by
  obtain ⟨w, -, h⟩ := c.exists_settle_eq e
  rw [h]

@[simp] theorem config_settle (e : Option Ends) : (c.settle e).config = c.config := by
  obtain ⟨w, -, h⟩ := c.exists_settle_eq e
  rw [h]

@[simp] theorem rest_settle (e : Option Ends) : (c.settle e).rest = c.rest := by
  rw [rest, text_settle, pos_settle]
  rfl

@[simp] theorem current?_settle (e : Option Ends) : (c.settle e).current? = c.current? := by
  rw [current?, rest_settle]
  rfl

@[simp] theorem isDone_settle (e : Option Ends) : (c.settle e).isDone = c.isDone := by
  rw [isDone, text_settle, pos_settle]
  rfl

@[simp] theorem isBlank_settle (e : Option Ends) : (c.settle e).isBlank = c.isBlank := by
  unfold isBlank
  rw [config_settle]

/-- **Opening a window forgets how the one before it was settled.** -/
@[simp] theorem mark_settle (e : Option Ends) : (c.settle e).mark = c.mark := by
  obtain ⟨w, -, h⟩ := c.exists_settle_eq e
  rw [h]
  rfl

/-- **Settling a window again forgets how it was settled before.** -/
@[simp] theorem resolve_settle (e : Option Ends) (e' : Ends) : (c.settle e).resolve e' = c.resolve e' := by
  obtain ⟨⟨start, stop⟩, hstart, h⟩ := c.exists_settle_eq e
  cases hstart
  rw [h]
  rfl

/-- **A second look shows what the first one did.** -/
@[simp] theorem settle_settle (e : Option Ends) : (c.settle none).settle e = c.settle e := by
  cases e with
  | some e => exact resolve_settle c none e
  | none =>
    cases hopen : c.window.stop.isNone with
    | true =>
      have hresolve : c.settle none = c.resolve .atBlank := if_pos hopen
      rw [hresolve]
      rfl
    | false =>
      have hkeep : c.settle none = c := if_neg (by rw [hopen]; exact Bool.false_ne_true)
      rw [hkeep, hkeep]

/-- **Where the next blank is does not depend on the cursor.** -/
@[simp] theorem setPos_settle (p : Nat) : (c.settle none).setPos p = (c.setPos p).settle none := by
  unfold settle setPos
  dsimp only
  split <;> rfl

@[simp] theorem pass_settle (n : Nat) : (c.settle none).pass n = (c.pass n).settle none := by
  have hpass : ∀ d : Cursor, d.pass n = d.setPos (d.pos + Text.size (d.rest.take n)) := fun _ => rfl
  rw [hpass, hpass, setPos_settle, pos_settle, rest_settle]

@[simp] theorem skipIf_settle (skip : Bool) : (c.settle none).skipIf skip = (c.skipIf skip).settle none := by
  cases skip
  · rfl
  · rw [skipIf, skipIf, if_pos rfl, if_pos rfl, skipBlanks, rest_settle, isBlank_settle, pass_settle]
    rfl

end Cursor

namespace Outcome

@[simp] theorem settled_settle (a : Except Fault α) (d : Cursor) :
    settled ⟨a, d.settle none⟩ = settled ⟨a, d⟩ := by
  unfold settled
  rw [Cursor.settle_settle]

theorem settled_of_eq {o o' : Outcome α} (h : o' = o.settled) : o'.settled = o.settled := by
  rw [h]
  exact settled_settle _ _

theorem settled_map {o o' : Outcome α} (h : o'.settled = o.settled) (g : α → β) : (o'.map g).settled = (o.map g).settled :=
  congrArg (Outcome.map g) h

theorem settled_reply {r r' : Reply} (h : r' = r) (c : Cursor) :
    settled ⟨.ok r', c.settle none⟩ = settled ⟨.ok r, c⟩ := by
  rw [h]
  exact settled_settle _ _

theorem settled_pair {q q' : α × Cursor} (g : α → Reply) (h : q' = (q.1, q.2.settle none)) :
    settled ⟨.ok (g q'.1), q'.2⟩ = settled ⟨.ok (g q.1), q.2⟩ := by
  rw [h]
  exact settled_settle _ _

end Outcome

namespace Cursor

variable (c : Cursor)

/-! ## The operations -/

theorem peek_settle (skip : Bool) : (c.settle none).peek skip = (c.peek skip).settled := by
  simp only [peek, skipIf_settle, current?_settle, pos_settle]
  cases (c.skipIf skip).current? <;> rfl

theorem next_settle (skip : Bool) : (c.settle none).next skip = (c.next skip).settled := by
  rw [next, pass_settle, peek_settle]
  rfl

theorem lookAhead_settle (skip : Bool) : (c.settle none).lookAhead skip = (c.lookAhead skip).settled := by
  have hback : ∀ d : Cursor, d.lookAhead skip = ⟨(d.next skip).answer, (d.next skip).cursor.setPos d.pos⟩ := fun _ => rfl
  rw [hback, hback, next_settle, pos_settle]
  exact congrArg (Outcome.mk _) (setPos_settle _ _)

theorem atBlank_settle : (c.settle none).atBlank = c.atBlank.settled := by
  simp only [atBlank, current?_settle, isBlank_settle, pos_settle]
  cases c.current? <;> rfl

theorem requireBlank_settle : (c.settle none).requireBlank.settled = c.requireBlank.settled := by
  have hskip := c.skipIf_settle true
  simp only [skipIf, if_true] at hskip
  simp only [requireBlank, current?_settle, isBlank_settle, mark_settle, hskip]
  split
  · exact Outcome.settled_settle _ _
  · rfl

theorem atEnd_settle (skip : Bool) :
    (c.settle none).atEnd skip = ((c.atEnd skip).1, (c.atEnd skip).2.settle none) := by
  rw [atEnd, skipIf_settle, isDone_settle]
  rfl

theorem requireEnd_settle (skip : Bool) : ((c.settle none).requireEnd skip).settled = (c.requireEnd skip).settled := by
  rw [requireEnd, atEnd_settle, requireEnd]
  obtain ⟨done, d⟩ := c.atEnd skip
  cases done
  · simp only [mark_settle]
  · exact Outcome.settled_settle _ _

theorem accept_settle (x : Char) (skip : Bool) :
    (c.settle none).accept x skip = ((c.accept x skip).1, (c.accept x skip).2.settle none) := by
  simp only [accept, skipIf_settle, current?_settle, pass_settle]
  split <;> rfl

theorem expect_settle (x : Char) (skip : Bool) : ((c.settle none).expect x skip).settled = (c.expect x skip).settled := by
  rw [expect, accept_settle, expect]
  obtain ⟨found, d⟩ := c.accept x skip
  cases found
  · simp only [mark_settle]
  · exact Outcome.settled_settle _ _

theorem acceptOneOf_settle (set : Text) (skip : Bool) :
    (c.settle none).acceptOneOf set skip = ((c.acceptOneOf set skip).1, (c.acceptOneOf set skip).2.settle none) := by
  simp only [acceptOneOf, skipIf_settle, current?_settle, pass_settle]
  cases (c.skipIf skip).current? with
  | none => rfl
  | some x =>
    dsimp only
    cases set.idxOf? x <;> rfl

theorem expectOneOf_settle (set : Text) (skip : Bool) :
    ((c.settle none).expectOneOf set skip).settled = (c.expectOneOf set skip).settled := by
  rw [expectOneOf, acceptOneOf_settle, expectOneOf]
  obtain ⟨found, d⟩ := c.acceptOneOf set skip
  cases found
  · simp only [mark_settle]
  · exact Outcome.settled_settle _ _

theorem matchKeyword_settle (list : Text) (s : Flags) :
    ((c.settle none).matchKeyword list s).settled = (c.matchKeyword list s).settled := by
  simp only [matchKeyword, skipIf_settle, current?_settle, mark_settle]
  split
  · exact Outcome.settled_settle _ _
  · split
    · exact Outcome.settled_settle _ _
    · rfl

theorem readUnsigned_settle (k : Numeral) (s : Flags) (max : Nat) :
    (c.settle none).readUnsigned k s max = c.readUnsigned k s max := by
  simp only [readUnsigned, skipIf_settle, mark_settle]

theorem readSigned_settle (k : Numeral) (s : Flags) (max : Nat) :
    (c.settle none).readSigned k s max = c.readSigned k s max := by
  simp only [readSigned, skipIf_settle, mark_settle]

theorem readFloat_settle (s : Flags) : (c.settle none).readFloat s = c.readFloat s := by
  simp only [readFloat, skipIf_settle, mark_settle]

theorem readString_settle (s : Flags) : (c.settle none).readString s = c.readString s := by
  simp only [readString, skipIf_settle, mark_settle]

theorem readWord_settle (skip : Bool) : (c.settle none).readWord skip = c.readWord skip := by
  simp only [readWord, skipIf_settle, mark_settle]

theorem readLine_settle (skip : Bool) : (c.settle none).readLine skip = c.readLine skip := by
  simp only [readLine, skipIf_settle, mark_settle, pos_settle]

theorem moveTo_settle (p : Nat) : ((c.settle none).moveTo p).settled = (c.moveTo p).settled := by
  obtain ⟨w, -, h⟩ := c.exists_settle_eq none
  have htext : (c.settle none).text.isBoundary p = c.text.isBoundary p := by rw [text_settle]
  unfold moveTo
  rw [htext]
  split
  · rw [h]
  · exact Outcome.settled_settle _ _

theorem moveBy_settle (d : Int) : ((c.settle none).moveBy d).settled = (c.moveBy d).settled := by
  have hset := fun p => congrArg (fun d => (Outcome.settled ⟨.ok (), d⟩ : Outcome Unit)) (c.setPos_settle p)
  have hbound : ∀ p, (c.settle none).text.isBoundary p = c.text.isBoundary p := fun p => by rw [text_settle]
  unfold moveBy
  rw [pos_settle]
  split
  · rename_i p hp
    rw [hbound]
    split
    · exact (hset p).trans (Outcome.settled_settle _ _)
    · exact Outcome.settled_settle _ _
  · exact Outcome.settled_settle _ _

theorem markAt_settle (p : Nat) (e : Option Ends) : ((c.settle none).markAt p e).settled = (c.markAt p e).settled := by
  obtain ⟨w, -, h⟩ := c.exists_settle_eq none
  unfold markAt
  rw [text_settle]
  split
  · rw [h]
  · exact Outcome.settled_settle _ _

/-! ## The commands -/

/-- **No command can tell whether an open window has been looked at**, but for one that sets the blanks: its answer is the
same, and so is what a look at the token shows after it. -/
theorem perform_settle {m : Command} (hm : m.setsBlanks = false) :
    ((c.settle none).perform m).settled = (c.perform m).settled := by
  cases m with
  | load t => exact congrArg (fun s => Outcome.settled ⟨.ok Reply.done, ofText t s⟩) (c.config_settle none)
  | text => exact Outcome.settled_reply (by rw [text_settle]) c
  | blanks => exact Outcome.settled_reply (by rw [config_settle]) c
  | size => exact Outcome.settled_reply (by rw [text_settle]) c
  | isEmpty => exact Outcome.settled_reply (by rw [text_settle]) c
  | position => exact Outcome.settled_reply (by rw [pos_settle]) c
  | remaining => exact Outcome.settled_reply (by rw [remaining?, remaining?, isDone_settle, rest_settle]) c
  | setBlanks s => cases hm
  | moveTo p => exact Outcome.settled_map (c.moveTo_settle p) _
  | moveBy d => exact Outcome.settled_map (c.moveBy_settle d) _
  | mark => exact congrArg (fun d => Outcome.settled ⟨.ok Reply.done, d⟩) (c.mark_settle none)
  | markAt p s => exact Outcome.settled_map (c.markAt_settle p s.toEnds?) _
  | resolve s => exact congrArg (fun d => Outcome.settled ⟨.ok Reply.done, d⟩) (c.resolve_settle none s.toEnds)
  | lastToken s => exact congrArg (fun d => Outcome.settled ⟨.ok (Reply.text d.token), d⟩) (c.settle_settle s.toEnds?)
  | tokenRange => exact congrArg (fun d => Outcome.settled ⟨.ok (Reply.range d.span.1 d.span.2), d⟩) (c.settle_settle none)
  | skipBlanks =>
    have hskip := congrArg (fun d => Outcome.settled ⟨.ok Reply.done, d⟩) (c.skipIf_settle true)
    exact hskip.trans (Outcome.settled_reply rfl (c.skipIf true))
  | requireBlank => exact Outcome.settled_map c.requireBlank_settle _
  | atBlank => exact Outcome.settled_map (Outcome.settled_of_eq c.atBlank_settle) _
  | peek skip => exact Outcome.settled_map (Outcome.settled_of_eq (c.peek_settle skip)) _
  | next skip => exact Outcome.settled_map (Outcome.settled_of_eq (c.next_settle skip)) _
  | lookAhead skip => exact Outcome.settled_map (Outcome.settled_of_eq (c.lookAhead_settle skip)) _
  | atEnd skip => exact Outcome.settled_pair .truth (c.atEnd_settle skip)
  | requireEnd skip => exact Outcome.settled_map (c.requireEnd_settle skip) _
  | accept x skip => exact Outcome.settled_pair .truth (c.accept_settle x skip)
  | expect x skip => exact Outcome.settled_map (c.expect_settle x skip) _
  | acceptOneOf set skip => exact Outcome.settled_pair .place (c.acceptOneOf_settle set skip)
  | expectOneOf set skip => exact Outcome.settled_map (c.expectOneOf_settle set skip) _
  | matchKeyword list s => exact Outcome.settled_map (c.matchKeyword_settle list s) _
  | readUnsigned k s max => exact Outcome.settled_map (congrArg _ (c.readUnsigned_settle k s max)) _
  | readSigned k s max => exact Outcome.settled_map (congrArg _ (c.readSigned_settle k s max)) _
  | readFloat s => exact Outcome.settled_map (congrArg _ (c.readFloat_settle s)) _
  | readString s => exact Outcome.settled_map (congrArg _ (c.readString_settle s)) _
  | readWord skip => exact congrArg (fun q => Outcome.settled ⟨.ok (Reply.text q.1), q.2⟩) (c.readWord_settle skip)
  | readLine skip => exact Outcome.settled_map (congrArg _ (c.readLine_settle skip)) _

/-- **Two cursors that show the same answer the same**, however long the run. -/
theorem run_settled {ms : List Command} (hms : ∀ m ∈ ms, m.setsBlanks = false) {c d : Cursor}
    (h : c.settle none = d.settle none) : (c.run ms).map Outcome.settled = (d.run ms).map Outcome.settled := by
  induction ms generalizing c d with
  | nil => rfl
  | cons m ms ih =>
    have hm := hms m (List.mem_cons_self ..)
    have hstep : (c.perform m).settled = (d.perform m).settled := by
      rw [← c.perform_settle hm, h, d.perform_settle hm]
    have hrest := ih (fun n hn => hms n (List.mem_cons_of_mem m hn)) (congrArg Outcome.cursor hstep)
    rw [run, run, List.map_cons, List.map_cons, hstep, hrest]

/-! ## Moving the cursor only -/

end Cursor

namespace Command

/-- The command moves the cursor, if anything, and has nothing to do with the window. -/
def onlyMoves : Command → Bool
  | .peek _ | .next _ | .lookAhead _ | .atEnd _ | .atBlank | .skipBlanks | .accept _ _ | .acceptOneOf _ _ | .moveBy _ => true
  | _ => false

/-- The command opens a window at an offset that it is given. -/
def opensWindow : Command → Bool
  | .moveTo _ | .markAt _ _ => true
  | _ => false

/-- The command does not come to touch the window of the cursor: it has nothing to do with it, or is refused. -/
def Spares (m : Command) (c : Cursor) : Prop :=
  m.onlyMoves = true ∨ (m.opensWindow = true ∧ ∃ f, (c.perform m).answer = .error f)

end Command

namespace Cursor

/-- No command of the run comes to touch the window. -/
def OnlyMoves (c : Cursor) : List Command → Prop
  | [] => True
  | m :: ms => m.Spares c ∧ (c.perform m).cursor.OnlyMoves ms

theorem skipIf_eq_setPos (c : Cursor) (skip : Bool) : c.skipIf skip = c.setPos (c.skipIf skip).pos := by
  rw [skipIf_eq_pass]
  rfl

theorem accept_eq_setPos (c : Cursor) (x : Char) (skip : Bool) :
    (c.accept x skip).2 = c.setPos (c.accept x skip).2.pos := by
  by_cases hx : (c.skipIf skip).current? = some x
  · rw [accept_hit hx, skipIf_eq_setPos, skipIf_eq_setPos c]
    rfl
  · rw [accept_miss hx]
    exact c.skipIf_eq_setPos skip

theorem acceptOneOf_eq_setPos (c : Cursor) (set : Text) (skip : Bool) :
    (c.acceptOneOf set skip).2 = c.setPos (c.acceptOneOf set skip).2.pos := by
  simp only [acceptOneOf]
  split
  · exact c.skipIf_eq_setPos skip
  · split
    · exact c.skipIf_eq_setPos skip
    · rw [skipIf_eq_setPos, skipIf_eq_setPos c]
      rfl

theorem moveBy_eq_setPos (c : Cursor) (d : Int) : (c.moveBy d).cursor = c.setPos (c.moveBy d).cursor.pos := by
  unfold moveBy
  split
  · split <;> rfl
  · rfl

/-- **A command that spares the window changes the position and nothing else.** -/
theorem cursor_of_spares {c : Cursor} {m : Command} (hm : m.Spares c) :
    (c.perform m).cursor = c.setPos (c.perform m).cursor.pos := by
  rcases hm with hm | ⟨hm, f, hf⟩
  · cases m with
    | peek skip =>
      show (c.peek skip).cursor = c.setPos (c.peek skip).cursor.pos
      rw [cursor_peek]
      exact c.skipIf_eq_setPos skip
    | next skip =>
      show ((c.pass 1).peek skip).cursor = c.setPos ((c.pass 1).peek skip).cursor.pos
      rw [cursor_peek, skipIf_eq_setPos]
      rfl
    | lookAhead skip =>
      have h := (c.pass 1).skipIf_eq_setPos skip
      rw [← cursor_peek] at h
      show (((c.pass 1).peek skip).cursor).setPos c.pos = c
      rw [h]
      rfl
    | atEnd skip => exact c.skipIf_eq_setPos skip
    | atBlank =>
      show c.atBlank.cursor = c.setPos c.atBlank.cursor.pos
      rw [cursor_atBlank]
      rfl
    | skipBlanks => rfl
    | accept x skip => exact c.accept_eq_setPos x skip
    | acceptOneOf set skip => exact c.acceptOneOf_eq_setPos set skip
    | moveBy d => exact c.moveBy_eq_setPos d
    | _ => cases hm
  · -- a refusal leaves the cursor at the end of a pass
    have hpass : Refuses c (c.perform m) → (c.perform m).cursor = c.setPos (c.perform m).cursor.pos := fun h => by
      obtain ⟨⟨n, hn⟩, -⟩ := h f hf
      rw [hn]
      rfl
    cases m with
    | moveTo p => exact hpass ((c.refuses_moveTo p).map _)
    | markAt p s => exact hpass ((c.refuses_markAt p s.toEnds?).map _)
    | _ => cases hm

/-- **A run that only moves the cursor leaves another position at most.** -/
theorem exists_after_eq_setPos {c : Cursor} {ms : List Command} (h : c.OnlyMoves ms) : ∃ p, c.after ms = c.setPos p := by
  induction ms generalizing c with
  | nil => exact ⟨c.pos, rfl⟩
  | cons m ms ih =>
    obtain ⟨hm, hms⟩ := h
    obtain ⟨p, hp⟩ := ih hms
    rw [cursor_of_spares hm] at hp
    exact ⟨p, by rw [after, List.foldl_cons, ← after, cursor_of_spares hm, hp]; rfl⟩

/-- A look shows the same wherever the cursor is. -/
theorem answer_look_setPos (c : Cursor) (p : Nat) :
    ((c.setPos p).perform .tokenRange).answer = (c.perform .tokenRange).answer ∧
    ∀ s : Flags, s.hasEnd = false →
      ((c.setPos p).perform (.lastToken s)).answer = (c.perform (.lastToken s)).answer := by
  constructor
  · show Except.ok (Reply.range ((c.setPos p).settle none).span.1 ((c.setPos p).settle none).span.2) = _
    rw [← setPos_settle]
    rfl
  · intro s hs
    show Except.ok (Reply.text ((c.setPos p).settle s.toEnds?).token) = Except.ok (Reply.text (c.settle s.toEnds?).token)
    rw [Flags.toEnds?_of_not_hasEnd hs, ← setPos_settle]
    rfl

/-- **A look at the token is not seen, and does not see the cursor.**  Put before any run that does not set the blanks, it
changes no outcome, be the window settled by then or still open.  After a run that only moves the cursor it shows what it
would have shown before. -/
theorem look_unseen (c : Cursor) :
    (∀ ms : List Command, (∀ m ∈ ms, m.setsBlanks = false) →
      ((c.perform .tokenRange).cursor.run ms).map Outcome.settled = (c.run ms).map Outcome.settled) ∧
    ∀ ms : List Command, c.OnlyMoves ms →
      ((c.after ms).perform .tokenRange).answer = (c.perform .tokenRange).answer ∧
      ∀ s : Flags, s.hasEnd = false →
        ((c.after ms).perform (.lastToken s)).answer = (c.perform (.lastToken s)).answer := by
  constructor
  · intro ms hms
    exact run_settled hms (c.settle_settle none)
  · intro ms h
    obtain ⟨p, hp⟩ := exists_after_eq_setPos h
    rw [hp]
    exact c.answer_look_setPos p

/-- An open window, a run that reads on and fails, and one that moves the cursor over the token's end and back. -/
theorem look_unseen_open :
    let c := (ofText ['a', 'b', ' ', 'c', 'd'] {}).after [.next false, .mark, .next false]
    let reads := [Command.requireEnd true, .readUnsigned .number .empty 0, .resolve (.only .toCursor), .lastToken .empty]
    let moves := [Command.skipBlanks, .moveTo 9, .accept 'c' true, .markAt 5 .empty, .moveBy (-1), .next true]
    c.window = ⟨1, none⟩ ∧ c.OnlyMoves moves ∧
    ((c.perform .tokenRange).cursor.run reads).map Outcome.settled = (c.run reads).map Outcome.settled ∧
    ((c.after moves).perform .tokenRange).answer = (c.perform .tokenRange).answer ∧
    ((c.after moves).perform (.lastToken .empty)).answer = (c.perform (.lastToken .empty)).answer := by
  intro c reads moves
  have hmoves : c.OnlyMoves moves :=
    ⟨.inl rfl, .inr ⟨rfl, _, rfl⟩, .inl rfl, .inr ⟨rfl, _, rfl⟩, .inl rfl, .inl rfl, trivial⟩
  have hlook := (look_unseen c).2 moves hmoves
  exact ⟨by decide, hmoves, (look_unseen c).1 reads (by decide), hlook.1, hlook.2 .empty (by decide)⟩

end Cursor
end TextCursor
