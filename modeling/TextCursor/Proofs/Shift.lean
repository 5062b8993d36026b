import TextCursor.Command
import TextCursor.Proofs.Motion
/-!
# What is before the cursor

A text put before the text of a cursor moves every offset on by its size and changes nothing else (`Cursor.shift`).  Each
command that takes no offset commutes with that (`perform_shift`), so a run behind a text is the run without it, all its
offsets moved on (`run_behind`).
-/
namespace TextCursor

variable {α β : Type}

def Window.shift (n : Nat) (w : Window) : Window := ⟨n + w.start, w.stop.map (n + ·)⟩

def Fault.shift (n : Nat) (f : Fault) : Fault := { f with pos := n + f.pos }

def Reply.shift (n : Nat) : Reply → Reply
  | .range a b => .range (n + a) (n + b)
  | r => r

/-- The cursor with a text put before its own: it stands at the same character, and its window is on the same ones. -/
def Cursor.shift (p : Text) (c : Cursor) : Cursor :=
  ⟨p ++ c.text, Text.size p + c.pos, c.config, c.window.shift (Text.size p)⟩

/-- The outcome at the cursor with a text put before its own: a fault is further on, a value is the same. -/
def Outcome.shift (p : Text) (o : Outcome α) : Outcome α :=
  ⟨o.answer.mapError (Fault.shift (Text.size p)), o.cursor.shift p⟩

theorem Text.slice?_size_add (p t : Text) (a b : Nat) : (p ++ t).slice? (size p + a) (size p + b) = t.slice? a b := by
  unfold slice?
  rw [after?_size_add, Nat.add_sub_add_left]
  simp only [Nat.add_le_add_iff_left]

theorem Outcome.andThen_shift {p : Text} (o : Outcome α) {f g : α → Cursor → Outcome β}
    (h : ∀ a c, f a (c.shift p) = (g a c).shift p) : (o.shift p).andThen f = (o.andThen g).shift p := by
  obtain ⟨a, c⟩ := o
  cases a with
  | ok a => exact h a c
  | error f => rfl

namespace Cursor

variable (p : Text) (c : Cursor)

/-! ## Moving and the window -/

@[simp] theorem rest_shift : (c.shift p).rest = c.rest := by
  show ((p ++ c.text).after? (Text.size p + c.pos)).getD [] = c.rest
  rw [Text.after?_size_add]; rfl

@[simp] theorem isDone_shift : (c.shift p).isDone = c.isDone := by
  simp only [isDone, shift, Text.size_append, Nat.add_le_add_iff_left]

@[simp] theorem current?_shift : (c.shift p).current? = c.current? := by rw [current?, current?, rest_shift]

@[simp] theorem isBlank_shift : (c.shift p).isBlank = c.isBlank := rfl

@[simp] theorem pass_shift (n : Nat) : (c.shift p).pass n = (c.pass n).shift p := by
  have hpos : Text.size p + c.pos + Text.size (c.rest.take n) = Text.size p + (c.pos + Text.size (c.rest.take n)) :=
    Nat.add_assoc _ _ _
  show { c.shift p with pos := Text.size p + c.pos + Text.size ((c.shift p).rest.take n) } = _
  rw [rest_shift, hpos]; rfl

@[simp] theorem skipBlanks_shift : (c.shift p).skipBlanks = c.skipBlanks.shift p := by
  rw [skipBlanks, rest_shift, pass_shift]; rfl

@[simp] theorem skipIf_shift (skip : Bool) : (c.shift p).skipIf skip = (c.skipIf skip).shift p := by
  cases skip
  · rfl
  · exact skipBlanks_shift p c

@[simp] theorem mark_shift : (c.shift p).mark = c.mark.shift p := rfl

theorem stopAt_shift (e : Ends) : (c.shift p).stopAt e = Text.size p + c.stopAt e := by
  have hafter : (p ++ c.text).after? (Text.size p + c.window.start) = c.text.after? c.window.start :=
    Text.after?_size_add p c.text c.window.start
  simp only [stopAt, shift, Window.shift, hafter, Text.size_append, Nat.add_le_add_iff_left]
  split
  · rfl
  · split
    · split
      · show min _ _ = Text.size p + min _ _
        rw [Nat.add_assoc, Nat.add_max_add_left, Nat.add_min_add_left]; rfl
      · rw [Nat.add_assoc]; rfl
    · split
      · exact Nat.add_max_add_left _ _ _
      · rfl

@[simp] theorem resolve_shift (e : Ends) : (c.shift p).resolve e = (c.resolve e).shift p := by
  show { c.shift p with window := { (c.shift p).window with stop := some ((c.shift p).stopAt e) } } = _
  rw [stopAt_shift]; rfl

@[simp] theorem settle_shift (e : Option Ends) : (c.shift p).settle e = (c.settle e).shift p := by
  cases e with
  | some e => exact resolve_shift p c e
  | none =>
    have hnone : (c.shift p).window.stop.isNone = c.window.stop.isNone := Option.isNone_map
    simp only [settle, hnone]
    split
    · exact resolve_shift p c _
    · rfl

theorem span_shift : (c.shift p).span = (Text.size p + c.span.1, Text.size p + c.span.2) := by
  simp only [span, shift, Window.shift]
  cases c.window.stop <;> rfl

@[simp] theorem token_shift : (c.shift p).token = c.token := by
  rw [token, span_shift]
  exact congrArg (Option.getD · []) (Text.slice?_size_add p c.text _ _)

theorem tokenRange_shift : (c.shift p).tokenRange =
    ((Text.size p + c.tokenRange.1.1, Text.size p + c.tokenRange.1.2), c.tokenRange.2.shift p) := by
  rw [tokenRange, settle_shift, span_shift]; rfl

theorem lastToken_shift (e : Option Ends) :
    (c.shift p).lastToken e = ((c.lastToken e).1, (c.lastToken e).2.shift p) := by
  rw [lastToken, settle_shift, token_shift]; rfl

@[simp] theorem fail_shift (e : Ends) (cause : Cause) :
    ((c.shift p).fail e cause : Outcome α) = (c.fail e cause).shift p := by
  rw [fail, resolve_shift, token_shift]; rfl

@[simp] theorem finish_shift (skip : Bool) : (c.shift p).finish skip = (c.finish skip).shift p := by
  rw [finish, resolve_shift, skipIf_shift]; rfl

/-! ## The operations -/

theorem peek_shift (skip : Bool) : (c.shift p).peek skip = (c.peek skip).shift p := by
  simp only [peek, skipIf_shift, current?_shift]
  cases (c.skipIf skip).current? <;> rfl

theorem next_shift (skip : Bool) : (c.shift p).next skip = (c.next skip).shift p := by
  rw [next, pass_shift, peek_shift]; rfl

theorem lookAhead_shift (skip : Bool) : (c.shift p).lookAhead skip = (c.lookAhead skip).shift p := by
  simp only [lookAhead, next_shift]; rfl

theorem atBlank_shift : (c.shift p).atBlank = c.atBlank.shift p := by
  simp only [atBlank, current?_shift]
  cases c.current? <;> rfl

theorem requireBlank_shift : (c.shift p).requireBlank = c.requireBlank.shift p := by
  simp only [requireBlank, current?_shift, isBlank_shift, skipBlanks_shift, mark_shift, fail_shift]
  split <;> rfl

theorem atEnd_shift (skip : Bool) : (c.shift p).atEnd skip = ((c.atEnd skip).1, (c.atEnd skip).2.shift p) := by
  rw [atEnd, skipIf_shift, isDone_shift]; rfl

theorem requireEnd_shift (skip : Bool) : (c.shift p).requireEnd skip = (c.requireEnd skip).shift p := by
  rw [requireEnd, atEnd_shift, requireEnd]
  obtain ⟨done, d⟩ := c.atEnd skip
  cases done
  · exact fail_shift p d.mark _ _
  · rfl

theorem accept_shift (x : Char) (skip : Bool) :
    (c.shift p).accept x skip = ((c.accept x skip).1, (c.accept x skip).2.shift p) := by
  simp only [accept, skipIf_shift, current?_shift, pass_shift]
  split <;> rfl

theorem expect_shift (x : Char) (skip : Bool) : (c.shift p).expect x skip = (c.expect x skip).shift p := by
  rw [expect, accept_shift, expect]
  obtain ⟨found, d⟩ := c.accept x skip
  cases found
  · exact fail_shift p d.mark _ _
  · rfl

theorem acceptOneOf_shift (set : Text) (skip : Bool) :
    (c.shift p).acceptOneOf set skip = ((c.acceptOneOf set skip).1, (c.acceptOneOf set skip).2.shift p) := by
  simp only [acceptOneOf, skipIf_shift, current?_shift, pass_shift]
  cases (c.skipIf skip).current? with
  | none => rfl
  | some x =>
    dsimp only
    cases set.idxOf? x <;> rfl

theorem expectOneOf_shift (set : Text) (skip : Bool) :
    (c.shift p).expectOneOf set skip = (c.expectOneOf set skip).shift p := by
  rw [expectOneOf, acceptOneOf_shift, expectOneOf]
  obtain ⟨found, d⟩ := c.acceptOneOf set skip
  cases found
  · exact fail_shift p d.mark _ _
  · rfl

theorem matchKeyword_shift (list : Text) (s : Flags) :
    (c.shift p).matchKeyword list s = (c.matchKeyword list s).shift p := by
  simp only [matchKeyword, skipIf_shift, current?_shift, mark_shift, rest_shift, pass_shift, finish_shift, fail_shift]
  split
  · rfl
  · split
    · rfl
    · split
      · rfl
      · split <;> rfl

theorem readMagnitude_shift (k : Numeral) (s : Flags) (max : Nat) :
    (c.shift p).readMagnitude k s max = (c.readMagnitude k s max).shift p := by
  simp only [readMagnitude, rest_shift, pass_shift, fail_shift]
  split <;> rfl

theorem readUnsigned_shift (k : Numeral) (s : Flags) (max : Nat) :
    (c.shift p).readUnsigned k s max = (c.readUnsigned k s max).shift p := by
  simp only [readUnsigned, skipIf_shift, mark_shift, readMagnitude_shift]
  refine Outcome.andThen_shift _ fun n d => ?_
  rw [finish_shift]; rfl

theorem readSigned_shift (k : Numeral) (s : Flags) (max : Nat) :
    (c.shift p).readSigned k s max = (c.readSigned k s max).shift p := by
  simp only [readSigned, skipIf_shift, mark_shift, accept_shift]
  obtain ⟨negative, d⟩ := (c.skipIf (s.has .skipBlanks)).mark.accept '-' false
  cases negative
  all_goals
    simp only [readMagnitude_shift]
    refine Outcome.andThen_shift _ fun n e => ?_
    simp only [finish_shift, fail_shift]
    split <;> rfl

theorem acceptPoint_shift (comma : Bool) :
    (c.shift p).acceptPoint comma = ((c.acceptPoint comma).1, (c.acceptPoint comma).2.shift p) := by
  rw [acceptPoint, accept_shift, acceptPoint]
  obtain ⟨found, d⟩ := c.accept '.' false
  cases found
  · cases comma
    · rfl
    · exact accept_shift p d ',' false
  · rfl

theorem readFloat_shift (s : Flags) : (c.shift p).readFloat s = (c.readFloat s).shift p := by
  simp only [readFloat, skipIf_shift, mark_shift, acceptOneOf_shift]
  obtain ⟨sign, d⟩ := (c.skipIf (s.has .skipBlanks)).mark.acceptOneOf ['+', '-'] false
  simp only [rest_shift, pass_shift, fail_shift, acceptPoint_shift]
  split
  · rfl
  · obtain ⟨found, e⟩ := (d.pass (d.rest.takeWhile Char.isDigit).length).acceptPoint (s.has .comma)
    cases found
    · simp only [finish_shift]; rfl
    · simp only [rest_shift, pass_shift, fail_shift, finish_shift]
      split <;> rfl

theorem readString_shift (s : Flags) : (c.shift p).readString s = (c.readString s).shift p := by
  simp only [readString, skipIf_shift, mark_shift, current?_shift, pass_shift, rest_shift, isBlank_shift, fail_shift,
    finish_shift]
  split
  · split <;> rfl
  · split <;> rfl

theorem readWord_shift (skip : Bool) : (c.shift p).readWord skip = ((c.readWord skip).1, (c.readWord skip).2.shift p) := by
  simp only [readWord, skipIf_shift, mark_shift, rest_shift, isBlank_shift, pass_shift, finish_shift, lastToken_shift]

theorem passLineEnd_shift : (c.shift p).passLineEnd = c.passLineEnd.shift p := by
  simp only [passLineEnd, rest_shift, pass_shift]
  split
  · rfl
  · split <;> rfl

theorem readLine_shift (skip : Bool) : (c.shift p).readLine skip = (c.readLine skip).shift p := by
  have hpos : ∀ d : Cursor, (c.shift p).pos < (d.shift p).pos ↔ c.pos < d.pos := fun d => Nat.add_lt_add_iff_left
  simp only [readLine, skipIf_shift, mark_shift, current?_shift, rest_shift, pass_shift, resolve_shift, passLineEnd_shift,
    fail_shift, hpos]
  split <;> rfl

end Cursor

/-! ## Runs -/

/-- The command takes no offset and does not speak of the text as a whole.  (Refusing a set of blanks that is not there
answers the offset zero, wherever the cursor stands.) -/
def Command.isRelative : Command → Bool
  | .load _ | .text | .size | .isEmpty | .position | .setBlanks none | .moveTo _ | .moveBy _ | .markAt _ _ => false
  | _ => true

/-- The outcome of a command with a text put before: offsets in the reply are moved on as well. -/
def Outcome.shiftReply (p : Text) (o : Outcome Reply) : Outcome Reply := (o.shift p).map (Reply.shift (Text.size p))

theorem Outcome.map_eq_shiftReply {p : Text} {o o' : Outcome α} {g : α → Reply} (hg : ∀ n a, (g a).shift n = g a)
    (h : o' = o.shift p) : o'.map g = (o.map g).shiftReply p := by
  obtain ⟨a, c⟩ := o
  rw [h]
  cases a with
  | ok a => exact congrArg (Outcome.mk · _) (congrArg Except.ok (hg _ a).symm)
  | error f => rfl

theorem Outcome.ok_eq_shiftReply {p : Text} {q q' : α × Cursor} (g : α → Reply) (hg : ∀ n a, (g a).shift n = g a)
    (h : q' = (q.1, q.2.shift p)) :
    (⟨.ok (g q'.1), q'.2⟩ : Outcome Reply) = (⟨.ok (g q.1), q.2⟩ : Outcome Reply).shiftReply p := by
  rw [h]
  exact congrArg (Outcome.mk · _) (congrArg Except.ok (hg _ q.1).symm)

namespace Cursor

/-- **A command that takes no offset does behind a text what it does without it.** -/
theorem perform_shift (p : Text) (c : Cursor) {m : Command} (hm : m.isRelative = true) :
    (c.shift p).perform m = (c.perform m).shiftReply p := by
  cases m with
  | blanks => rfl
  | remaining =>
    have hremaining : (c.shift p).remaining? = c.remaining? := by rw [remaining?, remaining?, isDone_shift, rest_shift]
    show (⟨.ok (.rest (c.shift p).remaining?), c.shift p⟩ : Outcome Reply) = _
    rw [hremaining]; rfl
  | setBlanks s =>
    cases s with
    | none => cases hm
    | some s => rfl
  | mark => rfl
  | resolve s =>
    show (⟨.ok .done, (c.shift p).resolve s.toEnds⟩ : Outcome Reply) = _
    rw [resolve_shift]; rfl
  | lastToken s => exact Outcome.ok_eq_shiftReply .text (fun _ _ => rfl) (lastToken_shift p c s.toEnds?)
  | tokenRange =>
    -- the one reply that holds offsets
    show (⟨.ok (.range (c.shift p).tokenRange.1.1 (c.shift p).tokenRange.1.2), (c.shift p).tokenRange.2⟩ :
      Outcome Reply) = _
    rw [tokenRange_shift]; rfl
  | skipBlanks =>
    show (⟨.ok .done, (c.shift p).skipBlanks⟩ : Outcome Reply) = _
    rw [skipBlanks_shift]; rfl
  | requireBlank => exact Outcome.map_eq_shiftReply (fun _ _ => rfl) (requireBlank_shift p c)
  | atBlank => exact Outcome.map_eq_shiftReply (fun _ _ => rfl) (atBlank_shift p c)
  | peek skip => exact Outcome.map_eq_shiftReply (fun _ _ => rfl) (peek_shift p c skip)
  | next skip => exact Outcome.map_eq_shiftReply (fun _ _ => rfl) (next_shift p c skip)
  | lookAhead skip => exact Outcome.map_eq_shiftReply (fun _ _ => rfl) (lookAhead_shift p c skip)
  | atEnd skip => exact Outcome.ok_eq_shiftReply .truth (fun _ _ => rfl) (atEnd_shift p c skip)
  | requireEnd skip => exact Outcome.map_eq_shiftReply (fun _ _ => rfl) (requireEnd_shift p c skip)
  | accept x skip => exact Outcome.ok_eq_shiftReply .truth (fun _ _ => rfl) (accept_shift p c x skip)
  | expect x skip => exact Outcome.map_eq_shiftReply (fun _ _ => rfl) (expect_shift p c x skip)
  | acceptOneOf set skip => exact Outcome.ok_eq_shiftReply .place (fun _ _ => rfl) (acceptOneOf_shift p c set skip)
  | expectOneOf set skip => exact Outcome.map_eq_shiftReply (fun _ _ => rfl) (expectOneOf_shift p c set skip)
  | matchKeyword list s => exact Outcome.map_eq_shiftReply (fun _ _ => rfl) (matchKeyword_shift p c list s)
  | readUnsigned k s max => exact Outcome.map_eq_shiftReply (fun _ _ => rfl) (readUnsigned_shift p c k s max)
  | readSigned k s max => exact Outcome.map_eq_shiftReply (fun _ _ => rfl) (readSigned_shift p c k s max)
  | readFloat s => exact Outcome.map_eq_shiftReply (fun _ _ => rfl) (readFloat_shift p c s)
  | readString s => exact Outcome.map_eq_shiftReply (fun _ _ => rfl) (readString_shift p c s)
  | readWord skip => exact Outcome.ok_eq_shiftReply .text (fun _ _ => rfl) (readWord_shift p c skip)
  | readLine skip => exact Outcome.map_eq_shiftReply (fun _ _ => rfl) (readLine_shift p c skip)
  | _ => cases hm

theorem cursor_shiftReply (p : Text) (o : Outcome Reply) : (o.shiftReply p).cursor = o.cursor.shift p := rfl

/-- **A run of such commands does, step by step.** -/
theorem run_shift (p : Text) (ms : List Command) (h : ∀ m ∈ ms, m.isRelative = true) (c : Cursor) :
    (c.shift p).run ms = (c.run ms).map (Outcome.shiftReply p) := by
  induction ms generalizing c with
  | nil => rfl
  | cons m ms ih =>
    have hm := perform_shift p c (h m List.mem_cons_self)
    rw [run, hm, cursor_shiftReply, ih (fun m hm => h m (List.mem_cons_of_mem _ hm))]
    rfl

/-- **What is before the cursor does not matter.**  Behind a text, a run of commands that take no offset answers, step by
step, what it answers without it, all offsets moved on by the size of that text: those in the replies, of the faults, of
the cursor and of its window, as it is kept and as it is shown. -/
theorem run_behind (before t : Text) (s : Config) (ms : List Command) (h : ∀ m ∈ ms, m.isRelative = true) :
    let start := (ofText (before ++ t) s).moveTo (Text.size before)
    start.answer = .ok () ∧
    start.cursor.run ms = ((ofText t s).run ms).map (Outcome.shiftReply before) ∧
    ∀ o ∈ (ofText t s).run ms, (o.shiftReply before).cursor.tokenRange.1 =
      (Text.size before + o.cursor.tokenRange.1.1, Text.size before + o.cursor.tokenRange.1.2) := by
  have hstart : (ofText (before ++ t) s).moveTo (Text.size before) = ⟨.ok (), (ofText t s).shift before⟩ :=
    if_pos (Text.isBoundary_size_append before t)
  intro start
  rw [show start = _ from hstart]
  refine ⟨rfl, run_shift before ms h _, fun o _ => ?_⟩
  rw [cursor_shiftReply, tokenRange_shift]

theorem run_behind_wide :
    let before : Text := ['ä', ' ']
    let t : Text := [' ', '0', 'x', 'x', ' ', 'ö', '\r', '\n', '"']
    let ms : List Command := [.readUnsigned .number (.ofList [.skipBlanks, .hex]) 0, .lastToken (.only .toEnd),
      .setBlanks (some ['ö']), .readWord true, .tokenRange, .next true, .readLine false, .readString .empty]
    let start := (ofText (before ++ t) {}).moveTo (Text.size before)
    (∀ m ∈ ms, m.isRelative = true) ∧ start.answer = .ok () ∧
    start.cursor.run ms = ((ofText t {}).run ms).map (Outcome.shiftReply before) ∧
    ∀ o ∈ (ofText t {}).run ms, (o.shiftReply before).cursor.tokenRange.1 =
      (Text.size before + o.cursor.tokenRange.1.1, Text.size before + o.cursor.tokenRange.1.2) :=
  ⟨by decide, run_behind _ _ _ _ (by decide)⟩

end Cursor
end TextCursor
