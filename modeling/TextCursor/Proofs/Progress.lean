import TextCursor.Proofs.Blame
import TextCursor.Proofs.LineByLine
import TextCursor.Proofs.Unquoted
/-!
# Forward, and by at least one character

No command but those that place the cursor moves it back, whether it succeeds or fails (`Command.forward_perform`).  A number
or a name has at least one character (`Literal.Proper`), so that reading one moves the cursor on; so does a line, wherever
text is left, and a string or a word, wherever a character that is no blank is at the cursor.  `perform_moves` puts this
together: a loop over such calls comes to the end of the text.
-/
namespace TextCursor

variable {α β : Type}

/-! ## Literals with at least one character -/

namespace Literal

/-- **No value is read from nothing.** -/
def Proper (l : Literal α) : Prop := ∀ t v n, l t = some (v, n) → 0 < n

theorem exists_of_map {l : Literal α} {f : α → β} {t : Text} {b : β} {n : Nat} (h : l.map f t = some (b, n)) :
    ∃ a, l t = some (a, n) ∧ b = f a := by
  obtain ⟨⟨a, m⟩, ha, he⟩ := Option.map_eq_some_iff.1 h
  cases he
  exact ⟨a, ha, rfl⟩

theorem proper_map {l : Literal α} (hl : l.Proper) (f : α → β) : (l.map f).Proper := by
  intro t v n h
  obtain ⟨a, ha, -⟩ := exists_of_map h
  exact hl t a n ha

/-- **Two literals, one of which is proper, make a proper one.** -/
theorem proper_andThen {l : Literal α} {f : α → Literal β} (h : l.Proper ∨ ∀ a, (f a).Proper) : (l.andThen f).Proper := by
  intro t v n ht
  unfold andThen at ht
  split at ht
  · rename_i a m ha
    obtain ⟨⟨b, i⟩, hb, he⟩ := Option.map_eq_some_iff.1 ht
    cases he
    rcases h with hl | hf
    · exact Nat.add_pos_left (hl t a m ha) i
    · exact Nat.add_pos_right m (hf a _ b i hb)
  · cases ht

/-- **A run behind which an empty one is refused is proper.** -/
theorem proper_run_andThen {p : Char → Bool} {f : Text → Literal β} (hf : f [] = never) : ((run p).andThen f).Proper := by
  intro t v n h
  obtain ⟨⟨b, i⟩, hb, he⟩ := Option.map_eq_some_iff.1 h
  cases he
  by_cases hw : t.takeWhile p = []
  · rw [hw, hf] at hb
    cases hb
  · have := List.length_pos_iff.2 hw
    dsimp only
    omega

end Literal

theorem DigitRun.length_digits_scan_le {y : DigitStyle} {r : DigitRun} {t : Text} (h : r.digits.length ≤ r.taken) :
    (scan y r t).digits.length ≤ (scan y r t).taken := by
  fun_induction scan y r t with
  | case1 r => exact h
  | case2 r c t hd ih => exact ih (Nat.succ_le_succ h)
  | case3 r c t hd hx ih => exact ih (Nat.succ_le_succ h)
  | case4 r c t hd hx hm hbad => exact Nat.le_succ_of_le h
  | case5 r c t hd hx hm hbad ih => exact ih (Nat.zero_le _)
  | case6 r c t hd hx hm => exact h

theorem DigitRun.digits_ne_nil_of_result {r : DigitRun} {k : Numeral} {max n : Nat} (h : r.result k max = .ok n) :
    r.digits ≠ [] := by
  unfold result at h
  intro hd
  rw [if_pos hd] at h
  split at h <;> cases h

namespace Literal

theorem proper_magnitude (k : Numeral) (s : Flags) (max : Nat) : (magnitude k s max).Proper := by
  intro t v n h
  simp only [magnitude] at h
  split at h
  · rename_i m hr
    cases h
    have hlen := DigitRun.length_digits_scan_le (y := k.style s) (r := DigitRun.start (k.style s)) (t := t) (Nat.le_refl 0)
    have hpos := List.length_pos_iff.2 (DigitRun.digits_ne_nil_of_result hr)
    exact Nat.lt_of_lt_of_le hpos hlen
  · cases h

theorem proper_signed (k : Numeral) (s : Flags) (max : Nat) : (signed k s max).Proper := by
  apply proper_andThen
  right
  intro negative
  apply proper_andThen
  left
  exact proper_magnitude k s max

theorem proper_float (s : Flags) : (float s).Proper := by
  apply proper_andThen
  right
  intro sign
  exact proper_run_andThen (if_pos rfl)

theorem proper_keyword (list : Text) (s : Flags) : (keyword list s).Proper := proper_run_andThen (if_pos (.inl rfl))

/-- A string takes the character at the cursor, unless that is a blank. -/
theorem pos_of_string {p : Char → Bool} {s : Flags} {x : Char} {t v : Text} {n : Nat} (hx : p x = false)
    (h : string p s (x :: t) = some (v, n)) : 0 < n := by
  by_cases hq : x = '"'
  · have hchar : char '"' (x :: t) = some (true, 1) := by rw [hq]; rfl
    unfold string andThen at h
    rw [hchar] at h
    obtain ⟨⟨b, i⟩, -, he⟩ := Option.map_eq_some_iff.1 h
    cases he
    omega
  · have hchar : char '"' (x :: t) = some (false, 0) := by
      unfold char map optional
      simp [hq]
    unfold string andThen at h
    rw [hchar] at h
    obtain ⟨⟨b, i⟩, hb, he⟩ := Option.map_eq_some_iff.1 h
    cases he
    by_cases hs : s.has .quoted = true
    · simp [hs, never] at hb
    · simp only [Bool.false_eq_true, if_false, hs, bare, List.drop_zero, Option.some.injEq, Prod.mk.injEq] at hb
      have hle := (Reading.bare_taken p (x :: t)).1
      rw [List.takeWhile_cons_of_pos (by rw [hx]; rfl), List.length_cons] at hle
      omega

end Literal

/-! ## Forward over the same text -/

/-- The second cursor is at the place of the first, or further on, in the same text and with the same settings. -/
structure Cursor.Forward (c d : Cursor) : Prop where
  text : d.text = c.text
  config : d.config = c.config
  pos : c.pos ≤ d.pos

namespace Cursor

theorem Forward.trans {c d e : Cursor} (h : c.Forward d) (h' : d.Forward e) : c.Forward e :=
  ⟨h'.text.trans h.text, h'.config.trans h.config, Nat.le_trans h.pos h'.pos⟩

theorem forward_refl (c : Cursor) : c.Forward c := ⟨rfl, rfl, Nat.le_refl _⟩

theorem forward_pass (c : Cursor) (n : Nat) : c.Forward (c.pass n) := ⟨rfl, rfl, Nat.le_add_right _ _⟩

theorem forward_skipIf (c : Cursor) (skip : Bool) : c.Forward (c.skipIf skip) := by
  rw [skipIf_eq_pass]
  exact c.forward_pass _

theorem forward_mark (c : Cursor) : c.Forward c.mark := ⟨rfl, rfl, Nat.le_refl _⟩

theorem forward_resolve (c : Cursor) (e : Ends) : c.Forward (c.resolve e) := ⟨rfl, rfl, Nat.le_refl _⟩

theorem forward_finish (c : Cursor) (skip : Bool) : c.Forward (c.finish skip) :=
  (c.forward_resolve _).trans (forward_skipIf _ skip)

theorem forward_settle (c : Cursor) (e : Option Ends) : c.Forward (c.settle e) := by
  unfold settle
  split
  · exact c.forward_resolve _
  · split
    · exact c.forward_resolve _
    · exact c.forward_refl

theorem forward_accept (c : Cursor) (x : Char) (skip : Bool) : c.Forward (c.accept x skip).2 := by
  by_cases hx : (c.skipIf skip).current? = some x
  · rw [accept_hit hx]
    exact (c.forward_skipIf skip).trans ((forward_pass _ 1).trans (forward_skipIf _ skip))
  · rw [accept_miss hx]
    exact c.forward_skipIf skip

theorem forward_acceptOneOf (c : Cursor) (set : Text) (skip : Bool) : c.Forward (c.acceptOneOf set skip).2 := by
  simp only [acceptOneOf]
  split
  · exact c.forward_skipIf skip
  · split
    · exact c.forward_skipIf skip
    · exact (c.forward_skipIf skip).trans ((forward_pass _ 1).trans (forward_skipIf _ skip))

theorem Forward.fail {c d : Cursor} (h : c.Forward d) (e : Ends) (cause : Cause) :
    c.Forward (d.mark.fail e cause : Outcome α).cursor := h.trans ((forward_mark d).trans (forward_resolve _ e))

theorem forward_expect (c : Cursor) (x : Char) (skip : Bool) : c.Forward (c.expect x skip).cursor := by
  have h := c.forward_accept x skip
  unfold expect
  split
  · rename_i hd
    rw [hd] at h
    exact h
  · rename_i hd
    rw [hd] at h
    exact h.fail _ _

theorem forward_expectOneOf (c : Cursor) (set : Text) (skip : Bool) : c.Forward (c.expectOneOf set skip).cursor := by
  have h := c.forward_acceptOneOf set skip
  unfold expectOneOf
  split
  · rename_i hd
    rw [hd] at h
    exact h
  · rename_i hd
    rw [hd] at h
    exact h.fail _ _

theorem forward_requireEnd (c : Cursor) (skip : Bool) : c.Forward (c.requireEnd skip).cursor := by
  have h : c.Forward (c.atEnd skip).2 := c.forward_skipIf skip
  unfold requireEnd
  split
  · rename_i hd
    rw [hd] at h
    exact h
  · rename_i hd
    rw [hd] at h
    exact h.fail _ _

theorem forward_requireBlank (c : Cursor) : c.Forward c.requireBlank.cursor := by
  unfold requireBlank
  split
  · exact c.forward_pass _
  · exact c.forward_refl.fail _ _

theorem forward_markAt (c : Cursor) (p : Nat) (e : Option Ends) : c.Forward (c.markAt p e).cursor := by
  unfold markAt
  split
  · cases e <;> exact ⟨rfl, rfl, Nat.le_refl _⟩
  · exact c.forward_refl

theorem cursor_peek (c : Cursor) (skip : Bool) : (c.peek skip).cursor = c.skipIf skip := by
  simp only [peek]
  split <;> rfl

theorem cursor_atBlank (c : Cursor) : c.atBlank.cursor = c := by
  unfold atBlank
  split <;> rfl

theorem forward_lookAhead (c : Cursor) (skip : Bool) : c.Forward (c.lookAhead skip).cursor := by
  have hnext := (c.forward_pass 1).trans (forward_skipIf _ skip)
  rw [← cursor_peek] at hnext
  exact ⟨hnext.text, hnext.config, Nat.le_refl _⟩

theorem forward_matchKeyword (c : Cursor) (list : Text) (s : Flags) : c.Forward (c.matchKeyword list s).cursor := by
  have hmark := (c.forward_skipIf (s.has .skipBlanks)).trans (forward_mark _)
  simp only [matchKeyword]
  split
  · exact c.forward_skipIf _
  · split
    · exact c.forward_skipIf _
    · split
      · exact hmark.trans (forward_pass _ _)
      · split
        · exact hmark
        · exact hmark.trans ((forward_pass _ _).trans (forward_finish _ _))
        · exact hmark.trans ((forward_pass _ _).trans (forward_resolve _ _))

end Cursor

theorem Outcome.exists_of_map_ok {o : Outcome α} {f : α → β} {b : β} (h : (o.map f).answer = .ok b) :
    ∃ a, o.answer = .ok a ∧ b = f a := by
  obtain ⟨a, c⟩ := o
  cases a with
  | ok a => cases h; exact ⟨a, rfl, rfl⟩
  | error e => cases h

namespace Command

/-- The command puts the cursor where it is told to. -/
def places : Command → Bool
  | .load _ | .moveTo _ | .moveBy _ => true
  | _ => false

def setsBlanks : Command → Bool
  | .setBlanks _ => true
  | _ => false

/-- The command leaves the cursor where it is. -/
def stays : Command → Bool
  | .lookAhead _ | .mark | .markAt _ _ | .resolve _ | .lastToken _ | .tokenRange | .setBlanks _ => true
  | _ => false

/-- **A command that fails has gone forward, if anywhere.** -/
theorem forward_of_error {m : Command} {c : Cursor} {f : Fault} (hf : (c.perform m).answer = .error f) :
    c.Forward (c.perform m).cursor := by
  cases fails_of_error hf with
  | refuses n hn =>
    rw [hn]
    exact c.forward_pass n
  | blames n e cause ho =>
    rw [ho]
    have hread := (Cursor.forward_pass (c.skipIf m.skipsFirst).mark n).trans (Cursor.forward_resolve _ e)
    exact (c.forward_skipIf _).trans ((Cursor.forward_mark _).trans hread)

theorem forward_close (m : Command) (c : Cursor) : c.Forward (m.close c) :=
  (c.forward_resolve _).trans (Cursor.forward_pass _ _)

/-- **A command that reads a token has gone forward**, by the token at least. -/
theorem forward_of_readsToken {m : Command} (hm : m.readsToken = true) {c : Cursor} {v : Reply}
    (hv : (c.perform m).answer = .ok v) (hhit : v.isHit = true) :
    ∃ n, m.literal c.config (c.skipIf m.skips).rest = some (v, n) ∧
      Cursor.Forward ((c.skipIf m.skips).pass n) (c.perform m).cursor := by
  obtain ⟨n, hl, hd⟩ := (reads_of_readsToken hm).found c v hv hhit
  refine ⟨n, hl, ?_⟩
  have hmark : Cursor.Forward ((c.skipIf m.skips).pass n) ((c.skipIf m.skips).mark.pass n) := ⟨rfl, rfl, Nat.le_refl _⟩
  rw [hd]
  exact hmark.trans (m.forward_close _)

/-- **A command goes forward** over the same text with the same settings, unless it is there to change one of these. -/
theorem forward_perform {m : Command} (hp : m.places = false) (hb : m.setsBlanks = false) (c : Cursor) :
    c.Forward (c.perform m).cursor := by
  cases hv : (c.perform m).answer with
  | error f => exact forward_of_error hv
  | ok v =>
    have hread : m.readsToken = true → v.isHit = true → c.Forward (c.perform m).cursor := by
      intro hm hhit
      obtain ⟨n, -, hn⟩ := forward_of_readsToken hm hv hhit
      exact (c.forward_skipIf _).trans ((Cursor.forward_pass _ n).trans hn)
    cases m with
    | load t => cases hp
    | moveTo p => cases hp
    | moveBy d => cases hp
    | setBlanks s => cases hb
    | mark => exact c.forward_mark
    | markAt p s => exact c.forward_markAt p s.toEnds?
    | resolve s => exact c.forward_resolve _
    | lastToken s => exact c.forward_settle _
    | tokenRange => exact c.forward_settle none
    | skipBlanks => exact c.forward_pass _
    | requireBlank => exact c.forward_requireBlank
    | atBlank =>
      show c.Forward c.atBlank.cursor
      rw [Cursor.cursor_atBlank]
      exact c.forward_refl
    | peek skip =>
      show c.Forward (c.peek skip).cursor
      rw [Cursor.cursor_peek]
      exact c.forward_skipIf skip
    | next skip =>
      show c.Forward ((c.pass 1).peek skip).cursor
      rw [Cursor.cursor_peek]
      exact (c.forward_pass 1).trans (Cursor.forward_skipIf _ skip)
    | lookAhead skip => exact c.forward_lookAhead skip
    | atEnd skip => exact c.forward_skipIf skip
    | requireEnd skip => exact c.forward_requireEnd skip
    | accept x skip => exact c.forward_accept x skip
    | expect x skip => exact c.forward_expect x skip
    | acceptOneOf set skip => exact c.forward_acceptOneOf set skip
    | expectOneOf set skip => exact c.forward_expectOneOf set skip
    | matchKeyword list s => exact c.forward_matchKeyword list s
    | readUnsigned k s max => obtain ⟨n, -, rfl⟩ := Outcome.exists_of_map_ok hv; exact hread rfl rfl
    | readSigned k s max => obtain ⟨n, -, rfl⟩ := Outcome.exists_of_map_ok hv; exact hread rfl rfl
    | readFloat s => obtain ⟨x, -, rfl⟩ := Outcome.exists_of_map_ok hv; exact hread rfl rfl
    | readString s => obtain ⟨t, -, rfl⟩ := Outcome.exists_of_map_ok hv; exact hread rfl rfl
    | readWord skip => cases hv; exact hread rfl rfl
    | readLine skip => obtain ⟨t, -, rfl⟩ := Outcome.exists_of_map_ok hv; exact hread rfl rfl
    | _ => exact c.forward_refl

/-! ## On by at least one character -/

/-- The reply says that the command has read something that cannot be empty. -/
def consumes : Command → Reply → Bool
  | .readUnsigned _ _ _, _ | .readSigned _ _ _, _ | .readFloat _, _ => true
  | .requireBlank, _ | .expect _ _, _ | .expectOneOf _ _, _ => true
  | .accept _ _, .truth b => b
  | .acceptOneOf _ _, .place i => i.isSome
  | .matchKeyword _ _, .keyword m => m.place?.isSome
  | _, _ => false

/-- The command reads text that may be empty, up to a blank or a quote. -/
def readsText : Command → Bool
  | .readString _ | .readWord _ => true
  | _ => false

end Command

namespace Cursor

theorem pos_lt_pos_accept {c : Cursor} {x : Char} {skip : Bool} (h : (c.accept x skip).1 = true) :
    c.pos < (c.accept x skip).2.pos := by
  by_cases hx : (c.skipIf skip).current? = some x
  · rw [accept_hit hx]
    have hpass := pos_lt_pos_pass Nat.one_pos (rest_ne_nil_of_current? hx)
    exact Nat.lt_of_le_of_lt (c.forward_skipIf skip).pos (Nat.lt_of_lt_of_le hpass (forward_skipIf _ skip).pos)
  · rw [accept_miss hx] at h
    cases h

theorem pos_lt_pos_acceptOneOf {c : Cursor} {set : Text} {skip : Bool} (h : (c.acceptOneOf set skip).1.isSome = true) :
    c.pos < (c.acceptOneOf set skip).2.pos := by
  simp only [acceptOneOf] at h ⊢
  split at h
  · cases h
  · rename_i x hx
    split at h
    · cases h
    · rename_i i hi
      have hpass := pos_lt_pos_pass Nat.one_pos (rest_ne_nil_of_current? hx)
      exact Nat.lt_of_le_of_lt (c.forward_skipIf skip).pos (Nat.lt_of_lt_of_le hpass (forward_skipIf _ skip).pos)

theorem pos_lt_pos_expect {c : Cursor} {x : Char} {skip : Bool} {u : Unit} (h : (c.expect x skip).answer = .ok u) :
    c.pos < (c.expect x skip).cursor.pos := by
  have hlt := @pos_lt_pos_accept c x skip
  unfold expect at h ⊢
  generalize c.accept x skip = a at h hlt
  obtain ⟨found, d⟩ := a
  cases found with
  | true => exact hlt rfl
  | false => cases h

theorem pos_lt_pos_expectOneOf {c : Cursor} {set : Text} {skip : Bool} {i : Nat}
    (h : (c.expectOneOf set skip).answer = .ok i) : c.pos < (c.expectOneOf set skip).cursor.pos := by
  have hlt := @pos_lt_pos_acceptOneOf c set skip
  unfold expectOneOf at h ⊢
  generalize c.acceptOneOf set skip = a at h hlt
  obtain ⟨found, d⟩ := a
  cases found with
  | some i => exact hlt rfl
  | none => cases h

theorem pos_lt_pos_requireBlank {c : Cursor} {u : Unit} (h : c.requireBlank.answer = .ok u) :
    c.pos < c.requireBlank.cursor.pos := by
  unfold requireBlank at h ⊢
  split at h
  · rename_i hblank
    rw [if_pos hblank]
    cases hx : c.current? with
    | none =>
      rw [hx] at hblank
      cases hblank
    | some x =>
      rw [hx] at hblank
      have hb : c.isBlank x = true := hblank
      have hr := rest_ne_nil_of_current? hx
      obtain ⟨t, ht⟩ := List.head?_eq_some_iff.1 hx
      have hn : 0 < (c.rest.takeWhile c.isBlank).length := by
        rw [ht, List.takeWhile_cons_of_pos hb]
        exact Nat.succ_pos _
      exact pos_lt_pos_pass hn hr
  · cases h

/-- **Where text is left, a line takes some of it.** -/
theorem pos_lt_pos_readLine {c : Cursor} (hr : c.rest ≠ []) (skip : Bool) : c.pos < (c.readLine skip).cursor.pos := by
  rw [readLine_eq]
  by_cases hgap : c.gap skip = []
  · have hskip := skipIf_of_gap_eq_nil hgap
    have hsize : Text.size (c.rest.line ++ Text.lineEnd (c.rest.drop c.rest.line.length)) ≠ 0 := fun h =>
      Text.line_append_lineEnd_ne_nil hr (Text.size_eq_zero.1 h)
    rw [Text.size_append] at hsize
    rw [hskip, if_neg fun h => Nat.lt_irrefl _ h.1, pos_afterLine]
    omega
  · have hsize : Text.size (c.gap skip) ≠ 0 := fun h => hgap (Text.size_eq_zero.1 h)
    have hpos := c.pos_skipIf skip
    split
    · show c.pos < (c.skipIf skip).pos
      omega
    · rw [pos_afterLine]
      omega

end Cursor

namespace Command

/-- **A command that reads a literal of at least one character moves the cursor on.** -/
theorem pos_lt_of_readsToken {m : Command} (hm : m.readsToken = true) {c : Cursor} {v : Reply}
    (hv : (c.perform m).answer = .ok v) (hhit : v.isHit = true)
    (hpos : ∀ n, m.literal c.config (c.skipIf m.skips).rest = some (v, n) → 0 < n) :
    c.pos < (c.perform m).cursor.pos := by
  obtain ⟨n, hl, hn⟩ := forward_of_readsToken hm hv hhit
  have hle := (m.closed_literal c.config _ v n hl).1
  have hr : (c.skipIf m.skips).rest ≠ [] := List.length_pos_iff.1 (Nat.lt_of_lt_of_le (hpos n hl) hle)
  have hpass := Cursor.pos_lt_pos_pass (hpos n hl) hr
  exact Nat.lt_of_le_of_lt (c.forward_skipIf _).pos (Nat.lt_of_lt_of_le hpass hn.pos)

theorem pos_lt_of_consumes {m : Command} {c : Cursor} {v : Reply} (hv : (c.perform m).answer = .ok v)
    (h : m.consumes v = true) : c.pos < (c.perform m).cursor.pos := by
  cases m with
  | requireBlank =>
    obtain ⟨u, hu, -⟩ := Outcome.exists_of_map_ok hv
    exact Cursor.pos_lt_pos_requireBlank hu
  | accept x skip =>
    cases hv
    exact Cursor.pos_lt_pos_accept h
  | acceptOneOf set skip =>
    cases hv
    exact Cursor.pos_lt_pos_acceptOneOf h
  | expect x skip =>
    obtain ⟨u, hu, -⟩ := Outcome.exists_of_map_ok hv
    exact Cursor.pos_lt_pos_expect hu
  | expectOneOf set skip =>
    obtain ⟨i, hi, -⟩ := Outcome.exists_of_map_ok hv
    exact Cursor.pos_lt_pos_expectOneOf hi
  | matchKeyword list s =>
    obtain ⟨k, -, rfl⟩ := Outcome.exists_of_map_ok hv
    exact pos_lt_of_readsToken rfl hv h fun n => Literal.proper_map (Literal.proper_keyword list s) _ _ _ n
  | readUnsigned k s max =>
    obtain ⟨n, -, rfl⟩ := Outcome.exists_of_map_ok hv
    exact pos_lt_of_readsToken rfl hv rfl fun n =>
      Literal.proper_map (Literal.proper_magnitude k s max) (fun (n : Nat) => Reply.integer n) _ _ n
  | readSigned k s max =>
    obtain ⟨z, -, rfl⟩ := Outcome.exists_of_map_ok hv
    exact pos_lt_of_readsToken rfl hv rfl fun n => Literal.proper_map (Literal.proper_signed k s max) _ _ _ n
  | readFloat s =>
    obtain ⟨x, -, rfl⟩ := Outcome.exists_of_map_ok hv
    exact pos_lt_of_readsToken rfl hv rfl fun n => Literal.proper_map (Literal.proper_float s) _ _ _ n
  | _ => cases h

/-- **A string or a word takes the character that it starts with**, unless that is a blank. -/
theorem pos_lt_of_readsText {m : Command} (hm : m.readsText = true) {c : Cursor} {v : Reply} {x : Char}
    (hv : (c.perform m).answer = .ok v) (hx : (c.skipIf m.skips).current? = some x) (hb : c.isBlank x = false) :
    c.pos < (c.perform m).cursor.pos := by
  obtain ⟨t, ht⟩ := List.head?_eq_some_iff.1 hx
  cases m with
  | readString s =>
    obtain ⟨w, -, rfl⟩ := Outcome.exists_of_map_ok hv
    apply pos_lt_of_readsToken rfl hv rfl
    intro n hl
    obtain ⟨w, hw, -⟩ := Literal.exists_of_map hl
    rw [ht] at hw
    exact Literal.pos_of_string hb hw
  | readWord skip =>
    cases hv
    apply pos_lt_of_readsToken rfl rfl rfl
    intro n hl
    obtain ⟨w, hw, -⟩ := Literal.exists_of_map hl
    have hb' : c.config.isBlank x = false := hb
    rw [ht, Literal.run, List.takeWhile_cons_of_pos (by rw [hb']; rfl)] at hw
    cases hw
    exact Nat.succ_pos _
  | _ => cases hm

/-- How a command moves the cursor, whether it succeeds or fails.  The text changes with another one only, the blanks only
where they are set; the cursor goes back only where it is placed.  It goes forward wherever something is read that cannot
be empty, wherever a line is read with text left, and wherever a string or a word is read with a character at its start that
is no blank. -/
structure Moves (m : Command) (c : Cursor) : Prop where
  text : (∀ t, m ≠ .load t) → (c.perform m).cursor.text = c.text
  config : m.setsBlanks = false → (c.perform m).cursor.config = c.config
  forward : m.places = false → c.pos ≤ (c.perform m).cursor.pos
  stays : m.stays = true → (c.perform m).cursor.pos = c.pos
  consumes : ∀ v, (c.perform m).answer = .ok v → m.consumes v = true → c.pos < (c.perform m).cursor.pos
  line : ∀ skip, m = .readLine skip → c.isDone = false → c.pos < (c.perform m).cursor.pos
  readsText : m.readsText = true → ∀ v x, (c.perform m).answer = .ok v → (c.skipIf m.skips).current? = some x →
    c.isBlank x = false → c.pos < (c.perform m).cursor.pos

end Command

namespace Cursor

theorem keeps_setBlanks (c : Cursor) (s : Option Text) :
    (c.setBlanks s).cursor.text = c.text ∧ (c.setBlanks s).cursor.pos = c.pos := by
  cases s <;> exact ⟨rfl, rfl⟩

theorem keeps_moveTo (c : Cursor) (p : Nat) :
    (c.moveTo p).cursor.text = c.text ∧ (c.moveTo p).cursor.config = c.config := by
  unfold moveTo
  split <;> exact ⟨rfl, rfl⟩

theorem keeps_moveBy (c : Cursor) (d : Int) :
    (c.moveBy d).cursor.text = c.text ∧ (c.moveBy d).cursor.config = c.config := by
  unfold moveBy
  split
  · split <;> exact ⟨rfl, rfl⟩
  · exact ⟨rfl, rfl⟩

theorem pos_settle (c : Cursor) (e : Option Ends) : (c.settle e).pos = c.pos := by
  unfold settle
  split
  · rfl
  · split <;> rfl

theorem pos_markAt (c : Cursor) (p : Nat) (e : Option Ends) : (c.markAt p e).cursor.pos = c.pos := by
  unfold markAt
  split
  · cases e <;> rfl
  · rfl

/-- **The cursor only moves forward, and reading moves it on**: so it is at every cursor that a run leads to. -/
theorem perform_moves (t : Text) (s : Config) (ms : List Command) (m : Command) : m.Moves ((ofText t s).after ms) := by
  have hsound : ((ofText t s).after ms).Sound := sound_after t s ms
  generalize (ofText t s).after ms = c at hsound
  constructor
  case text =>
    intro h
    cases m with
    | load t => exact absurd rfl (h t)
    | moveTo p => exact (c.keeps_moveTo p).1
    | moveBy d => exact (c.keeps_moveBy d).1
    | setBlanks s => exact (c.keeps_setBlanks s).1
    | _ => exact (Command.forward_perform rfl rfl c).text
  case config =>
    intro h
    cases m with
    | load t => rfl
    | moveTo p => exact (c.keeps_moveTo p).2
    | moveBy d => exact (c.keeps_moveBy d).2
    | setBlanks s => cases h
    | _ => exact (Command.forward_perform rfl rfl c).config
  case forward =>
    intro h
    cases m with
    | setBlanks s => exact Nat.le_of_eq (c.keeps_setBlanks s).2.symm
    | _ => exact (Command.forward_perform h rfl c).pos
  case stays =>
    intro h
    cases m with
    | setBlanks s => exact (c.keeps_setBlanks s).2
    | markAt p s => exact c.pos_markAt p s.toEnds?
    | lastToken s => exact c.pos_settle s.toEnds?
    | tokenRange => exact c.pos_settle none
    | mark => rfl
    | resolve s => rfl
    | lookAhead skip => rfl
    | _ => cases h
  case consumes => exact fun v => Command.pos_lt_of_consumes
  case line =>
    rintro skip rfl hdone
    have hr : c.rest ≠ [] := fun hnil => by
      rw [(isDone_iff hsound.pos).2 hnil] at hdone
      cases hdone
    exact pos_lt_pos_readLine hr skip
  case readsText => exact fun hm v x => Command.pos_lt_of_readsText hm

end Cursor
end TextCursor
