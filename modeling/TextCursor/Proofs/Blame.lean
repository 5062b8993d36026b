import TextCursor.Proofs.Reread
import TextCursor.Proofs.Sound
/-!
# What a fault blames

A command fails in one of two ways (`Command.Fails`).  It refuses an argument or finds no character, and has at most moved
the cursor; or it blames a token, and then it fails some characters behind a mark set where the blanks that it skips first
end.  In the second case the fault and the window left behind tell the same (`fault_agrees_with_window`).
-/
namespace TextCursor

variable {α β : Type}

namespace Cursor

/-- The outcome is a success, or the failure of a cursor that has passed some characters since `c`. -/
def FailsBehind (c : Cursor) (numeric : Bool) (o : Outcome α) : Prop :=
  ∀ f, o.answer = .error f →
    ∃ n e cause, o = (c.pass n).fail e cause ∧ cause.blamesToken = true ∧ cause.isNumeric = numeric

/-- The outcome is a success, or the refusal of a cursor that has at most moved since `c`. -/
def Refuses (c : Cursor) (o : Outcome α) : Prop :=
  ∀ f, o.answer = .error f →
    (∃ n, o.cursor = c.pass n) ∧ f.cause.blamesToken = false ∧ (f.cause = .argumentMissing ∨ f.token = [])

variable {c : Cursor} {numeric : Bool}

theorem failsBehind_ok (a : α) (d : Cursor) : FailsBehind c numeric (⟨.ok a, d⟩ : Outcome α) := fun f hf => by cases hf

theorem failsBehind_fail (n : Nat) (e : Ends) {cause : Cause} (hb : cause.blamesToken = true)
    (hn : cause.isNumeric = numeric) : FailsBehind c numeric ((c.pass n).fail e cause : Outcome α) :=
  fun _ _ => ⟨n, e, cause, rfl, hb, hn⟩

theorem failsBehind_fail_here (e : Ends) {cause : Cause} (hb : cause.blamesToken = true)
    (hn : cause.isNumeric = numeric) : FailsBehind c numeric (c.fail e cause : Outcome α) :=
  fun _ _ => ⟨0, e, cause, by rw [pass_zero], hb, hn⟩

theorem FailsBehind.of_pass {o : Outcome α} (n : Nat) (h : FailsBehind (c.pass n) numeric o) :
    FailsBehind c numeric o := by
  intro f hf
  obtain ⟨m, e, cause, ho, hc⟩ := h f hf
  exact ⟨n + m, e, cause, by rw [ho, pass_pass], hc⟩

theorem FailsBehind.map {o : Outcome α} (h : FailsBehind c numeric o) (g : α → β) : FailsBehind c numeric (o.map g) := by
  intro f hf
  obtain ⟨n, e, cause, ho, hc⟩ := h f (Outcome.answer_of_map_error hf)
  exact ⟨n, e, cause, by rw [ho]; rfl, hc⟩

/-- **A step that fails behind a cursor, and behind it another, make one that does.** -/
theorem FailsBehind.andThen {o : Outcome α} {g : α → Cursor → Outcome β} (h : FailsBehind c numeric o)
    (ho : ∀ a, o.answer = .ok a → ∃ n, o.cursor = c.pass n) (hg : ∀ a n, FailsBehind c numeric (g a (c.pass n))) :
    FailsBehind c numeric (o.andThen g) := by
  cases ha : o.answer with
  | ok a =>
    obtain ⟨n, hn⟩ := ho a ha
    rw [Outcome.andThen, ha, hn]
    exact hg a n
  | error f' =>
    obtain ⟨n, e, cause, hfail, hc⟩ := h f' ha
    rw [hfail]
    exact fun _ _ => ⟨n, e, cause, rfl, hc⟩

theorem refuses_ok (a : α) (d : Cursor) : Refuses c (⟨.ok a, d⟩ : Outcome α) := fun f hf => by cases hf

theorem refuses_here {f : Fault} (hb : f.cause.blamesToken = false) (ht : f.cause = .argumentMissing ∨ f.token = []) :
    Refuses c (⟨.error f, c⟩ : Outcome α) := by
  intro g hg
  cases hg
  exact ⟨⟨0, (pass_zero c).symm⟩, hb, ht⟩

theorem Refuses.of_pass {o : Outcome α} (n : Nat) (h : Refuses (c.pass n) o) : Refuses c o := by
  intro f hf
  obtain ⟨⟨m, hm⟩, hc⟩ := h f hf
  exact ⟨⟨n + m, by rw [hm, pass_pass]⟩, hc⟩

theorem Refuses.map {o : Outcome α} (h : Refuses c o) (g : α → β) : Refuses c (o.map g) :=
  fun f hf => h f (Outcome.answer_of_map_error hf)

/-! ## Refusals -/

theorem refuses_setBlanks (c : Cursor) : ∀ s : Option Text, Refuses c (c.setBlanks s)
  | none => refuses_here rfl (.inl rfl)
  | some _ => refuses_ok _ _

theorem refuses_moveTo (c : Cursor) (p : Nat) : Refuses c (c.moveTo p) := by
  unfold moveTo
  split
  · exact refuses_ok _ _
  · exact refuses_here rfl (.inr rfl)

theorem refuses_moveBy (c : Cursor) (d : Int) : Refuses c (c.moveBy d) := by
  unfold moveBy
  split
  · split
    · exact refuses_ok _ _
    · exact refuses_here rfl (.inr rfl)
  · exact refuses_here rfl (.inr rfl)

theorem refuses_markAt (c : Cursor) (p : Nat) (e : Option Ends) : Refuses c (c.markAt p e) := by
  unfold markAt
  split
  · cases e with
    | none => exact refuses_ok _ _
    | some e => exact refuses_ok _ _
  · exact refuses_here rfl (.inr rfl)

theorem refuses_atBlank (c : Cursor) : Refuses c c.atBlank := by
  unfold atBlank
  split
  · exact refuses_ok _ _
  · exact refuses_here rfl (.inr rfl)

theorem refuses_peek (c : Cursor) (skip : Bool) : Refuses c (c.peek skip) := by
  simp only [peek]
  split
  · exact refuses_ok _ _
  · rw [skipIf_eq_pass]
    exact (refuses_here rfl (.inr rfl)).of_pass _

theorem refuses_next (c : Cursor) (skip : Bool) : Refuses c (c.next skip) := (refuses_peek (c.pass 1) skip).of_pass 1

theorem refuses_lookAhead (c : Cursor) (skip : Bool) : Refuses c (c.lookAhead skip) := by
  intro f hf
  obtain ⟨⟨n, hn⟩, hb, ht⟩ := refuses_next c skip f hf
  have hc : (c.lookAhead skip).cursor = { c.pass n with pos := c.pos } := by rw [← hn]; rfl
  exact ⟨⟨0, by rw [hc, pass_zero]; rfl⟩, hb, ht⟩

/-! ## Faults that blame a token -/

theorem failsBehind_requireBlank (c : Cursor) : FailsBehind c.mark false c.requireBlank := by
  unfold requireBlank
  split
  · exact failsBehind_ok _ _
  · exact failsBehind_fail_here _ rfl rfl

theorem failsBehind_requireEnd (c : Cursor) (skip : Bool) : FailsBehind (c.skipIf skip).mark false (c.requireEnd skip) := by
  simp only [requireEnd, atEnd]
  split
  · exact failsBehind_ok _ _
  · rename_i heq
    obtain ⟨-, rfl⟩ := Prod.mk.inj heq
    exact failsBehind_fail_here _ rfl rfl

theorem failsBehind_expect (c : Cursor) (x : Char) (skip : Bool) :
    FailsBehind (c.skipIf skip).mark false (c.expect x skip) := by
  simp only [expect, accept]
  by_cases hx : (c.skipIf skip).current? = some x
  · rw [if_pos hx]
    exact failsBehind_ok _ _
  · rw [if_neg hx]
    exact failsBehind_fail_here _ rfl rfl

theorem failsBehind_expectOneOf (c : Cursor) (set : Text) (skip : Bool) :
    FailsBehind (c.skipIf skip).mark false (c.expectOneOf set skip) := by
  simp only [expectOneOf, acceptOneOf]
  cases (c.skipIf skip).current? with
  | none => exact failsBehind_fail_here _ rfl rfl
  | some x =>
    dsimp only
    cases set.idxOf? x with
    | none => exact failsBehind_fail_here _ rfl rfl
    | some i => exact failsBehind_ok _ _

theorem failsBehind_matchKeyword (c : Cursor) (list : Text) (s : Flags) :
    FailsBehind (c.skipIf (s.has .skipBlanks)).mark false (c.matchKeyword list s) := by
  simp only [matchKeyword]
  split
  · exact failsBehind_ok _ _
  · split
    · exact failsBehind_ok _ _
    · split
      · exact failsBehind_ok _ _
      · split
        · exact failsBehind_ok _ _
        · exact failsBehind_ok _ _
        · exact failsBehind_fail _ _ rfl rfl

end Cursor

theorem Cause.blamesToken_of_isNumeric {cause : Cause} (h : cause.isNumeric = true) : cause.blamesToken = true := by
  cases cause <;> first | rfl | cases h

theorem Numeral.isNumeric_expected (k : Numeral) : k.expected.isNumeric = true := by cases k <;> rfl

theorem DigitRun.isNumeric_of_result {r : DigitRun} {k : Numeral} {max : Nat} {e : Ends} {cause : Cause}
    (h : r.result k max = .error (e, cause)) : cause.isNumeric = true := by
  unfold DigitRun.result at h
  split at h
  · cases h; exact k.isNumeric_expected
  · split at h
    · cases h; exact k.isNumeric_expected
    · split at h
      · cases h; exact k.isNumeric_expected
      · split at h
        · cases h; rfl
        · cases h

namespace Cursor

theorem failsBehind_readMagnitude (c : Cursor) (k : Numeral) (s : Flags) (max : Nat) :
    FailsBehind c true (c.readMagnitude k s max) := by
  simp only [readMagnitude]
  split
  · exact failsBehind_ok _ _
  · rename_i e cause hr
    have hn := DigitRun.isNumeric_of_result hr
    exact failsBehind_fail _ _ (Cause.blamesToken_of_isNumeric hn) hn

theorem cursor_readMagnitude (c : Cursor) (k : Numeral) (s : Flags) (max : Nat) (n : Nat)
    (h : (c.readMagnitude k s max).answer = .ok n) : ∃ i, (c.readMagnitude k s max).cursor = c.pass i := by
  rcases takes_readMagnitude c k s max with ⟨v, i, -, ho⟩ | ⟨-, f, hf⟩
  · exact ⟨i, by rw [ho]; rfl⟩
  · rw [hf] at h; cases h

theorem failsBehind_readUnsigned (c : Cursor) (k : Numeral) (s : Flags) (max : Nat) :
    FailsBehind (c.skipIf (s.has .skipBlanks)).mark true (c.readUnsigned k s max) :=
  (failsBehind_readMagnitude _ k s max).andThen (cursor_readMagnitude _ k s max) fun _ _ => failsBehind_ok _ _

theorem failsBehind_readSigned (c : Cursor) (k : Numeral) (s : Flags) (max : Nat) :
    FailsBehind (c.skipIf (s.has .skipBlanks)).mark true (c.readSigned k s max) := by
  obtain ⟨n, -, hc⟩ := accept_eq (c.skipIf (s.has .skipBlanks)).mark '-'
  simp only [readSigned]
  split
  -- a sign is part of the token, so both ways to the digits start at the same mark
  all_goals
    rename_i d hd
    rw [hd] at hc
    have hpass : d = (c.skipIf (s.has .skipBlanks)).mark.pass n := hc
    rw [hpass]
    refine FailsBehind.of_pass n ((failsBehind_readMagnitude _ k s max).andThen (cursor_readMagnitude _ k s max) ?_)
    intro m i
    split
    · exact failsBehind_ok _ _
    · exact failsBehind_fail _ _ rfl rfl

theorem failsBehind_readFloat (c : Cursor) (s : Flags) :
    FailsBehind (c.skipIf (s.has .skipBlanks)).mark true (c.readFloat s) := by
  obtain ⟨n, -, hc⟩ := acceptOneOf_eq (c.skipIf (s.has .skipBlanks)).mark ['+', '-']
  simp only [readFloat]
  rw [hc]
  refine FailsBehind.of_pass n ?_
  generalize (c.skipIf (s.has .skipBlanks)).mark.pass n = d
  split
  · exact failsBehind_fail _ _ rfl rfl
  -- digits are missing either here, behind the sign, or behind the point
  · obtain ⟨m, -, hp⟩ := acceptPoint_eq (d.pass (d.rest.takeWhile Char.isDigit).length) (s.has .comma)
    split
    · exact failsBehind_ok _ _
    · rename_i e he
      rw [he] at hp
      have hpass : e = d.pass ((d.rest.takeWhile Char.isDigit).length + m) := by rw [← pass_pass]; exact hp
      rw [hpass]
      refine FailsBehind.of_pass ((d.rest.takeWhile Char.isDigit).length + m) ?_
      split
      · exact failsBehind_fail _ _ rfl rfl
      · exact failsBehind_ok _ _

theorem failsBehind_readString (c : Cursor) (s : Flags) :
    FailsBehind (c.skipIf (s.has .skipBlanks)).mark false (c.readString s) := by
  simp only [readString]
  split
  · split
    · exact failsBehind_ok _ _
    · exact (failsBehind_fail _ _ rfl rfl).of_pass 1
  · split
    · exact failsBehind_fail_here _ rfl rfl
    · exact failsBehind_ok _ _

theorem failsBehind_readLine (c : Cursor) (skip : Bool) : FailsBehind (c.skipIf skip).mark false (c.readLine skip) := by
  simp only [readLine]
  split
  · exact failsBehind_fail_here _ rfl rfl
  · exact failsBehind_ok _ _

end Cursor

/-! ## The commands -/

namespace Command

/-- The command skips blanks before anything else. -/
def skipsFirst : Command → Bool
  | .peek skip | .atEnd skip | .requireEnd skip | .accept _ skip | .expect _ skip | .acceptOneOf _ skip
  | .expectOneOf _ skip => skip
  | m => m.skips

def readsNumber : Command → Bool
  | .readUnsigned _ _ _ | .readSigned _ _ _ | .readFloat _ => true
  | _ => false

/-- How a command fails: it blames no token and has at most moved the cursor, or it fails some characters behind the mark of
a token. -/
inductive Fails (m : Command) (c : Cursor) (f : Fault) : Prop where
  | refuses (n : Nat) : (c.perform m).cursor = c.pass n → f.cause.blamesToken = false →
      (f.cause = .argumentMissing ∨ f.token = []) → m.readsNumber = false → Fails m c f
  | blames (n : Nat) (e : Ends) (cause : Cause) : c.perform m = ((c.skipIf m.skipsFirst).mark.pass n).fail e cause →
      cause.blamesToken = true → cause.isNumeric = m.readsNumber → Fails m c f

theorem fails_of_refuses {m : Command} {c : Cursor} {f : Fault} (hf : (c.perform m).answer = .error f)
    (hm : m.readsNumber = false) (h : Cursor.Refuses c (c.perform m)) : m.Fails c f := by
  obtain ⟨⟨n, hn⟩, hb, ht⟩ := h f hf
  exact .refuses n hn hb ht hm

theorem fails_of_failsBehind {m : Command} {c : Cursor} {f : Fault} (hf : (c.perform m).answer = .error f)
    (h : Cursor.FailsBehind (c.skipIf m.skipsFirst).mark m.readsNumber (c.perform m)) : m.Fails c f := by
  obtain ⟨n, e, cause, ho, hb, hn⟩ := h f hf
  exact .blames n e cause ho hb hn

/-- **Every command fails in one of the two ways.** -/
theorem fails_of_error {m : Command} {c : Cursor} {f : Fault} (hf : (c.perform m).answer = .error f) : m.Fails c f := by
  cases m with
  | setBlanks s => exact fails_of_refuses hf rfl ((c.refuses_setBlanks s).map _)
  | moveTo p => exact fails_of_refuses hf rfl ((c.refuses_moveTo p).map _)
  | moveBy d => exact fails_of_refuses hf rfl ((c.refuses_moveBy d).map _)
  | markAt p s => exact fails_of_refuses hf rfl ((c.refuses_markAt p s.toEnds?).map _)
  | atBlank => exact fails_of_refuses hf rfl (c.refuses_atBlank.map _)
  | peek skip => exact fails_of_refuses hf rfl ((c.refuses_peek skip).map _)
  | next skip => exact fails_of_refuses hf rfl ((c.refuses_next skip).map _)
  | lookAhead skip => exact fails_of_refuses hf rfl ((c.refuses_lookAhead skip).map _)
  | requireBlank => exact fails_of_failsBehind hf (c.failsBehind_requireBlank.map _)
  | requireEnd skip => exact fails_of_failsBehind hf ((c.failsBehind_requireEnd skip).map _)
  | expect x skip => exact fails_of_failsBehind hf ((c.failsBehind_expect x skip).map _)
  | expectOneOf set skip => exact fails_of_failsBehind hf ((c.failsBehind_expectOneOf set skip).map _)
  | matchKeyword list s => exact fails_of_failsBehind hf ((c.failsBehind_matchKeyword list s).map _)
  | readUnsigned k s max =>
    exact fails_of_failsBehind hf ((c.failsBehind_readUnsigned k s max).map fun (n : Nat) => Reply.integer n)
  | readSigned k s max => exact fails_of_failsBehind hf ((c.failsBehind_readSigned k s max).map _)
  | readFloat s => exact fails_of_failsBehind hf ((c.failsBehind_readFloat s).map _)
  | readString s => exact fails_of_failsBehind hf ((c.failsBehind_readString s).map _)
  | readLine skip => exact fails_of_failsBehind hf ((c.failsBehind_readLine skip).map _)
  | _ => cases hf

/-- A fault of the command and the cursor it leaves tell the same.  A fault that blames no token leaves the window alone.
Any other names the token that starts where the blanks skipped first end, and that is what the window then shows. -/
structure FaultAgrees (m : Command) (c : Cursor) (f : Fault) : Prop where
  text : (c.perform m).cursor.text = c.text
  config : (c.perform m).cursor.config = c.config
  refused : f.cause.blamesToken = false →
    (c.perform m).cursor.window = c.window ∧ (f.cause ≠ .argumentMissing → f.token = [])
  pos : f.cause.blamesToken = true → f.pos = (c.skipIf m.skipsFirst).pos
  token : f.cause.blamesToken = true → c.text.slice? f.pos (f.pos + Text.size f.token) = some f.token
  range : f.cause.blamesToken = true →
    ((c.perform m).cursor.perform .tokenRange).answer = .ok (.range f.pos (f.pos + Text.size f.token))
  lastToken : f.cause.blamesToken = true → ∀ s : Flags, s.hasEnd = false →
    ((c.perform m).cursor.perform (.lastToken s)).answer = .ok (.text f.token)
  numeric : f.isNumeric = m.readsNumber

end Command

namespace Cursor

theorem settle_none_of_isSome {c : Cursor} (h : c.window.stop.isSome = true) : c.settle none = c := by
  rw [settle, if_neg]
  rw [Option.isNone_iff_eq_none]
  exact fun hn => by rw [hn] at h; cases h

theorem answer_tokenRange {c : Cursor} (h : c.window.stop.isSome = true) :
    (c.perform .tokenRange).answer = .ok (.range c.span.1 c.span.2) := by
  show Except.ok (Reply.range (c.settle none).span.1 (c.settle none).span.2) = _
  rw [settle_none_of_isSome h]

theorem answer_lastToken {c : Cursor} (h : c.window.stop.isSome = true) {s : Flags} (hs : s.hasEnd = false) :
    (c.perform (.lastToken s)).answer = .ok (.text c.token) := by
  show Except.ok (Reply.text (c.settle s.toEnds?).token) = _
  rw [Flags.toEnds?_of_not_hasEnd hs, settle_none_of_isSome h]

/-- **What a fault says and what the window shows agree**, for every command at every cursor that a run leads to. -/
theorem fault_agrees_with_window (t : Text) (s : Config) (ms : List Command) (m : Command) (f : Fault)
    (hf : (((ofText t s).after ms).perform m).answer = .error f) : m.FaultAgrees ((ofText t s).after ms) f := by
  have hsound : ((ofText t s).after ms).Sound := sound_after t s ms
  generalize (ofText t s).after ms = c at hf hsound
  cases Command.fails_of_error hf with
  | refuses n hn hb ht hm =>
    have hnot : ¬ f.cause.blamesToken = true := by rw [hb]; exact Bool.false_ne_true
    have hnum : f.isNumeric = false := Bool.eq_false_iff.2 fun h => hnot (Cause.blamesToken_of_isNumeric h)
    exact ⟨by rw [hn]; rfl, by rw [hn]; rfl, fun _ => ⟨by rw [hn]; rfl, ht.resolve_left⟩, fun h => absurd h hnot,
      fun h => absurd h hnot, fun h => absurd h hnot, fun h => absurd h hnot, hnum.trans hm.symm⟩
  | blames n e cause ho hb hn =>
    -- the invariant says that the token is what the window spans; where it starts is the mark
    have hafter := sound_perform hsound m
    have hcause : f.cause = cause := by rw [ho] at hf; cases hf; rfl
    have hblames : f.cause.blamesToken = true := by rw [hcause]; exact hb
    have htext : (c.perform m).cursor.text = c.text := by rw [ho]; exact text_skipIf c _
    have hconfig : (c.perform m).cursor.config = c.config := by rw [ho]; exact config_skipIf c _
    have hstart : (c.perform m).cursor.window.start = (c.skipIf m.skipsFirst).pos := by rw [ho]; rfl
    obtain ⟨hstop, htoken, hpos⟩ := hafter.fault f hf hblames
    have hslice := hafter.cursor.slice?_span
    have hspan : (c.perform m).cursor.span = (f.pos, f.pos + Text.size f.token) := by
      rw [hpos, htoken]
      exact Prod.ext rfl (Text.add_size_of_slice? hslice).symm
    rw [hspan, htext, ← htoken] at hslice
    refine ⟨htext, hconfig, fun h => ?_, fun _ => hpos.trans hstart, fun _ => hslice, fun _ => ?_, fun _ s hs => ?_, ?_⟩
    · rw [hblames] at h; cases h
    · rw [answer_tokenRange hstop, hspan]
    · rw [answer_lastToken hstop hs, htoken]
    · rw [Fault.isNumeric, hcause]; exact hn

theorem fault_agrees_with_window_hex :
    let t : Text := [' ', 'ä', ' ', '0', 'x', 'x', ' ', '7']
    let m := Command.readUnsigned .number (.ofList [.skipBlanks, .hex]) 0
    let c := (ofText t {}).after [.next true, .next false]
    let f : Fault := ⟨.numberExpected, ['0', 'x', 'x'], 4⟩
    (c.perform m).answer = .error f ∧ m.FaultAgrees c f :=
  ⟨rfl, fault_agrees_with_window _ _ _ _ _ rfl⟩

end Cursor
end TextCursor
