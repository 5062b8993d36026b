import TextCursor.Proofs.Blame
import TextCursor.Proofs.FloatGrammar
import TextCursor.Proofs.SignedInteger
/-!
# How far a fault reaches

A fault blames a token that starts where the reader started, and the reader has gone no further than that token
(`Outcome.Covers`): it blames what it has passed, or fails where it stands, or blames a word of which it has passed the sign.
There is one exception, a sign that is itself a blank and has no digit behind it (`Command.StopsBehindBlank`).  The word to
blame then ends before the sign, which is passed all the same (`fault_covers_iff`).
-/
namespace TextCursor

variable {α β : Type}

/-- The outcome is a success, or a failure that leaves the cursor within the token blamed. -/
def Outcome.Covers (o : Outcome α) : Prop :=
  ∀ f, o.answer = .error f → f.pos ≤ o.cursor.pos ∧ o.cursor.pos ≤ f.pos + Text.size f.token

theorem Outcome.Covers.map {o : Outcome α} (h : o.Covers) (g : α → β) : (o.map g).Covers :=
  fun f hf => h f (Outcome.answer_of_map_error hf)

namespace Command

/-- The command blames a token when it fails. -/
def blamesToken : Command → Bool
  | .requireBlank | .requireEnd _ | .expect _ _ | .expectOneOf _ _ | .matchKeyword _ _ | .readUnsigned _ _ _
  | .readSigned _ _ _ | .readFloat _ | .readString _ | .readLine _ => true
  | _ => false

/-- The command takes a sign that is a blank, and has to stop behind it. -/
def StopsBehindBlank : Command → Cursor → Prop
  | .readSigned k s _, c =>
    s.has .skipBlanks = false ∧ c.current? = some '-' ∧ c.isBlank '-' = true ∧ DigitRun.Stops (k.style s) (c.pass 1).rest
  | .readFloat s, c =>
    s.has .skipBlanks = false ∧ ∃ x, c.current? = some x ∧ isSign x = true ∧ c.isBlank x = true ∧
      ∀ y, (c.pass 1).current? = some y → y.isDigit = false
  | _, _ => False

end Command

theorem DigitRun.taken_scan_eq_zero_iff {y : DigitStyle} {t : Text} : ((start y).scan y t).taken = 0 ↔ Stops y t := by
  refine ⟨fun h c hc => ?_, fun h => by rw [scan_stop h]; rfl⟩
  obtain ⟨u, rfl⟩ := List.head?_eq_some_iff.1 hc
  constructor
  · refine Bool.eq_false_iff.2 fun haccepts => ?_
    rw [scan_cons_of_accepts haccepts] at h
    have hle := le_taken_scan y ((start y).push c (if c.isDigit then (start y).base else 16)) u
    rw [h] at hle
    cases hle
  · refine fun hy => Bool.eq_false_iff.2 fun hmark => ?_
    rw [scan_baseMark hy hmark, if_pos (by rfl)] at h
    cases h

namespace Cursor

variable {c d : Cursor} {k : Numeral} {s : Flags} {max : Nat} {x : Char}

/-! ## Faults -/

theorem covers_ok (a : α) (c : Cursor) : (⟨.ok a, c⟩ : Outcome α).Covers := fun f hf => by cases hf

/-- Whoever fails at the mark is within any token. -/
theorem covers_fail_mark (c : Cursor) (e : Ends) (cause : Cause) : (c.mark.fail e cause : Outcome α).Covers := by
  intro f hf
  cases hf
  exact ⟨Nat.le_refl _, Nat.le_add_right _ _⟩

theorem covers_blame (c : Cursor) (w : Text) (cause : Cause) : (c.blame w cause : Outcome α).Covers := by
  intro f hf
  cases hf
  exact ⟨Nat.le_add_right _ _, Nat.le_refl _⟩

theorem covers_fail_passed (c : Cursor) (n : Nat) (cause : Cause) :
    ((c.mark.pass n).fail .atCursor cause : Outcome α).Covers := by
  rw [fail_passed]
  exact covers_blame _ _ _

theorem covers_blameWord {n : Nat} (h : c.rest.take n <+: c.word) (cause : Cause) :
    (c.blameWord n cause : Outcome α).Covers := by
  intro f hf
  cases hf
  obtain ⟨u, hu⟩ := h
  have hsize : Text.size (c.rest.take n) ≤ Text.size c.word := by
    rw [← hu, Text.size_append]
    exact Nat.le_add_right _ _
  exact ⟨Nat.le_add_right _ _, Nat.add_le_add_left hsize _⟩

/-! ## A sign in front of a word -/

theorem take_one_of_current? (hx : d.current? = some x) : d.rest.take 1 = [x] := by
  rw [rest_of_current? hx]
  rfl

/-- A sign that is no blank is part of the word that it starts. -/
theorem covers_blameWord_sign (hx : d.current? = some x) (hblank : d.isBlank x = false) (cause : Cause) :
    (d.blameWord 1 cause : Outcome α).Covers := by
  refine covers_blameWord ?_ cause
  rw [take_one_of_current? hx, word_of_current? hx, if_neg (by rw [hblank]; exact Bool.false_ne_true)]
  exact List.prefix_append [x] _

/-- **A sign that is a blank is no part of a word**: the fault blames nothing, and the cursor is behind the sign. -/
theorem blameWord_blank (hx : d.current? = some x) (hblank : d.isBlank x = true) (hsize : x.utf8Size = 1) (cause : Cause) :
    (d.blameWord 1 cause : Outcome α) = ⟨.error ⟨cause, [], d.pos⟩, { d.afterToken [] with pos := d.pos + 1 }⟩ := by
  have hpos : (d.pass 1).pos = d.pos + 1 := by
    rw [pos_pass, take_one_of_current? hx, Text.size_cons, hsize]
    rfl
  rw [blameWord, word_of_current? hx, if_pos hblank, hpos]

theorem utf8Size_of_isSign (h : isSign x = true) : x.utf8Size = 1 := by
  rw [isSign, Bool.or_eq_true, beq_iff_eq, beq_iff_eq] at h
  rcases h with rfl | rfl <;> rfl

/-- Where blanks are skipped first, none is at the cursor. -/
theorem not_skipped_of_isBlank (hd : c.skipIf (s.has .skipBlanks) = d) (hx : d.current? = some x)
    (hblank : d.isBlank x = true) : s.has .skipBlanks = false ∧ c = d := by
  have hskip : s.has .skipBlanks = false := Bool.eq_false_iff.2 fun hskip => by
    rw [hskip] at hd
    subst hd
    rw [isBlank_skipIf, not_isBlank_of_current? hx] at hblank
    cases hblank
  rw [hskip, skipIf_false] at hd
  exact ⟨hskip, hd⟩

/-! ## Integers -/

theorem digitRun_of_stops (h : DigitRun.Stops (k.style s) d.rest) (max : Nat) :
    (d.digitRun k s).taken = 0 ∧ (d.digitRun k s).result k max = .error (.atBlank, k.expected) := by
  have hrun : d.digitRun k s = DigitRun.start (k.style s) := DigitRun.scan_stop h _
  rw [hrun]
  exact ⟨rfl, DigitRun.result_of_no_digits 0 _ false k max⟩

/-- Digits that are no number are blamed as far as they were passed; where none were, the reader has not moved. -/
theorem covers_fail_digits {e : Ends} {cause : Cause} (h : (d.digitRun k s).result k max = .error (e, cause)) :
    ((d.mark.pass (d.digitRun k s).taken).fail e cause : Outcome α).Covers := by
  rcases digitRun_of_error h with ⟨rfl, -⟩ | ⟨rfl, hnone⟩
  · exact covers_fail_passed _ _ _
  · rw [hnone, pass_zero]
    exact covers_fail_mark _ _ _

theorem covers_readUnsigned (c : Cursor) (k : Numeral) (s : Flags) (max : Nat) : (c.readUnsigned k s max).Covers := by
  generalize hd : c.skipIf (s.has .skipBlanks) = d
  cases hr : (d.digitRun k s).result k max with
  | ok n =>
    rw [readUnsigned_of_ok hd hr]
    exact covers_ok _ _
  | error p =>
    rw [readUnsigned_of_error hd hr]
    exact covers_fail_digits hr

theorem readSigned_of_stopsBehindBlank (h : (Command.readSigned k s max).StopsBehindBlank c) :
    c.readSigned k s max = ⟨.error ⟨k.expected, [], c.pos⟩, { c.afterToken [] with pos := c.pos + 1 }⟩ := by
  obtain ⟨hskip, hsign, hblank, hstops⟩ := h
  obtain ⟨htaken, hresult⟩ := digitRun_of_stops hstops max
  have hd : c.skipIf (s.has .skipBlanks) = c := by rw [hskip, skipIf_false]
  rw [readSigned_minus_of_error hd hsign hresult, htaken, fail_word]
  exact blameWord_blank hsign hblank rfl _

theorem covers_readSigned (h : ¬ (Command.readSigned k s max).StopsBehindBlank c) : (c.readSigned k s max).Covers := by
  generalize hd : c.skipIf (s.has .skipBlanks) = d
  by_cases hsign : d.current? = some '-'
  · cases hr : ((d.pass 1).digitRun k s).result k max with
    | ok n =>
      rw [readSigned_minus_of_ok hd hsign hr]
      split
      · exact covers_ok _ _
      · exact covers_blame _ _ _
    | error p =>
      obtain ⟨e, cause⟩ := p
      rw [readSigned_minus_of_error hd hsign hr]
      rcases digitRun_of_error hr with ⟨rfl, -⟩ | ⟨rfl, hnone⟩
      · exact covers_fail_passed _ _ _
      · -- nothing was passed behind the sign, so the sign is no blank
        rw [hnone, fail_word]
        refine covers_blameWord_sign hsign (Bool.eq_false_iff.2 fun hblank => h ?_) _
        obtain ⟨hskip, rfl⟩ := not_skipped_of_isBlank hd hsign hblank
        exact ⟨hskip, hsign, hblank, DigitRun.taken_scan_eq_zero_iff.1 hnone⟩
  · cases hr : (d.digitRun k s).result k max with
    | ok n =>
      rw [readSigned_of_ok hd hsign hr]
      split
      · exact covers_ok _ _
      · exact covers_blame _ _ _
    | error p =>
      rw [readSigned_of_error hd hsign hr]
      exact covers_fail_digits hr

/-! ## Floating point numbers -/

theorem sign_of_current? (comma : Bool) (hx : d.current? = some x) (hsign : isSign x = true) :
    (FloatParts.ofText comma d.rest).sign = [x] := by
  rw [rest_of_current? hx]
  exact FloatParts.lead_cons_of_pos hsign _

theorem whole_eq_nil_iff {comma : Bool} (hx : d.current? = some x) (hsign : isSign x = true) :
    (FloatParts.ofText comma d.rest).whole = [] ↔ ∀ y, (d.pass 1).current? = some y → y.isDigit = false := by
  have hwhole : (FloatParts.ofText comma d.rest).whole = (d.pass 1).rest.takeWhile Char.isDigit := by
    rw [rest_pass]
    show (d.rest.drop (FloatParts.ofText comma d.rest).sign.length).takeWhile Char.isDigit = _
    rw [sign_of_current? comma hx hsign]
    rfl
  rw [hwhole, current?]
  cases (d.pass 1).rest with
  | nil => simp
  | cons y t => simp [List.takeWhile_cons]

theorem readFloat_of_stopsBehindBlank (h : (Command.readFloat s).StopsBehindBlank c) :
    c.readFloat s = ⟨.error ⟨.floatExpected, [], c.pos⟩, { c.afterToken [] with pos := c.pos + 1 }⟩ := by
  obtain ⟨hskip, x, hx, hsign, hblank, hstops⟩ := h
  have hd : c.skipIf (s.has .skipBlanks) = c := by rw [hskip, skipIf_false]
  rw [readFloat_eq hd rfl, if_pos ((whole_eq_nil_iff hx hsign).2 hstops), sign_of_current? _ hx hsign]
  exact blameWord_blank hx hblank (utf8Size_of_isSign hsign) _

theorem covers_readFloat (h : ¬ (Command.readFloat s).StopsBehindBlank c) : (c.readFloat s).Covers := by
  generalize hd : c.skipIf (s.has .skipBlanks) = d
  rw [readFloat_eq hd rfl]
  by_cases hwhole : (FloatParts.ofText (s.has .comma) d.rest).whole = []
  · rw [if_pos hwhole]
    by_cases hsign : ∃ x, d.current? = some x ∧ isSign x = true
    · obtain ⟨x, hx, hsign⟩ := hsign
      rw [sign_of_current? _ hx hsign]
      -- there is no digit behind the sign, so the sign is no blank
      refine covers_blameWord_sign hx (Bool.eq_false_iff.2 fun hblank => h ?_) _
      obtain ⟨hskip, rfl⟩ := not_skipped_of_isBlank hd hx hblank
      exact ⟨hskip, x, hx, hsign, hblank, (whole_eq_nil_iff hx hsign).1 hwhole⟩
    · have hnone : (FloatParts.ofText (s.has .comma) d.rest).sign = [] := by
        show FloatParts.lead isSign d.rest = []
        cases hrest : d.rest with
        | nil => rfl
        | cons x t =>
          refine FloatParts.lead_cons_of_neg (fun hx => hsign ⟨x, ?_, hx⟩) t
          rw [current?, hrest, List.head?_cons]
      rw [hnone]
      exact covers_blameWord (n := 0) List.nil_prefix _
  · rw [if_neg hwhole]
    split
    · exact covers_blame _ _ _
    · exact covers_ok _ _

/-! ## Everything else -/

theorem covers_requireBlank (c : Cursor) : c.requireBlank.Covers := by
  unfold requireBlank
  split
  · exact covers_ok _ _
  · exact covers_fail_mark _ _ _

theorem covers_requireEnd (c : Cursor) (skip : Bool) : (c.requireEnd skip).Covers := by
  simp only [requireEnd]
  split
  · exact covers_ok _ _
  · exact covers_fail_mark _ _ _

theorem covers_expect (c : Cursor) (x : Char) (skip : Bool) : (c.expect x skip).Covers := by
  simp only [expect]
  split
  · exact covers_ok _ _
  · exact covers_fail_mark _ _ _

theorem covers_expectOneOf (c : Cursor) (set : Text) (skip : Bool) : (c.expectOneOf set skip).Covers := by
  simp only [expectOneOf]
  split
  · exact covers_ok _ _
  · exact covers_fail_mark _ _ _

theorem covers_matchKeyword (c : Cursor) (list : Text) (s : Flags) : (c.matchKeyword list s).Covers := by
  simp only [matchKeyword]
  split
  · exact covers_ok _ _
  · split
    · exact covers_ok _ _
    · split
      · exact covers_ok _ _
      · split
        · exact covers_ok _ _
        · exact covers_ok _ _
        · exact covers_fail_passed _ _ _

/-- A string without its closing quote is blamed to the end of the text, and that is where the reader stops. -/
theorem covers_readString (c : Cursor) (s : Flags) : (c.readString s).Covers := by
  simp only [readString]
  generalize c.skipIf (s.has .skipBlanks) = d
  split
  · rename_i hquote
    have hquote : d.current? = some '"' := hquote
    have hrest := rest_of_current? hquote
    split
    · exact covers_ok _ _
    · have hend : 1 + (d.mark.pass 1).rest.length = d.rest.length := by
        rw [hrest, List.length_cons, Nat.add_comm]
        rfl
      rw [pass_pass, hend, fail_rest (onBoundary_of_rest_ne_nil (rest_ne_nil_of_current? hquote))]
      exact covers_blame _ _ _
  · split
    · exact covers_fail_mark _ _ _
    · exact covers_ok _ _

theorem covers_readLine (c : Cursor) (skip : Bool) : (c.readLine skip).Covers := by
  simp only [readLine]
  split
  · exact covers_fail_mark _ _ _
  · exact covers_ok _ _

/-! ## The commands -/

/-- **Every command that blames a token covers what it has passed**, but for the one exception. -/
theorem covers_perform {m : Command} (hm : m.blamesToken = true) (h : ¬ m.StopsBehindBlank c) : (c.perform m).Covers := by
  cases m with
  | requireBlank => exact c.covers_requireBlank.map _
  | requireEnd skip => exact (c.covers_requireEnd skip).map _
  | expect x skip => exact (c.covers_expect x skip).map _
  | expectOneOf set skip => exact (c.covers_expectOneOf set skip).map _
  | matchKeyword list s => exact (c.covers_matchKeyword list s).map _
  | readUnsigned k s max => exact (c.covers_readUnsigned k s max).map fun (n : Nat) => Reply.integer n
  | readSigned k s max => exact (covers_readSigned h).map _
  | readFloat s => exact (covers_readFloat h).map _
  | readString s => exact (c.covers_readString s).map _
  | readLine skip => exact (c.covers_readLine skip).map _
  | _ => cases hm

theorem perform_of_stopsBehindBlank {m : Command} (h : m.StopsBehindBlank c) :
    ∃ cause, c.perform m = ⟨.error ⟨cause, [], c.pos⟩, { c.afterToken [] with pos := c.pos + 1 }⟩ := by
  cases m with
  | readSigned k s max =>
    have hread := readSigned_of_stopsBehindBlank h
    exact ⟨k.expected, by rw [perform, hread]; rfl⟩
  | readFloat s =>
    have hread := readFloat_of_stopsBehindBlank h
    exact ⟨.floatExpected, by rw [perform, hread]; rfl⟩
  | _ => exact h.elim

/-- **The token that a fault blames covers what the reader has passed**, for every command that blames one, at every cursor and
with every set of blanks, unless the reader has to stop behind a sign that is a blank.  Then the token is empty and the cursor
is one byte behind it. -/
theorem fault_covers_iff (c : Cursor) (m : Command) (f : Fault) (hm : m.blamesToken = true)
    (hf : (c.perform m).answer = .error f) :
    (f.pos ≤ (c.perform m).cursor.pos ∧ (c.perform m).cursor.pos ≤ f.pos + Text.size f.token ↔ ¬ m.StopsBehindBlank c) ∧
    (m.StopsBehindBlank c → f.token = [] ∧ (c.perform m).cursor.pos = f.pos + 1) := by
  have hexception : m.StopsBehindBlank c → f.token = [] ∧ (c.perform m).cursor.pos = f.pos + 1 := fun h => by
    obtain ⟨cause, hperform⟩ := perform_of_stopsBehindBlank h
    rw [hperform] at hf ⊢
    cases hf
    exact ⟨rfl, rfl⟩
  refine ⟨⟨fun hcovers h => ?_, fun h => covers_perform hm h f hf⟩, hexception⟩
  obtain ⟨htoken, hpos⟩ := hexception h
  rw [htoken, hpos, Text.size_nil] at hcovers
  exact absurd hcovers.2 (Nat.not_succ_le_self _)

/-- Behind a plus sign that no digit follows, the cursor is within the word that starts with the sign. -/
theorem fault_covers_iff_plus :
    let c := ofText [' ', '+', 'ä', ' ', '5'] {}
    let m := Command.readFloat (.ofList [.skipBlanks])
    let f : Fault := ⟨.floatExpected, ['+', 'ä'], 1⟩
    (m.blamesToken = true ∧ (c.perform m).answer = .error f) ∧ (c.perform m).cursor.pos = 2 ∧ ¬ m.StopsBehindBlank c :=
  ⟨⟨rfl, rfl⟩, rfl, (fault_covers_iff _ _ _ rfl rfl).1.1 (by decide)⟩

/-- A minus sign that is a blank is passed and not blamed. -/
theorem readSigned_past_token :
    let c := ofText ['-', 'x'] ⟨['-']⟩
    let m := Command.readSigned .number .empty 0
    let f : Fault := ⟨.numberExpected, [], 0⟩
    (c.perform m).answer = .error f ∧ (c.perform m).cursor.pos = 1 ∧
      ¬ (f.pos ≤ (c.perform m).cursor.pos ∧ (c.perform m).cursor.pos ≤ f.pos + Text.size f.token) :=
  ⟨rfl, rfl, by decide⟩

end Cursor
end TextCursor
