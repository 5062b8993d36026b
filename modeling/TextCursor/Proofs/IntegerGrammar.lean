import TextCursor.Proofs.Numeral
import TextCursor.Proofs.Token
/-!
# How integers are written

What a text starts with where an integer is expected is told apart by its longest runs of digits (`Figures.ofText`): there is
one run, or a lone zero, a base mark and a second run, or a base mark out of place.  The one pass that reads an integer finds
just that (`describes_scan`), and what it answers, whom it blames and where it leaves the cursor follow from it
(`readUnsigned_exact`).
-/
namespace TextCursor

/-- What a text starts with where an integer is expected. -/
inductive Figures where
  /-- Digits in a base, maybe none, behind a zero and a base mark or behind nothing. -/
  | number (mark digits : Text) (base : Nat)
  /-- Characters up to a base mark where none may stand. -/
  | misplaced (w : Text)

namespace Figures

/-- The base mark that the text starts with. -/
def baseMark? (t : Text) : Option Char := t.head?.filter isBaseMark

/-- What stands behind a zero and a base mark. -/
def marked (x : Char) (t : Text) : Figures :=
  let ds := t.takeWhile isHexDigit
  match baseMark? (t.dropWhile isHexDigit) with
  | none => number ['0', x] ds 16
  | some z => misplaced ('0' :: x :: ds ++ [z])

/-- What stands where letters and a base mark are accepted and none is required. -/
def free (t : Text) : Figures :=
  let ds := t.takeWhile isHexDigit
  match baseMark? (t.dropWhile isHexDigit) with
  | none => number [] ds (if ds.all Char.isDigit then 10 else 16)
  | some x => if ds = ['0'] then marked x (t.dropWhile isHexDigit).tail else misplaced (ds ++ [x])

/-- What the text starts with, by the kind of the integer and the options of the call. -/
def ofText (k : Numeral) (s : Flags) (t : Text) : Figures :=
  if k = .number ∧ s.has .hexOnly = true then number [] (t.takeWhile isHexDigit) 16
  else if k = .number ∧ s.has .hex = true then free t
  else number [] (t.takeWhile Char.isDigit) 10

/-- The pass over a text has found the figures at its front. -/
def Describes (t : Text) (r : DigitRun) : Figures → Prop
  | number mark ds base =>
    r = ⟨mark.length + ds.length, ds.reverse, base, !mark.isEmpty, false⟩ ∧ mark ++ ds <+: t ∧ 0 < base ∧
      ∀ c ∈ ds, DigitRun.IsDigit base c
  | misplaced w => r.misplaced = true ∧ r.taken = w.length ∧ w ≠ [] ∧ w <+: t

theorem baseMark?_eq_some {t : Text} {x : Char} (h : baseMark? t = some x) : ∃ u, t = x :: u ∧ isBaseMark x = true := by
  obtain ⟨hx, hm⟩ := Option.filter_eq_some_iff.1 h
  obtain ⟨u, hu⟩ := List.head?_eq_some_iff.1 hx
  exact ⟨u, hu, hm⟩

theorem isBaseMark_of_baseMark?_eq_none {t : Text} {x : Char} (h : baseMark? t = none) (hx : t.head? = some x) :
    isBaseMark x = false := by
  rw [baseMark?, hx] at h
  exact Bool.eq_false_iff.2 fun hm => by simp [hm] at h

end Figures

namespace DigitStyle

theorem accepts_of_letters {y : DigitStyle} (h : y.letters = true) : y.accepts = isHexDigit := by
  funext c
  rw [accepts, h, Bool.true_and]
  by_cases hd : c.isDigit = true
  · rw [hd, isHexDigit_of_isDigit hd]
    rfl
  · rw [Bool.eq_false_iff.2 hd, Bool.false_or]

theorem accepts_of_not_letters {y : DigitStyle} (h : y.letters = false) : y.accepts = Char.isDigit := by
  funext c
  rw [accepts, h, Bool.false_and, Bool.or_false]

end DigitStyle

namespace DigitRun

variable {y : DigitStyle}

/-- **The pass takes the longest run of digits** and goes on behind it. -/
theorem scan_run (y : DigitStyle) (r : DigitRun) (t : Text) :
    scan y r t = scan y (r.pushAll (t.takeWhile y.accepts)) (t.dropWhile y.accepts) := by
  conv => lhs; rw [← List.takeWhile_append_dropWhile (p := y.accepts) (l := t)]
  exact scan_append (fun c => List.mem_takeWhile_imp) r _

theorem stops_dropWhile {t : Text} (h : y.baseMark = true → Figures.baseMark? (t.dropWhile y.accepts) = none) :
    Stops y (t.dropWhile y.accepts) := by
  intro c hc
  have hn := List.head?_dropWhile_not y.accepts t
  rw [hc] at hn
  exact ⟨by simpa using hn, fun hy => Figures.isBaseMark_of_baseMark?_eq_none (h hy) hc⟩

end DigitRun

namespace Figures

/-! ## The pass finds the figures -/

theorem describes_marked (x : Char) (t : Text) :
    (marked x t).Describes ('0' :: x :: t) (DigitRun.scan ⟨true, true, 10⟩ ⟨2, [], 16, true, false⟩ t) := by
  have haccepts : DigitStyle.accepts ⟨true, true, 10⟩ = isHexDigit := DigitStyle.accepts_of_letters rfl
  have hsplit : t.takeWhile isHexDigit ++ t.dropWhile isHexDigit = t := List.takeWhile_append_dropWhile
  have hscan := DigitRun.scan_run ⟨true, true, 10⟩ ⟨2, [], 16, true, false⟩ t
  have hpush : ∀ ds, DigitRun.pushAll ⟨2, [], 16, true, false⟩ ds = ⟨2 + ds.length, ds.reverse, 16, true, false⟩ := by
    intro ds
    simp only [DigitRun.pushAll, ite_self, List.append_nil]
  have hdigits : ∀ c ∈ t.takeWhile isHexDigit, DigitRun.IsDigit 16 c := fun c hc =>
    DigitRun.isDigit_sixteen (List.mem_takeWhile_imp hc)
  rw [haccepts, hpush] at hscan
  unfold marked
  cases hmark : baseMark? (t.dropWhile isHexDigit) with
  | none =>
    have hstop : DigitRun.Stops ⟨true, true, 10⟩ (t.dropWhile isHexDigit) := by
      rw [← haccepts] at hmark ⊢
      exact DigitRun.stops_dropWhile fun _ => hmark
    rw [hscan, DigitRun.scan_stop hstop]
    refine ⟨rfl, ?_, by decide, hdigits⟩
    exact ⟨t.dropWhile isHexDigit, by rw [List.append_assoc, hsplit]; rfl⟩
  | some z =>
    obtain ⟨u, hu, hz⟩ := baseMark?_eq_some hmark
    rw [hscan, hu, DigitRun.scan_baseMark rfl hz]
    refine ⟨rfl, ?_, List.cons_ne_nil _ _, ?_⟩
    · show 2 + (t.takeWhile isHexDigit).length + 1 = _
      simp only [List.length_append, List.length_cons, List.length_nil]
      omega
    · refine ⟨u, ?_⟩
      conv => rhs; rw [← hsplit, hu]
      simp

theorem describes_free (t : Text) :
    (free t).Describes t (DigitRun.scan ⟨true, true, 10⟩ (DigitRun.start ⟨true, true, 10⟩) t) := by
  have haccepts : DigitStyle.accepts ⟨true, true, 10⟩ = isHexDigit := DigitStyle.accepts_of_letters rfl
  have hsplit : t.takeWhile isHexDigit ++ t.dropWhile isHexDigit = t := List.takeWhile_append_dropWhile
  have hscan := DigitRun.scan_run ⟨true, true, 10⟩ (DigitRun.start ⟨true, true, 10⟩) t
  have hhex : ∀ c ∈ t.takeWhile isHexDigit, isHexDigit c = true := fun c => List.mem_takeWhile_imp
  rw [haccepts] at hscan
  unfold free
  generalize hds : t.takeWhile isHexDigit = ds at hscan hsplit hhex
  have hpush : DigitRun.pushAll (DigitRun.start ⟨true, true, 10⟩) ds =
      ⟨ds.length, ds.reverse, if ds.all Char.isDigit then 10 else 16, false, false⟩ := by
    simp only [DigitRun.pushAll, DigitRun.start, List.append_nil, Nat.zero_add]
  rw [hpush] at hscan
  cases hmark : baseMark? (t.dropWhile isHexDigit) with
  | none =>
    have hstop : DigitRun.Stops ⟨true, true, 10⟩ (t.dropWhile isHexDigit) := by
      rw [← haccepts] at hmark ⊢
      exact DigitRun.stops_dropWhile fun _ => hmark
    rw [hscan, DigitRun.scan_stop hstop]
    refine ⟨by rw [List.length_nil, Nat.zero_add]; rfl, ⟨t.dropWhile isHexDigit, hsplit⟩, ?_⟩
    by_cases hall : ds.all Char.isDigit = true
    · rw [if_pos hall]
      exact ⟨by decide, fun c hc => DigitRun.isDigit_ten (List.all_eq_true.1 hall c hc)⟩
    · rw [if_neg hall]
      exact ⟨by decide, fun c hc => DigitRun.isDigit_sixteen (hhex c hc)⟩
  | some x =>
    obtain ⟨u, hu, hx⟩ := baseMark?_eq_some hmark
    rw [hu] at hsplit
    rw [hscan, hu, DigitRun.scan_baseMark rfl hx, List.tail_cons]
    by_cases hzero : ds = ['0']
    · subst hzero
      rw [← hsplit]
      exact describes_marked x u
    · have hlast : ds.reverse ≠ ['0'] := fun h => hzero (by rw [← List.reverse_reverse ds, h]; rfl)
      simp only [hzero, if_false, Bool.false_or, bne_iff_ne, ne_eq, hlast, not_false_eq_true, if_true]
      refine ⟨rfl, by rw [List.length_append]; rfl, by simp, ⟨u, ?_⟩⟩
      rw [List.append_assoc]
      exact hsplit

/-- Without a base mark there is one run, and its base is the same whatever its digits are. -/
theorem describes_run {y : DigitStyle} (t : Text) (hmark : y.baseMark = false) (hbase : 0 < y.base)
    (hdigit : ∀ c, y.accepts c = true → DigitRun.IsDigit y.base c) (hletters : y.letters = true → y.base = 16) :
    (number [] (t.takeWhile y.accepts) y.base).Describes t ((DigitRun.start y).scan y t) := by
  have hstop := DigitRun.stops_dropWhile (y := y) (t := t) fun h => absurd (hmark.symm.trans h) Bool.false_ne_true
  rw [DigitRun.scan_run, DigitRun.scan_stop hstop]
  refine ⟨?_, List.takeWhile_prefix _, hbase, fun c hc => hdigit c (List.mem_takeWhile_imp hc)⟩
  have hsame : (if (t.takeWhile y.accepts).all Char.isDigit then y.base else 16) = y.base := by
    by_cases hl : y.letters = true
    · rw [hletters hl, ite_self]
    · have hall : (t.takeWhile y.accepts).all Char.isDigit = true := by
        rw [DigitStyle.accepts_of_not_letters (Bool.eq_false_iff.2 hl)]
        exact List.all_eq_true.2 fun c => List.mem_takeWhile_imp
      rw [if_pos hall]
  simp only [DigitRun.pushAll, DigitRun.start, hsame, List.append_nil, List.length_nil]
  rfl

/-- **The pass finds the figures at the front of the text**, whatever the options. -/
theorem describes_scan (k : Numeral) (s : Flags) (t : Text) :
    (ofText k s t).Describes t ((DigitRun.start (k.style s)).scan (k.style s) t) := by
  unfold ofText
  by_cases honly : k = .number ∧ s.has .hexOnly = true
  · have hstyle : k.style s = ⟨true, false, 16⟩ := by
      simp [Numeral.style, Flags.has_normalized, honly.1, honly.2]
    have haccepts : DigitStyle.accepts ⟨true, false, 16⟩ = isHexDigit := DigitStyle.accepts_of_letters rfl
    rw [if_pos honly, hstyle, ← haccepts]
    exact describes_run t rfl (by decide) (fun c hc => DigitRun.isDigit_sixteen (haccepts ▸ hc)) fun _ => rfl
  · rw [if_neg honly]
    by_cases hhex : k = .number ∧ s.has .hex = true
    · have hnot : s.has .hexOnly = false := Bool.eq_false_iff.2 fun h => honly ⟨hhex.1, h⟩
      have hstyle : k.style s = ⟨true, true, 10⟩ := by
        simp [Numeral.style, Flags.has_normalized, hhex.1, hhex.2, hnot]
      rw [if_pos hhex, hstyle]
      exact describes_free t
    · have hstyle : k.style s = ⟨false, false, 10⟩ := by
        cases k with
        | decimal => rfl
        | number =>
          have hnot : s.has .hexOnly = false := Bool.eq_false_iff.2 fun h => honly ⟨rfl, h⟩
          have hnohex : s.has .hex = false := Bool.eq_false_iff.2 fun h => hhex ⟨rfl, h⟩
          simp [Numeral.style, Flags.has_normalized, hnohex, hnot]
      have haccepts : DigitStyle.accepts ⟨false, false, 10⟩ = Char.isDigit := DigitStyle.accepts_of_not_letters rfl
      rw [if_neg hhex, hstyle, ← haccepts]
      exact describes_run t rfl (by decide) (fun c hc => DigitRun.isDigit_ten (haccepts ▸ hc)) fun h => absurd h Bool.false_ne_true

end Figures

/-! ## What is answered -/

namespace DigitRun

theorem result_of_misplaced {r : DigitRun} (h : r.misplaced = true) (k : Numeral) (max : Nat) :
    r.result k max = .error (.atCursor, k.expected) := if_pos h

theorem result_of_no_digits (taken b : Nat) (marked : Bool) (k : Numeral) (max : Nat) :
    (DigitRun.mk taken [] b marked false).result k max = .error (if marked then .atCursor else .atBlank, k.expected) := by
  unfold result
  rw [if_neg Bool.false_ne_true, if_pos rfl]

end DigitRun

namespace Cursor

/-- The pass over the digits at the cursor. -/
def digitRun (c : Cursor) (k : Numeral) (s : Flags) : DigitRun := (DigitRun.start (k.style s)).scan (k.style s) c.rest

section

variable {c d : Cursor} {k : Numeral} {s : Flags} {max : Nat}

theorem readMagnitude_of_ok {n : Nat} (h : (c.digitRun k s).result k max = .ok n) :
    c.readMagnitude k s max = ⟨.ok n, c.pass (c.digitRun k s).taken⟩ := by
  have hresult : ((DigitRun.start (k.style s)).scan (k.style s) c.rest).result k max = .ok n := h
  simp only [readMagnitude, hresult]
  rfl

theorem readMagnitude_of_error {e : Ends} {cause : Cause} (h : (c.digitRun k s).result k max = .error (e, cause)) :
    c.readMagnitude k s max = (c.pass (c.digitRun k s).taken).fail e cause := by
  have hresult : ((DigitRun.start (k.style s)).scan (k.style s) c.rest).result k max = .error (e, cause) := h
  simp only [readMagnitude, hresult]
  rfl

theorem readUnsigned_of_ok (hd : c.skipIf (s.has .skipBlanks) = d) {n : Nat} (h : (d.digitRun k s).result k max = .ok n) :
    c.readUnsigned k s max =
      ⟨.ok n, (d.afterToken (d.rest.take (d.digitRun k s).taken)).skipIf (s.has .skipBlanks)⟩ := by
  have hread : d.mark.readMagnitude k s max = ⟨.ok n, d.mark.pass (d.digitRun k s).taken⟩ := readMagnitude_of_ok h
  rw [readUnsigned, hd, hread, Outcome.andThen_ok, finish_passed]

theorem readUnsigned_of_error (hd : c.skipIf (s.has .skipBlanks) = d) {e : Ends} {cause : Cause}
    (h : (d.digitRun k s).result k max = .error (e, cause)) :
    c.readUnsigned k s max = (d.mark.pass (d.digitRun k s).taken).fail e cause := by
  have hread : d.mark.readMagnitude k s max = (d.mark.pass (d.digitRun k s).taken).fail e cause := readMagnitude_of_error h
  rw [readUnsigned, hd, hread]
  rfl

/-- A base mark out of place is blamed with what stands before it. -/
theorem readUnsigned_of_misplaced (hd : c.skipIf (s.has .skipBlanks) = d) {w : Text}
    (hw : Figures.ofText k s d.rest = .misplaced w) :
    w <+: d.rest ∧ c.readUnsigned k s max = d.blame w k.expected := by
  have hfound : (Figures.ofText k s d.rest).Describes d.rest (d.digitRun k s) := Figures.describes_scan k s d.rest
  rw [hw] at hfound
  obtain ⟨hbad, htaken, -, hpre⟩ := hfound
  refine ⟨hpre, ?_⟩
  rw [readUnsigned_of_error hd (DigitRun.result_of_misplaced hbad k max), fail_passed, htaken,
    ← List.prefix_iff_eq_take.1 hpre]

/-- The pass over figures that are a number. -/
theorem digitRun_of_number {mark ds : Text} {base : Nat} (hw : Figures.ofText k s d.rest = .number mark ds base) :
    d.digitRun k s = ⟨mark.length + ds.length, ds.reverse, base, !mark.isEmpty, false⟩ ∧
    d.rest.take (mark.length + ds.length) = mark ++ ds ∧ 0 < base ∧ ∀ c ∈ ds, DigitRun.IsDigit base c := by
  have hfound : (Figures.ofText k s d.rest).Describes d.rest (d.digitRun k s) := Figures.describes_scan k s d.rest
  rw [hw] at hfound
  obtain ⟨hrun, hpre, hbase, hdigits⟩ := hfound
  refine ⟨hrun, ?_, hbase, hdigits⟩
  rw [← List.length_append, ← List.prefix_iff_eq_take.1 hpre]

/-- Without digits a base mark is blamed, and the word at the cursor where there is none. -/
theorem readUnsigned_of_no_digits (hd : c.skipIf (s.has .skipBlanks) = d) {mark : Text} {base : Nat}
    (hw : Figures.ofText k s d.rest = .number mark [] base) :
    c.readUnsigned k s max = if mark = [] then d.blameWord 0 k.expected else d.blame mark k.expected := by
  obtain ⟨hrun, htake, -, -⟩ := digitRun_of_number hw
  have hresult := DigitRun.result_of_no_digits mark.length base (!mark.isEmpty) k max
  rw [List.length_nil, Nat.add_zero] at hrun htake
  rw [List.append_nil] at htake
  rw [readUnsigned_of_error hd (by rw [hrun]; exact hresult), hrun]
  by_cases hmark : mark = []
  · subst hmark
    exact fail_word d 0 _
  · have hmarked : (!mark.isEmpty) = true := by simp [hmark]
    rw [hmarked, if_neg hmark]
    exact (fail_passed d _ _).trans (by rw [htake])

/-- Digits are read as the number that they denote, unless it is beyond the magnitudes or beyond the limit. -/
theorem readUnsigned_of_digits (hd : c.skipIf (s.has .skipBlanks) = d) {mark ds : Text} {base : Nat}
    (hw : Figures.ofText k s d.rest = .number mark ds base) (hds : ds ≠ []) {n : Nat}
    (hn : Nat.ofDigits base (ds.map digitValue).reverse = n) :
    c.readUnsigned k s max =
      if magnitudeBound ≤ n then d.blame (mark ++ ds) k.expected
      else if 0 < max ∧ max < n then d.blame (mark ++ ds) (.overflow max)
      else ⟨.ok n, (d.afterToken (mark ++ ds)).skipIf (s.has .skipBlanks)⟩ := by
  obtain ⟨hrun, htake, hbase, hdigits⟩ := digitRun_of_number hw
  have hresult := DigitRun.result_eq hbase hds hdigits (mark.length + ds.length) (!mark.isEmpty) k max
  rw [← hrun, DigitRun.foldDigits_eq_ofDigits, hn] at hresult
  have hblame : ∀ cause,
      (d.mark.pass (d.digitRun k s).taken).fail .atCursor cause = (d.blame (mark ++ ds) cause : Outcome Nat) :=
    fun cause => by rw [hrun, fail_passed, htake]
  by_cases hlarge : magnitudeBound ≤ n
  · rw [if_pos hlarge] at hresult ⊢
    rw [readUnsigned_of_error hd hresult, hblame]
  · rw [if_neg hlarge] at hresult ⊢
    by_cases hlimit : 0 < max ∧ max < n
    · rw [if_pos hlimit] at hresult ⊢
      rw [readUnsigned_of_error hd hresult, hblame]
    · rw [if_neg hlimit] at hresult ⊢
      rw [readUnsigned_of_ok hd hresult, hrun, htake]

end

/-- **The figures at the cursor decide what is read**, down to the window and the place of the cursor.  A base mark out of
place and a base mark without digits are blamed with what stands before them; where there is no digit at all, the word at the
cursor is.  Digits are blamed as a whole if they denote a number beyond the magnitudes or, with another cause, beyond the
limit; any others are read as exactly the number that they denote. -/
theorem readUnsigned_exact (c : Cursor) (k : Numeral) (s : Flags) (max : Nat) :
    let d := c.skipIf (s.has .skipBlanks)
    let o := c.readUnsigned k s max
    match Figures.ofText k s d.rest with
    | .misplaced w => w <+: d.rest ∧ o = d.blame w k.expected
    | .number mark ds base =>
      mark ++ ds <+: d.rest ∧
      (mark = [] → ds = [] → o = d.blameWord 0 k.expected) ∧
      (mark ≠ [] → ds = [] → o = d.blame mark k.expected) ∧
      ∀ n, n = Nat.ofDigits base (ds.map digitValue).reverse → ds ≠ [] →
        (magnitudeBound ≤ n → o = d.blame (mark ++ ds) k.expected) ∧
        (n < magnitudeBound → 0 < max → max < n → o = d.blame (mark ++ ds) (.overflow max)) ∧
        (n < magnitudeBound → max = 0 ∨ n ≤ max →
          o = ⟨.ok n, (d.afterToken (mark ++ ds)).skipIf (s.has .skipBlanks)⟩) := by
  intro d o
  cases hf : Figures.ofText k s d.rest with
  | misplaced w => exact readUnsigned_of_misplaced rfl hf
  | number mark ds base =>
    obtain ⟨-, htake, -, -⟩ := digitRun_of_number hf
    refine ⟨⟨_, by rw [← htake]; exact List.take_append_drop _ _⟩, fun hmark hds => ?_, fun hmark hds => ?_,
      fun n hn hds => ?_⟩
    · subst hds
      exact (readUnsigned_of_no_digits rfl hf).trans (if_pos hmark)
    · subst hds
      exact (readUnsigned_of_no_digits rfl hf).trans (if_neg hmark)
    · have ho : o = _ := readUnsigned_of_digits rfl hf hds hn.symm
      refine ⟨fun hlarge => ?_, fun hsmall hpos hlimit => ?_, fun hsmall hlimit => ?_⟩
      · rw [ho, if_pos hlarge]
      · rw [ho, if_neg (Nat.not_le.2 hsmall), if_pos ⟨hpos, hlimit⟩]
      · rw [ho, if_neg (Nat.not_le.2 hsmall), if_neg (by omega)]

example : Figures.ofText .number (.only .hex) ['0', 'X', 'f', 'F', 'g'] = .number ['0', 'X'] ['f', 'F'] 16 := rfl

end Cursor
end TextCursor
