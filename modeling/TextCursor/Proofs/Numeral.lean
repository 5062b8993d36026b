import Mathlib.Data.Nat.Digits.Defs
import TextCursor.Proofs.Literal
/-!
# Printed numbers

A printed number is read back whole, wherever nothing that could belong to it follows (`Literal.Spells`): one in decimal
digits, with a minus sign where it is negative, and one in hexadecimal digits behind a base mark, in small and capital
letters and with any number of zeros in front.  The pass over the digits takes exactly the digits (`DigitRun.scan_append`),
and folding them up gives the number that was printed (`DigitRun.foldDigits_toDigits`).
-/
namespace TextCursor

variable {α : Type}

/-! ## Printing -/

/-- The number in decimal digits, behind a minus sign where it is negative. -/
def decimal (z : Int) : Text := if z < 0 then '-' :: Nat.toDigits 10 z.natAbs else Nat.toDigits 10 z.natAbs

/-- The text is the number in hexadecimal digits: behind a base mark, in small and capital letters, and with any number of
zeros in front. -/
def IsMarkedHex (n : Nat) (w : Text) : Prop :=
  ∃ x ds zeros, (x = 'x' ∨ x = 'X') ∧ ds.map Char.toLower = Nat.toDigits 16 n ∧
    w = '0' :: x :: (List.replicate zeros '0' ++ ds)

theorem decimal_natCast (n : Nat) : decimal n = Nat.toDigits 10 n := if_neg (Int.not_lt.2 (Int.natCast_nonneg n))

example : decimal (-9223372036854775808) = "-9223372036854775808".toList := by decide

/-! ## Digits -/

theorem hexDigit?_digitChar {k : Nat} (hk : k < 16) : hexDigit? k.digitChar = some k := by
  decide +revert

/-- The digits are ten figures, and six letters in two cases. -/
theorem hexDigit?_cases {c : Char} {d : Nat} (h : hexDigit? c = some d) :
    (d < 10 ∧ c.toNat = 0x30 + d) ∨ (10 ≤ d ∧ d < 16 ∧ (c.toNat = 0x57 + d ∨ c.toNat = 0x37 + d)) := by
  unfold hexDigit? at h
  split_ifs at h with hfigure hsmall hcapital
  · have hvalue : c.toNat - 0x30 = d := Option.some.inj h
    have hlow : 0x30 ≤ c.toNat := (Char.isDigit_iff_toNat.1 hfigure).1
    have hhigh : c.toNat ≤ 0x39 := (Char.isDigit_iff_toNat.1 hfigure).2
    omega
  · have hvalue : c.toNat - 0x61 + 10 = d := Option.some.inj h
    have hlow : 0x61 ≤ c.toNat := hsmall.1
    have hhigh : c.toNat ≤ 0x66 := hsmall.2
    omega
  · have hvalue : c.toNat - 0x41 + 10 = d := Option.some.inj h
    have hlow : 0x41 ≤ c.toNat := hcapital.1
    have hhigh : c.toNat ≤ 0x46 := hcapital.2
    omega

theorem hexDigit?_lt {c : Char} {d : Nat} (h : hexDigit? c = some d) : d < 16 := by
  have hcases := hexDigit?_cases h
  omega

/-- A letter has the same value in both cases. -/
theorem hexDigit?_toLower (c : Char) : hexDigit? c.toLower = hexDigit? c := by
  by_cases h : c.val ≥ 'A'.val ∧ c.val ≤ 'Z'.val
  · have hcapital : ∀ k < 26, hexDigit? (Char.ofNat (65 + k)).toLower = hexDigit? (Char.ofNat (65 + k)) := by decide
    have hlow : 65 ≤ c.toNat := h.1
    have hhigh : c.toNat ≤ 90 := h.2
    have hc := hcapital (c.toNat - 65) (by omega)
    rw [Nat.add_sub_cancel' hlow, Char.ofNat_toNat] at hc
    exact hc
  · have hc : c.toLower = c := dif_neg h
    rw [hc]

theorem exists_of_mem_toDigits {b : Nat} (hb : 1 < b) (n : Nat) :
    ∀ c ∈ Nat.toDigits b n, ∃ k, k < b ∧ c = k.digitChar := by
  induction n using Nat.strongRecOn with
  | ind n ih =>
    intro c hc
    rw [Nat.toDigits_eq_if hb] at hc
    by_cases hn : n < b
    · rw [if_pos hn, List.mem_singleton] at hc
      exact ⟨n, hn, hc⟩
    · rw [if_neg hn, List.mem_append, List.mem_singleton] at hc
      rcases hc with hc | hc
      · exact ih (n / b) (Nat.div_lt_self (by omega) hb) c hc
      · exact ⟨n % b, Nat.mod_lt n (by omega), hc⟩

/-- The character is a digit where digits are written so. -/
def DigitStyle.accepts (y : DigitStyle) (c : Char) : Bool := c.isDigit || (y.letters && isHexDigit c)

/-- The character marks the base behind a zero. -/
def isBaseMark (c : Char) : Bool := c == 'x' || c == 'X'

namespace DigitRun

/-- The number that digits denote in a base, going on from what is read so far. -/
def foldDigits (b v : Nat) (ds : Text) : Nat := ds.foldl (fun v c => v * b + digitValue c) v

theorem foldDigits_append (b v : Nat) (ds es : Text) : foldDigits b v (ds ++ es) = foldDigits b (foldDigits b v ds) es :=
  List.foldl_append

theorem foldDigits_eq_ofDigits (b : Nat) (ds : Text) : foldDigits b 0 ds = Nat.ofDigits b (ds.map digitValue).reverse := by
  rw [Nat.ofDigits_eq_foldr, ← List.map_reverse, List.foldr_map, List.foldr_reverse, foldDigits]
  congr 1
  funext v c
  rw [Nat.cast_id, Nat.mul_comm, Nat.add_comm]

/-- **The digits that are printed denote the number.** -/
theorem foldDigits_toDigits {b : Nat} (hb : 1 < b) (hb' : b ≤ 16) (n : Nat) : foldDigits b 0 (Nat.toDigits b n) = n := by
  have hvalue : ∀ k, k < b → digitValue k.digitChar = k := fun k hk => by
    rw [digitValue, hexDigit?_digitChar (Nat.lt_of_lt_of_le hk hb')]
    rfl
  induction n using Nat.strongRecOn with
  | ind n ih =>
    rw [Nat.toDigits_eq_if hb]
    by_cases hn : n < b
    · rw [if_pos hn]
      show 0 * b + digitValue n.digitChar = n
      rw [hvalue n hn, Nat.zero_mul, Nat.zero_add]
    · have hdiv := ih (n / b) (Nat.div_lt_self (by omega) hb)
      rw [if_neg hn, foldDigits_append, hdiv]
      show n / b * b + digitValue (n % b).digitChar = n
      rw [hvalue _ (Nat.mod_lt n (by omega)), Nat.div_add_mod']

theorem foldDigits_zeros (b : Nat) (zeros : Nat) : foldDigits b 0 (List.replicate zeros '0') = 0 := by
  induction zeros with
  | zero => rfl
  | succ zeros ih =>
    have hzero : digitValue '0' = 0 := by decide
    rw [List.replicate_succ]
    show foldDigits b (0 * b + digitValue '0') (List.replicate zeros '0') = 0
    rw [hzero, Nat.zero_mul]
    exact ih

theorem foldDigits_toLower (b v : Nat) (ds : Text) : foldDigits b v (ds.map Char.toLower) = foldDigits b v ds := by
  have hvalue : ∀ c : Char, digitValue c.toLower = digitValue c := fun c => by
    rw [digitValue, hexDigit?_toLower]
    rfl
  rw [foldDigits, List.foldl_map]
  simp only [hvalue]
  rfl

/-! ## Reckoning with a check at every step -/

/-- The character is a digit of the base. -/
def IsDigit (b : Nat) (c : Char) : Prop := ∃ d, hexDigit? c = some d ∧ d < b

theorem isDigit_ten {c : Char} (h : c.isDigit = true) : IsDigit 10 c := by
  have hle : c.toNat ≤ 57 := (Char.isDigit_iff_toNat.1 h).2
  refine ⟨c.toNat - '0'.toNat, if_pos h, ?_⟩
  show c.toNat - 48 < 10
  omega

theorem isDigit_sixteen {c : Char} (h : isHexDigit c = true) : IsDigit 16 c := by
  obtain ⟨d, hd⟩ := Option.isSome_iff_exists.1 h
  exact ⟨d, hd, hexDigit?_lt hd⟩

theorem le_foldDigits {b : Nat} (hb : 0 < b) (v : Nat) (ds : Text) : v ≤ foldDigits b v ds := by
  induction ds generalizing v with
  | nil => exact Nat.le_refl v
  | cons c ds ih =>
    have hstep : v ≤ v * b + digitValue c := Nat.le_trans (Nat.le_mul_of_pos_right v hb) (Nat.le_add_right _ _)
    exact Nat.le_trans hstep (ih _)

/-- A step that leaves the magnitudes half-way leaves them as a whole. -/
theorem append?_eq {b v : Nat} {c : Char} (hc : IsDigit b c) : append? b v c = magnitude? (v * b + digitValue c) := by
  obtain ⟨d, hd, hlt⟩ := hc
  have hvalue : digitValue c = d := by rw [digitValue, hd]; rfl
  have hdigit : (hexDigit? c).filter (· < b) = some d := by rw [hd]; simp [hlt]
  unfold append?
  rw [hdigit, hvalue, Option.bind_eq_bind, Option.bind_some]
  by_cases hm : v * b < magnitudeBound
  · rw [show magnitude? (v * b) = some (v * b) from if_pos hm]
    rfl
  · rw [show magnitude? (v * b) = none from if_neg hm]
    exact (if_neg (by omega)).symm

/-- **Checking every step refuses exactly the numbers beyond the magnitudes.** -/
theorem foldlM_append? {b : Nat} (hb : 0 < b) {ds : Text} (hds : ∀ c ∈ ds, IsDigit b c) {v : Nat} (hv : v < magnitudeBound) :
    ds.foldlM (append? b) v = magnitude? (foldDigits b v ds) := by
  induction ds generalizing v with
  | nil => exact (if_pos hv).symm
  | cons c ds ih =>
    have hrest : ∀ d ∈ ds, IsDigit b d := fun d hd => hds d (List.mem_cons_of_mem c hd)
    rw [List.foldlM_cons, append?_eq (hds c (List.mem_cons_self ..))]
    by_cases hm : v * b + digitValue c < magnitudeBound
    · rw [show magnitude? (v * b + digitValue c) = some _ from if_pos hm]
      exact ih hrest hm
    · have hle : v * b + digitValue c ≤ foldDigits b v (c :: ds) := le_foldDigits hb _ ds
      rw [show magnitude? (v * b + digitValue c) = none from if_neg hm]
      exact (if_neg (by omega)).symm

/-- **What a run of digits denotes is exact**, and is refused only beyond the magnitudes and beyond the limit. -/
theorem result_eq {b : Nat} (hb : 0 < b) {ds : Text} (hne : ds ≠ []) (hds : ∀ c ∈ ds, IsDigit b c) (taken : Nat)
    (marked : Bool) (k : Numeral) (max : Nat) :
    (DigitRun.mk taken ds.reverse b marked false).result k max =
      if magnitudeBound ≤ foldDigits b 0 ds then .error (.atCursor, k.expected)
      else if 0 < max ∧ max < foldDigits b 0 ds then .error (.atCursor, .overflow max)
      else .ok (foldDigits b 0 ds) := by
  have hvalue : (DigitRun.mk taken ds.reverse b marked false).value? = magnitude? (foldDigits b 0 ds) := by
    rw [value?, List.reverse_reverse]
    exact foldlM_append? hb hds (by decide)
  unfold result
  rw [if_neg Bool.false_ne_true, if_neg fun h => hne (List.reverse_eq_nil_iff.1 h), hvalue, magnitude?]
  by_cases hn : foldDigits b 0 ds < magnitudeBound
  · rw [if_pos hn, if_neg (Nat.not_le.2 hn)]
  · rw [if_neg hn, if_pos (Nat.not_lt.1 hn)]

/-! ## The pass over the digits -/

/-- The pass with more digits read. -/
def pushAll (r : DigitRun) (ds : Text) : DigitRun :=
  { r with
    taken := r.taken + ds.length
    digits := ds.reverse ++ r.digits
    base := if ds.all Char.isDigit then r.base else 16 }

theorem pushAll_push (r : DigitRun) (c : Char) (ds : Text) :
    (r.push c (if c.isDigit then r.base else 16)).pushAll ds = r.pushAll (c :: ds) := by
  have htaken : r.taken + 1 + ds.length = r.taken + (c :: ds).length := by rw [List.length_cons]; omega
  have hdigits : ds.reverse ++ c :: r.digits = (c :: ds).reverse ++ r.digits := by simp
  have hbase : (if ds.all Char.isDigit then (if c.isDigit then r.base else 16) else 16) =
      if (c :: ds).all Char.isDigit then r.base else 16 := by
    rw [List.all_cons]
    cases c.isDigit <;> cases ds.all Char.isDigit <;> rfl
  simp only [pushAll, push, htaken, hdigits, hbase]

theorem scan_cons_of_accepts {y : DigitStyle} {c : Char} (h : y.accepts c = true) (r : DigitRun) (t : Text) :
    scan y r (c :: t) = scan y (r.push c (if c.isDigit then r.base else 16)) t := by
  rw [scan]
  by_cases hd : c.isDigit = true
  · rw [if_pos hd, if_pos hd]
  · have hx : (y.letters && isHexDigit c) = true := by
      rw [DigitStyle.accepts, Bool.or_eq_true] at h
      exact h.resolve_left hd
    rw [if_neg hd, if_pos hx, if_neg hd]

/-- **The pass takes digits as they come.** -/
theorem scan_append {y : DigitStyle} {ds : Text} (hds : ∀ c ∈ ds, y.accepts c = true) (r : DigitRun) (t : Text) :
    scan y r (ds ++ t) = scan y (r.pushAll ds) t := by
  induction ds generalizing r with
  | nil => rfl
  | cons c ds ih =>
    rw [List.cons_append, scan_cons_of_accepts (hds c (List.mem_cons_self ..)),
      ih fun d hd => hds d (List.mem_cons_of_mem c hd), pushAll_push]

/-- The text goes on no integer. -/
def Stops (y : DigitStyle) (t : Text) : Prop :=
  ∀ c, t.head? = some c → y.accepts c = false ∧ (y.baseMark = true → isBaseMark c = false)

theorem scan_stop {y : DigitStyle} {t : Text} (h : Stops y t) (r : DigitRun) : scan y r t = r := by
  cases t with
  | nil => rfl
  | cons c t =>
    obtain ⟨ha, hm⟩ := h c rfl
    rw [DigitStyle.accepts, Bool.or_eq_false_iff] at ha
    have hmark : (y.baseMark && (c == 'x' || c == 'X')) = false := by
      cases hb : y.baseMark
      · rfl
      · exact hm hb
    rw [scan, ha.1, ha.2, hmark]
    rfl

/-- **The pass ends at a base mark**, unless it is the first one and directly behind a lone zero. -/
theorem scan_baseMark {y : DigitStyle} (hy : y.baseMark = true) {x : Char} (hx : isBaseMark x = true) (r : DigitRun)
    (t : Text) :
    scan y r (x :: t) =
      if r.marked || r.digits != ['0'] then { r with taken := r.taken + 1, misplaced := true }
      else scan y ⟨r.taken + 1, [], 16, true, false⟩ t := by
  have hclass : x.isDigit = false ∧ isHexDigit x = false := by
    rw [isBaseMark, Bool.or_eq_true, beq_iff_eq, beq_iff_eq] at hx
    rcases hx with rfl | rfl <;> decide
  have hmark : (y.baseMark && (x == 'x' || x == 'X')) = true := by
    rw [hy]
    exact hx
  rw [scan, hclass.1, hclass.2, Bool.and_false, if_neg Bool.false_ne_true, if_neg Bool.false_ne_true, if_pos hmark]

end DigitRun

/-! ## Reading back -/

namespace Literal

/-- **The text is how the value is written**: the literal takes all of it wherever nothing or a blank follows, and it does
not start with a blank. -/
structure Spells (l : Literal α) (p : Char → Bool) (v : α) (w : Text) : Prop where
  head : ∃ x u, w = x :: u ∧ p x = false
  read : ∀ t : Text, (∀ x, t.head? = some x → p x = true) → l (w ++ t) = some (v, w.length)

theorem char_cons_self (x : Char) (t : Text) : char x (x :: t) = some (true, 1) := by
  simp [char, map, optional]

theorem char_cons_of_ne {x y : Char} (h : y ≠ x) (t : Text) : char x (y :: t) = some (false, 0) := by
  simp [char, map, optional, h]

theorem signed_minus {k : Numeral} {s : Flags} {t : Text} {n m : Nat} (h : magnitude k s 0 t = some (n, m))
    (hn : n ≤ negativeBound) : signed k s 0 ('-' :: t) = some (-(n : Int), m + 1) := by
  simp only [signed, andThen, char_cons_self, List.drop_succ_cons, List.drop_zero, h, hn, if_true, pure, Option.map_some,
    Nat.add_zero, Nat.add_comm 1 m]

theorem signed_of_ne {k : Numeral} {s : Flags} {x : Char} (hx : x ≠ '-') {t : Text} {n m : Nat}
    (h : magnitude k s 0 (x :: t) = some (n, m)) (hn : n < negativeBound) :
    signed k s 0 (x :: t) = some ((n : Int), m) := by
  simp only [signed, andThen, char_cons_of_ne hx, List.drop_zero, h, hn, if_true, Bool.false_eq_true, if_false, pure,
    Option.map_some, Nat.add_zero, Nat.zero_add]

theorem magnitude_of_scan {k : Numeral} {s : Flags} {t ds : Text} {b taken : Nat} {marked : Bool}
    (hscan : (DigitRun.start (k.style s)).scan (k.style s) t = ⟨taken, ds.reverse, b, marked, false⟩) (hb : 0 < b)
    (hne : ds ≠ []) (hds : ∀ c ∈ ds, DigitRun.IsDigit b c) (hn : DigitRun.foldDigits b 0 ds < magnitudeBound) :
    magnitude k s 0 t = some (DigitRun.foldDigits b 0 ds, taken) := by
  have hresult := DigitRun.result_eq hb hne hds taken marked k 0
  rw [if_neg (Nat.not_le.2 hn), if_neg fun h => Nat.lt_irrefl 0 h.1] at hresult
  simp only [magnitude, hscan, hresult]

variable {p : Char → Bool}

/-- A printed magnitude is read wherever no digit follows. -/
theorem magnitude_toDigits (s : Flags) {n : Nat} (hn : n < magnitudeBound) {t : Text}
    (ht : ∀ x, t.head? = some x → x.isDigit = false) :
    magnitude .decimal s 0 (Nat.toDigits 10 n ++ t) = some (n, (Nat.toDigits 10 n).length) := by
  have hstyle : Numeral.decimal.style s = ⟨false, false, 10⟩ := rfl
  have haccepts : (Numeral.decimal.style s).accepts = Char.isDigit := by
    funext c
    rw [hstyle, DigitStyle.accepts, Bool.false_and, Bool.or_false]
  have hdigits : ∀ c ∈ Nat.toDigits 10 n, c.isDigit = true := fun c =>
    Nat.isDigit_of_mem_toDigits (by decide) (by decide)
  have hstop : DigitRun.Stops (Numeral.decimal.style s) t := fun x hx =>
    ⟨by rw [haccepts]; exact ht x hx, by rw [hstyle]; exact nofun⟩
  have hscan : (DigitRun.start (Numeral.decimal.style s)).scan (Numeral.decimal.style s) (Nat.toDigits 10 n ++ t) =
      ⟨(Nat.toDigits 10 n).length, (Nat.toDigits 10 n).reverse, 10, false, false⟩ := by
    rw [DigitRun.scan_append (by rw [haccepts]; exact hdigits), DigitRun.scan_stop hstop]
    simp only [DigitRun.pushAll, DigitRun.start, hstyle, List.all_eq_true.2 hdigits, if_true, List.append_nil, Nat.zero_add]
  have hvalue := DigitRun.foldDigits_toDigits (by decide) (by decide : 10 ≤ 16) n
  have hread := magnitude_of_scan hscan (by decide) Nat.toDigits_ne_nil (fun c hc => DigitRun.isDigit_ten (hdigits c hc))
    (by rw [hvalue]; exact hn)
  rw [hread, hvalue]

theorem exists_toDigits_eq_cons (n : Nat) : ∃ x u, Nat.toDigits 10 n = x :: u ∧ x.isDigit = true := by
  obtain ⟨x, u, hw⟩ := List.exists_cons_of_ne_nil (Nat.toDigits_ne_nil (b := 10) (n := n))
  refine ⟨x, u, hw, Nat.isDigit_of_mem_toDigits (b := 10) (n := n) (by decide) (by decide) ?_⟩
  rw [hw]
  exact List.mem_cons_self ..

theorem spells_toDigits (hp : ∀ x, p x = true → x.isDigit = false) (s : Flags) {n : Nat} (hn : n < magnitudeBound) :
    (magnitude .decimal s 0).Spells p n (Nat.toDigits 10 n) where
  head := by
    obtain ⟨x, u, hw, hx⟩ := exists_toDigits_eq_cons n
    refine ⟨x, u, hw, Bool.eq_false_iff.2 fun h => ?_⟩
    rw [hp x h] at hx
    cases hx
  read := fun _ ht => magnitude_toDigits s hn fun x hx => hp x (ht x hx)

/-- **A printed integer is read back**, down to the least negative number. -/
theorem spells_decimal (hp : ∀ x, p x = true → x.isDigit = false ∧ x ≠ '-') (s : Flags) {z : Int}
    (hlow : -(negativeBound : Int) ≤ z) (hhigh : z < negativeBound) : (signed .decimal s 0).Spells p z (decimal z) := by
  have hmagnitude := spells_toDigits (fun x hx => (hp x hx).1) s (n := z.natAbs) (by
    simp only [negativeBound, magnitudeBound] at *
    omega)
  by_cases hz : z < 0
  · have hw : decimal z = '-' :: Nat.toDigits 10 z.natAbs := if_pos hz
    rw [hw]
    refine ⟨⟨'-', _, rfl, Bool.eq_false_iff.2 fun h => (hp _ h).2 rfl⟩, fun t ht => ?_⟩
    have hread := signed_minus (hmagnitude.read t ht) (by omega)
    have hneg : -((z.natAbs : Nat) : Int) = z := by omega
    rw [hneg] at hread
    exact hread
  · have hw : decimal z = Nat.toDigits 10 z.natAbs := if_neg hz
    rw [hw]
    refine ⟨hmagnitude.head, fun t ht => ?_⟩
    obtain ⟨x, u, hx, hd⟩ := exists_toDigits_eq_cons z.natAbs
    have hsign : x ≠ '-' := fun h => by
      rw [h] at hd
      cases hd
    have hdigits := hmagnitude.read t ht
    rw [hx] at hdigits ⊢
    have hread := signed_of_ne hsign hdigits (by omega)
    have hpos : ((z.natAbs : Nat) : Int) = z := by omega
    rw [hpos] at hread
    exact hread

/-- **A number in hexadecimal digits behind a base mark is read back**, in any mixture of cases and with any number of zeros
in front. -/
theorem spells_markedHex (hp : ∀ x, p x = true → isHexDigit x = false ∧ x ≠ 'x' ∧ x ≠ 'X') {s : Flags}
    (hhex : s.has .hex = true) (honly : s.has .hexOnly = false) {n : Nat} (hn : n < magnitudeBound) {w : Text}
    (hw : IsMarkedHex n w) : (magnitude .number s 0).Spells p n w := by
  obtain ⟨x, ds, zeros, hx, hds, rfl⟩ := hw
  have hstyle : Numeral.number.style s = ⟨true, true, 10⟩ := by
    simp [Numeral.style, Flags.has_normalized, hhex, honly]
  have hdigits : ∀ c ∈ List.replicate zeros '0' ++ ds, isHexDigit c = true := by
    intro c hc
    rcases List.mem_append.1 hc with hc | hc
    · rw [List.eq_of_mem_replicate hc]
      rfl
    · have hlower : c.toLower ∈ Nat.toDigits 16 n := hds ▸ List.mem_map_of_mem hc
      obtain ⟨k, hk, he⟩ := exists_of_mem_toDigits (by decide) n _ hlower
      rw [isHexDigit, ← hexDigit?_toLower, he, hexDigit?_digitChar hk]
      rfl
  have hmark : isBaseMark x = true := by rcases hx with rfl | rfl <;> rfl
  have hvalue : DigitRun.foldDigits 16 0 (List.replicate zeros '0' ++ ds) = n := by
    rw [DigitRun.foldDigits_append, DigitRun.foldDigits_zeros, ← DigitRun.foldDigits_toLower, hds]
    exact DigitRun.foldDigits_toDigits (by decide) (by decide) n
  have hne : List.replicate zeros '0' ++ ds ≠ [] := fun h => by
    rw [(List.append_eq_nil_iff.1 h).2] at hds
    exact Nat.toDigits_ne_nil hds.symm
  generalize List.replicate zeros '0' ++ ds = es at hdigits hvalue hne ⊢
  constructor
  · refine ⟨'0', _, rfl, Bool.eq_false_iff.2 fun h => ?_⟩
    have hzero := (hp '0' h).1
    cases hzero
  · intro t ht
    have hstop : DigitRun.Stops ⟨true, true, 10⟩ t := fun c hc => by
      obtain ⟨hdigit, hx, hX⟩ := hp c (ht c hc)
      have hnot : c.isDigit = false := Bool.eq_false_iff.2 fun h => by
        rw [isHexDigit_of_isDigit h] at hdigit
        cases hdigit
      exact ⟨by simp [DigitStyle.accepts, hnot, hdigit], fun _ => by simp [isBaseMark, hx, hX]⟩
    -- the pass over the zero, then over the base mark, then over the digits
    have hscan : (DigitRun.start ⟨true, true, 10⟩).scan ⟨true, true, 10⟩ ('0' :: x :: (es ++ t)) =
        ⟨2 + es.length, es.reverse, 16, true, false⟩ := by
      show DigitRun.scan ⟨true, true, 10⟩ ⟨1, ['0'], 10, false, false⟩ (x :: (es ++ t)) = _
      rw [DigitRun.scan_baseMark rfl hmark, if_neg (by decide), DigitRun.scan_append fun c hc => by
        simp [DigitStyle.accepts, hdigits c hc], DigitRun.scan_stop hstop]
      simp only [DigitRun.pushAll, ite_self, List.append_nil]
    rw [← hstyle] at hscan
    have hread := magnitude_of_scan hscan (by decide) hne (fun c hc => DigitRun.isDigit_sixteen (hdigits c hc))
      (by rw [hvalue]; exact hn)
    rw [List.cons_append, List.cons_append, hread, hvalue]
    simp only [List.length_cons, Nat.add_comm 2]

end Literal
end TextCursor
