import Mathlib.Data.List.Induction
import TextCursor.Proofs.FloatGrammar
import TextCursor.Proofs.IntegerGrammar
/-!
# The digits of a fraction

The digits of a fraction are gathered in a machine word, of which the first nineteen count.  The word holds exactly the number
that these denote (`Fraction.Holds`), since nineteen digits still fit it, so no step of the pass over a run of any length wraps.
What is read depends on nothing but the minus sign, the digits before the point and the first nineteen behind it
(`readFloat_fraction`).
-/
namespace TextCursor

open DigitRun (foldDigits)

theorem digitValue_lt_ten {x : Char} (hx : x.isDigit = true) : digitValue x < 10 := by
  obtain ⟨d, hd, hlt⟩ := DigitRun.isDigit_ten hx
  rw [digitValue, hd]
  exact hlt

theorem foldDigits_lt_pow {t : Text} (ht : ∀ x ∈ t, x.isDigit = true) : foldDigits 10 0 t < 10 ^ t.length := by
  have hlt : Nat.ofDigits 10 (t.map digitValue).reverse < 10 ^ (t.map digitValue).reverse.length :=
    Nat.ofDigits_lt_base_pow_length (by decide) fun d hd => by
      obtain ⟨x, hx, rfl⟩ := List.mem_map.1 (List.mem_reverse.1 hd)
      exact digitValue_lt_ten (ht x hx)
  rw [List.length_reverse, List.length_map] at hlt
  rw [DigitRun.foldDigits_eq_ofDigits]
  exact hlt

namespace Fraction

/-- The word is the number that the digits which count denote, and the count says how many they are. -/
structure Holds (f : Fraction) (t : Text) : Prop where
  digits : f.digits.toNat = foldDigits 10 0 (t.take fractionDigits)
  count : f.count = min t.length fractionDigits

/-- A step that stays within the word is the step in numbers. -/
theorem toNat_step {w : UInt64} {d : Nat} (h : w.toNat * 10 + d < 2 ^ 64) :
    (w * 10 + d.toUInt64).toNat = w.toNat * 10 + d := by
  have hdigit : d.toUInt64.toNat = d := UInt64.toNat_ofNat_of_lt' (Nat.lt_of_le_of_lt (Nat.le_add_left _ _) h)
  rw [UInt64.toNat_add, UInt64.toNat_mul, hdigit]
  show (w.toNat * 10 % 2 ^ 64 + d) % 2 ^ 64 = _
  omega

variable {f : Fraction} {t : Text} {x : Char}

theorem holds_empty : empty.Holds [] := ⟨rfl, rfl⟩

/-- **The step to one more digit that counts stays within the word.** -/
theorem Holds.step_lt (h : f.Holds t) (ht : ∀ y ∈ t, y.isDigit = true) (hx : x.isDigit = true)
    (hroom : t.length < fractionDigits) : f.digits.toNat * 10 + digitValue x < 2 ^ 64 := by
  have hdigits : f.digits.toNat = foldDigits 10 0 t := by
    rw [h.digits, List.take_of_length_le (Nat.le_of_lt hroom)]
  have hlt := foldDigits_lt_pow ht
  have hpow : 10 ^ t.length ≤ 10 ^ 18 := Nat.pow_le_pow_right (by decide) (Nat.le_of_lt_succ hroom)
  have hd := digitValue_lt_ten hx
  omega

/-- **One more digit counts while there is room**, and is dropped from then on. -/
theorem Holds.push (h : f.Holds t) (ht : ∀ y ∈ t, y.isDigit = true) (hx : x.isDigit = true) :
    (f.push (digitValue x)).Holds (t ++ [x]) := by
  have hlength : (t ++ [x]).length = t.length + 1 := List.length_append
  by_cases hroom : t.length < fractionDigits
  · have hcount : f.count = t.length := by rw [h.count, Nat.min_eq_left (Nat.le_of_lt hroom)]
    have hpush : f.push (digitValue x) = ⟨f.digits * 10 + (digitValue x).toUInt64, f.count + 1⟩ :=
      if_neg (by omega)
    have htake : (t ++ [x]).take fractionDigits = t.take fractionDigits ++ [x] := by
      rw [List.take_of_length_le (Nat.le_of_lt hroom), List.take_of_length_le (by omega)]
    rw [hpush]
    constructor
    · rw [htake, DigitRun.foldDigits_append, ← h.digits]
      exact toNat_step (h.step_lt ht hx hroom)
    · rw [hcount, hlength, Nat.min_eq_left hroom]
  · have hfull : fractionDigits ≤ t.length := Nat.not_lt.1 hroom
    have hcount : f.count = fractionDigits := by rw [h.count, Nat.min_eq_right hfull]
    have hpush : f.push (digitValue x) = f := if_pos (by omega)
    rw [hpush]
    constructor
    · rw [h.digits, List.take_append_of_le_length hfull]
    · rw [hcount, hlength, Nat.min_eq_right (by omega)]

theorem ofDigits_append (t : Text) (x : Char) : ofDigits (t ++ [x]) = (ofDigits t).push (digitValue x) :=
  List.foldl_append

/-- **A run of digits of any length is held exactly**, as far as it counts. -/
theorem holds_ofDigits (ht : ∀ y ∈ t, y.isDigit = true) : (ofDigits t).Holds t := by
  induction t using List.reverseRecOn with
  | nil => exact holds_empty
  | append_singleton t x ih =>
    have hbefore : ∀ y ∈ t, y.isDigit = true := fun y hy => ht y (List.mem_append_left _ hy)
    rw [ofDigits_append]
    exact (ih hbefore).push hbefore (ht x (List.mem_append_right _ (List.mem_singleton_self x)))

end Fraction

namespace FloatParts

/-- The parts differ at most in a plus sign, in the character for the point and in digits of the fraction that do not
count. -/
structure Alike (p q : FloatParts) : Prop where
  sign : p.sign = ['-'] ↔ q.sign = ['-']
  whole : p.whole = q.whole
  part : p.part.take 19 = q.part.take 19

theorem isDigit_of_mem_part (comma : Bool) (t : Text) : ∀ x ∈ (ofText comma t).part, x.isDigit = true := by
  intro x hx
  have hx : x ∈ if _ = [] then [] else _ := hx
  split at hx
  · cases hx
  · exact List.mem_takeWhile_imp hx

theorem part_of_point_eq_nil {comma : Bool} {t : Text} (h : (ofText comma t).point = []) : (ofText comma t).part = [] :=
  if_pos h

/-- **The digits behind the point are taken to the last one.** -/
theorem head?_behind_token {comma : Bool} {t : Text} (h : (ofText comma t).point ≠ []) {x : Char}
    (hx : (t.drop (ofText comma t).token.length).head? = some x) : x.isDigit = false := by
  generalize hp : ofText comma t = p at h hx
  have hpart : p.part = (t.drop (p.sign ++ p.whole ++ p.point).length).takeWhile Char.isDigit := by
    subst hp
    exact if_neg h
  have hbehind : t.drop p.token.length = (t.drop (p.sign ++ p.whole ++ p.point).length).dropWhile Char.isDigit := by
    rw [← Text.drop_length_takeWhile, ← hpart, List.drop_drop, ← List.length_append]
    rfl
  have hhead := List.head?_dropWhile_not Char.isDigit (t.drop (p.sign ++ p.whole ++ p.point).length)
  rw [← hbehind, hx] at hhead
  simpa using hhead

/-- **Digits that do not count are in no way part of the value.** -/
theorem value_of_point {comma : Bool} {t : Text} (h : (ofText comma t).point ≠ []) :
    (ofText comma t).value =
      signedFloat ((ofText comma t).sign = ['-']) (wholeFloat (ofText comma t).whole +
        (UInt64.ofNat (foldDigits 10 0 ((ofText comma t).part.take fractionDigits))).toFloat /
          (10 ^ min (ofText comma t).part.length fractionDigits).toFloat) := by
  have hholds := Fraction.holds_ofDigits (isDigit_of_mem_part comma t)
  rw [value, if_neg h, Fraction.toFloat, ← hholds.digits, UInt64.ofNat_toNat, hholds.count]
  rfl

theorem value_eq_of_alike {comma comma' : Bool} {t u : Text} (hp : (ofText comma t).Complete)
    (hq : (ofText comma' u).Complete) (h : (ofText comma t).Alike (ofText comma' u)) :
    (ofText comma t).value = (ofText comma' u).value := by
  have hnil : ∀ v : Text, v.take 19 = [] ↔ v = [] := fun v => by simp
  have hparts : (ofText comma t).part = [] ↔ (ofText comma' u).part = [] := by rw [← hnil, h.part, hnil]
  have hpoint : (ofText comma t).point = [] ↔ (ofText comma' u).point = [] := by
    constructor
    · intro hn
      exact hq.2.resolve_right fun hne => hne (hparts.1 (part_of_point_eq_nil hn))
    · intro hn
      exact hp.2.resolve_right fun hne => hne (hparts.2 (part_of_point_eq_nil hn))
  by_cases hn : (ofText comma t).point = []
  · rw [value, value, if_pos hn, if_pos (hpoint.1 hn), h.whole, decide_eq_decide.2 h.sign]
  · have hpart : (ofText comma t).part.take fractionDigits = (ofText comma' u).part.take fractionDigits := h.part
    have hcount : min (ofText comma t).part.length fractionDigits =
        min (ofText comma' u).part.length fractionDigits := by
      rw [Nat.min_comm, Nat.min_comm _ fractionDigits, ← List.length_take, ← List.length_take, hpart]
    rw [value_of_point hn, value_of_point fun hn' => hn (hpoint.2 hn'), h.whole, decide_eq_decide.2 h.sign, hpart, hcount]

end FloatParts

namespace Cursor

/-- The parts of the number at the cursor, behind the blanks that are skipped. -/
def floatParts (c : Cursor) (s : Flags) : FloatParts := FloatParts.ofText (s.has .comma) (c.skipIf (s.has .skipBlanks)).rest

variable {c d : Cursor} {s o : Flags}

theorem readFloat_of_complete (h : (c.floatParts s).Complete) :
    c.readFloat s = ⟨.ok (c.floatParts s).value,
      ((c.skipIf (s.has .skipBlanks)).afterToken (c.floatParts s).token).skipIf (s.has .skipBlanks)⟩ :=
  (readFloat_exact c s).2.2.2.2 h

/-- What is read behind a point is put together from the digits before it and those of the fraction that count. -/
theorem readFloat_of_point (h : (c.floatParts s).Complete) (hpoint : (c.floatParts s).point ≠ []) {n : Nat}
    (hn : Nat.ofDigits 10 (((c.floatParts s).part.take 19).map digitValue).reverse = n) {x : Float}
    (hx : wholeFloat (c.floatParts s).whole +
      (UInt64.ofNat n).toFloat / (10 ^ min (c.floatParts s).part.length 19).toFloat = x) :
    c.readFloat s = ⟨.ok (if (c.floatParts s).sign = ['-'] then -x else x),
      ((c.skipIf (s.has .skipBlanks)).afterToken (c.floatParts s).token).skipIf (s.has .skipBlanks)⟩ := by
  have hvalue := FloatParts.value_of_point hpoint
  rw [DigitRun.foldDigits_eq_ofDigits] at hvalue
  have hsigned : (c.floatParts s).value = signedFloat ((c.floatParts s).sign = ['-']) x := by
    rw [← hx, ← hn]
    exact hvalue
  rw [readFloat_of_complete h, hsigned, signedFloat]
  simp only [decide_eq_true_eq]

theorem readFloat_alike (hc : (c.floatParts s).Complete) (hd : (d.floatParts o).Complete)
    (h : (c.floatParts s).Alike (d.floatParts o)) :
    ∃ x, (c.readFloat s).answer = .ok x ∧ (d.readFloat o).answer = .ok x := by
  refine ⟨(c.floatParts s).value, by rw [readFloat_of_complete hc], ?_⟩
  have hvalue : (c.floatParts s).value = (d.floatParts o).value := FloatParts.value_eq_of_alike hc hd h
  rw [readFloat_of_complete hd, hvalue]

/-- **The fraction is exact in nineteen digits, and no more of it counts.**  The pass over a run of any length ends with the
number that its first nineteen digits denote and with how many these are, and never leaves the word on the way.  What is read
where there is a point is the number before it and that fraction, negated behind a minus sign, and the run is taken to its last
digit.  So two numbers that are alike that far are read as one and the same. -/
theorem readFloat_fraction :
    (∀ t : Text, (∀ x ∈ t, x.isDigit = true) →
      (Fraction.ofDigits t).digits.toNat = Nat.ofDigits 10 ((t.take 19).map digitValue).reverse ∧
      (Fraction.ofDigits t).count = min t.length 19 ∧
      ∀ u x, u ++ [x] <+: t → (Fraction.ofDigits u).count < 19 →
        (Fraction.ofDigits u).digits.toNat * 10 + digitValue x ≤ 2 ^ 64 - 1) ∧
    (∀ (c : Cursor) (s : Flags),
      let d := c.skipIf (s.has .skipBlanks)
      let p := c.floatParts s
      let n := Nat.ofDigits 10 ((p.part.take 19).map digitValue).reverse
      let v := p.whole.foldl (fun v c => v * 10.0 + (digitValue c).toFloat) 0.0
      let x := v + (UInt64.ofNat n).toFloat / (10 ^ min p.part.length 19).toFloat
      p.Complete → p.point ≠ [] →
        c.readFloat s = ⟨.ok (if p.sign = ['-'] then -x else x), (d.afterToken p.token).skipIf (s.has .skipBlanks)⟩ ∧
        ∀ y, (d.rest.drop p.token.length).head? = some y → y.isDigit = false) ∧
    ∀ (c c' : Cursor) (s s' : Flags),
      (c.floatParts s).Complete → (c'.floatParts s').Complete → (c.floatParts s).Alike (c'.floatParts s') →
      ∃ x, (c.readFloat s).answer = .ok x ∧ (c'.readFloat s').answer = .ok x := by
  refine ⟨fun t ht => ?_, fun c s => ?_, fun c c' s s' => readFloat_alike⟩
  · have hholds := Fraction.holds_ofDigits ht
    have hdigits := hholds.digits
    rw [DigitRun.foldDigits_eq_ofDigits] at hdigits
    refine ⟨hdigits, hholds.count, fun u x hpre hroom => ?_⟩
    have hrun : ∀ y ∈ u ++ [x], y.isDigit = true := fun y hy => ht y (hpre.subset hy)
    have hbefore : ∀ y ∈ u, y.isDigit = true := fun y hy => hrun y (List.mem_append_left _ hy)
    have hread := Fraction.holds_ofDigits hbefore
    have hlength : u.length < fractionDigits := by
      have hcount := hread.count
      simp only [fractionDigits] at hcount ⊢
      omega
    exact Nat.le_sub_one_of_lt (hread.step_lt hbefore (hrun x (List.mem_append_right _ (List.mem_singleton_self x))) hlength)
  · intro d p n v x hp hpoint
    exact ⟨readFloat_of_point hp hpoint rfl rfl, fun y => FloatParts.head?_behind_token hpoint⟩

/-- Twenty digits behind a point, and nineteen of them behind a comma: the last one of twenty does not count. -/
theorem readFloat_fraction_twenty :
    let t : Text := List.replicate 19 '9' ++ ['5']
    let c := ofText ('-' :: '1' :: '.' :: t) {}
    let c' := ofText (' ' :: '-' :: '1' :: ',' :: List.replicate 19 '9') {}
    let s' := Flags.ofList [.skipBlanks, .comma]
    ((∀ x ∈ t, x.isDigit = true) ∧ (c.floatParts .empty).point ≠ [] ∧ (c.floatParts .empty).Complete ∧
      (c'.floatParts s').Complete ∧ (c.floatParts .empty).Alike (c'.floatParts s')) ∧
    (Fraction.ofDigits t).digits.toNat = 9999999999999999999 ∧ (Fraction.ofDigits t).count = 19 ∧
    (c.readFloat .empty).cursor.pos = 23 ∧
    ∃ x, (c.readFloat .empty).answer = .ok x ∧ (c'.readFloat s').answer = .ok x := by
  intro t c c' s'
  have ht : ∀ x ∈ t, x.isDigit = true := fun x hx => by
    rcases List.mem_append.1 hx with hnine | hfive
    · rw [List.eq_of_mem_replicate hnine]
      rfl
    · rw [List.mem_singleton.1 hfive]
      rfl
  have hpoint : (c.floatParts .empty).point ≠ [] := by decide
  have hp : (c.floatParts .empty).Complete := ⟨by decide, .inr (by decide)⟩
  have hq : (c'.floatParts s').Complete := ⟨by decide, .inr (by decide)⟩
  have halike : (c.floatParts .empty).Alike (c'.floatParts s') := ⟨by decide, by decide, by decide⟩
  obtain ⟨hfraction, hread, hsame⟩ := readFloat_fraction
  obtain ⟨hdigits, hcount, -⟩ := hfraction t ht
  refine ⟨⟨ht, hpoint, hp, hq, halike⟩, ?_, hcount, ?_, hsame c c' .empty s' hp hq halike⟩
  · rw [hdigits]
    decide
  · rw [(hread c .empty hp hpoint).1]
    decide

end Cursor
end TextCursor
