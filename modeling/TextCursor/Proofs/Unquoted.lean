import TextCursor.Proofs.Word
/-!
# Strings without quotes

A string without quotes and a word are read side by side: they end at the same place unless the first blank is the second
half of a line pair (`BlankInPair`), which a string takes as part of the pair and reads on (`readString_eq_readWord_iff`).
-/
namespace TextCursor

/-- The value of a text: a control character is a line feed, and a line pair is a single one. -/
def Text.folded : Text → Text
  | [] => []
  | [c] => [if c.toNat < 0x20 then '\n' else c]
  | c :: d :: t =>
    if (c = '\r' ∧ d = '\n') ∨ (c = '\n' ∧ d = '\r') then '\n' :: folded t
    else (if c.toNat < 0x20 then '\n' else c) :: folded (d :: t)

/-- The text in units: a line pair is one unit, and so is every other character. -/
def Text.units : Text → List Text
  | [] => []
  | [c] => [[c]]
  | c :: d :: t =>
    if (c = '\r' ∧ d = '\n') ∨ (c = '\n' ∧ d = '\r') then [c, d] :: units t else [c] :: units (d :: t)

/-- The first blank among the units is the second half of a line pair. -/
def BlankInPair (p : Char → Bool) (us : List Text) : Prop :=
  ∃ vs x y ws, us = vs ++ [x, y] :: ws ∧ (∀ z ∈ vs.flatten ++ [x], p z = false) ∧ p y = true

/-! ## The first blank -/

theorem not_blankInPair_nil (p : Char → Bool) : ¬ BlankInPair p [] := by
  rintro ⟨vs, x, y, ws, h, -, -⟩
  cases vs <;> cases h

theorem not_blankInPair_of_blank {p : Char → Bool} {c : Char} (hc : p c = true) (u : Text) (us : List Text) :
    ¬ BlankInPair p ((c :: u) :: us) := by
  rintro ⟨vs, x, y, ws, h, hn, -⟩
  have hmem : c ∈ vs.flatten ++ [x] := by
    cases vs with
    | nil =>
      rw [List.nil_append, List.cons.injEq, List.cons.injEq] at h
      rw [h.1.1]; simp
    | cons v vs =>
      rw [List.cons_append, List.cons.injEq] at h
      rw [← h.1]; simp
  rw [hn c hmem] at hc
  cases hc

theorem blankInPair_cons {p : Char → Bool} {u : Text} (hu : ∀ z ∈ u, p z = false) (us : List Text) :
    BlankInPair p (u :: us) ↔ BlankInPair p us := by
  constructor
  · rintro ⟨vs, x, y, ws, h, hn, hy⟩
    cases vs with
    | nil =>
      rw [List.nil_append, List.cons.injEq] at h
      rw [hu y (by rw [h.1]; simp)] at hy
      cases hy
    | cons v vs =>
      rw [List.cons_append, List.cons.injEq] at h
      refine ⟨vs, x, y, ws, h.2, fun z hz => hn z ?_, hy⟩
      rw [List.flatten_cons, List.append_assoc]
      exact List.mem_append_right v hz
  · rintro ⟨vs, x, y, ws, rfl, hn, hy⟩
    refine ⟨u :: vs, x, y, ws, rfl, fun z hz => ?_, hy⟩
    rw [List.flatten_cons, List.append_assoc] at hz
    rcases List.mem_append.1 hz with hz | hz
    · exact hu z hz
    · exact hn z hz

/-! ## Reading up to a blank -/

namespace Reading

variable (p : Char → Bool)

/-- **The value of a string without quotes is the value of the characters it takes.** -/
theorem bare_value (t : Text) : (bare p t).value = Text.folded (t.take (bare p t).taken) := by
  fun_induction bare p t with
  | case1 => rfl
  | case2 c h => rfl
  | case3 c h => exact congrArg (fun x => [x]) (foldControl_eq c)
  | case4 c d t h => rfl
  | case5 c d t h hp ih =>
    simp only [cons, List.take_succ_cons, Text.folded, if_pos (isLinePair_iff.1 hp), ih]
  | case6 c d t h hp ih =>
    simp only [cons, List.take_succ_cons, foldControl_eq]
    cases hn : (bare p (d :: t)).taken with
    | zero => rw [hn] at ih; rw [ih]; rfl
    | succ n =>
      rw [hn] at ih
      simp only [List.take_succ_cons] at ih ⊢
      rw [Text.folded, if_neg (mt isLinePair_iff.2 hp), ih]

/-- **A string without quotes takes the characters up to the first blank**, unless that is in a pair: then it takes more. -/
theorem bare_taken (t : Text) :
    (t.takeWhile fun x => !p x).length ≤ (bare p t).taken ∧
    ((bare p t).taken = (t.takeWhile fun x => !p x).length ↔ ¬ BlankInPair p t.units) := by
  fun_induction bare p t with
  | case1 => exact ⟨Nat.le_refl 0, by simp [empty, Text.units, not_blankInPair_nil]⟩
  | case2 c h => exact ⟨by simp [h], by simp [h, empty, Text.units, not_blankInPair_of_blank h]⟩
  | case3 c h =>
    have hu : ∀ z ∈ [c], p z = false := by simp [h]
    exact ⟨by simp [h], by simp [h, Text.units, blankInPair_cons hu, not_blankInPair_nil]⟩
  | case4 c d t h =>
    refine ⟨by simp [h], ?_⟩
    rw [Text.units]
    split <;> simp [h, empty, not_blankInPair_of_blank h]
  | case5 c d t h hp ih =>
    simp only [Bool.not_eq_true] at h
    rw [Text.units, if_pos (isLinePair_iff.1 hp), List.takeWhile_cons_of_pos (by simp [h])]
    cases hd : p d with
    | true =>
      have hs : BlankInPair p ([c, d] :: Text.units t) := ⟨[], c, d, Text.units t, rfl, by simp [h], hd⟩
      rw [List.takeWhile_cons_of_neg (by simp [hd])]
      exact ⟨by simp [cons], by simp [cons, hs]⟩
    | false =>
      have hu : ∀ z ∈ [c, d], p z = false := by simp [h, hd]
      rw [List.takeWhile_cons_of_pos (by simp [hd]), blankInPair_cons hu, ← ih.2]
      simp only [cons, List.length_cons]
      omega
  | case6 c d t h hp ih =>
    simp only [Bool.not_eq_true] at h
    have hu : ∀ z ∈ [c], p z = false := by simp [h]
    rw [Text.units, if_neg (mt isLinePair_iff.2 hp), List.takeWhile_cons_of_pos (by simp [h]), blankInPair_cons hu, ← ih.2]
    simp only [cons, List.length_cons]
    omega

end Reading

namespace Cursor

theorem readString_of_unquoted {c : Cursor} {s : Flags} (hs : s.has .quoted = false)
    (hq : (c.skipIf (s.has .skipBlanks)).current? ≠ some '"') {d : Cursor} (hd : c.skipIf (s.has .skipBlanks) = d) :
    c.readString s = ⟨.ok (Reading.bare c.isBlank d.rest).value,
      (d.mark.pass (Reading.bare c.isBlank d.rest).taken).finish (s.has .skipBlanks)⟩ := by
  have hb : d.mark.isBlank = c.isBlank := by rw [← hd]; simp
  have hc : ¬ d.mark.current? = some '"' := by rw [← hd]; exact hq
  simp only [readString, hd, if_neg hc, hs, Bool.false_eq_true, if_false, hb]
  rfl

theorem exists_blank_of_length_word_lt {c : Cursor} {n : Nat} (hn : c.word.length < n) (hle : n ≤ c.rest.length) :
    ∃ y r, c.rest.take n = c.word ++ y :: r ∧ c.isBlank y = true := by
  obtain ⟨r, hr, hblank⟩ := exists_word_append c
  obtain ⟨k, rfl⟩ := Nat.exists_eq_add_of_lt hn
  cases r with
  | nil =>
    rw [hr, List.append_nil] at hle
    omega
  | cons y r =>
    refine ⟨y, r.take k, ?_, hblank y rfl⟩
    rw [hr, Nat.add_assoc, List.take_length_add_append, List.take_succ_cons]

/-- **A string without quotes ends where the word does, and reads as the word's value, exactly if the first blank is in no
line pair.**  Otherwise it goes on over that blank. -/
theorem readString_eq_readWord_iff (c : Cursor) (s : Flags) (hs : s.has .quoted = false)
    (hq : (c.skipIf (s.has .skipBlanks)).current? ≠ some '"') :
    let o := c.readString s
    let w := c.readWord (s.has .skipBlanks)
    let left := (c.skipIf (s.has .skipBlanks)).rest
    o.answer = .ok (Text.folded o.cursor.token) ∧
    (w.2.token = w.1 ∧ (∀ x ∈ w.1, c.isBlank x = false) ∧ ∃ r, left = w.1 ++ r ∧ ∀ y, r.head? = some y → c.isBlank y = true) ∧
    (o.cursor = w.2 ∧ o.answer = .ok (Text.folded w.1) ↔ ¬ BlankInPair c.isBlank (Text.units left)) ∧
    (BlankInPair c.isBlank (Text.units left) → ∃ y r, o.cursor.token = w.1 ++ y :: r ∧ c.isBlank y = true) := by
  have hread := readString_of_unquoted hs hq rfl
  have hword := readWord_eq c (s.has .skipBlanks)
  have hb : (c.skipIf (s.has .skipBlanks)).isBlank = c.isBlank := isBlank_skipIf c _
  generalize c.skipIf (s.has .skipBlanks) = d at hread hword hb
  have hle := Reading.bare_taken_le c.isBlank d.rest
  have hval := Reading.bare_value c.isBlank d.rest
  have hlen := Reading.bare_taken c.isBlank d.rest
  rw [show (d.rest.takeWhile fun x => !c.isBlank x) = d.word by rw [word, hb]] at hlen
  generalize Reading.bare c.isBlank d.rest = r at hread hle hval hlen
  intro o w left
  have ho : o = ⟨.ok r.value, (d.mark.pass r.taken).finish (s.has .skipBlanks)⟩ := hread
  have hw : w = (d.word, (d.mark.pass d.word.length).finish (s.has .skipBlanks)) := hword
  have hot : o.cursor.token = d.rest.take r.taken := by rw [ho]; exact token_finish d r.taken _
  have hwt : w.2.token = w.1 := by rw [hw]; exact (token_finish d d.word.length _).trans (take_length_word d)
  have hw1 : w.1 = d.word := by rw [hw]
  refine ⟨?_, ⟨hwt, fun x hx => ?_, ?_⟩, ⟨?_, fun hn => ?_⟩, fun hp => ?_⟩
  · rw [hot, ho, hval]
  · rw [hw1] at hx
    rw [← hb]; exact not_isBlank_of_mem_word hx
  · rw [hw1, ← hb]; exact exists_word_append d
  · -- the windows agree only if as many characters are taken
    rintro ⟨hc, -⟩
    have ht : d.rest.take r.taken = d.word := by rw [← hot, hc, hwt, hw1]
    have hk := congrArg List.length ht
    rw [List.length_take_of_le hle] at hk
    exact hlen.2.1 hk
  · have hk := hlen.2.2 hn
    have ht : d.rest.take r.taken = d.word := by rw [hk, take_length_word]
    exact ⟨by rw [ho, hw, hk], by rw [ho, hval, ht, hw1]⟩
  · have hlt : d.word.length < r.taken := Nat.lt_of_le_of_ne hlen.1 fun hk => hlen.2.1 hk.symm hp
    rw [hot, hw1, ← hb]
    exact exists_blank_of_length_word_lt hlt hle

theorem readString_eq_readWord_across_pair :
    let c := ofText [' ', 'a', '\r', '\n', 'b', ' ', 'c'] {}
    let s := Flags.only .skipBlanks
    s.has .quoted = false ∧ (c.skipIf (s.has .skipBlanks)).current? ≠ some '"' ∧
    ¬ BlankInPair c.isBlank (Text.units (c.skipIf (s.has .skipBlanks)).rest) :=
  ⟨by decide, by decide, (readString_eq_readWord_iff _ _ (by decide) (by decide)).2.2.1.1 ⟨by decide, by decide⟩⟩

/-- A blank that ends a line pair is read over. -/
theorem readString_over_blank :
    let c := ofText ['a', '\r', '\n', 'b'] ⟨['\n']⟩
    c.isBlank '\n' = true ∧ (c.readWord false).1 = ['a', '\r'] ∧ (c.readWord false).2.pos = 2 ∧
    (c.readString .empty).answer = .ok ['a', '\n', 'b'] ∧ (c.readString .empty).cursor.pos = 4 ∧
    (c.readString .empty).cursor ≠ (c.readWord false).2 := by
  decide

end Cursor
end TextCursor
