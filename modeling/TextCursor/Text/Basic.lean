/-!
# Text, and the byte offsets in it

A text is its list of characters; an offset counts the bytes of their UTF-8 form.  An offset is a boundary of a text when
a prefix of the text takes exactly that many bytes (`after?_eq_some`), so a boundary never falls inside a character.
`slice` cuts between two boundaries, and the lemmas say what each cut is once the text is written as a concatenation.
-/
namespace TextCursor

/-- The characters of a text, in order. -/
abbrev Text := List Char

namespace Text

/-- How many bytes the text takes in UTF-8. -/
def size : Text → Nat
  | [] => 0
  | c :: t => c.utf8Size + size t

def bytes (t : Text) : List UInt8 := t.flatMap String.utf8EncodeChar

/-- The text from byte offset `n` on; none when `n` lies past the end or inside a character. -/
def after? : Text → Nat → Option Text
  | t, 0 => some t
  | [], _ + 1 => none
  | c :: t, n + 1 => if c.utf8Size ≤ n + 1 then after? t (n + 1 - c.utf8Size) else none

/-- The text before byte offset `n`; none when `n` lies past the end or inside a character. -/
def before? : Text → Nat → Option Text
  | _, 0 => some []
  | [], _ + 1 => none
  | c :: t, n + 1 => if c.utf8Size ≤ n + 1 then (before? t (n + 1 - c.utf8Size)).map (c :: ·) else none

/-- A character starts at `n`, or the text ends there. -/
def isBoundary (t : Text) (n : Nat) : Bool := (after? t n).isSome

/-- The text between two byte offsets; none when they are not boundaries in this order. -/
def slice? (t : Text) (start stop : Nat) : Option Text :=
  if start ≤ stop then (after? t start).bind (before? · (stop - start)) else none

@[simp] theorem size_nil : size [] = 0 := rfl

@[simp] theorem size_cons (c : Char) (t : Text) : size (c :: t) = c.utf8Size + size t := rfl

@[simp] theorem size_append (s t : Text) : size (s ++ t) = size s + size t := by
  induction s with
  | nil => simp
  | cons c s ih => simp [ih, Nat.add_assoc]

theorem length_le_size (t : Text) : t.length ≤ size t := by
  induction t with
  | nil => simp
  | cons c t ih => have := c.utf8Size_pos; simp only [size_cons, List.length_cons]; omega

theorem size_eq_zero {t : Text} : size t = 0 ↔ t = [] := by
  refine ⟨fun h => ?_, fun h => by simp [h]⟩
  have := length_le_size t
  exact List.length_eq_zero_iff.1 (by omega)

@[simp] theorem after?_zero (t : Text) : after? t 0 = some t := by cases t <;> rfl

@[simp] theorem before?_zero (t : Text) : before? t 0 = some [] := by cases t <;> rfl

theorem after?_size_add (s t : Text) (n : Nat) : after? (s ++ t) (size s + n) = after? t n := by
  induction s with
  | nil => simp
  | cons c s ih =>
    obtain ⟨k, hk⟩ := Nat.exists_eq_succ_of_ne_zero (Nat.pos_iff_ne_zero.1 c.utf8Size_pos)
    have h : size (c :: s) + n = (k + (size s + n)) + 1 := by simp [hk]; omega
    rw [List.cons_append, h, after?]
    simp only [hk, Nat.succ_eq_add_one]
    rw [if_pos (by omega), show k + (size s + n) + 1 - (k + 1) = size s + n by omega, ih]

theorem after?_append (s t : Text) : after? (s ++ t) (size s) = some t := by
  simpa using after?_size_add s t 0

theorem before?_append (s t : Text) : before? (s ++ t) (size s) = some s := by
  induction s with
  | nil => simp
  | cons c s ih =>
    obtain ⟨k, hk⟩ := Nat.exists_eq_succ_of_ne_zero (Nat.pos_iff_ne_zero.1 c.utf8Size_pos)
    have h : size (c :: s) = (k + size s) + 1 := by simp [hk]; omega
    rw [List.cons_append, h, before?]
    simp only [hk, Nat.succ_eq_add_one]
    rw [if_pos (by omega), show k + size s + 1 - (k + 1) = size s by omega, ih]
    rfl

/-- **The boundaries are the sizes of the prefixes**, and the text after one is what follows the prefix. -/
theorem after?_eq_some {t r : Text} {n : Nat} : after? t n = some r ↔ ∃ p, t = p ++ r ∧ size p = n := by
  refine ⟨fun h => ?_, fun ⟨p, hp, hn⟩ => hp ▸ hn ▸ after?_append p r⟩
  fun_induction after? t n with
  | case1 => exact ⟨[], by simpa using h, rfl⟩
  | case2 => cases h
  | case3 c t n hle ih =>
    obtain ⟨p, hp, hn⟩ := ih h
    exact ⟨c :: p, by rw [hp]; rfl, by simp only [size_cons]; omega⟩
  | case4 => cases h

theorem isBoundary_iff {t : Text} {n : Nat} : t.isBoundary n = true ↔ ∃ p r, t = p ++ r ∧ size p = n := by
  unfold isBoundary
  rw [Option.isSome_iff_exists]
  exact ⟨fun ⟨r, h⟩ => (after?_eq_some.1 h).imp fun p hp => ⟨r, hp⟩, fun ⟨p, r, h⟩ => ⟨r, after?_eq_some.2 ⟨p, h⟩⟩⟩

theorem isBoundary_size_append (s t : Text) : (s ++ t).isBoundary (size s) = true :=
  isBoundary_iff.2 ⟨s, t, rfl, rfl⟩

theorem le_size_of_isBoundary {t : Text} {n : Nat} (h : t.isBoundary n = true) : n ≤ size t := by
  obtain ⟨p, r, rfl, rfl⟩ := isBoundary_iff.1 h
  simp

theorem slice?_append (s t r : Text) : slice? (s ++ t ++ r) (size s) (size s + size t) = some t := by
  unfold slice?
  rw [if_pos (Nat.le_add_right _ _), List.append_assoc, after?_append, Option.bind_some, Nat.add_sub_cancel_left,
    before?_append]

theorem isSome_before? (t : Text) (n : Nat) : (before? t n).isSome = (after? t n).isSome := by
  fun_induction after? t n with
  | case1 t => simp
  | case2 => rfl
  | case3 c t n hle ih => rw [before?, if_pos hle, Option.isSome_map, ih]
  | case4 c t n hle => rw [before?, if_neg hle]

/-- **Between two boundaries in order there is always a slice.** -/
theorem exists_slice? {t : Text} {a b : Nat} (ha : t.isBoundary a = true) (hb : t.isBoundary b = true) (hle : a ≤ b) :
    ∃ s, t.slice? a b = some s := by
  obtain ⟨p, r, rfl, rfl⟩ := isBoundary_iff.1 ha
  rw [← Option.isSome_iff_exists, slice?, if_pos hle, after?_append, Option.bind_some, isSome_before?,
    ← after?_size_add p, Nat.add_sub_cancel' hle]
  exact hb

theorem size_of_before? {t s : Text} {n : Nat} (h : t.before? n = some s) : size s = n := by
  fun_induction before? t n generalizing s with
  | case1 => cases h; rfl
  | case2 => cases h
  | case3 c t n hle ih =>
    obtain ⟨r, hr, rfl⟩ := Option.map_eq_some_iff.1 h
    rw [size_cons, ih hr]; omega
  | case4 => cases h

/-- **A slice is as long as its ends are apart.** -/
theorem add_size_of_slice? {t s : Text} {a b : Nat} (h : t.slice? a b = some s) : a + size s = b := by
  unfold slice? at h
  split at h
  · obtain ⟨r, -, hr⟩ := Option.bind_eq_some_iff.1 h
    rw [size_of_before? hr]; omega
  · cases h

theorem take_length_takeWhile (p : Char → Bool) (t : Text) : t.take (t.takeWhile p).length = t.takeWhile p :=
  (List.prefix_iff_eq_take.1 (List.takeWhile_prefix p)).symm

theorem drop_length_takeWhile (p : Char → Bool) (t : Text) : t.drop (t.takeWhile p).length = t.dropWhile p := by
  conv => lhs; arg 2; rw [← List.takeWhile_append_dropWhile (p := p) (l := t)]
  exact List.drop_left

/-- **A run is taken whole** where what follows it does not go on with it. -/
theorem takeWhile_run_append {p : Char → Bool} {w r : Text} (hw : ∀ x ∈ w, p x = true)
    (hr : ∀ x, r.head? = some x → p x = false) : (w ++ r).takeWhile p = w := by
  rw [List.takeWhile_append_of_pos hw]
  cases r with
  | nil => rw [List.takeWhile_nil, List.append_nil]
  | cons y r => rw [List.takeWhile_cons_of_neg (by rw [hr y rfl]; exact Bool.false_ne_true), List.append_nil]

theorem isBoundary_zero (t : Text) : t.isBoundary 0 = true := by simp [isBoundary]

theorem isBoundary_size (t : Text) : t.isBoundary (size t) = true := by
  simpa using isBoundary_size_append t []

end Text
end TextCursor
