import TextCursor.Cursor.String
import TextCursor.Proofs.Motion
/-!
# Lines

The search for a line end among bytes finds it where a search among characters does (`Reading.line_eq`), for a line end is
a single byte and no byte of another character is one.
-/
namespace TextCursor

/-! ## Line ends among the bytes -/

theorem isLineEndByte_eq_false {n : Nat} (h : n < 256 ∧ n ≠ 13 ∧ n ≠ 10) :
    Reading.isLineEndByte (UInt8.ofNat n) = false := by
  have hn : (UInt8.ofNat n).toNat = n := by rw [UInt8.toNat_ofNat']; omega
  have hb : ∀ k : UInt8, UInt8.ofNat n = k → n = k.toNat := fun k hk => by rw [← hk, hn]
  rw [Reading.isLineEndByte, Bool.or_eq_false_iff, beq_eq_false_iff_ne, beq_eq_false_iff_ne]
  exact ⟨fun h13 => h.2.1 (hb _ h13), fun h10 => h.2.2 (hb _ h10)⟩

/-- **No byte of another character ends a line.** -/
theorem isLineEndByte_of_mem {c : Char} (h : isLineEnd c = false) {b : UInt8} (hb : b ∈ String.utf8EncodeChar c) :
    Reading.isLineEndByte b = false := by
  have hc : c.val.toNat ≠ 13 ∧ c.val.toNat ≠ 10 := by
    rw [isLineEnd, Bool.or_eq_false_iff, beq_eq_false_iff_ne, beq_eq_false_iff_ne] at h
    refine ⟨fun h13 => h.1 ?_, fun h10 => h.2 ?_⟩
    · exact Char.ext (UInt32.toNat_inj.1 h13)
    · exact Char.ext (UInt32.toNat_inj.1 h10)
  unfold String.utf8EncodeChar at hb
  simp only at hb
  split at hb
  · rw [List.mem_singleton] at hb
    subst hb
    exact isLineEndByte_eq_false ⟨by omega, hc⟩
  · split at hb
    · simp only [List.mem_cons, List.not_mem_nil, or_false] at hb
      rcases hb with rfl | rfl <;> exact isLineEndByte_eq_false (by omega)
    · split at hb
      · simp only [List.mem_cons, List.not_mem_nil, or_false] at hb
        rcases hb with rfl | rfl | rfl <;> exact isLineEndByte_eq_false (by omega)
      · simp only [List.mem_cons, List.not_mem_nil, or_false] at hb
        rcases hb with rfl | rfl | rfl | rfl <;> exact isLineEndByte_eq_false (by omega)

theorem bytes_of_isLineEnd {c : Char} (h : isLineEnd c = true) :
    ∃ b, String.utf8EncodeChar c = [b] ∧ Reading.isLineEndByte b = true := by
  simp only [isLineEnd, Bool.or_eq_true, beq_iff_eq] at h
  rcases h with rfl | rfl
  · exact ⟨0x0D, by decide, by decide⟩
  · exact ⟨0x0A, by decide, by decide⟩

def Text.line (t : Text) : Text := t.takeWhile fun x => !isLineEnd x

theorem Text.take_length_line (t : Text) : t.take t.line.length = t.line := take_length_takeWhile _ t

theorem Text.not_isLineEnd_of_mem_line {t : Text} {x : Char} (h : x ∈ t.line) : isLineEnd x = false := by
  simpa using List.mem_takeWhile_imp h

/-- **The bytes before the first one that ends a line are those of the characters before the first line end.** -/
theorem length_takeWhile_bytes (t : Text) :
    (t.bytes.takeWhile fun b => !Reading.isLineEndByte b).length = Text.size t.line := by
  induction t with
  | nil => rfl
  | cons c t ih =>
    have hb : Text.bytes (c :: t) = String.utf8EncodeChar c ++ Text.bytes t := rfl
    cases hc : isLineEnd c with
    | true =>
      obtain ⟨b, hcb, hbe⟩ := bytes_of_isLineEnd hc
      have hl : Text.line (c :: t) = [] := by rw [Text.line, List.takeWhile_cons_of_neg (by simp [hc])]
      rw [hb, hcb, hl, List.singleton_append, List.takeWhile_cons_of_neg (by simp [hbe])]; rfl
    | false =>
      have hl : Text.line (c :: t) = c :: Text.line t := by
        rw [Text.line, List.takeWhile_cons_of_pos (by simp [hc])]; rfl
      rw [hb, hl, List.takeWhile_append_of_pos fun b hb => by simp [isLineEndByte_of_mem hc hb], List.length_append, ih,
        String.length_utf8EncodeChar, Text.size_cons]

/-! ## The characters of a line -/

theorem isLinePair_eq_false {c : Char} (h : isLineEnd c = false) (d : Char) : isLinePair c d = false := by
  cases hp : isLinePair c d with
  | false => rfl
  | true => rw [(isLineEnd_of_isLinePair hp).1] at h; cases h

/-- **Characters that end no line are read one by one.** -/
theorem Reading.within_append : ∀ (s r : Text), (∀ x ∈ s, isLineEnd x = false) →
    Reading.within (Text.size s) (s ++ r) = ⟨s.map foldControl, s.length⟩
  | [], r, _ => by rw [Text.size_nil, Reading.within]; rfl
  | c :: s, r, h => by
    have hc := h c List.mem_cons_self
    obtain ⟨n, hn⟩ := Nat.exists_eq_succ_of_ne_zero (Nat.pos_iff_ne_zero.1 c.utf8Size_pos)
    have hsize : Text.size (c :: s) = (n + Text.size s) + 1 := by rw [Text.size_cons, hn]; omega
    have hsub : n + Text.size s + 1 - c.utf8Size = Text.size s := by omega
    have ih := Reading.within_append s r fun x hx => h x (List.mem_cons_of_mem c hx)
    rw [hsize, List.cons_append]
    cases hs : s ++ r with
    | nil =>
      obtain ⟨rfl, rfl⟩ := List.append_eq_nil_iff.1 hs
      rfl
    | cons d t =>
      rw [Reading.within, if_neg (by rw [isLinePair_eq_false hc d]; exact Bool.false_ne_true), hsub, ← hs, ih]
      rfl

theorem Text.line_append_drop (t : Text) : t.line ++ t.drop t.line.length = t :=
  List.prefix_iff_eq_append.1 (List.takeWhile_prefix _)

/-- **A line is read up to the first line end, every control character as a line feed.** -/
theorem Reading.line_eq (t : Text) : Reading.line t = ⟨t.line.map foldControl, t.line.length⟩ := by
  have hw := Reading.within_append t.line (t.drop t.line.length) fun x => Text.not_isLineEnd_of_mem_line
  rw [Text.line_append_drop] at hw
  rw [Reading.line, length_takeWhile_bytes, hw]

/-! ## The line end behind a line -/

/-- The line end that a text starts with, a pair as a whole; empty if there is none. -/
def Text.lineEnd : Text → Text
  | [] => []
  | x :: t => if isLineEnd x then (if t.head?.any (isLinePair x) then x :: t.take 1 else [x]) else []

theorem Text.lineEnd_prefix (t : Text) : t.lineEnd <+: t := by
  cases t with
  | nil => exact List.nil_prefix
  | cons x t =>
    rw [Text.lineEnd]
    split
    · split
      · exact (List.prefix_cons_inj x).2 (List.take_prefix 1 t)
      · exact (List.prefix_cons_inj x).2 List.nil_prefix
    · exact List.nil_prefix

namespace Cursor

theorem passLineEnd_eq (c : Cursor) : c.passLineEnd = c.pass c.rest.lineEnd.length := by
  unfold passLineEnd
  split
  · rename_i hr
    rw [hr]; exact (pass_zero c).symm
  · rename_i x t hr
    rw [hr, Text.lineEnd]
    split
    · congr 1
      split
      · rename_i hp
        cases t with
        | nil => cases hp
        | cons y t => rfl
      · rfl
    · exact (pass_zero c).symm

/-- The cursor after a line of the rest and its line end, with the window on the line. -/
def afterLine (c : Cursor) : Cursor :=
  ((c.mark.pass c.rest.line.length).resolve .atCursor).pass (Text.lineEnd (c.rest.drop c.rest.line.length)).length

/-- **A line is read, unless blanks were skipped up to the end of the text.** -/
theorem readLine_eq (c : Cursor) (skip : Bool) :
    c.readLine skip =
      if c.pos < (c.skipIf skip).pos ∧ (c.skipIf skip).rest = [] then
        (c.skipIf skip).mark.fail .withText (.notFound "line".toList)
      else ⟨.ok ((c.skipIf skip).rest.line.map foldControl), (c.skipIf skip).afterLine⟩ := by
  have hnone : (c.skipIf skip).mark.current? = none ↔ (c.skipIf skip).rest = [] := List.head?_eq_none_iff
  simp only [readLine, hnone, pos_mark, rest_mark, Reading.line_eq, passLineEnd_eq, rest_resolve, rest_pass]
  rfl

theorem window_afterLine (c : Cursor) :
    c.afterLine.window = ⟨c.pos, some (c.pos + Text.size c.rest.line)⟩ := by
  rw [afterLine, window_pass, window_passed, pos_pass, Text.take_length_line]

end Cursor
end TextCursor
