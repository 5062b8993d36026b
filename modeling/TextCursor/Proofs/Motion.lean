import Mathlib.Data.List.TakeWhile
import TextCursor.Cursor.Window
/-!
# How a cursor moves

Skipping blanks and reading are passes over characters of the rest.  What a pass leaves behind it is a slice of the text
(`slice?_between`), and a window that was marked before the pass and settled at the cursor after it shows exactly the
characters passed (`token_passed`).
-/
namespace TextCursor
namespace Cursor

@[simp] theorem text_mark (c : Cursor) : c.mark.text = c.text := rfl

@[simp] theorem pos_mark (c : Cursor) : c.mark.pos = c.pos := rfl

@[simp] theorem rest_mark (c : Cursor) : c.mark.rest = c.rest := rfl

@[simp] theorem rest_resolve (c : Cursor) (e : Ends) : (c.resolve e).rest = c.rest := rfl

@[simp] theorem isBlank_pass (c : Cursor) (n : Nat) : (c.pass n).isBlank = c.isBlank := rfl

@[simp] theorem isBlank_mark (c : Cursor) : c.mark.isBlank = c.isBlank := rfl

theorem rest_ofText (t : Text) (s : Config) : (ofText t s).rest = t := by
  unfold rest
  show (t.after? 0).getD [] = t
  rw [Text.after?_zero]; rfl

theorem onBoundary_mark {c : Cursor} (h : c.OnBoundary) : c.mark.OnBoundary := h

theorem pos_lt_pos_pass {c : Cursor} {n : Nat} (hn : 0 < n) (hr : c.rest ≠ []) : c.pos < (c.pass n).pos := by
  obtain ⟨x, t, hx⟩ := List.exists_cons_of_ne_nil hr
  obtain ⟨m, rfl⟩ := Nat.exists_eq_succ_of_ne_zero (Nat.pos_iff_ne_zero.1 hn)
  have hsize := x.utf8Size_pos
  rw [pos_pass, hx, List.take_succ_cons, Text.size_cons]
  omega

theorem rest_of_current? {c : Cursor} {x : Char} (h : c.current? = some x) : c.rest = x :: (c.pass 1).rest := by
  obtain ⟨t, ht⟩ := List.head?_eq_some_iff.1 h
  rw [rest_pass, ht]
  rfl

theorem rest_ne_nil_of_current? {c : Cursor} {x : Char} (h : c.current? = some x) : c.rest ≠ [] := by
  rw [rest_of_current? h]
  exact List.cons_ne_nil _ _

/-! ## Skipping blanks -/

/-- The blanks at the cursor that a skip moves over. -/
def gap (c : Cursor) (skip : Bool) : Text := if skip then c.rest.takeWhile c.isBlank else []

@[simp] theorem skipIf_false (c : Cursor) : c.skipIf false = c := rfl

theorem skipIf_eq_pass (c : Cursor) (skip : Bool) : c.skipIf skip = c.pass (c.gap skip).length := by
  cases skip
  · exact (pass_zero c).symm
  · rfl

@[simp] theorem text_skipIf (c : Cursor) (skip : Bool) : (c.skipIf skip).text = c.text := by rw [skipIf_eq_pass]; rfl

@[simp] theorem config_skipIf (c : Cursor) (skip : Bool) : (c.skipIf skip).config = c.config := by
  rw [skipIf_eq_pass]; rfl

@[simp] theorem window_skipIf (c : Cursor) (skip : Bool) : (c.skipIf skip).window = c.window := by
  rw [skipIf_eq_pass]; rfl

@[simp] theorem isBlank_skipIf (c : Cursor) (skip : Bool) : (c.skipIf skip).isBlank = c.isBlank := by
  rw [skipIf_eq_pass]; rfl

theorem onBoundary_skipIf {c : Cursor} (h : c.OnBoundary) (skip : Bool) : (c.skipIf skip).OnBoundary := by
  rw [skipIf_eq_pass]; exact onBoundary_pass h _

theorem isBlank_of_mem_gap {c : Cursor} {skip : Bool} {x : Char} (h : x ∈ c.gap skip) : c.isBlank x = true := by
  cases skip
  · cases h
  · exact List.mem_takeWhile_imp h

theorem gap_append_rest (c : Cursor) (skip : Bool) : c.gap skip ++ (c.skipIf skip).rest = c.rest := by
  rw [skipIf_eq_pass, rest_pass]
  cases skip
  · rfl
  · show c.rest.takeWhile c.isBlank ++ c.rest.drop (c.rest.takeWhile c.isBlank).length = c.rest
    rw [Text.drop_length_takeWhile, List.takeWhile_append_dropWhile]

theorem take_length_gap (c : Cursor) (skip : Bool) : c.rest.take (c.gap skip).length = c.gap skip := by
  conv => lhs; arg 2; rw [← gap_append_rest c skip]
  exact List.take_left

theorem pos_skipIf (c : Cursor) (skip : Bool) : (c.skipIf skip).pos = c.pos + Text.size (c.gap skip) := by
  rw [skipIf_eq_pass, pos_pass, take_length_gap]

theorem gap_eq_nil {c : Cursor} {skip : Bool} (h : skip = true → ∀ x, c.current? = some x → c.isBlank x = false) :
    c.gap skip = [] := by
  cases skip with
  | false => rfl
  | true =>
    rw [gap, if_pos rfl]
    cases hr : c.rest with
    | nil => rfl
    | cons x t =>
      have hx := h rfl x (by rw [current?, hr]; rfl)
      exact List.takeWhile_cons_of_neg (by rw [hx]; exact Bool.false_ne_true)

theorem skipIf_of_gap_eq_nil {c : Cursor} {skip : Bool} (h : c.gap skip = []) : c.skipIf skip = c := by
  rw [skipIf_eq_pass, h]; exact pass_zero c

/-- **After a skip no blank is at the cursor.** -/
theorem not_isBlank_of_current? {c : Cursor} {x : Char} (h : (c.skipIf true).current? = some x) : c.isBlank x = false := by
  have hr : (c.skipIf true).rest = c.rest.dropWhile c.isBlank := by
    rw [skipIf_eq_pass, rest_pass]; exact Text.drop_length_takeWhile _ _
  rw [current?, hr] at h
  have := List.head?_dropWhile_not c.isBlank c.rest
  rw [h] at this
  simpa using this

theorem gap_skipIf (c : Cursor) : (c.skipIf true).gap true = [] :=
  gap_eq_nil fun _ x hx => by rw [isBlank_skipIf]; exact not_isBlank_of_current? hx

/-! ## Slices of the text -/

/-- **What lies between two places of the rest is a slice of the text.** -/
theorem slice?_between {c : Cursor} (h : c.OnBoundary) {a t r : Text} (hr : c.rest = a ++ t ++ r) :
    c.text.slice? (c.pos + Text.size a) (c.pos + Text.size a + Text.size t) = some t := by
  obtain ⟨p, ht, hp⟩ := onBoundary_iff.1 h
  have hs : c.text = (p ++ a) ++ t ++ r := by rw [ht, hr]; simp
  rw [hs, ← hp, ← Text.size_append]
  exact Text.slice?_append _ _ _

/-- **The characters that a pass moves over are the slice of the text between the two positions.** -/
theorem slice?_pass {c : Cursor} (h : c.OnBoundary) (n : Nat) :
    c.text.slice? c.pos (c.pass n).pos = some (c.rest.take n) := by
  have hr : c.rest = [] ++ c.rest.take n ++ c.rest.drop n := by simp
  exact slice?_between h hr

theorem after?_pos {c : Cursor} (h : c.OnBoundary) : c.text.after? c.pos = some c.rest := by
  obtain ⟨r, hr⟩ := Option.isSome_iff_exists.1 h
  rw [rest, hr]; rfl

theorem onBoundary_of_after? {c : Cursor} {r : Text} (h : c.text.after? c.pos = some r) : c.OnBoundary := by
  rw [OnBoundary, Text.isBoundary, h]
  rfl

theorem onBoundary_of_rest_ne_nil {c : Cursor} (h : c.rest ≠ []) : c.OnBoundary := by
  cases hr : c.text.after? c.pos with
  | none => exact absurd (by rw [rest, hr]; rfl) h
  | some r => exact onBoundary_of_after? hr

theorem pos_add_size_rest {c : Cursor} (h : c.OnBoundary) : c.pos + Text.size c.rest = c.text.size := by
  obtain ⟨p, ht, hp⟩ := onBoundary_iff.1 h
  have hsize := congrArg Text.size ht
  rw [Text.size_append, hp] at hsize
  exact hsize.symm

theorem rest_of_after? {c : Cursor} {r : Text} (h : c.text.after? c.pos = some r) : c.rest = r := by
  rw [rest, h]
  rfl

theorem rest_eq_nil_of_size_le {c : Cursor} (h : c.text.size ≤ c.pos) : c.rest = [] := by
  cases hr : c.text.after? c.pos with
  | none => rw [rest, hr]; rfl
  | some r =>
    obtain ⟨p, ht, hp⟩ := Text.after?_eq_some.1 hr
    have hs : c.text.size = Text.size p + Text.size r := by rw [ht, Text.size_append]
    rw [rest, hr, Option.getD_some]
    exact Text.size_eq_zero.1 (by omega)

/-- **A window marked at the cursor and settled at the cursor after a pass spans exactly the characters passed.** -/
theorem window_passed (c : Cursor) (n : Nat) :
    ((c.mark.pass n).resolve .atCursor).window = ⟨c.pos, some (c.pass n).pos⟩ := by
  have hs : (c.mark.pass n).stopAt .atCursor = (c.pass n).pos := by
    show (if c.text.size ≤ c.pos then c.pos else max (c.pass n).pos c.pos) = (c.pass n).pos
    have hpos := pos_pass c n
    split
    · rename_i hle
      rw [hpos, rest_eq_nil_of_size_le hle]; simp
    · omega
  show Window.mk c.pos (some ((c.mark.pass n).stopAt .atCursor)) = _
  rw [hs]

theorem token_passed (c : Cursor) (n : Nat) : ((c.mark.pass n).resolve .atCursor).token = c.rest.take n := by
  have hsp : ((c.mark.pass n).resolve .atCursor).span = (c.pos, (c.pass n).pos) := by
    rw [span, window_passed]; rfl
  rw [token, hsp]
  show (c.text.slice? c.pos (c.pass n).pos).getD [] = c.rest.take n
  by_cases h : c.OnBoundary
  · rw [slice?_pass h]; rfl
  · have hr : c.text.after? c.pos = none := by simpa [OnBoundary, Text.isBoundary] using h
    have h0 : c.rest = [] := by rw [rest, hr]; rfl
    rw [Text.slice?, hr, h0]; simp

theorem token_skipIf (c : Cursor) (skip : Bool) : (c.skipIf skip).token = c.token := by
  rw [token, token, span, span, text_skipIf, window_skipIf]

theorem window_finish (c : Cursor) (n : Nat) (skip : Bool) :
    ((c.mark.pass n).finish skip).window = ⟨c.pos, some (c.pass n).pos⟩ := by
  rw [finish, window_skipIf, window_passed]

theorem token_finish (c : Cursor) (n : Nat) (skip : Bool) : ((c.mark.pass n).finish skip).token = c.rest.take n := by
  rw [finish, token_skipIf, token_passed]

@[simp] theorem text_finish (c : Cursor) (skip : Bool) : (c.finish skip).text = c.text := by rw [finish, text_skipIf]; rfl

theorem finish_eq_pass (c : Cursor) (skip : Bool) :
    c.finish skip = (c.resolve .atCursor).pass (c.gap skip).length := skipIf_eq_pass _ skip

end Cursor
end TextCursor
