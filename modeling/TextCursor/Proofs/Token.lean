import TextCursor.Proofs.Word
/-!
# The token that a reader leaves

A reader that succeeds leaves the cursor behind its token and the window on it (`afterToken`).  One that fails blames the
characters that it has passed (`blame`) or, where they are not the beginning of a token, the word they stand in
(`blameWord`).
-/
namespace TextCursor

variable {α : Type}

namespace Cursor

/-- The cursor behind a text that stands at it, with the window on that text. -/
def afterToken (c : Cursor) (w : Text) : Cursor :=
  { c with pos := c.pos + Text.size w, window := ⟨c.pos, some (c.pos + Text.size w)⟩ }

/-- The fault of a reader that has passed a text at the cursor and blames it. -/
def blame (c : Cursor) (w : Text) (cause : Cause) : Outcome α := ⟨.error ⟨cause, w, c.pos⟩, c.afterToken w⟩

/-- The fault of a reader that has passed `n` characters and blames the word at the cursor, as far as it goes. -/
def blameWord (c : Cursor) (n : Nat) (cause : Cause) : Outcome α :=
  ⟨.error ⟨cause, c.word, c.pos⟩, { c.afterToken c.word with pos := (c.pass n).pos }⟩

theorem resolve_passed (c : Cursor) (n : Nat) :
    (c.mark.pass n).resolve .atCursor = c.afterToken (c.rest.take n) := by
  have hwindow := c.window_passed n
  rw [pos_pass] at hwindow
  show { c.mark.pass n with window := ((c.mark.pass n).resolve .atCursor).window } = _
  rw [hwindow]
  rfl

theorem finish_passed (c : Cursor) (n : Nat) (skip : Bool) :
    (c.mark.pass n).finish skip = (c.afterToken (c.rest.take n)).skipIf skip := by
  rw [finish, resolve_passed]

theorem fail_passed (c : Cursor) (n : Nat) (cause : Cause) :
    ((c.mark.pass n).fail .atCursor cause : Outcome α) = c.blame (c.rest.take n) cause := by
  rw [fail, token_passed, resolve_passed]
  rfl

theorem window_resolve_atBlank (c : Cursor) :
    (c.mark.resolve .atBlank).window = ⟨c.pos, some (c.pos + Text.size c.word)⟩ := by
  have hs : c.mark.stopAt .atBlank = c.pos + Text.size c.word := by
    show (if c.text.size ≤ c.pos then c.pos else c.pos + Text.size c.word) = _
    split
    · rename_i hle
      rw [word, rest_eq_nil_of_size_le hle]; rfl
    · rfl
  show Window.mk c.pos (some (c.mark.stopAt .atBlank)) = _
  rw [hs]

theorem token_resolve_atBlank (c : Cursor) : (c.mark.resolve .atBlank).token = c.word := by
  have hspan : (c.mark.resolve .atBlank).span = ((c.mark.pass c.word.length).resolve .atCursor).span := by
    rw [span, span, window_resolve_atBlank, window_passed, pos_pass, take_length_word]
  have htoken := c.token_passed c.word.length
  rw [take_length_word] at htoken
  rw [← htoken, token, token, hspan]
  rfl

/-- Where a word ends does not depend on how far the cursor has gone on. -/
theorem fail_word (c : Cursor) (n : Nat) (cause : Cause) :
    ((c.mark.pass n).fail .atBlank cause : Outcome α) = c.blameWord n cause := by
  have hcursor : (c.mark.pass n).resolve .atBlank =
      { c.pass n with window := (c.mark.resolve .atBlank).window } := rfl
  have htoken : ((c.mark.pass n).resolve .atBlank).token = (c.mark.resolve .atBlank).token := rfl
  rw [fail, htoken, token_resolve_atBlank, hcursor, window_resolve_atBlank]
  rfl

/-- A token that runs to the end of the text is all that is left of it. -/
theorem fail_rest {c : Cursor} (h : c.OnBoundary) (cause : Cause) :
    ((c.mark.pass c.rest.length).fail .withText cause : Outcome α) = c.blame c.rest cause := by
  have hstop : (c.mark.pass c.rest.length).stopAt .withText = (c.mark.pass c.rest.length).stopAt .atCursor := by
    have hpos : (c.pass c.rest.length).pos = c.text.size := by rw [pos_pass, List.take_length, pos_add_size_rest h]
    show (if c.text.size ≤ c.pos then c.pos else c.text.size) =
      if c.text.size ≤ c.pos then c.pos else max (c.pass c.rest.length).pos c.pos
    rw [hpos, Nat.max_eq_left (by have := pos_add_size_rest h; omega)]
  have hresolve : (c.mark.pass c.rest.length).resolve .withText = (c.mark.pass c.rest.length).resolve .atCursor := by
    rw [resolve, resolve, hstop]
  have hfail := c.fail_passed (α := α) c.rest.length cause
  rw [List.take_length] at hfail
  rw [← hfail, fail, fail, hresolve]

theorem token_afterToken (c : Cursor) (n : Nat) (skip : Bool) :
    ((c.afterToken (c.rest.take n)).skipIf skip).token = c.rest.take n := by
  rw [← finish_passed, token_finish]

end Cursor
end TextCursor
