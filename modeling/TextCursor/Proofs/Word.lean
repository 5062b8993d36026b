import TextCursor.Cursor.String
import TextCursor.Proofs.Motion
/-!
# Words

A word is the longest run of characters at the cursor that are no blanks (`readWord_eq`).
-/
namespace TextCursor
namespace Cursor

/-- The characters at the cursor up to the next blank. -/
def word (c : Cursor) : Text := c.rest.takeWhile fun x => !c.isBlank x

theorem take_length_word (c : Cursor) : c.rest.take c.word.length = c.word := Text.take_length_takeWhile _ _

/-- A blank is no word, and any other character starts the word that goes on behind it. -/
theorem word_of_current? {c : Cursor} {x : Char} (h : c.current? = some x) :
    c.word = if c.isBlank x = true then [] else x :: (c.pass 1).word := by
  rw [word, rest_of_current? h]
  by_cases hblank : c.isBlank x = true
  · rw [if_pos hblank, List.takeWhile_cons_of_neg (by simp [hblank])]
  · rw [if_neg hblank, List.takeWhile_cons_of_pos (by simp [hblank])]
    rfl

theorem not_isBlank_of_mem_word {c : Cursor} {x : Char} (h : x ∈ c.word) : c.isBlank x = false := by
  simpa using List.mem_takeWhile_imp h

/-- **A word ends at a blank or with the text.** -/
theorem exists_word_append (c : Cursor) : ∃ r, c.rest = c.word ++ r ∧ ∀ y, r.head? = some y → c.isBlank y = true := by
  refine ⟨c.rest.dropWhile fun x => !c.isBlank x, List.takeWhile_append_dropWhile.symm, fun y hy => ?_⟩
  have hn := List.head?_dropWhile_not (fun x => !c.isBlank x) c.rest
  rw [hy] at hn
  simpa using hn

/-- **A word is read as it stands in the text**, and the window is left on it. -/
theorem readWord_eq (c : Cursor) (skip : Bool) :
    c.readWord skip = ((c.skipIf skip).word, ((c.skipIf skip).mark.pass (c.skipIf skip).word.length).finish skip) := by
  generalize hd : c.skipIf skip = d
  have hread : c.readWord skip = ((d.mark.pass d.word.length).finish skip).lastToken none := by rw [← hd]; rfl
  have hsettle : ((d.mark.pass d.word.length).finish skip).settle none = (d.mark.pass d.word.length).finish skip := by
    rw [settle, window_finish]; rfl
  rw [hread, lastToken, hsettle, token_finish, take_length_word]

end Cursor
end TextCursor
