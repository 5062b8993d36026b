import TextCursor.Cursor.Window
import TextCursor.Reading
/-!
# Strings, words and lines at the cursor

A string in quotes runs to its closing quote, any other string and any word to the next blank, a line to its line end.
-/
namespace TextCursor
namespace Cursor

/-- Reads a string, in quotes if the character at the cursor is one.  The options may require the quotes. -/
def readString (c : Cursor) (s : Flags) : Outcome Text :=
  let skip := s.has .skipBlanks
  let c := (c.skipIf skip).mark
  if c.current? = some '"' then
    let c := c.pass 1
    match Reading.quoted? c.rest with
    | some r => ⟨.ok r.value, (c.pass r.taken).finish skip⟩
    | none => (c.pass c.rest.length).fail .withText .stringEndExpected
  else if s.has .quoted then c.fail .atBlank .stringExpected
  else
    let r := Reading.bare c.isBlank c.rest
    ⟨.ok r.value, (c.pass r.taken).finish skip⟩

def readWord (c : Cursor) (skip : Bool) : Text × Cursor :=
  let c := (c.skipIf skip).mark
  ((c.pass (c.rest.takeWhile fun x => !c.isBlank x).length).finish skip).lastToken none

/-- Steps over the line end at the cursor, a pair as a whole. -/
def passLineEnd (c : Cursor) : Cursor :=
  match c.rest with
  | [] => c
  | x :: t => if isLineEnd x then c.pass (if t.head?.any (isLinePair x) then 2 else 1) else c

/-- Reads the rest of the line and steps over its end.  There is no line when skipping blanks leads to the end of the
text. -/
def readLine (c : Cursor) (skip : Bool) : Outcome Text :=
  let before := c.pos
  let c := (c.skipIf skip).mark
  if before < c.pos ∧ c.current? = none then c.fail .withText (.notFound "line".toList)
  else
    let r := Reading.line c.rest
    ⟨.ok r.value, ((c.pass r.taken).resolve .atCursor).passLineEnd⟩

end Cursor
end TextCursor
