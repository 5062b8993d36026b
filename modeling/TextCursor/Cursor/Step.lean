import TextCursor.Cursor.Window
/-!
# Steps

Looking at the character under the cursor, stepping over it, looking ahead, and the tests for blanks and for the end of
the text.
-/
namespace TextCursor
namespace Cursor

def peek (c : Cursor) (skip : Bool) : Outcome Char :=
  let c := c.skipIf skip
  match c.current? with
  | some x => ⟨.ok x, c⟩
  | none => ⟨.error (.outOfRange c.pos), c⟩

/-- Steps over one character and looks at the one that follows. -/
def next (c : Cursor) (skip : Bool) : Outcome Char := (c.pass 1).peek skip

/-- What `next` would answer, with the cursor left where it is. -/
def lookAhead (c : Cursor) (skip : Bool) : Outcome Char :=
  let o := c.next skip
  ⟨o.answer, { o.cursor with pos := c.pos }⟩

def atEnd (c : Cursor) (skip : Bool) : Bool × Cursor := ((c.skipIf skip).isDone, c.skipIf skip)

/-- Fails unless the text is read to its end; the token to blame runs to the next blank. -/
def requireEnd (c : Cursor) (skip : Bool) : Outcome Unit :=
  match c.atEnd skip with
  | (true, c) => ⟨.ok (), c⟩
  | (false, c) => c.mark.fail .atBlank .endExpected

def atBlank (c : Cursor) : Outcome Bool :=
  match c.current? with
  | some x => ⟨.ok (c.isBlank x), c⟩
  | none => ⟨.error (.outOfRange c.pos), c⟩

/-- Skips blanks, of which there has to be one. -/
def requireBlank (c : Cursor) : Outcome Unit :=
  if c.current?.any c.isBlank then ⟨.ok (), c.skipBlanks⟩
  else c.mark.fail .atBlank (.notFound "whitespace".toList)

end Cursor
end TextCursor
