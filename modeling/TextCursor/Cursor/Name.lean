import TextCursor.Cursor.Window
import TextCursor.Keyword
/-!
# Names at the cursor

A name is the longest run of name characters at the cursor.  A name that stands for no keyword is given back: the cursor
returns to where the name starts.
-/
namespace TextCursor
namespace Cursor

/-- Matches the name at the cursor with a list of keywords. -/
def matchKeyword (c : Cursor) (list : Text) (s : Flags) : Outcome KeywordMatch :=
  let skip := s.has .skipBlanks
  let c := c.skipIf skip
  if c.current? = none then ⟨.ok .noInput, c⟩
  else if list = [] then ⟨.ok .unknown, c⟩
  else
    let start := c.mark
    let name := start.rest.takeWhile (isNameChar s)
    let c := start.pass name.length
    if name = [] then ⟨.ok .unknown, c⟩
    else
      match Keyword.search (s.has .fullName) (name.map foldCase) list with
      | .nothing => ⟨.ok .unknown, start⟩
      | .one i => ⟨.ok (.found i), c.finish skip⟩
      | .several => c.fail .atCursor .ambiguous

end Cursor
end TextCursor
