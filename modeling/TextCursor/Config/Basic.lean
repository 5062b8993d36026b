import TextCursor.Text.Basic
/-!
# Configuration

The one setting of a cursor is its set of blanks, the characters that it may skip and that separate words.
-/
namespace TextCursor

structure Config where
  /-- The blanks: space and tab unless set otherwise.  With no blank at all nothing is ever skipped. -/
  blanks : Text := [' ', '\t']
  deriving DecidableEq

def Config.isBlank (s : Config) (c : Char) : Bool := s.blanks.contains c

end TextCursor
