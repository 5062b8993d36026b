import TextCursor.Cursor.Step
import TextCursor.Cursor.Fixed
import TextCursor.Cursor.Name
import TextCursor.Cursor.Number
import TextCursor.Cursor.String
/-!
# Commands

Everything that can be asked of a cursor, as data: a run of commands is a list, and what it answers is the list of their
outcomes.  A command that fails does not end the run.
-/
namespace TextCursor

/-- An operation on a cursor, with its arguments. -/
inductive Command where
  | load (t : Text)
  | text
  | blanks
  | size
  | isEmpty
  | position
  | remaining
  | setBlanks (s : Option Text)
  | moveTo (p : Nat)
  | moveBy (d : Int)
  | mark
  | markAt (p : Nat) (s : Flags)
  | resolve (s : Flags)
  | lastToken (s : Flags)
  | tokenRange
  | skipBlanks
  | requireBlank
  | atBlank
  | peek (skip : Bool)
  | next (skip : Bool)
  | lookAhead (skip : Bool)
  | atEnd (skip : Bool)
  | requireEnd (skip : Bool)
  | accept (x : Char) (skip : Bool)
  | expect (x : Char) (skip : Bool)
  | acceptOneOf (set : Text) (skip : Bool)
  | expectOneOf (set : Text) (skip : Bool)
  | matchKeyword (list : Text) (s : Flags)
  | readUnsigned (k : Numeral) (s : Flags) (max : Nat)
  | readSigned (k : Numeral) (s : Flags) (max : Nat)
  | readFloat (s : Flags)
  | readString (s : Flags)
  | readWord (skip : Bool)
  | readLine (skip : Bool)
  deriving DecidableEq

/-- What a command answers when it succeeds. -/
inductive Reply where
  | done
  | truth (b : Bool)
  | char (x : Char)
  | count (n : Nat)
  | place (i : Option Nat)
  | range (start stop : Nat)
  | text (t : Text)
  | rest (t : Option Text)
  | keyword (m : KeywordMatch)
  | integer (z : Int)
  | float (x : Float)

namespace Cursor

def perform (c : Cursor) : Command → Outcome Reply
  | .load t => ⟨.ok .done, c.load t⟩
  | .text => ⟨.ok (.text c.text), c⟩
  | .blanks => ⟨.ok (.text c.config.blanks), c⟩
  | .size => ⟨.ok (.count c.text.size), c⟩
  | .isEmpty => ⟨.ok (.truth c.text.isEmpty), c⟩
  | .position => ⟨.ok (.count c.pos), c⟩
  | .remaining => ⟨.ok (.rest c.remaining?), c⟩
  | .setBlanks s => (c.setBlanks s).map fun _ => .done
  | .moveTo p => (c.moveTo p).map fun _ => .done
  | .moveBy d => (c.moveBy d).map fun _ => .done
  | .mark => ⟨.ok .done, c.mark⟩
  | .markAt p s => (c.markAt p s.toEnds?).map fun _ => .done
  | .resolve s => ⟨.ok .done, c.resolve s.toEnds⟩
  | .lastToken s => ⟨.ok (.text (c.lastToken s.toEnds?).1), (c.lastToken s.toEnds?).2⟩
  | .tokenRange => ⟨.ok (.range c.tokenRange.1.1 c.tokenRange.1.2), c.tokenRange.2⟩
  | .skipBlanks => ⟨.ok .done, c.skipBlanks⟩
  | .requireBlank => c.requireBlank.map fun _ => .done
  | .atBlank => c.atBlank.map .truth
  | .peek skip => (c.peek skip).map .char
  | .next skip => (c.next skip).map .char
  | .lookAhead skip => (c.lookAhead skip).map .char
  | .atEnd skip => ⟨.ok (.truth (c.atEnd skip).1), (c.atEnd skip).2⟩
  | .requireEnd skip => (c.requireEnd skip).map fun _ => .done
  | .accept x skip => ⟨.ok (.truth (c.accept x skip).1), (c.accept x skip).2⟩
  | .expect x skip => (c.expect x skip).map fun _ => .done
  | .acceptOneOf set skip => ⟨.ok (.place (c.acceptOneOf set skip).1), (c.acceptOneOf set skip).2⟩
  | .expectOneOf set skip => (c.expectOneOf set skip).map .count
  | .matchKeyword list s => (c.matchKeyword list s).map .keyword
  | .readUnsigned k s max => (c.readUnsigned k s max).map fun (n : Nat) => .integer n
  | .readSigned k s max => (c.readSigned k s max).map .integer
  | .readFloat s => (c.readFloat s).map .float
  | .readString s => (c.readString s).map .text
  | .readWord skip => ⟨.ok (.text (c.readWord skip).1), (c.readWord skip).2⟩
  | .readLine skip => (c.readLine skip).map .text

/-- Carries commands out one after another, and answers the outcome of each. -/
def run (c : Cursor) : List Command → List (Outcome Reply)
  | [] => []
  | m :: ms =>
    let o := c.perform m
    o :: o.cursor.run ms

/-- The cursor that a run of commands leaves. -/
def after (c : Cursor) (ms : List Command) : Cursor := ms.foldl (fun c m => (c.perform m).cursor) c

end Cursor
end TextCursor
