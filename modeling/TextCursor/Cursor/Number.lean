import TextCursor.Cursor.Fixed
import TextCursor.Number.Fraction
import TextCursor.Number.Integer
/-!
# Numbers at the cursor

Integers with and without a sign, and floating point numbers.  A number that is read leaves the window on exactly its
characters.  One that is not leaves it on the text to blame: up to the cursor when a character of the number was read
that spoils it, up to the next blank when there is no number at all.
-/
namespace TextCursor
namespace Cursor

/-- Reads the digits at the cursor; the window is already marked, maybe before a sign. -/
def readMagnitude (c : Cursor) (k : Numeral) (s : Flags) (max : Nat) : Outcome Nat :=
  let y := k.style s
  let run := (DigitRun.start y).scan y c.rest
  let c := c.pass run.taken
  match run.result k max with
  | .ok n => ⟨.ok n, c⟩
  | .error (e, cause) => c.fail e cause

def readUnsigned (c : Cursor) (k : Numeral) (s : Flags) (max : Nat) : Outcome Nat :=
  let skip := s.has .skipBlanks
  ((c.skipIf skip).mark.readMagnitude k s max).andThen fun n c => ⟨.ok n, c.finish skip⟩

/-- Reads an integer that may have a minus sign right before its digits.  The limit is one for the magnitude. -/
def readSigned (c : Cursor) (k : Numeral) (s : Flags) (max : Nat) : Outcome Int :=
  let skip := s.has .skipBlanks
  match (c.skipIf skip).mark.accept '-' false with
  | (true, c) =>
    (c.readMagnitude k s max).andThen fun n c =>
      if n ≤ negativeBound then ⟨.ok (-n), c.finish skip⟩ else c.fail .atCursor (.overflow negativeBound)
  | (false, c) =>
    (c.readMagnitude k s max).andThen fun n c =>
      if n < negativeBound then ⟨.ok n, c.finish skip⟩ else c.fail .atCursor (.overflow (negativeBound - 1))

/-- Steps over the point before a fraction, or over a comma where one is accepted. -/
def acceptPoint (c : Cursor) (comma : Bool) : Bool × Cursor :=
  match c.accept '.' false with
  | (true, c) => (true, c)
  | (false, c) => if comma then c.accept ',' false else (false, c)

/-- Reads a floating point number: a sign or none, digits, and a fraction or none. -/
def readFloat (c : Cursor) (s : Flags) : Outcome Float :=
  let skip := s.has .skipBlanks
  match (c.skipIf skip).mark.acceptOneOf ['+', '-'] false with
  | (sign, c) =>
    let negative := sign = some 2
    let whole := c.rest.takeWhile Char.isDigit
    let c := c.pass whole.length
    if whole = [] then c.fail .atBlank .floatExpected
    else
      match c.acceptPoint (s.has .comma) with
      | (false, c) => ⟨.ok (signedFloat negative (wholeFloat whole)), c.finish skip⟩
      | (true, c) =>
        let part := c.rest.takeWhile Char.isDigit
        let c := c.pass part.length
        if part = [] then c.fail .atCursor .floatExpected
        else ⟨.ok (signedFloat negative (wholeFloat whole + (Fraction.ofDigits part).toFloat)), c.finish skip⟩

end Cursor
end TextCursor
