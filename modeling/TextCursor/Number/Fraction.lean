import TextCursor.CharClass
/-!
# The value of a floating point number

The digits before the point are folded in floating point.  Those after it are gathered in a machine word, of which the
first nineteen count: the greatest number of nineteen digits still fits the word, so nothing ever wraps.
-/
namespace TextCursor

/-- How many digits of a fraction count. -/
def fractionDigits : Nat := 19

/-- The digits of a fraction so far, as a number, and how many they are. -/
structure Fraction where
  digits : UInt64
  count : Nat
  deriving DecidableEq

namespace Fraction

def empty : Fraction := ⟨0, 0⟩

/-- The fraction with one more digit, which counts only while there is room. -/
def push (f : Fraction) (d : Nat) : Fraction :=
  if fractionDigits ≤ f.count then f else ⟨f.digits * 10 + d.toUInt64, f.count + 1⟩

def ofDigits (t : Text) : Fraction := t.foldl (fun f c => f.push (digitValue c)) empty

def toFloat (f : Fraction) : Float := f.digits.toFloat / (Nat.pow 10 f.count).toFloat

end Fraction

/-- The number that decimal digits denote, each step rounded. -/
def wholeFloat (t : Text) : Float := t.foldl (fun v c => v * 10.0 + (digitValue c).toFloat) 0.0

/-- The number negated, if asked. -/
def signedFloat (negative : Bool) (x : Float) : Float := if negative then -x else x

end TextCursor
