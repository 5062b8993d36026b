import TextCursor.CharClass
import TextCursor.Cursor.Window
/-!
# Integers

The digits of an integer are read in one pass.  Where hexadecimal digits are accepted, a letter among them makes the
whole number hexadecimal, and so does the base mark `0x`, which is accepted once and only at the front.
-/
namespace TextCursor

/-- Magnitudes stay below this bound, the number of values of sixty-four bits. -/
def magnitudeBound : Nat := 0x10000000000000000

/-- The greatest magnitude of a negative number; the greatest of a positive one is one less. -/
def negativeBound : Nat := 0x8000000000000000

/-- The number, unless it is beyond the magnitudes. -/
def magnitude? (n : Nat) : Option Nat := if n < magnitudeBound then some n else none

inductive Numeral where
  /-- Decimal, or hexadecimal where the options allow it. -/
  | number
  /-- Decimal digits whatever the options say. -/
  | decimal
  deriving DecidableEq

def Numeral.expected : Numeral → Cause
  | number => .numberExpected
  | decimal => .decimalExpected

structure DigitStyle where
  /-- Hexadecimal letters are digits. -/
  letters : Bool
  /-- The base mark is accepted. -/
  baseMark : Bool
  /-- The base of a number without letters and base mark. -/
  base : Nat
  deriving DecidableEq

/-- How the options have the digits of a kind of integer read. -/
def Numeral.style (k : Numeral) (s : Flags) : DigitStyle :=
  let letters := k == .number && s.normalized.has .hex
  let only := s.normalized.has .hexOnly
  ⟨letters, letters && !only, if letters && only then 16 else 10⟩

/-- The pass over the digits of an integer, at some character. -/
structure DigitRun where
  taken : Nat
  /-- The digits of the number so far, the last one first. -/
  digits : Text
  base : Nat
  /-- A base mark has been read. -/
  marked : Bool
  /-- The pass ended at a base mark out of place. -/
  misplaced : Bool
  deriving DecidableEq

namespace DigitRun

def start (y : DigitStyle) : DigitRun := ⟨0, [], y.base, false, false⟩

def push (r : DigitRun) (c : Char) (base : Nat) : DigitRun :=
  { r with taken := r.taken + 1, digits := c :: r.digits, base := base }

/-- Goes on over the text for as long as it belongs to the integer. -/
def scan (y : DigitStyle) (r : DigitRun) : Text → DigitRun
  | [] => r
  | c :: t =>
    if c.isDigit then scan y (r.push c r.base) t
    else if y.letters && isHexDigit c then scan y (r.push c 16) t
    else if y.baseMark && (c == 'x' || c == 'X') then
      if r.marked || r.digits != ['0'] then { r with taken := r.taken + 1, misplaced := true }
      else scan y ⟨r.taken + 1, [], 16, true, false⟩ t
    else r

/-- The number with one more digit behind it, if that is a digit of the base and the number stays among the magnitudes. -/
def append? (base v : Nat) (c : Char) : Option Nat := do
  let d ← (hexDigit? c).filter (· < base)
  let shifted ← magnitude? (v * base)
  magnitude? (shifted + d)

/-- The number that the digits denote in the base of the run, reckoned from the first one on. -/
def value? (r : DigitRun) : Option Nat := r.digits.reverse.foldlM (append? r.base) 0

/-- The number read, or what is wrong with it and where the token to blame ends.  A limit of zero is none. -/
def result (r : DigitRun) (k : Numeral) (max : Nat) : Except (Ends × Cause) Nat :=
  if r.misplaced then .error (.atCursor, k.expected)
  else if r.digits = [] then .error (if r.marked then .atCursor else .atBlank, k.expected)
  else
    match r.value? with
    | none => .error (.atCursor, k.expected)
    | some n => if 0 < max ∧ max < n then .error (.atCursor, .overflow max) else .ok n

end DigitRun
end TextCursor
