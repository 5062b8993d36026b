import TextCursor.Text.Basic
/-!
# Faults

A fault says what went wrong (`Cause`), which piece of the text is to blame, and at which byte offset that piece starts.
`Fault.message` is its one wording.
-/
namespace TextCursor

/-- What went wrong. -/
inductive Cause where
  /-- A position past the end, or inside a character. -/
  | outOfRange
  /-- A character, one of a set of characters, or a blank was required; `what` describes it. -/
  | notFound (what : Text)
  | ambiguous
  | endExpected
  | numberExpected
  | decimalExpected
  | floatExpected
  | stringExpected
  | stringEndExpected
  | overflow (max : Nat)
  | argumentMissing
  /-- An argument is no position of a character of the text. -/
  | argumentOutOfRange
  deriving DecidableEq

def Cause.describe : Cause → Text
  | outOfRange => "position out of range".toList
  | notFound what => "expected ".toList ++ what
  | ambiguous => "ambiguous name".toList
  | endExpected => "end of input expected".toList
  | numberExpected => "number expected".toList
  | decimalExpected => "decimal number expected".toList
  | floatExpected => "floating point number expected".toList
  | stringExpected => "string expected".toList
  | stringEndExpected => "unterminated string".toList
  | overflow max => "number exceeds maximum ".toList ++ Nat.toDigits 10 max
  | argumentMissing => "argument must not be null".toList
  | argumentOutOfRange => "argument out of range".toList

def Cause.isNumeric : Cause → Bool
  | numberExpected | decimalExpected | floatExpected | overflow _ => true
  | _ => false

/-- A failure: its cause, the text to blame and the offset where that text starts. -/
structure Fault where
  cause : Cause
  token : Text
  pos : Nat
  deriving DecidableEq

namespace Fault

def outOfRange (pos : Nat) : Fault := ⟨.outOfRange, [], pos⟩

def notFound (what token : Text) (pos : Nat) : Fault := ⟨.notFound what, token, pos⟩

def ambiguous (token : Text) (pos : Nat) : Fault := ⟨.ambiguous, token, pos⟩

def endExpected (token : Text) (pos : Nat) : Fault := ⟨.endExpected, token, pos⟩

def overflow (max : Nat) (token : Text) (pos : Nat) : Fault := ⟨.overflow max, token, pos⟩

def argumentMissing (name : Text) : Fault := ⟨.argumentMissing, name, 0⟩

def argumentOutOfRange (pos : Nat) : Fault := ⟨.argumentOutOfRange, [], pos⟩

def isNumeric (f : Fault) : Bool := f.cause.isNumeric

/-- The fault in one line: its cause, its offset, and its token between grave accents. -/
def message (f : Fault) : Text :=
  f.cause.describe ++ " at offset ".toList ++ Nat.toDigits 10 f.pos ++ ": `".toList ++ f.token ++ "`".toList

end Fault
end TextCursor
