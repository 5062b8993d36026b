import TextCursor.Text.Basic
import TextCursor.Flags.Basic
/-!
# Classes of characters

The classes that scanning rests on: hexadecimal digits, the characters of a name, control characters, and the two pairs of
line characters that count as one line end.  Each is a plain range or list and depends on no locale.
-/
namespace TextCursor

/-- The value of a hexadecimal digit, in either case. -/
def hexDigit? (c : Char) : Option Nat :=
  if c.isDigit then some (c.toNat - '0'.toNat)
  else if 'a' ≤ c ∧ c ≤ 'f' then some (c.toNat - 'a'.toNat + 10)
  else if 'A' ≤ c ∧ c ≤ 'F' then some (c.toNat - 'A'.toNat + 10)
  else none

def isHexDigit (c : Char) : Bool := (hexDigit? c).isSome

def digitValue (c : Char) : Nat := (hexDigit? c).getD 0

def umlauts : Text := ['ä', 'ö', 'ü', 'Ä', 'Ö', 'Ü', 'ß']

/-- The character may stand in a name: a letter without an accent always, a digit, an underscore or hyphen, and an umlaut
by option. -/
def isNameChar (s : Flags) (c : Char) : Bool :=
  c.isAlpha || (s.has .digits && c.isDigit) || (s.has .extraChar && (c == '_' || c == '-')) ||
    (s.has .umlaut && umlauts.contains c)

/-- The small letter for a capital one, umlauts included; any other character is itself. -/
def foldCase (c : Char) : Char :=
  if c = 'Ä' then 'ä' else if c = 'Ö' then 'ö' else if c = 'Ü' then 'ü' else c.toLower

def isControl (c : Char) : Bool := c.toNat < 0x20

def isLineEnd (c : Char) : Bool := c == '\r' || c == '\n'

/-- The two characters are one line end: each of carriage return and line feed completes the other. -/
def isLinePair (c d : Char) : Bool := (c == '\r' && d == '\n') || (c == '\n' && d == '\r')

/-- The character as it stands in a value read: a control character is a line feed. -/
def foldControl (c : Char) : Char := if isControl c then '\n' else c

theorem foldControl_eq (c : Char) : foldControl c = if c.toNat < 0x20 then '\n' else c := by simp [foldControl, isControl]

theorem isLineEnd_iff {c : Char} : isLineEnd c = true ↔ c = '\r' ∨ c = '\n' := by simp [isLineEnd]

theorem isLineEnd_eq_false_iff {c : Char} : isLineEnd c = false ↔ c ≠ '\r' ∧ c ≠ '\n' := by simp [isLineEnd]

theorem isLinePair_iff {c d : Char} : isLinePair c d = true ↔ (c = '\r' ∧ d = '\n') ∨ (c = '\n' ∧ d = '\r') := by
  simp [isLinePair]

theorem isLineEnd_of_isLinePair {c d : Char} (h : isLinePair c d = true) : isLineEnd c = true ∧ isLineEnd d = true := by
  simp only [isLinePair, Bool.or_eq_true, Bool.and_eq_true, beq_iff_eq] at h
  rcases h with ⟨rfl, rfl⟩ | ⟨rfl, rfl⟩ <;> decide

theorem isHexDigit_of_isDigit {c : Char} (h : c.isDigit = true) : isHexDigit c = true := by
  simp [isHexDigit, hexDigit?, h]

end TextCursor
