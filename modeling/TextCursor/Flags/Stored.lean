import TextCursor.Flags.Basic
import TextCursor.Json.Basic
import TextCursor.Text.WhiteSpace
/-!
# Stored flags

A word of flags is written as the names of its options with bars between them, and the bits that have no name as one
hexadecimal number behind them.  Reading takes the parts in any order, as often as they come, with any space around them.
-/
namespace TextCursor

def Flag.name : Flag → Text
  | skipBlanks => "SKIP_SPACE".toList
  | signed => "SIGNED".toList
  | hex => "HEX".toList
  | hexOnly => "HEX_ONLY".toList
  | comma => "COMMA".toList
  | digits => "DIGITS".toList
  | fullName => "FULL_NAME".toList
  | extraChar => "EXTRA_CHAR".toList
  | umlaut => "UMLAUTE".toList
  | quoted => "QUOTED".toList
  | toBlank => "TO_SPACE".toList
  | toCursor => "TO_LOCATION".toList
  | toEnd => "TO_END".toList

def Flag.ofName? (t : Text) : Option Flag := Flag.all.find? fun f => f.name == t

namespace Flags

/-- The bits without a name, as the last part of the text; no part when there are none. -/
def unnamed (s : Flags) : List Text :=
  let rest := s.diff all
  if rest = empty then [] else [['0', 'x'] ++ Nat.toDigits 16 rest.bits.toNat]

def toText (s : Flags) : Text := [' ', '|', ' '].intercalate ((Flag.all.filter s.has).map Flag.name ++ s.unnamed)

def toJson (s : Flags) : Text := Json.quote s.toText

/-- The number of hexadecimal digits, if they are digits and fit the word; a plus sign may stand in front. -/
def ofHex? (t : Text) : Option Flags :=
  let ds := (['+'].isPrefixOf? t).getD t
  let n := ds.foldl (fun v c => v * 16 + digitValue c) 0
  if ds ≠ [] ∧ ds.all isHexDigit ∧ n < 0x100000000 then some ⟨BitVec.ofNat 32 n⟩ else none

/-- The flags of one part: a number behind `0x`, or the name of an option. -/
def ofPart? (t : Text) : Option Flags :=
  match ['0', 'x'].isPrefixOf? t with
  | some ds => ofHex? ds
  | none => (Flag.ofName? t).map only

def ofParts? : List Text → Option Flags
  | [] => some empty
  | p :: ps => (ofPart? p.trim).bind fun s => (ofParts? ps).map s.union

/-- The word of flags that a text writes; a text of white space writes none. -/
def ofText? (t : Text) : Option Flags := if t.trim = [] then some empty else ofParts? (t.splitOn '|')

def ofJson? (t : Text) : Option Flags := (Json.text? t).bind ofText?

end Flags
end TextCursor
