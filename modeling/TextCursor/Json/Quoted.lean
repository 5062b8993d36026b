import TextCursor.CharClass
/-!
# Strings in JSON

`quote` writes a text as a JSON string.  A JSON string is read in two steps: `pieces?` takes it apart into plain characters
and the code units that its `\u` escapes name, `join?` puts the units together, a surrogate pair as one character.  The
string is well formed after the first step, and it is a text only if no surrogate stands alone.
-/
namespace TextCursor
namespace Json

def hexChar (n : Nat) : Char := Nat.digitChar n

def escape (c : Char) : Text :=
  if c = '"' then ['\\', '"']
  else if c = '\\' then ['\\', '\\']
  else if c = '\x08' then ['\\', 'b']
  else if c = '\x0c' then ['\\', 'f']
  else if c = '\n' then ['\\', 'n']
  else if c = '\r' then ['\\', 'r']
  else if c = '\t' then ['\\', 't']
  else if isControl c then ['\\', 'u', '0', '0', hexChar (c.toNat / 16), hexChar (c.toNat % 16)]
  else [c]

def quote (t : Text) : Text := '"' :: t.flatMap escape ++ ['"']

/-- A piece of a JSON string: a character, or the code unit that an escape names. -/
inductive Piece where
  | char (c : Char)
  | unit (u : Nat)
  deriving DecidableEq

/-- The character that stands behind a backslash for another one, or for itself. -/
def unescape? (c : Char) : Option Char :=
  if c = '"' then some '"'
  else if c = '\\' then some '\\'
  else if c = '/' then some '/'
  else if c = 'b' then some '\x08'
  else if c = 'f' then some '\x0c'
  else if c = 'n' then some '\n'
  else if c = 'r' then some '\r'
  else if c = 't' then some '\t'
  else none

/-- Where the reading of a JSON string stands. -/
inductive Place where
  | between
  | escaped
  /-- Among the digits of a code unit: how many are to follow the next one, and the number so far. -/
  | unit (left : Nat) (value : Nat)

/-- A piece in front of the pieces of what follows. -/
def push (p : Piece) (r : Option (List Piece × Text)) : Option (List Piece × Text) := r.map fun r => (p :: r.1, r.2)

/-- Reads a JSON string behind its opening quote, and answers its pieces and the text behind its closing quote. -/
def pieces? : Place → Text → Option (List Piece × Text)
  | _, [] => none
  | .between, c :: t =>
    if c = '"' then some ([], t)
    else if c = '\\' then pieces? .escaped t
    else if isControl c then none
    else push (.char c) (pieces? .between t)
  | .escaped, c :: t =>
    if c = 'u' then pieces? (.unit 3 0) t
    else match unescape? c with
      | some d => push (.char d) (pieces? .between t)
      | none => none
  | .unit left value, c :: t =>
    match hexDigit? c, left with
    | some d, 0 => push (.unit (16 * value + d)) (pieces? .between t)
    | some d, left + 1 => pieces? (.unit left (16 * value + d)) t
    | none, _ => none

def isHighSurrogate (u : Nat) : Bool := 0xD800 ≤ u && u ≤ 0xDBFF

def isLowSurrogate (u : Nat) : Bool := 0xDC00 ≤ u && u ≤ 0xDFFF

/-- The text of the pieces; none if a surrogate stands alone. -/
def join? : List Piece → Option Text
  | [] => some []
  | .char c :: ps => (join? ps).map (c :: ·)
  | [.unit u] => if isHighSurrogate u || isLowSurrogate u then none else some [Char.ofNat u]
  | .unit u :: p :: ps =>
    if isHighSurrogate u then
      match p with
      | .unit v =>
        if isLowSurrogate v then (join? ps).map (Char.ofNat (0x10000 + (u - 0xD800) * 0x400 + (v - 0xDC00)) :: ·)
        else none
      | .char _ => none
    else if isLowSurrogate u then none
    else (join? (p :: ps)).map (Char.ofNat u :: ·)

end Json
end TextCursor
