import TextCursor.Json.Quoted
/-!
# JSON documents

The values of a JSON document and their reading.  Strings stay in pieces, so that a document is well formed or not
whatever its strings name, and numbers keep their spelling.
-/
namespace TextCursor

inductive Json where
  | null
  | bool (b : Bool)
  | number (spelling : Text)
  | string (pieces : List Json.Piece)
  | array (items : List Json)
  | object (members : List (List Json.Piece × Json))

namespace Json

def passSpace (t : Text) : Text := t.dropWhile fun c => c == ' ' || c == '\n' || c == '\t' || c == '\r'

/-- The text behind the digits at its front, of which there has to be one. -/
def passDigits? : Text → Option Text
  | [] => none
  | c :: t => if c.isDigit then some (t.dropWhile Char.isDigit) else none

/-- The text behind the whole part of a number: a zero alone, or digits that start with another one. -/
def passWhole? : Text → Option Text
  | [] => none
  | c :: t => if c = '0' then some t else passDigits? (c :: t)

/-- The text behind the fraction of a number, if there is one. -/
def passFraction? : Text → Option Text
  | [] => some []
  | c :: t => if c = '.' then passDigits? t else some (c :: t)

/-- The text behind the exponent of a number, if there is one. -/
def passExponent? : Text → Option Text
  | [] => some []
  | c :: t => if c = 'e' ∨ c = 'E' then passDigits? (((['+'].isPrefixOf? t).or (['-'].isPrefixOf? t)).getD t)
    else some (c :: t)

def passNumber? (t : Text) : Option Text :=
  ((passWhole? ((['-'].isPrefixOf? t).getD t)).bind passFraction?).bind passExponent?

def scalar? (t : Text) : Option (Json × Text) :=
  match "null".toList.isPrefixOf? t, "true".toList.isPrefixOf? t, "false".toList.isPrefixOf? t with
  | some r, _, _ => some (null, r)
  | _, some r, _ => some (bool true, r)
  | _, _, some r => some (bool false, r)
  | _, _, _ => (passNumber? t).map fun r => (number (t.take (t.length - r.length)), r)

mutual

/-- Reads a value at a depth of at most `n` steps, and answers the text behind it. -/
def value? : Nat → Text → Option (Json × Text)
  | 0, _ => none
  | n + 1, t =>
    match passSpace t with
    | '"' :: t => (pieces? .between t).map fun r => (string r.1, r.2)
    | '[' :: t =>
      match passSpace t with
      | ']' :: t => some (array [], t)
      | t => (items? n t).map fun r => (array r.1, r.2)
    | '{' :: t =>
      match passSpace t with
      | '}' :: t => some (object [], t)
      | t => (members? n t).map fun r => (object r.1, r.2)
    | t => scalar? t

def items? : Nat → Text → Option (List Json × Text)
  | 0, _ => none
  | n + 1, t =>
    match value? n t with
    | none => none
    | some (v, t) =>
      match passSpace t with
      | ',' :: t => (items? n t).map fun r => (v :: r.1, r.2)
      | ']' :: t => some ([v], t)
      | _ => none

def members? : Nat → Text → Option (List (List Piece × Json) × Text)
  | 0, _ => none
  | n + 1, t =>
    match passSpace t with
    | '"' :: t =>
      match pieces? .between t with
      | none => none
      | some (k, t) =>
        match passSpace t with
        | ':' :: t =>
          match value? n t with
          | none => none
          | some (v, t) =>
            match passSpace t with
            | ',' :: t => (members? n t).map fun r => ((k, v) :: r.1, r.2)
            | '}' :: t => some ([(k, v)], t)
            | _ => none
        | _ => none
    | _ => none

end

/-- Reads a document: one value with space around it.  A step that reads no character follows one that reads a character,
so twice the length is depth enough. -/
def parse? (t : Text) : Option Json :=
  match value? (2 * t.length + 2) t with
  | some (v, r) => if passSpace r = [] then some v else none
  | none => none

def text? (t : Text) : Option Text :=
  match parse? t with
  | some (string ps) => join? ps
  | _ => none

end Json
end TextCursor
