import TextCursor.Config.Basic
import TextCursor.Json.Basic
/-!
# Stored configuration

A configuration is stored as a JSON object with one member for the blanks.  What is read may be an object, where the
member may be missing and others may stand beside it, or an array of the same values in order.
-/
namespace TextCursor
namespace Config

def blanksName : Text := "whitespace".toList

def toJson (s : Config) : Text := '{' :: Json.quote blanksName ++ ':' :: Json.quote s.blanks ++ ['}']

/-- Goes through the members of an object with the blanks found so far.  The member for the blanks has to be a text and may
be given once, the name of every member has to be a text, and no other value matters. -/
def blanksFrom? : Option Text → List (List Json.Piece × Json) → Option (Option Text)
  | found, [] => some found
  | found, (name, value) :: ms =>
    match Json.join? name with
    | none => none
    | some name =>
      if name = blanksName then
        match found, value with
        | none, .string ps => (Json.join? ps).bind fun w => blanksFrom? (some w) ms
        | _, _ => none
      else blanksFrom? found ms

def ofValue? : Json → Option Config
  | .array [] => some {}
  | .array [.string ps] => (Json.join? ps).map fun w => ⟨w⟩
  | .object ms =>
    (blanksFrom? none ms).map fun found =>
      match found with
      | some w => ⟨w⟩
      | none => {}
  | _ => none

def ofJson? (t : Text) : Option Config := (Json.parse? t).bind ofValue?

end Config
end TextCursor
