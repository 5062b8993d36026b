import TextCursor.Cursor.Window
/-!
# Fixed characters

Recognising one expected character, or one of a set.  Each comes in a form that answers a miss and in one that fails on a
miss with the token found instead.
-/
namespace TextCursor
namespace Cursor

/-- Steps over the character if it stands at the cursor. -/
def accept (c : Cursor) (x : Char) (skip : Bool) : Bool × Cursor :=
  let c := c.skipIf skip
  if c.current? = some x then (true, (c.pass 1).skipIf skip) else (false, c)

theorem accept_hit {c : Cursor} {x : Char} {skip : Bool} (h : (c.skipIf skip).current? = some x) :
    c.accept x skip = (true, ((c.skipIf skip).pass 1).skipIf skip) := if_pos h

theorem accept_miss {c : Cursor} {x : Char} {skip : Bool} (h : (c.skipIf skip).current? ≠ some x) :
    c.accept x skip = (false, c.skipIf skip) := if_neg h

def expect (c : Cursor) (x : Char) (skip : Bool) : Outcome Unit :=
  match c.accept x skip with
  | (true, c) => ⟨.ok (), c⟩
  | (false, c) => c.mark.fail .atBlank (.notFound ("`".toList ++ [x] ++ "`".toList))

/-- Steps over the character at the cursor if the set has it, and answers its place in the set, counted from one. -/
def acceptOneOf (c : Cursor) (set : Text) (skip : Bool) : Option Nat × Cursor :=
  let c := c.skipIf skip
  match c.current? with
  | none => (none, c)
  | some x =>
    match set.idxOf? x with
    | none => (none, c)
    | some i => (some (i + 1), (c.pass 1).skipIf skip)

def expectOneOf (c : Cursor) (set : Text) (skip : Bool) : Outcome Nat :=
  match c.acceptOneOf set skip with
  | (some i, c) => ⟨.ok i, c⟩
  | (none, c) => c.mark.fail .atBlank (.notFound ("one of `".toList ++ set ++ "`".toList))

end Cursor
end TextCursor
