import TextCursor.Cursor.Basic
import TextCursor.Flags.Basic
/-!
# The window of the last token

Where a token starts is marked before it is read, where it ends is settled later: at the next blank, at the cursor, or
with the text (`Ends`).  A fault of a reader settles the window and carries exactly what the window then shows (`fail`), so
the report and the window agree.
-/
namespace TextCursor

/-- The ends asked for a token: its first blank, the cursor, or the nearer of the two; with neither the token takes the
rest of the text. -/
structure Ends where
  blank : Bool
  cursor : Bool
  deriving DecidableEq

namespace Ends

def atBlank : Ends := ⟨true, false⟩

def atCursor : Ends := ⟨false, true⟩

def withText : Ends := ⟨false, false⟩

end Ends

def Flags.toEnds (s : Flags) : Ends := ⟨s.has .toBlank, s.has .toCursor⟩

/-- The ends that a word of flags asks for; none when it says nothing about the end. -/
def Flags.toEnds? (s : Flags) : Option Ends := if s.hasEnd then some s.toEnds else none

theorem Flags.toEnds?_of_not_hasEnd {s : Flags} (h : s.hasEnd = false) : s.toEnds? = none :=
  if_neg (by rw [h]; exact Bool.false_ne_true)

namespace Cursor

def mark (c : Cursor) : Cursor := { c with window := ⟨c.pos, none⟩ }

/-- The offset where a token from the window's start ends. -/
def stopAt (c : Cursor) (e : Ends) : Nat :=
  let start := c.window.start
  let size := c.text.size
  let here := max c.pos start
  let blank := start + Text.size (((c.text.after? start).getD []).takeWhile fun x => !c.isBlank x)
  if size ≤ start then start
  else if e.blank then (if e.cursor then min blank here else blank)
  else if e.cursor then here
  else size

def resolve (c : Cursor) (e : Ends) : Cursor := { c with window := { c.window with stop := some (c.stopAt e) } }

/-- Settles where the window stops as the ends ask, if they are given, and an open window at the next blank if not. -/
def settle (c : Cursor) : Option Ends → Cursor
  | some e => c.resolve e
  | none => if c.window.stop.isNone then c.resolve .atBlank else c

/-- Opens a window at an offset where a character starts, and settles its stop if the ends are given. -/
def markAt (c : Cursor) (p : Nat) (e : Option Ends) : Outcome Unit :=
  if p < c.text.size ∧ c.text.isBoundary p then
    let c := { c with window := ⟨p, none⟩ }
    match e with
    | some e => ⟨.ok (), c.resolve e⟩
    | none => ⟨.ok (), c⟩
  else ⟨.error (.argumentOutOfRange p), c⟩

/-- The span of a window that is settled; one that is still open counts as empty. -/
def span (c : Cursor) : Nat × Nat := (c.window.start, c.window.stop.getD c.window.start)

def token (c : Cursor) : Text := (c.text.slice? c.span.1 c.span.2).getD []

def tokenRange (c : Cursor) : (Nat × Nat) × Cursor := ((c.settle none).span, c.settle none)

def lastToken (c : Cursor) (e : Option Ends) : Text × Cursor := ((c.settle e).token, c.settle e)

/-- Fails with the token that the window shows once its stop is settled. -/
def fail {α : Type} (c : Cursor) (e : Ends) (cause : Cause) : Outcome α :=
  ⟨.error ⟨cause, (c.resolve e).token, (c.resolve e).window.start⟩, c.resolve e⟩

/-- Ends what has been read: the window stops at the cursor, and blanks are skipped when asked to. -/
def finish (c : Cursor) (skip : Bool) : Cursor := (c.resolve .atCursor).skipIf skip

@[simp] theorem text_resolve (c : Cursor) (e : Ends) : (c.resolve e).text = c.text := rfl

@[simp] theorem pos_resolve (c : Cursor) (e : Ends) : (c.resolve e).pos = c.pos := rfl

@[simp] theorem config_resolve (c : Cursor) (e : Ends) : (c.resolve e).config = c.config := rfl

@[simp] theorem start_resolve (c : Cursor) (e : Ends) : (c.resolve e).window.start = c.window.start := rfl

@[simp] theorem stop_resolve (c : Cursor) (e : Ends) : (c.resolve e).window.stop = some (c.stopAt e) := rfl

end Cursor
end TextCursor
