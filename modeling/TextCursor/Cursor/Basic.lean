import TextCursor.Config.Basic
import TextCursor.Fault
/-!
# The cursor

A cursor holds a text, a position in it as a byte offset, the settings, and the window of the last token.  What it still
has to read is `rest`, and it moves over characters with `pass`: on a boundary, `rest` after `pass n` has lost its first
`n` characters (`rest_pass`).  Positions given by a caller are accepted on boundaries only.
-/
namespace TextCursor

/-- The byte span of the last token.  Its stop is open until someone says where the token ends. -/
structure Window where
  start : Nat
  stop : Option Nat
  deriving DecidableEq

structure Cursor where
  text : Text
  pos : Nat
  config : Config
  window : Window
  deriving DecidableEq

/-- What an operation that may fail leaves behind: its answer, and the cursor in either case. -/
structure Outcome (α : Type) where
  answer : Except Fault α
  cursor : Cursor

namespace Outcome

/-- Goes on with the value and the cursor of a success; a failure stays as it is. -/
def andThen {α β : Type} (o : Outcome α) (f : α → Cursor → Outcome β) : Outcome β :=
  match o.answer with
  | .ok a => f a o.cursor
  | .error e => ⟨.error e, o.cursor⟩

def map {α β : Type} (f : α → β) (o : Outcome α) : Outcome β := ⟨o.answer.map f, o.cursor⟩

@[simp] theorem andThen_ok {α β : Type} (a : α) (c : Cursor) (f : α → Cursor → Outcome β) :
    (⟨.ok a, c⟩ : Outcome α).andThen f = f a c := rfl

@[simp] theorem andThen_error {α β : Type} (e : Fault) (c : Cursor) (f : α → Cursor → Outcome β) :
    (⟨.error e, c⟩ : Outcome α).andThen f = ⟨.error e, c⟩ := rfl

theorem answer_of_map_error {α β : Type} {o : Outcome α} {f : α → β} {e : Fault} (h : (o.map f).answer = .error e) :
    o.answer = .error e := by
  obtain ⟨a, c⟩ := o
  cases a with
  | ok a => cases h
  | error e' => cases h; rfl

end Outcome

namespace Cursor

def ofText (t : Text) (s : Config) : Cursor := ⟨t, 0, s, ⟨0, some 0⟩⟩

/-- Starts over on another text with the same settings. -/
def load (c : Cursor) (t : Text) : Cursor := ofText t c.config

/-- The text from the cursor on. -/
def rest (c : Cursor) : Text := (c.text.after? c.pos).getD []

def isDone (c : Cursor) : Bool := c.text.size ≤ c.pos

def remaining? (c : Cursor) : Option Text := if c.isDone then none else some c.rest

def current? (c : Cursor) : Option Char := c.rest.head?

/-- Moves over the next `n` characters, or to the end where there are fewer. -/
def pass (c : Cursor) (n : Nat) : Cursor := { c with pos := c.pos + Text.size (c.rest.take n) }

def isBlank (c : Cursor) (x : Char) : Bool := c.config.isBlank x

/-- Sets the blanks; a call without a set of blanks is refused. -/
def setBlanks (c : Cursor) : Option Text → Outcome Unit
  | none => ⟨.error (.argumentMissing "whitespace".toList), c⟩
  | some s => ⟨.ok (), { c with config := ⟨s⟩ }⟩

/-- Moves to an offset, where an empty window starts. -/
def moveTo (c : Cursor) (p : Nat) : Outcome Unit :=
  if c.text.isBoundary p then ⟨.ok (), { c with pos := p, window := ⟨p, some p⟩ }⟩
  else ⟨.error (.outOfRange p), c⟩

/-- Moves by a number of bytes, forward or back, and leaves the window alone. -/
def moveBy (c : Cursor) (d : Int) : Outcome Unit :=
  match (c.pos : Int) + d with
  | .ofNat p => if c.text.isBoundary p then ⟨.ok (), { c with pos := p }⟩ else ⟨.error (.outOfRange c.pos), c⟩
  | .negSucc _ => ⟨.error (.outOfRange c.pos), c⟩

def skipBlanks (c : Cursor) : Cursor := c.pass (c.rest.takeWhile c.isBlank).length

def skipIf (c : Cursor) (skip : Bool) : Cursor := if skip then c.skipBlanks else c

def OnBoundary (c : Cursor) : Prop := c.text.isBoundary c.pos = true

@[simp] theorem text_pass (c : Cursor) (n : Nat) : (c.pass n).text = c.text := rfl

@[simp] theorem config_pass (c : Cursor) (n : Nat) : (c.pass n).config = c.config := rfl

@[simp] theorem window_pass (c : Cursor) (n : Nat) : (c.pass n).window = c.window := rfl

theorem pos_pass (c : Cursor) (n : Nat) : (c.pass n).pos = c.pos + Text.size (c.rest.take n) := rfl

theorem onBoundary_iff {c : Cursor} : c.OnBoundary ↔ ∃ p, c.text = p ++ c.rest ∧ Text.size p = c.pos := by
  refine ⟨fun h => ?_, fun ⟨p, ht, hp⟩ => Text.isBoundary_iff.2 ⟨p, c.rest, ht, hp⟩⟩
  obtain ⟨r, hr⟩ := Option.isSome_iff_exists.1 h
  obtain ⟨p, ht, hp⟩ := Text.after?_eq_some.1 hr
  exact ⟨p, by rw [rest, hr]; exact ht, hp⟩

theorem rest_of_append {c : Cursor} {p r : Text} (ht : c.text = p ++ r) (hp : c.pos = Text.size p) : c.rest = r := by
  rw [rest, ht, hp, Text.after?_append]; rfl

/-- **Passing characters drops them from the rest**, also off a boundary, where there is no rest. -/
@[simp] theorem rest_pass (c : Cursor) (n : Nat) : (c.pass n).rest = c.rest.drop n := by
  cases hr : c.text.after? c.pos with
  | none =>
    have h0 : c.rest = [] := by rw [rest, hr]; rfl
    have hp : c.pass n = c := by simp [pass, h0]
    rw [hp, h0, List.drop_nil]
  | some r =>
    obtain ⟨p, ht, hp⟩ := Text.after?_eq_some.1 hr
    have h0 : c.rest = r := by rw [rest, hr]; rfl
    refine rest_of_append (p := p ++ c.rest.take n) ?_ ?_
    · rw [List.append_assoc, List.take_append_drop, h0]; exact ht
    · rw [pos_pass, Text.size_append, hp]

@[simp] theorem pass_zero (c : Cursor) : c.pass 0 = c := by simp [pass]

theorem pass_pass (c : Cursor) (m n : Nat) : (c.pass m).pass n = c.pass (m + n) := by
  have hp : ((c.pass m).pass n).pos = (c.pass (m + n)).pos := by
    rw [pos_pass, pos_pass, pos_pass, rest_pass, List.take_add, Text.size_append, Nat.add_assoc]
  show { c with pos := ((c.pass m).pass n).pos } = { c with pos := (c.pass (m + n)).pos }
  rw [hp]

theorem onBoundary_pass {c : Cursor} (h : c.OnBoundary) (n : Nat) : (c.pass n).OnBoundary := by
  obtain ⟨p, ht, hp⟩ := onBoundary_iff.1 h
  refine Text.isBoundary_iff.2 ⟨p ++ c.rest.take n, c.rest.drop n, ?_, ?_⟩
  · rw [List.append_assoc, List.take_append_drop]; exact ht
  · rw [pos_pass, Text.size_append, hp]

theorem isDone_iff {c : Cursor} (h : c.OnBoundary) : c.isDone = true ↔ c.rest = [] := by
  obtain ⟨p, ht, hp⟩ := onBoundary_iff.1 h
  have hs := congrArg Text.size ht
  rw [Text.size_append, hp] at hs
  rw [isDone, decide_eq_true_iff, ← Text.size_eq_zero]
  omega

end Cursor
end TextCursor
