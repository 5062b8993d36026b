import TextCursor.Command
import TextCursor.Proofs.Word
/-!
# Skipping blanks around a command

A command asked to skip blanks does nothing that the command without that request (`Command.plain`) does not do: it is made
behind the blanks at the cursor, and where it hits, the blanks behind it are skipped as well (`perform_skipping`).  Where it
misses or fails nothing more is skipped.
-/
namespace TextCursor

variable {α β : Type}

/-! ## Commands without skipping -/

/-- The word without its request to skip blanks. -/
def Flags.plain (s : Flags) : Flags := s.diff (only .skipBlanks)

namespace Command

/-- The command with the same arguments that skips no blanks. -/
def plain : Command → Command
  | .peek _ => .peek false
  | .next _ => .next false
  | .lookAhead _ => .lookAhead false
  | .atEnd _ => .atEnd false
  | .requireEnd _ => .requireEnd false
  | .accept x _ => .accept x false
  | .expect x _ => .expect x false
  | .acceptOneOf set _ => .acceptOneOf set false
  | .expectOneOf set _ => .expectOneOf set false
  | .matchKeyword list s => .matchKeyword list s.plain
  | .readUnsigned k s max => .readUnsigned k s.plain max
  | .readSigned k s max => .readSigned k s.plain max
  | .readFloat s => .readFloat s.plain
  | .readString s => .readString s.plain
  | .readWord _ => .readWord false
  | .readLine _ => .readLine false
  | m => m

/-- The command is asked to skip blanks before what it reads and behind it. -/
def skipsAround : Command → Bool
  | .accept _ skip | .expect _ skip | .acceptOneOf _ skip | .expectOneOf _ skip | .readWord skip => skip
  | .matchKeyword _ s | .readUnsigned _ s _ | .readSigned _ s _ | .readFloat s | .readString s => s.has .skipBlanks
  | _ => false

/-- The command is asked to skip blanks before it looks at the text, and reads nothing. -/
def skipsToLook : Command → Bool
  | .peek skip | .atEnd skip | .requireEnd skip => skip
  | _ => false

end Command

/-- The reply to a command that reads says that it has read something. -/
def Reply.isFound : Reply → Bool
  | .truth b => b
  | .place i => i.isSome
  | .keyword m => m.place?.isSome
  | _ => true

/-- Skips blanks behind a value that is a hit. -/
def Outcome.skipBehind (hit : α → Bool) (o : Outcome α) : Outcome α :=
  match o.answer with
  | .ok a => ⟨.ok a, o.cursor.skipIf (hit a)⟩
  | .error f => ⟨.error f, o.cursor⟩

namespace Flags

theorem has_skipBlanks_plain (s : Flags) : s.plain.has .skipBlanks = false := by simp [plain]

theorem has_plain {f : Flag} (hf : f ≠ .skipBlanks) (s : Flags) : s.plain.has f = s.has f := by
  simp [plain, hf.symm]

theorem isNameChar_plain (s : Flags) : isNameChar s.plain = isNameChar s := by
  funext x
  simp only [isNameChar, has_plain, ne_eq, reduceCtorEq, not_false_eq_true]

theorem style_plain (s : Flags) (k : Numeral) : k.style s.plain = k.style s := by
  simp only [Numeral.style, has_normalized, has_plain, ne_eq, reduceCtorEq, not_false_eq_true]

end Flags

namespace Command

theorem skipsAround_plain (m : Command) : m.plain.skipsAround = false := by
  cases m with
  | matchKeyword list s => exact s.has_skipBlanks_plain
  | readUnsigned k s max => exact s.has_skipBlanks_plain
  | readSigned k s max => exact s.has_skipBlanks_plain
  | readFloat s => exact s.has_skipBlanks_plain
  | readString s => exact s.has_skipBlanks_plain
  | _ => rfl

theorem skipsToLook_plain (m : Command) : m.plain.skipsToLook = false := by cases m <;> rfl

end Command

/-! ## Skipping behind a hit -/

namespace Outcome

theorem map_eq_skipBehind {o o' : Outcome α} {hit : α → Bool} {g : α → Reply} (hg : ∀ a, (g a).isFound = hit a)
    (h : o' = o.skipBehind hit) : o'.map g = (o.map g).skipBehind Reply.isFound := by
  obtain ⟨a, c⟩ := o
  rw [h]
  cases a with
  | ok a =>
    unfold skipBehind map
    simp only [Except.map, hg]
  | error f => rfl

theorem ok_eq_skipBehind {q q' : α × Cursor} (g : α → Reply) (h : q' = (q.1, q.2.skipIf (g q.1).isFound)) :
    (⟨.ok (g q'.1), q'.2⟩ : Outcome Reply) = (⟨.ok (g q.1), q.2⟩ : Outcome Reply).skipBehind Reply.isFound := by
  rw [h]
  rfl

/-- **What comes last is what skips.** -/
theorem skipBehind_andThen (o : Outcome α) {f g : α → Cursor → Outcome β} {hit : β → Bool}
    (h : ∀ a c, (f a c).skipBehind hit = g a c) : (o.andThen f).skipBehind hit = o.andThen g := by
  obtain ⟨a, c⟩ := o
  cases a with
  | ok a => exact h a c
  | error e => rfl

end Outcome

namespace Cursor

variable (c : Cursor)

theorem skipIf_true : c.skipIf true = c.skipBlanks := rfl

/-! ## The operations -/

theorem accept_skipping (x : Char) :
    c.accept x true =
      ((c.skipBlanks.accept x false).1, (c.skipBlanks.accept x false).2.skipIf (c.skipBlanks.accept x false).1) := by
  by_cases hx : c.skipBlanks.current? = some x
  · have hplain : c.skipBlanks.accept x false = (true, c.skipBlanks.pass 1) := accept_hit hx
    rw [hplain]
    exact accept_hit hx
  · have hplain : c.skipBlanks.accept x false = (false, c.skipBlanks) := accept_miss hx
    rw [hplain]
    exact accept_miss hx

theorem expect_skipping (x : Char) : c.expect x true = (c.skipBlanks.expect x false).skipBehind fun _ => true := by
  unfold expect
  rw [accept_skipping]
  obtain ⟨found, d⟩ := c.skipBlanks.accept x false
  cases found <;> rfl

theorem acceptOneOf_skipping (set : Text) :
    c.acceptOneOf set true = ((c.skipBlanks.acceptOneOf set false).1,
      (c.skipBlanks.acceptOneOf set false).2.skipIf (c.skipBlanks.acceptOneOf set false).1.isSome) := by
  unfold acceptOneOf
  simp only [skipIf_true, skipIf_false]
  cases c.skipBlanks.current? with
  | none => rfl
  | some x =>
    dsimp only
    cases set.idxOf? x <;> rfl

theorem expectOneOf_skipping (set : Text) :
    c.expectOneOf set true = (c.skipBlanks.expectOneOf set false).skipBehind fun _ => true := by
  unfold expectOneOf
  rw [acceptOneOf_skipping]
  obtain ⟨found, d⟩ := c.skipBlanks.acceptOneOf set false
  cases found <;> rfl

variable {s : Flags} (hs : s.has .skipBlanks = true)
include hs

theorem matchKeyword_skipping (list : Text) :
    c.matchKeyword list s = (c.skipBlanks.matchKeyword list s.plain).skipBehind fun m => m.place?.isSome := by
  have hfull : s.plain.has .fullName = s.has .fullName := Flags.has_plain (by decide) s
  unfold matchKeyword
  simp only [hs, s.has_skipBlanks_plain, hfull, s.isNameChar_plain, skipIf_true, skipIf_false]
  split
  · rfl
  · split
    · rfl
    · split
      · rfl
      · split <;> rfl

theorem readUnsigned_skipping (k : Numeral) (max : Nat) :
    c.readUnsigned k s max = (c.skipBlanks.readUnsigned k s.plain max).skipBehind fun _ => true := by
  unfold readUnsigned readMagnitude
  simp only [hs, s.has_skipBlanks_plain, s.style_plain, skipIf_true, skipIf_false]
  apply (Outcome.skipBehind_andThen _ _).symm
  intro n d
  rfl

theorem readSigned_skipping (k : Numeral) (max : Nat) :
    c.readSigned k s max = (c.skipBlanks.readSigned k s.plain max).skipBehind fun _ => true := by
  unfold readSigned readMagnitude
  simp only [hs, s.has_skipBlanks_plain, s.style_plain, skipIf_true, skipIf_false]
  obtain ⟨negative, d⟩ := c.skipBlanks.mark.accept '-' false
  cases negative
  all_goals
    apply (Outcome.skipBehind_andThen _ _).symm
    intro n e
    split <;> rfl

theorem readFloat_skipping : c.readFloat s = (c.skipBlanks.readFloat s.plain).skipBehind fun _ => true := by
  have hcomma : s.plain.has .comma = s.has .comma := Flags.has_plain (by decide) s
  unfold readFloat
  simp only [hs, s.has_skipBlanks_plain, hcomma, skipIf_true, skipIf_false]
  obtain ⟨sign, d⟩ := c.skipBlanks.mark.acceptOneOf ['+', '-'] false
  dsimp only
  split
  · rfl
  · obtain ⟨found, e⟩ := (d.pass (d.rest.takeWhile Char.isDigit).length).acceptPoint (s.has .comma)
    cases found
    · rfl
    · dsimp only
      split <;> rfl

theorem readString_skipping : c.readString s = (c.skipBlanks.readString s.plain).skipBehind fun _ => true := by
  have hquoted : s.plain.has .quoted = s.has .quoted := Flags.has_plain (by decide) s
  unfold readString
  simp only [hs, s.has_skipBlanks_plain, hquoted, skipIf_true, skipIf_false]
  split
  · split <;> rfl
  · split <;> rfl

omit hs

theorem readWord_skipping :
    c.readWord true = ((c.skipBlanks.readWord false).1, (c.skipBlanks.readWord false).2.skipBlanks) := by
  rw [readWord_eq, readWord_eq]
  rfl

/-! ## The commands -/

/-- **Skipping blanks adds nothing but the skips.**  A command that skips around what it reads is the plain command behind
the blanks at the cursor, and one more skip behind a hit, and behind nothing else.  A command that skips to look is the
plain command behind the blanks. -/
theorem perform_skipping (m : Command) :
    (m.skipsAround = true → c.perform m = (c.skipBlanks.perform m.plain).skipBehind Reply.isFound) ∧
    (m.skipsToLook = true → c.perform m = c.skipBlanks.perform m.plain) ∧
    m.plain.skipsAround = false ∧ m.plain.skipsToLook = false := by
  refine ⟨fun h => ?_, fun h => ?_, ?_, ?_⟩
  · cases m with
    | accept x skip => cases h; exact Outcome.ok_eq_skipBehind .truth (c.accept_skipping x)
    | expect x skip => cases h; exact Outcome.map_eq_skipBehind (fun _ => rfl) (c.expect_skipping x)
    | acceptOneOf set skip => cases h; exact Outcome.ok_eq_skipBehind .place (c.acceptOneOf_skipping set)
    | expectOneOf set skip => cases h; exact Outcome.map_eq_skipBehind (fun _ => rfl) (c.expectOneOf_skipping set)
    | matchKeyword list s => exact Outcome.map_eq_skipBehind (fun _ => rfl) (c.matchKeyword_skipping h list)
    | readUnsigned k s max => exact Outcome.map_eq_skipBehind (fun _ => rfl) (c.readUnsigned_skipping h k max)
    | readSigned k s max => exact Outcome.map_eq_skipBehind (fun _ => rfl) (c.readSigned_skipping h k max)
    | readFloat s => exact Outcome.map_eq_skipBehind (fun _ => rfl) (c.readFloat_skipping h)
    | readString s => exact Outcome.map_eq_skipBehind (fun _ => rfl) (c.readString_skipping h)
    | readWord skip => cases h; exact Outcome.ok_eq_skipBehind .text c.readWord_skipping
    | _ => cases h
  · cases m with
    | peek skip => cases h; rfl
    | atEnd skip => cases h; rfl
    | requireEnd skip => cases h; rfl
    | _ => cases h
  · exact m.skipsAround_plain
  · exact m.skipsToLook_plain

theorem perform_skipping_keyword :
    let c := ofText [' ', 'a', 'D', ' ', '\t', 'x'] {}
    let m := Command.matchKeyword ['a', 'd', 'd', '\t', 'c', 'u', 't'] (.ofList [.skipBlanks, .digits])
    m.skipsAround = true ∧ (Command.peek true).skipsToLook = true ∧
    c.perform m = (c.skipBlanks.perform m.plain).skipBehind Reply.isFound ∧
    c.perform (.peek true) = c.skipBlanks.perform (.peek false) :=
  ⟨rfl, rfl, (perform_skipping _ _).1 rfl, (perform_skipping _ (.peek true)).2.1 rfl⟩

end Cursor
end TextCursor
