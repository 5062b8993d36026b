import Mathlib.Order.Bounds.Basic
import TextCursor.Proofs.OpenWindow
import TextCursor.Proofs.Sound
/-!
# Where a token ends

A token may be asked to end at its first blank, at the cursor, or at the nearer of the two, and it never goes beyond the text.
Whatever is asked, the window stops at the nearest of these ends (`isLeast_stopAt`): the least offset at or after its start where
a blank starts or the text ends, the cursor unless that is before the start, the end of the text.  So asking for more ends can
only shorten the token (`resolve_nearest`).
-/
namespace TextCursor

/-! ## The first blank of a text -/

namespace Text

theorem size_le_of_prefix {s t : Text} (h : s <+: t) : size s ≤ size t := by
  obtain ⟨u, rfl⟩ := h
  rw [size_append]
  exact Nat.le_add_right _ _

/-- A character of a class starts at the offset. -/
def StartsAt (p : Char → Bool) (t : Text) (n : Nat) : Prop := ∃ x u, t.after? n = some (x :: u) ∧ p x = true

/-- **The run before the first character of a class ends where that character starts**, or with the text. -/
theorem isLeast_size_takeWhile (p : Char → Bool) (t : Text) :
    IsLeast {n | t.StartsAt p n ∨ n = size t} (size (t.takeWhile fun x => !p x)) := by
  have hsplit : (t.takeWhile fun x => !p x) ++ (t.dropWhile fun x => !p x) = t := List.takeWhile_append_dropWhile
  constructor
  · cases hrest : t.dropWhile fun x => !p x with
    | nil =>
      rw [hrest, List.append_nil] at hsplit
      exact .inr (by rw [hsplit])
    | cons x u =>
      have hx := List.head?_dropWhile_not (fun x => !p x) t
      rw [hrest] at hx hsplit
      refine .inl ⟨x, u, ?_, by simpa using hx⟩
      exact after?_eq_some.2 ⟨_, hsplit.symm, rfl⟩
  · rintro n (⟨x, u, hafter, hx⟩ | rfl)
    · -- the run cannot go beyond a character of the class
      obtain ⟨s, rfl, rfl⟩ := after?_eq_some.1 hafter
      have hnone : (x :: u).takeWhile (fun x => !p x) = [] := List.takeWhile_cons_of_neg (by simp [hx])
      rw [List.takeWhile_append, hnone, List.append_nil]
      split
      · exact Nat.le_refl _
      · exact size_le_of_prefix (List.takeWhile_prefix _)
    · exact size_le_of_prefix (List.takeWhile_prefix _)

end Text

namespace Cursor

/-! ## The ends of a token -/

/-- A token that starts where the window does meets its first blank there or, having none, the end of the text. -/
def IsBlankEnd (c : Cursor) (n : Nat) : Prop :=
  IsLeast {k | c.window.start ≤ k ∧ (c.text.StartsAt c.isBlank k ∨ k = c.text.size)} n

/-- The ends that a word of flags asks for.  The text ends every token. -/
inductive EndAsked (c : Cursor) (s : Flags) : Nat → Prop where
  | text : EndAsked c s c.text.size
  | blank {n : Nat} : s.has .toBlank = true → c.IsBlankEnd n → EndAsked c s n
  | cursor : s.has .toCursor = true → EndAsked c s (max c.pos c.window.start)

variable {c : Cursor} {s : Flags}

/-- **An open window shows the token up to its first blank.** -/
theorem isBlankEnd_stopAt (h : c.text.isBoundary c.window.start = true) : c.IsBlankEnd (c.stopAt .atBlank) := by
  obtain ⟨before, rest, htext, hstart⟩ := Text.isBoundary_iff.1 h
  have hsize : c.text.size = c.window.start + Text.size rest := by rw [htext, Text.size_append, hstart]
  have hafter : ∀ k, c.text.after? (c.window.start + k) = rest.after? k := fun k => by
    rw [htext, ← hstart, Text.after?_size_add]
  have hstop : c.stopAt .atBlank = c.window.start + Text.size (rest.takeWhile fun x => !c.isBlank x) := by
    have hrest : c.text.after? c.window.start = some rest := (hafter 0).trans (Text.after?_zero rest)
    show (if c.text.size ≤ c.window.start then c.window.start
      else c.window.start + Text.size (((c.text.after? c.window.start).getD []).takeWhile fun x => !c.isBlank x)) = _
    rw [hrest, Option.getD_some]
    split
    · have hnil : rest = [] := Text.size_eq_zero.1 (by omega)
      rw [hnil]
      rfl
    · rfl
  obtain ⟨hmem, hleast⟩ := Text.isLeast_size_takeWhile c.isBlank rest
  rw [hstop]
  constructor
  · refine ⟨Nat.le_add_right _ _, ?_⟩
    rcases hmem with ⟨x, u, hu, hx⟩ | hmem
    · exact .inl ⟨x, u, (hafter _).trans hu, hx⟩
    · exact .inr (by rw [hsize, ← hmem])
  · rintro k ⟨hle, hk⟩
    obtain ⟨m, rfl⟩ := Nat.exists_eq_add_of_le hle
    apply Nat.add_le_add_left
    apply hleast
    rcases hk with ⟨x, u, hu, hx⟩ | hk
    · exact .inl ⟨x, u, (hafter m).symm.trans hu, hx⟩
    · exact .inr (by omega)

/-- What is asked for is bounded by the text, and by each end on its own. -/
theorem stopAt_eq_min (h : c.Sound) (e : Ends) :
    c.stopAt e = min c.text.size (min (if e.blank then c.stopAt .atBlank else c.text.size)
      (if e.cursor then max c.pos c.window.start else c.text.size)) := by
  have hpos := Text.le_size_of_isBoundary h.pos
  have hstart := Text.le_size_of_isBoundary h.start
  have hblank := Text.le_size_of_isBoundary (h.stopAt .atBlank).2
  by_cases hend : c.text.size ≤ c.window.start
  · have hstop : ∀ e, c.stopAt e = c.window.start := fun e => if_pos hend
    rw [hstop, hstop]
    split
    · split <;> omega
    · split <;> omega
  · have hstop : c.stopAt e = if e.blank then
        (if e.cursor then min (c.stopAt .atBlank) (max c.pos c.window.start) else c.stopAt .atBlank)
        else if e.cursor then max c.pos c.window.start else c.text.size := by
      simp only [stopAt, if_neg hend]
      rfl
    rw [hstop]
    split
    · split <;> omega
    · split <;> omega

/-- **The window stops at the nearest of the ends asked for.** -/
theorem isLeast_stopAt (h : c.Sound) (s : Flags) : IsLeast {n | c.EndAsked s n} (c.stopAt s.toEnds) := by
  have hblank := isBlankEnd_stopAt h.start
  have hblank_le := Text.le_size_of_isBoundary (h.stopAt .atBlank).2
  have hstop : c.stopAt s.toEnds = min c.text.size (min (if s.has .toBlank then c.stopAt .atBlank else c.text.size)
      (if s.has .toCursor then max c.pos c.window.start else c.text.size)) := stopAt_eq_min h s.toEnds
  rw [hstop]
  constructor
  · -- the least of the three is one of them, and the text is one anyway
    have hone : ∀ a b n : Nat, c.EndAsked s a → c.EndAsked s b → n = min a b → c.EndAsked s n := by
      rintro a b n ha hb rfl
      rcases Nat.le_total a b with hab | hab
      · rwa [Nat.min_eq_left hab]
      · rwa [Nat.min_eq_right hab]
    refine hone _ _ _ .text (hone _ _ _ ?_ ?_ rfl) rfl
    · split
      · exact .blank ‹_› hblank
      · exact .text
    · split
      · exact .cursor ‹_›
      · exact .text
  · rintro n (_ | ⟨hs, hn⟩ | hs)
    · exact Nat.min_le_left _ _
    · rw [if_pos hs, hn.unique hblank]
      omega
    · rw [if_pos hs]
      omega

theorem EndAsked.union {n : Nat} (h : c.EndAsked s n) (added : Flags) : c.EndAsked (s.union added) n := by
  cases h with
  | text => exact .text
  | blank hs hn => exact .blank (by rw [Flags.has_union, hs, Bool.true_or]) hn
  | cursor hs => exact .cursor (by rw [Flags.has_union, hs, Bool.true_or])

/-! ## The token shown -/

/-- The outcome is the text from the start of the window up to an offset, where the window then stops. -/
def ShowsUpTo (c : Cursor) (e : Nat) (o : Outcome Reply) : Prop :=
  ∃ w, c.text.slice? c.window.start e = some w ∧ o = ⟨.ok (.text w), { c with window := ⟨c.window.start, some e⟩ }⟩

theorem showsUpTo_of_settle (h : c.Sound) {e : Nat}
    (hsettle : c.settle s.toEnds? = { c with window := ⟨c.window.start, some e⟩ }) :
    c.ShowsUpTo e (c.perform (.lastToken s)) := by
  have hslice := (h.settle s.toEnds?).slice?_span
  rw [hsettle] at hslice
  refine ⟨_, hslice, ?_⟩
  show (⟨.ok (.text (c.settle s.toEnds?).token), c.settle s.toEnds?⟩ : Outcome Reply) = _
  rw [hsettle]

/-- **A token ends at the nearest of the ends asked for.**  Settling the window changes nothing but its stop, so settling it
twice is settling it once, and asking for more ends never moves the stop on.  A look at the token shows the text up to that
stop when it asks for an end, up to the present stop when it asks for none, and up to the first blank, by the blanks of the
moment, when the window is still open. -/
theorem resolve_nearest (t : Text) (g : Config) (ms : List Command) :
    let c := (ofText t g).after ms
    (∃ b, c.IsBlankEnd b) ∧
    (∀ s : Flags, ∃ e, IsLeast {n | c.EndAsked s n} e ∧
      (c.perform (.resolve s)).cursor = { c with window := ⟨c.window.start, some e⟩ }) ∧
    (∀ (s added : Flags) (e e' : Nat), (c.perform (.resolve s)).cursor.window.stop = some e →
      (c.perform (.resolve (s.union added))).cursor.window.stop = some e' → e' ≤ e) ∧
    (∀ s : Flags, ((c.perform (.resolve s)).cursor.perform (.resolve s)).cursor = (c.perform (.resolve s)).cursor) ∧
    ∀ (s : Flags) (e : Nat),
      (s.hasEnd = true → IsLeast {n | c.EndAsked s n} e → c.ShowsUpTo e (c.perform (.lastToken s))) ∧
      (s.hasEnd = false → c.window.stop = some e → c.ShowsUpTo e (c.perform (.lastToken s))) ∧
      (s.hasEnd = false → c.window.stop = none → c.IsBlankEnd e → c.ShowsUpTo e (c.perform (.lastToken s))) := by
  intro c
  have h : c.Sound := sound_after t g ms
  have hblank := isBlankEnd_stopAt h.start
  refine ⟨⟨_, hblank⟩, fun s => ⟨_, isLeast_stopAt h s, rfl⟩, ?_, fun s => resolve_settle c (some s.toEnds) s.toEnds, ?_⟩
  · intro s added e e' he he'
    cases he
    cases he'
    exact (isLeast_stopAt h s).mono (isLeast_stopAt h (s.union added)) fun n hn => hn.union added
  · intro s e
    refine ⟨fun hs he => ?_, fun hs he => ?_, fun hs hopen he => ?_⟩
    · apply showsUpTo_of_settle h
      have hends : s.toEnds? = some s.toEnds := if_pos hs
      rw [hends, he.unique (isLeast_stopAt h s)]
      rfl
    · apply showsUpTo_of_settle h
      rw [Flags.toEnds?_of_not_hasEnd hs, settle_none_of_isSome (by rw [he]; rfl), ← he]
    · apply showsUpTo_of_settle h
      rw [Flags.toEnds?_of_not_hasEnd hs, settle, hopen, he.unique hblank]
      rfl

end Cursor
end TextCursor
