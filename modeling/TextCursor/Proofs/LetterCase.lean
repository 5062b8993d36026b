import TextCursor.Cursor.Name
import TextCursor.Proofs.Motion
/-!
# Letter case

Folding a letter keeps its size in UTF-8, and the letter is in a name where the folded one is: both follow from the short
table of the letters that folding changes (`casePairs`).  So a text has the same boundaries as its folded form, and looking up
a keyword commutes with folding the text under the cursor (`matchKeyword_lower`), provided that the blanks do not tell case
apart.  Two texts that differ in letter case only are then the same to a lookup (`matchKeyword_sameButCase`).
-/
namespace TextCursor

variable {α : Type}

/-! ## Letters -/

/-- The letters that folding changes, each with what it is changed to. -/
def casePairs : List (Char × Char) :=
  ['Ä', 'Ö', 'Ü'].zip ['ä', 'ö', 'ü'] ++ (List.range 26).map fun k => (Char.ofNat (65 + k), Char.ofNat (97 + k))

/-- **Folding changes the letters of the table and no other character.** -/
theorem foldCase_cases (x : Char) : foldCase x = x ∨ (x, foldCase x) ∈ casePairs := by
  by_cases humlaut : x = 'Ä' ∨ x = 'Ö' ∨ x = 'Ü'
  · rcases humlaut with rfl | rfl | rfl
    · exact .inr (by decide)
    · exact .inr (by decide)
    · exact .inr (by decide)
  · rw [not_or, not_or] at humlaut
    have hfold : foldCase x = x.toLower := by
      rw [foldCase, if_neg humlaut.1, if_neg humlaut.2.1, if_neg humlaut.2.2]
    rw [hfold]
    by_cases hcapital : x.val ≥ 'A'.val ∧ x.val ≤ 'Z'.val
    · have htable : ∀ k < 26, (Char.ofNat (65 + k), (Char.ofNat (65 + k)).toLower) ∈ casePairs := by decide
      have hlow : 65 ≤ x.toNat := hcapital.1
      have hhigh : x.toNat ≤ 90 := hcapital.2
      have hx := htable (x.toNat - 65) (by omega)
      rw [Nat.add_sub_cancel' hlow, Char.ofNat_toNat] at hx
      exact .inr hx
    · exact .inl (dif_neg hcapital)

/-- What is the same for both letters of every pair is the same for a character and its folded form. -/
theorem eq_foldCase_of_casePairs {f : Char → α} (h : ∀ q ∈ casePairs, f q.2 = f q.1) (x : Char) : f (foldCase x) = f x := by
  rcases foldCase_cases x with hx | hx
  · rw [hx]
  · exact h _ hx

theorem foldCase_foldCase (x : Char) : foldCase (foldCase x) = foldCase x :=
  eq_foldCase_of_casePairs (by decide) x

theorem utf8Size_foldCase (x : Char) : (foldCase x).utf8Size = x.utf8Size :=
  eq_foldCase_of_casePairs (by decide) x

/-- **A letter is in a name where the folded one is**, whatever the options of names. -/
theorem isNameChar_foldCase (s : Flags) (x : Char) : isNameChar s (foldCase x) = isNameChar s x := by
  refine eq_foldCase_of_casePairs (fun q hq => ?_) x
  have hclass : ∀ q ∈ casePairs, q.2.isAlpha = q.1.isAlpha ∧ q.2.isDigit = q.1.isDigit ∧
      (q.2 == '_' || q.2 == '-') = (q.1 == '_' || q.1 == '-') ∧ umlauts.contains q.2 = umlauts.contains q.1 := by
    decide
  obtain ⟨halpha, hdigit, hextra, humlaut⟩ := hclass q hq
  rw [isNameChar, isNameChar, halpha, hdigit, hextra, humlaut]

/-- Blanks that hold both letters of a pair or neither do not tell case apart. -/
theorem isBlank_eq_of_casePairs {s : Config} (h : ∀ q ∈ casePairs, s.isBlank q.2 = s.isBlank q.1) {x y : Char}
    (hxy : foldCase x = foldCase y) : s.isBlank x = s.isBlank y := by
  rw [← eq_foldCase_of_casePairs h x, hxy, eq_foldCase_of_casePairs h y]

/-! ## Texts -/

namespace Text

def lower (t : Text) : Text := t.map foldCase

theorem take_lower (t : Text) (n : Nat) : t.lower.take n = lower (t.take n) := List.map_take.symm

theorem lower_lower (t : Text) : t.lower.lower = t.lower := by
  unfold lower
  rw [List.map_map]
  exact List.map_congr_left fun x _ => foldCase_foldCase x

theorem size_lower (t : Text) : size t.lower = size t := by
  induction t with
  | nil => rfl
  | cons x t ih =>
    show (foldCase x).utf8Size + size (lower t) = x.utf8Size + size t
    rw [utf8Size_foldCase, ih]

/-- **A folded text is cut where the text is.** -/
theorem after?_lower (t : Text) (n : Nat) : t.lower.after? n = (t.after? n).map lower := by
  fun_induction after? t n with
  | case1 t => rw [after?_zero]; rfl
  | case2 => rfl
  | case3 x t n hle ih =>
    rw [← utf8Size_foldCase] at hle
    show (if (foldCase x).utf8Size ≤ n + 1 then (lower t).after? (n + 1 - (foldCase x).utf8Size) else none) = _
    rw [if_pos hle, utf8Size_foldCase, ih]
  | case4 x t n hle =>
    rw [← utf8Size_foldCase] at hle
    exact if_neg hle

theorem before?_lower (t : Text) (n : Nat) : t.lower.before? n = (t.before? n).map lower := by
  fun_induction before? t n with
  | case1 t => rw [before?_zero]; rfl
  | case2 => rfl
  | case3 x t n hle ih =>
    rw [← utf8Size_foldCase] at hle
    show (if (foldCase x).utf8Size ≤ n + 1 then
      ((lower t).before? (n + 1 - (foldCase x).utf8Size)).map (foldCase x :: ·) else none) = _
    rw [if_pos hle, utf8Size_foldCase, ih, Option.map_map, Option.map_map]
    rfl
  | case4 x t n hle =>
    rw [← utf8Size_foldCase] at hle
    exact if_neg hle

theorem isBoundary_lower (t : Text) (n : Nat) : t.lower.isBoundary n = t.isBoundary n := by
  rw [isBoundary, after?_lower, Option.isSome_map]
  rfl

theorem slice?_lower (t : Text) (a b : Nat) : t.lower.slice? a b = (t.slice? a b).map lower := by
  unfold slice?
  split
  · rw [after?_lower]
    cases t.after? a with
    | none => rfl
    | some r => exact before?_lower r (b - a)
  · rfl

theorem takeWhile_lower {p : Char → Bool} (hp : ∀ x, p (foldCase x) = p x) (t : Text) :
    t.lower.takeWhile p = lower (t.takeWhile p) := by
  have hcomp : p ∘ foldCase = p := funext hp
  rw [lower, List.takeWhile_map, hcomp]
  rfl

end Text

/-! ## The cursor -/

/-- The cursor over the folded text, with the same window. -/
def Cursor.lower (c : Cursor) : Cursor := { c with text := c.text.lower }

def Fault.lower (f : Fault) : Fault := { f with token := f.token.lower }

/-- The outcome with the text under the cursor and the token to blame folded. -/
def Outcome.lower (o : Outcome α) : Outcome α := ⟨o.answer.mapError Fault.lower, o.cursor.lower⟩

namespace Cursor

variable (c : Cursor)

@[simp] theorem rest_lower : c.lower.rest = c.rest.lower := by
  show (c.text.lower.after? c.pos).getD [] = c.rest.lower
  rw [Text.after?_lower, rest]
  cases c.text.after? c.pos <;> rfl

@[simp] theorem current?_lower : c.lower.current? = c.current?.map foldCase := by
  rw [current?, rest_lower, current?]
  exact List.head?_map

@[simp] theorem pass_lower (n : Nat) : c.lower.pass n = (c.pass n).lower := by
  show { c.lower with pos := c.pos + Text.size (c.lower.rest.take n) } = _
  rw [rest_lower, Text.take_lower, Text.size_lower]
  rfl

@[simp] theorem mark_lower : c.lower.mark = c.mark.lower := rfl

@[simp] theorem resolve_lower : c.lower.resolve .atCursor = (c.resolve .atCursor).lower := by
  have hstop : c.lower.stopAt .atCursor = c.stopAt .atCursor := by
    show (if c.text.lower.size ≤ c.window.start then c.window.start else max c.pos c.window.start) = _
    rw [Text.size_lower]
    rfl
  rw [resolve, hstop]
  rfl

@[simp] theorem token_lower : c.lower.token = c.token.lower := by
  show (c.text.lower.slice? c.span.1 c.span.2).getD [] = _
  rw [Text.slice?_lower, token]
  cases c.text.slice? c.span.1 c.span.2 <;> rfl

@[simp] theorem fail_lower (cause : Cause) :
    (c.lower.fail .atCursor cause : Outcome α) = (c.fail .atCursor cause).lower := by
  rw [fail, resolve_lower, token_lower]
  rfl

section

variable {c} (hblank : ∀ x, c.isBlank (foldCase x) = c.isBlank x)

include hblank

theorem skipIf_lower (skip : Bool) : c.lower.skipIf skip = (c.skipIf skip).lower := by
  have hgap : c.lower.gap skip = Text.lower (c.gap skip) := by
    cases skip
    · rfl
    · show c.lower.rest.takeWhile c.isBlank = _
      rw [rest_lower, Text.takeWhile_lower hblank]
      rfl
  rw [skipIf_eq_pass, hgap, pass_lower, Text.lower, List.length_map, ← skipIf_eq_pass]

theorem finish_lower (skip : Bool) : c.lower.finish skip = (c.finish skip).lower := by
  rw [finish, resolve_lower, skipIf_lower (c := c.resolve .atCursor) hblank]
  rfl

/-- **Looking up a keyword commutes with folding the text.** -/
theorem matchKeyword_lower (list : Text) (s : Flags) :
    c.lower.matchKeyword list s = (c.matchKeyword list s).lower := by
  have hname : ∀ t : Text, t.lower.takeWhile (isNameChar s) = Text.lower (t.takeWhile (isNameChar s)) :=
    Text.takeWhile_lower (isNameChar_foldCase s)
  have hfold : ∀ t : Text, t.lower.map foldCase = t.map foldCase := Text.lower_lower
  have hlength : ∀ t : Text, t.lower.length = t.length := fun t => List.length_map _
  have hnil : ∀ t : Text, t.lower = [] ↔ t = [] := fun t => List.map_eq_nil_iff
  have hskip := skipIf_lower hblank (s.has .skipBlanks)
  have hfinish : ∀ n, ((c.skipIf (s.has .skipBlanks)).mark.pass n).lower.finish (s.has .skipBlanks) =
      (((c.skipIf (s.has .skipBlanks)).mark.pass n).finish (s.has .skipBlanks)).lower := fun n => by
    refine finish_lower (fun x => ?_) _
    rw [isBlank_pass, isBlank_mark, isBlank_skipIf, hblank]
  simp only [matchKeyword, hskip, current?_lower, Option.map_eq_none_iff, mark_lower, rest_lower, hname, hfold, hlength,
    hnil, pass_lower, hfinish, fail_lower]
  split
  · rfl
  · split
    · rfl
    · split
      · rfl
      · split <;> rfl

end

end Cursor

/-! ## Texts that differ in letter case -/

/-- The cursors stand at the same place of two texts that differ in letter case at most, with the same window. -/
structure Cursor.SameButCase (c d : Cursor) : Prop where
  text : c.text.lower = d.text.lower
  pos : c.pos = d.pos
  config : c.config = d.config
  window : c.window = d.window

/-- The outcomes have the same value, or faults of one cause at one place, whose tokens differ in letter case at most. -/
structure Outcome.SameButCase (o o' : Outcome α) : Prop where
  value : ∀ a, o.answer = .ok a ↔ o'.answer = .ok a
  fault : ∀ f, o.answer = .error f →
    ∃ f', o'.answer = .error f' ∧ f'.cause = f.cause ∧ f'.pos = f.pos ∧ f'.token.lower = f.token.lower
  cursor : o.cursor.SameButCase o'.cursor

theorem Cursor.lower_eq_iff {c d : Cursor} : c.lower = d.lower ↔ c.SameButCase d := by
  constructor
  · intro h
    have hpos : c.lower.pos = d.lower.pos := congrArg pos h
    have hconfig : c.lower.config = d.lower.config := congrArg config h
    have hwindow : c.lower.window = d.lower.window := congrArg window h
    exact ⟨congrArg text h, hpos, hconfig, hwindow⟩
  · rintro ⟨htext, hpos, hconfig, hwindow⟩
    rw [lower, lower, htext, hpos, hconfig, hwindow]

theorem Outcome.sameButCase_of_lower_eq {o o' : Outcome α} (h : o.lower = o'.lower) : o.SameButCase o' := by
  obtain ⟨a, c⟩ := o
  obtain ⟨a', c'⟩ := o'
  have hanswer : a.mapError Fault.lower = a'.mapError Fault.lower := congrArg answer h
  have hcursor := Cursor.lower_eq_iff.1 (congrArg cursor h)
  cases a with
  | ok v =>
    cases a' with
    | ok v' =>
      cases hanswer
      exact ⟨fun _ => Iff.rfl, nofun, hcursor⟩
    | error f' => cases hanswer
  | error f =>
    cases a' with
    | ok v' => cases hanswer
    | error f' =>
      have hfault : f.lower = f'.lower := Except.error.inj hanswer
      refine ⟨fun _ => ⟨nofun, nofun⟩, fun g hg => ⟨f', rfl, ?_⟩, hcursor⟩
      cases hg
      exact ⟨(congrArg Fault.cause hfault).symm, (congrArg Fault.pos hfault).symm, (congrArg Fault.token hfault).symm⟩

namespace Cursor

/-- **The lookup of a keyword does not see letter case.**  Two texts that differ in nothing else, read with blanks that do not
tell case apart either, have the same boundaries, and at the same place any lookup in them has the same outcome: one match, or
one fault whose tokens differ in letter case at most, with the cursor and its window at the same place behind it. -/
theorem matchKeyword_sameButCase {c d : Cursor} (h : c.SameButCase d)
    (hblank : ∀ x y, foldCase x = foldCase y → c.isBlank x = c.isBlank y) :
    (∀ n, c.text.isBoundary n = d.text.isBoundary n) ∧
    ∀ (list : Text) (s : Flags), (c.matchKeyword list s).SameButCase (d.matchKeyword list s) := by
  constructor
  · intro n
    rw [← Text.isBoundary_lower, h.text, Text.isBoundary_lower]
  · intro list s
    apply Outcome.sameButCase_of_lower_eq
    have hc : ∀ x, c.isBlank (foldCase x) = c.isBlank x := fun x => hblank _ _ (foldCase_foldCase x)
    have hd : ∀ x, d.isBlank (foldCase x) = d.isBlank x := fun x => by
      have hx := hc x
      rwa [isBlank, isBlank, h.config] at hx
    rw [← matchKeyword_lower hc, lower_eq_iff.2 h, matchKeyword_lower hd]

theorem matchKeyword_sameButCase_umlaut :
    let c := ofText [' ', 'G', 'r', 'Ü', 'n', ' '] {}
    let d := ofText [' ', 'g', 'R', 'ü', 'N', ' '] {}
    let list : Text := ['g', 'r', 'ü', 'n', '\t', 'g', 'r', 'ü', 'n', '-', 'r', 'o', 't']
    let s := Flags.ofList [.skipBlanks, .umlaut]
    (c.SameButCase d ∧ ∀ x y, foldCase x = foldCase y → c.isBlank x = c.isBlank y) ∧
    ((∀ n, c.text.isBoundary n = d.text.isBoundary n) ∧
      ∀ (list : Text) (s : Flags), (c.matchKeyword list s).SameButCase (d.matchKeyword list s)) ∧
    (c.matchKeyword list s).answer = .error ⟨.ambiguous, ['G', 'r', 'Ü', 'n'], 1⟩ ∧
    (d.matchKeyword list s).answer = .error ⟨.ambiguous, ['g', 'R', 'ü', 'N'], 1⟩ := by
  intro c d list s
  have hcase : c.SameButCase d := ⟨by decide, rfl, rfl, rfl⟩
  have hblank : ∀ x y, foldCase x = foldCase y → c.isBlank x = c.isBlank y := fun x y hxy =>
    isBlank_eq_of_casePairs (s := {}) (by decide) hxy
  exact ⟨⟨hcase, hblank⟩, matchKeyword_sameButCase hcase hblank, by decide, by decide⟩

end Cursor
end TextCursor
