import TextCursor.Cursor.Number
import TextCursor.Proofs.Token
/-!
# How floating point numbers are written

A floating point number is a sign or none, the longest run of digits behind it, a point or none, and behind a point the longest
run of digits there (`FloatParts.ofText`).  It is complete when it has digits, and digits behind its point if it has one.  The
reader takes these parts one after the other and never goes back, so it reads exactly the complete ones (`readFloat_exact`).
-/
namespace TextCursor

/-- The parts of a floating point number. -/
structure FloatParts where
  /-- One sign or none. -/
  sign : Text
  /-- The digits before the point. -/
  whole : Text
  /-- One point or none; it may be a comma where that is accepted. -/
  point : Text
  /-- The digits behind the point. -/
  part : Text
  deriving DecidableEq

def isSign (x : Char) : Bool := x == '+' || x == '-'

def isPoint (comma : Bool) (x : Char) : Bool := x == '.' || (comma && x == ',')

namespace FloatParts

/-- The first character of a text if it is of a class, or nothing. -/
def lead (p : Char → Bool) (t : Text) : Text := (t.take 1).filter p

/-- The parts that a text starts with, each behind the ones before it. -/
def ofText (comma : Bool) (t : Text) : FloatParts :=
  let sign := lead isSign t
  let whole := (t.drop sign.length).takeWhile Char.isDigit
  let point := lead (isPoint comma) (t.drop (sign ++ whole).length)
  let part := if point = [] then [] else (t.drop (sign ++ whole ++ point).length).takeWhile Char.isDigit
  ⟨sign, whole, point, part⟩

def token (p : FloatParts) : Text := p.sign ++ p.whole ++ p.point ++ p.part

/-- There are digits, and digits behind the point if there is one. -/
def Complete (p : FloatParts) : Prop := p.whole ≠ [] ∧ (p.point = [] ∨ p.part ≠ [])

/-- The number that the parts denote. -/
def value (p : FloatParts) : Float :=
  signedFloat (p.sign = ['-'])
    (if p.point = [] then wholeFloat p.whole else wholeFloat p.whole + (Fraction.ofDigits p.part).toFloat)

theorem prefix_behind {s t u : Text} (hs : s <+: t) (hu : u <+: t.drop s.length) : s ++ u <+: t := by
  obtain ⟨v, rfl⟩ := hs
  rw [List.drop_left] at hu
  exact (List.prefix_append_right_inj s).2 hu

theorem lead_nil (p : Char → Bool) : lead p [] = [] := rfl

theorem lead_cons_of_pos {p : Char → Bool} {x : Char} (hx : p x = true) (t : Text) : lead p (x :: t) = [x] :=
  List.filter_cons_of_pos hx

theorem lead_cons_of_neg {p : Char → Bool} {x : Char} (hx : p x ≠ true) (t : Text) : lead p (x :: t) = [] :=
  List.filter_cons_of_neg hx

theorem lead_prefix (p : Char → Bool) (t : Text) : lead p t <+: t := by
  cases t with
  | nil => exact List.prefix_refl _
  | cons x t =>
    by_cases hx : p x = true
    · rw [lead_cons_of_pos hx]
      exact List.prefix_append [x] t
    · rw [lead_cons_of_neg hx]
      exact List.nil_prefix

theorem of_mem_lead {p : Char → Bool} {t : Text} {x : Char} (hx : x ∈ lead p t) : p x = true := (List.mem_filter.1 hx).2

/-- **The parts stand at the front of the text**, one behind the other. -/
theorem token_ofText_prefix (comma : Bool) (t : Text) : (ofText comma t).token <+: t := by
  refine prefix_behind (prefix_behind (prefix_behind ?_ ?_) ?_) ?_
  · exact lead_prefix _ _
  · exact List.takeWhile_prefix _
  · exact lead_prefix _ _
  · show (if _ = [] then [] else _) <+: _
    split
    · exact List.nil_prefix
    · exact List.takeWhile_prefix _

/-- A comma belongs to no number where it is not accepted as a point. -/
theorem comma_not_mem_token (t : Text) : ',' ∉ (ofText false t).token := by
  have hwhole : ∀ u : Text, ',' ∉ u.takeWhile Char.isDigit := fun u hu => absurd (List.mem_takeWhile_imp hu) (by decide)
  intro h
  rcases List.mem_append.1 h with h | hpart
  · rcases List.mem_append.1 h with h | hpoint
    · rcases List.mem_append.1 h with hsign | hdigits
      · exact absurd (of_mem_lead hsign) (by decide)
      · exact hwhole _ hdigits
    · exact absurd (of_mem_lead hpoint) (by decide)
  · have hpart : ',' ∈ if _ = [] then [] else _ := hpart
    split at hpart
    · cases hpart
    · exact hwhole _ hpart

end FloatParts

namespace Cursor

/-! ## What the reader takes -/

theorem acceptOneOf_sign (c : Cursor) :
    (c.acceptOneOf ['+', '-'] false).2 = c.pass (FloatParts.lead isSign c.rest).length ∧
    ((c.acceptOneOf ['+', '-'] false).1 = some 2 ↔ FloatParts.lead isSign c.rest = ['-']) := by
  simp only [acceptOneOf, skipIf_false, current?]
  cases c.rest with
  | nil => simp [FloatParts.lead_nil]
  | cons x t =>
    rw [List.head?_cons]
    by_cases hplus : x = '+'
    · subst hplus
      rw [FloatParts.lead_cons_of_pos (by rfl)]
      exact ⟨rfl, show (some 1 : Option Nat) = some 2 ↔ ['+'] = ['-'] by decide⟩
    · by_cases hminus : x = '-'
      · subst hminus
        rw [FloatParts.lead_cons_of_pos (by rfl)]
        exact ⟨rfl, show (some 2 : Option Nat) = some 2 ↔ ['-'] = ['-'] by decide⟩
      · have hnone : List.idxOf? x ['+', '-'] = none := by
          simp [List.idxOf?_eq_none_iff, hplus, hminus]
        rw [FloatParts.lead_cons_of_neg (by simp [isSign, hplus, hminus])]
        simp only [hnone]
        exact ⟨(pass_zero c).symm, by simp⟩

theorem acceptPoint_eq_lead (c : Cursor) (comma : Bool) :
    c.acceptPoint comma =
      (!(FloatParts.lead (isPoint comma) c.rest).isEmpty, c.pass (FloatParts.lead (isPoint comma) c.rest).length) := by
  have hcurrent : c.current? = c.rest.head? := rfl
  have hmiss : ∀ x, c.current? ≠ some x → c.accept x false = (false, c) := fun x hx => accept_miss hx
  have hhit : ∀ x, c.current? = some x → c.accept x false = (true, c.pass 1) := fun x hx => accept_hit hx
  rw [acceptPoint]
  cases hrest : c.rest with
  | nil =>
    rw [hrest] at hcurrent
    have hstay : (false, c) = (false, c.pass 0) := by rw [pass_zero]
    rw [hmiss '.' (by simp [hcurrent])]
    cases comma
    · exact hstay
    · exact (hmiss ',' (by simp [hcurrent])).trans hstay
  | cons x t =>
    rw [hrest, List.head?_cons] at hcurrent
    by_cases hpoint : x = '.'
    · rw [hhit '.' (by rw [hcurrent, hpoint]), FloatParts.lead_cons_of_pos (by simp [isPoint, hpoint])]
      rfl
    · rw [hmiss '.' (by simp [hcurrent, hpoint])]
      by_cases hcomma : comma = true ∧ x = ','
      · rw [FloatParts.lead_cons_of_pos (by simp [isPoint, hcomma])]
        dsimp only
        rw [if_pos hcomma.1, hhit ',' (by rw [hcurrent, hcomma.2])]
        rfl
      · rw [FloatParts.lead_cons_of_neg (by simpa [isPoint, hpoint] using hcomma)]
        dsimp only
        split
        · rename_i hc
          rw [hmiss ',' (by simp [hcurrent]; exact fun h => hcomma ⟨hc, h⟩)]
          exact Prod.ext rfl (pass_zero c).symm
        · exact Prod.ext rfl (pass_zero c).symm

/-- **The reader takes the parts one after the other.** -/
theorem readFloat_eq {c d : Cursor} {s : Flags} (hd : c.skipIf (s.has .skipBlanks) = d) {p : FloatParts}
    (hp : FloatParts.ofText (s.has .comma) d.rest = p) :
    c.readFloat s =
      if p.whole = [] then d.blameWord p.sign.length .floatExpected
      else if p.point ≠ [] ∧ p.part = [] then d.blame p.token .floatExpected
      else ⟨.ok p.value, (d.afterToken p.token).skipIf (s.has .skipBlanks)⟩ := by
  obtain ⟨hpass, hnegative⟩ := acceptOneOf_sign d.mark
  have hsign : p.sign = FloatParts.lead isSign d.rest := by rw [← hp]; rfl
  have hwhole : p.whole = (d.rest.drop p.sign.length).takeWhile Char.isDigit := by rw [← hp]; rfl
  have hpoint : p.point = FloatParts.lead (isPoint (s.has .comma)) (d.rest.drop (p.sign ++ p.whole).length) := by
    rw [← hp]; rfl
  have hpart : p.part = if p.point = [] then [] else
      (d.rest.drop (p.sign ++ p.whole ++ p.point).length).takeWhile Char.isDigit := by rw [← hp]; rfl
  have htake : d.rest.take p.token.length = p.token := by
    rw [← hp]
    exact (List.prefix_iff_eq_take.1 (FloatParts.token_ofText_prefix _ _)).symm
  rw [rest_mark, ← hsign] at hpass hnegative
  simp only [readFloat, hd, hpass, decide_eq_decide.2 hnegative, rest_pass, rest_mark, ← hwhole, pass_pass,
    ← List.length_append, acceptPoint_eq_lead, ← hpoint]
  by_cases hnone : p.whole = []
  · rw [if_pos hnone, if_pos hnone, fail_word, hnone, List.append_nil]
  · rw [if_neg hnone, if_neg hnone]
    by_cases hinteger : p.point = []
    · have hempty : p.part = [] := hpart.trans (if_pos hinteger)
      have htoken : p.token = p.sign ++ p.whole ++ p.point := by rw [FloatParts.token, hempty, List.append_nil]
      have hvalue : p.value = signedFloat (p.sign = ['-']) (wholeFloat p.whole) := by
        rw [FloatParts.value, if_pos hinteger]
      rw [if_neg fun h => h.1 hinteger, hvalue, ← htoken, hinteger]
      show (⟨_, (d.mark.pass p.token.length).finish _⟩ : Outcome Float) = _
      rw [finish_passed, htake]
    · have hbehind : p.part = (d.rest.drop (p.sign ++ p.whole ++ p.point).length).takeWhile Char.isDigit :=
        hpart.trans (if_neg hinteger)
      have hpointed : (!p.point.isEmpty) = true := by simpa using hinteger
      have hvalue : p.value =
          signedFloat (p.sign = ['-']) (wholeFloat p.whole + (Fraction.ofDigits p.part).toFloat) := by
        rw [FloatParts.value, if_neg hinteger]
      have hpassed : (d.mark.pass (p.sign ++ p.whole ++ p.point).length).pass p.part.length =
          d.mark.pass p.token.length := by rw [pass_pass, ← List.length_append]; rfl
      simp only [hpointed, rest_pass, rest_mark, ← hbehind, hpassed, hvalue]
      by_cases hpartless : p.part = []
      · rw [if_pos hpartless, if_pos ⟨hinteger, hpartless⟩, fail_passed, htake]
      · rw [if_neg hpartless, if_neg fun h => hpartless h.2, finish_passed, htake]

/-- **The reader reads exactly the floating point numbers that are complete**, of any length, and a comma only where it may be
a point.  Without digits it blames the word that the number would start and stays behind the sign; without digits behind a
point it blames what it has taken, through the point. -/
theorem readFloat_exact (c : Cursor) (s : Flags) :
    let d := c.skipIf (s.has .skipBlanks)
    let p := FloatParts.ofText (s.has .comma) d.rest
    let o := c.readFloat s
    (p.token <+: d.rest ∧ (s.has .comma = false → ',' ∉ p.token)) ∧
    ((∃ x, o.answer = .ok x) ↔ p.Complete) ∧
    (p.whole = [] → o = d.blameWord p.sign.length .floatExpected) ∧
    (p.whole ≠ [] → p.point ≠ [] → p.part = [] → o = d.blame (p.sign ++ p.whole ++ p.point) .floatExpected) ∧
    (p.Complete → o = ⟨.ok p.value, (d.afterToken p.token).skipIf (s.has .skipBlanks)⟩) := by
  intro d p o
  have ho : o = _ := readFloat_eq (c := c) (s := s) (d := d) (p := p) rfl rfl
  have hnone : p.whole = [] → o = d.blameWord p.sign.length .floatExpected := fun h => by
    rw [ho, if_pos h]
  have hopen : p.whole ≠ [] → p.point ≠ [] → p.part = [] →
      o = d.blame (p.sign ++ p.whole ++ p.point) .floatExpected := fun h hpoint hpart => by
    rw [ho, if_neg h, if_pos ⟨hpoint, hpart⟩, FloatParts.token, hpart, List.append_nil]
  have hcomplete : p.Complete → o = ⟨.ok p.value, (d.afterToken p.token).skipIf (s.has .skipBlanks)⟩ := fun h => by
    rw [ho, if_neg h.1, if_neg fun hn => h.2.elim hn.1 fun hpart => hpart hn.2]
  refine ⟨⟨FloatParts.token_ofText_prefix _ _, fun hcomma => ?_⟩, ⟨?_, fun h => ⟨_, by rw [hcomplete h]⟩⟩, hnone, hopen,
    hcomplete⟩
  · have hp : p = FloatParts.ofText false d.rest := by rw [← hcomma]
    rw [hp]
    exact FloatParts.comma_not_mem_token _
  · rintro ⟨x, hx⟩
    have hwhole : p.whole ≠ [] := fun h => by
      rw [hnone h] at hx
      cases hx
    refine ⟨hwhole, or_iff_not_imp_left.2 fun hpoint hpart => ?_⟩
    rw [hopen hwhole hpoint hpart] at hx
    cases hx

/-- A second point ends the number, and so does a comma that is no point. -/
example :
    FloatParts.ofText true ['-', '1', ',', '5', '.', '5'] = ⟨['-'], ['1'], [','], ['5']⟩ ∧
    FloatParts.ofText false ['1', ',', '5'] = ⟨[], ['1'], [], []⟩ := by
  decide

end Cursor
end TextCursor
