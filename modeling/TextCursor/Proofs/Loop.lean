import TextCursor.Cursor.Step
/-!
# Reading in a loop

A loop makes one call after another until the text is read to its end (`callsWithin`).  It comes to an end if every call
shortens what is left, and what holds of all its calls is proved from the end backwards (`exists_calls`).
-/
namespace TextCursor

/-- A call in a loop: the cursor it was made at, and what it left. -/
structure Call (α : Type) where
  before : Cursor
  outcome : Outcome α

namespace Cursor

variable {α : Type}

/-- The calls that a loop makes until the text is read to its end, after blanks if asked; none if that takes more than `n`
calls. -/
def callsWithin (skip : Bool) (body : Cursor → Outcome α) : Nat → Cursor → Option (List (Call α))
  | 0, c => if (c.atEnd skip).1 then some [] else none
  | n + 1, c =>
    if (c.atEnd skip).1 then some []
    else
      let k : Call α := ⟨(c.atEnd skip).2, body (c.atEnd skip).2⟩
      (callsWithin skip body n k.outcome.cursor).map (k :: ·)

/-- **A loop whose calls shorten what is left comes to an end**, and its calls satisfy whatever the empty list does at the
end and one more call in front preserves. -/
theorem exists_calls (skip : Bool) (body : Cursor → Outcome α) (I : Cursor → Prop) (R : Cursor → List (Call α) → Prop)
    (hdone : ∀ c, I c → (c.atEnd skip).1 = true → R c [])
    (hcall : ∀ c, I c → (c.atEnd skip).1 = false →
      I (body (c.atEnd skip).2).cursor ∧ (body (c.atEnd skip).2).cursor.rest.length < c.rest.length ∧
      ∀ ks, R (body (c.atEnd skip).2).cursor ks → R c (⟨(c.atEnd skip).2, body (c.atEnd skip).2⟩ :: ks)) :
    ∀ (n : Nat) (c : Cursor), I c → c.rest.length ≤ n → ∃ ks, callsWithin skip body n c = some ks ∧ R c ks := by
  intro n
  induction n with
  | zero =>
    intro c hc hn
    cases he : (c.atEnd skip).1 with
    | true => exact ⟨[], by rw [callsWithin, he]; rfl, hdone c hc he⟩
    | false =>
      have hlt := (hcall c hc he).2.1
      omega
  | succ n ih =>
    intro c hc hn
    cases he : (c.atEnd skip).1 with
    | true => exact ⟨[], by rw [callsWithin, he]; rfl, hdone c hc he⟩
    | false =>
      obtain ⟨hi, hlt, hr⟩ := hcall c hc he
      obtain ⟨ks, hks, hrs⟩ := ih _ hi (by omega)
      refine ⟨_, ?_, hr ks hrs⟩
      rw [callsWithin, he]
      simp only [Bool.false_eq_true, if_false, hks, Option.map_some]

end Cursor
end TextCursor
