import Mathlib.Order.Bounds.Basic
import TextCursor.Command
import TextCursor.Proofs.Token
/-!
# Fixed characters in their four forms

The character at the cursor is looked up in a set (`Cursor.LookedUp`): a hit answers its first place there and steps over it, a
miss steps over nothing.  A single expected character is a set of one, and a form that fails on a miss is the plain form, with
the miss blamed on the word at the cursor (`FailsOnMiss`).  `fixed_forms_agree` puts the four together.
-/
namespace TextCursor

variable {α : Type}

/-- The places of a character in a set of characters, counted from one. -/
def Text.places (set : Text) (x : Char) : Set Nat := {n | ∃ i, n = i + 1 ∧ set[i]? = some x}

theorem Text.isLeast_places_iff {set : Text} {x : Char} {n : Nat} :
    IsLeast (set.places x) n ↔ ∃ i, set.idxOf? x = some i ∧ n = i + 1 := by
  simp only [List.idxOf?_eq_some_iff]
  constructor
  · rintro ⟨⟨i, rfl, hi⟩, hleast⟩
    obtain ⟨hlt, hx⟩ := List.getElem?_eq_some_iff.1 hi
    refine ⟨i, ⟨hlt, hx, fun j hj hxj => ?_⟩, rfl⟩
    have hle : i + 1 ≤ j + 1 := hleast ⟨j, rfl, List.getElem?_eq_some_iff.2 ⟨by omega, hxj⟩⟩
    omega
  · rintro ⟨i, ⟨hlt, hx, hbefore⟩, rfl⟩
    refine ⟨⟨i, rfl, List.getElem?_eq_some_iff.2 ⟨hlt, hx⟩⟩, ?_⟩
    rintro _ ⟨j, rfl, hj⟩
    obtain ⟨_, hxj⟩ := List.getElem?_eq_some_iff.1 hj
    by_contra hlt
    exact hbefore j (by omega) hxj

namespace Cursor

/-- What looking up the character at the cursor in a set answers, and the cursor it leaves. -/
inductive LookedUp (c : Cursor) (set : Text) (skip : Bool) : Option Nat × Cursor → Prop where
  | hit (x : Char) (r : Text) (n : Nat) : (c.skipIf skip).rest = x :: r → IsLeast (set.places x) n →
      LookedUp c set skip (some n, Cursor.skipIf { c.skipIf skip with pos := (c.skipIf skip).pos + x.utf8Size } skip)
  | miss : (∀ x r, (c.skipIf skip).rest = x :: r → x ∉ set) → LookedUp c set skip (none, c.skipIf skip)

variable {c : Cursor} {set : Text} {skip : Bool}

theorem pass_one_of_rest {d : Cursor} {x : Char} {r : Text} (h : d.rest = x :: r) :
    d.pass 1 = { d with pos := d.pos + x.utf8Size } := by
  rw [pass, h]
  rfl

theorem acceptOneOf_of_hit {x : Char} {r : Text} {i : Nat} (hrest : (c.skipIf skip).rest = x :: r)
    (hi : set.idxOf? x = some i) : c.acceptOneOf set skip =
      (some (i + 1), Cursor.skipIf { c.skipIf skip with pos := (c.skipIf skip).pos + x.utf8Size } skip) := by
  have hx : (c.skipIf skip).current? = some x := by rw [current?, hrest]; rfl
  simp only [acceptOneOf, hx, hi, pass_one_of_rest hrest]

theorem acceptOneOf_of_miss (h : ∀ x r, (c.skipIf skip).rest = x :: r → x ∉ set) :
    c.acceptOneOf set skip = (none, c.skipIf skip) := by
  simp only [acceptOneOf]
  split
  · rfl
  · rename_i x hx
    rw [List.idxOf?_eq_none_iff.2 (h x _ (rest_of_current? hx))]

/-- **A look-up answers the first place, and steps over a hit only.** -/
theorem lookedUp_iff {q : Option Nat × Cursor} : c.LookedUp set skip q ↔ q = c.acceptOneOf set skip := by
  constructor
  · intro hq
    cases hq with
    | hit x r n hrest hn =>
      obtain ⟨i, hi, rfl⟩ := Text.isLeast_places_iff.1 hn
      exact (acceptOneOf_of_hit hrest hi).symm
    | miss h => exact (acceptOneOf_of_miss h).symm
  · rintro rfl
    by_cases h : ∀ x r, (c.skipIf skip).rest = x :: r → x ∉ set
    · rw [acceptOneOf_of_miss h]
      exact .miss h
    · push Not at h
      obtain ⟨x, r, hrest, hx⟩ := h
      obtain ⟨i, hi⟩ := Option.ne_none_iff_exists'.1 fun hnone => List.idxOf?_eq_none_iff.1 hnone hx
      rw [acceptOneOf_of_hit hrest hi]
      exact .hit x r _ hrest (Text.isLeast_places_iff.2 ⟨i, hi, rfl⟩)

/-- **A single expected character is a set of one.** -/
theorem acceptOneOf_singleton (c : Cursor) (x : Char) (skip : Bool) :
    c.acceptOneOf [x] skip = (if (c.accept x skip).1 then some 1 else none, (c.accept x skip).2) := by
  by_cases hx : (c.skipIf skip).current? = some x
  · have hi : [x].idxOf? x = some 0 := by simp
    have hrest := rest_of_current? hx
    rw [acceptOneOf_of_hit hrest hi, accept_hit hx, pass_one_of_rest hrest]
    rfl
  · rw [accept_miss hx]
    refine acceptOneOf_of_miss fun y r hrest hy => hx ?_
    rw [current?, hrest, List.mem_singleton.1 hy]
    rfl

end Cursor

/-- How the form that fails on a miss goes with what the plain form answers and the cursor it leaves. -/
structure FailsOnMiss (plain : Option α × Cursor) (what : Text) (o : Outcome α) : Prop where
  ok_iff : (∃ a, o.answer = .ok a) ↔ ∃ a, plain.1 = some a
  hit : ∀ a, plain.1 = some a → o = ⟨.ok a, plain.2⟩
  /-- A miss is blamed on what a mark and a look for the next blank then show, which is the word at the cursor. -/
  miss : plain.1 = none →
    (plain.2.perform .mark).cursor.perform (.lastToken (.only .toBlank)) = ⟨.ok (.text plain.2.word), o.cursor⟩ ∧
    o.answer = .error (.notFound what plain.2.word plain.2.pos) ∧ o.cursor.pos = plain.2.pos

namespace Cursor

theorem lastToken_mark (c : Cursor) :
    (c.perform .mark).cursor.perform (.lastToken (.only .toBlank)) = ⟨.ok (.text c.word), c.mark.resolve .atBlank⟩ := by
  have hends : (Flags.only .toBlank).toEnds? = some .atBlank := by decide
  show (⟨.ok (.text (c.mark.lastToken (Flags.only .toBlank).toEnds?).1), _⟩ : Outcome Reply) = _
  rw [hends, ← token_resolve_atBlank]
  rfl

theorem failsOnMiss_hit (a : α) (d : Cursor) (what : Text) : FailsOnMiss (some a, d) what ⟨.ok a, d⟩ where
  ok_iff := ⟨fun _ => ⟨a, rfl⟩, fun _ => ⟨a, rfl⟩⟩
  hit b hb := by cases hb; rfl
  miss h := by cases h

theorem failsOnMiss_miss (d : Cursor) (what : Text) :
    FailsOnMiss (none, d) what (d.mark.fail .atBlank (.notFound what) : Outcome α) where
  ok_iff := ⟨fun ⟨_, h⟩ => (by cases h), fun ⟨_, h⟩ => (by cases h)⟩
  hit a h := by cases h
  miss _ := by
    refine ⟨d.lastToken_mark, ?_, rfl⟩
    rw [fail, token_resolve_atBlank]
    rfl

theorem failsOnMiss_expectOneOf (c : Cursor) (set : Text) (skip : Bool) :
    FailsOnMiss (c.acceptOneOf set skip) ("one of `".toList ++ set ++ "`".toList) (c.expectOneOf set skip) := by
  unfold expectOneOf
  obtain ⟨place, d⟩ := c.acceptOneOf set skip
  cases place with
  | none => exact failsOnMiss_miss d _
  | some n => exact failsOnMiss_hit n d _

theorem failsOnMiss_expect (c : Cursor) (x : Char) (skip : Bool) :
    FailsOnMiss (if (c.accept x skip).1 then some () else none, (c.accept x skip).2) ("`".toList ++ [x] ++ "`".toList)
      (c.expect x skip) := by
  unfold expect
  obtain ⟨found, d⟩ := c.accept x skip
  cases found with
  | false => exact failsOnMiss_miss d _
  | true => exact failsOnMiss_hit () d _

/-- **The four forms of fixed characters agree.**  The character at the cursor, behind the blanks if they are skipped, is
answered by its first place in the set and stepped over, with the blanks behind it; where the set does not have it, or the text
ends, nothing is stepped over.  A single character is a set of one.  The forms that fail on a miss succeed where the plain ones
hit, with the same answer and the same cursor; a miss leaves the cursor where the plain form does, and is blamed on the word
there. -/
theorem fixed_forms_agree (c : Cursor) (skip : Bool) :
    (∀ set q, c.LookedUp set skip q ↔ q = c.acceptOneOf set skip) ∧
    (∀ x, c.acceptOneOf [x] skip = (if (c.accept x skip).1 then some 1 else none, (c.accept x skip).2)) ∧
    (∀ set, FailsOnMiss (c.acceptOneOf set skip) ("one of `".toList ++ set ++ "`".toList) (c.expectOneOf set skip)) ∧
    ∀ x, FailsOnMiss (if (c.accept x skip).1 then some () else none, (c.accept x skip).2)
      ("`".toList ++ [x] ++ "`".toList) (c.expect x skip) :=
  ⟨fun _ _ => lookedUp_iff, fun x => c.acceptOneOf_singleton x skip, fun set => c.failsOnMiss_expectOneOf set skip,
    fun x => c.failsOnMiss_expect x skip⟩

end Cursor
end TextCursor
