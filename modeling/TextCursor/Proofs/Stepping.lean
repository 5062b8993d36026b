import TextCursor.Proofs.Progress
/-!
# Stepping and looking ahead

Stepping on until there is no character left (`Cursor.walk`) shows every character of the rest once, at the offset where it
starts (`walk_peek`), and a cursor at the end of the text stays there.  Looking ahead shows what a step would show, and is no
step: a run of looks, however long, leaves the cursor that it starts from (`run_lookAhead`).
-/
namespace TextCursor

/-- The characters of a text with the offsets where they start, if the text itself starts at `p`. -/
def Text.placed : Nat → Text → List (Nat × Char)
  | _, [] => []
  | p, x :: t => (p, x) :: placed (p + x.utf8Size) t

theorem Text.map_snd_placed (p : Nat) (t : Text) : (placed p t).map Prod.snd = t := by
  induction t generalizing p with
  | nil => rfl
  | cons x t ih => rw [placed, List.map_cons, ih]

/-- **Each character starts at its offset.** -/
theorem Text.after?_of_mem_placed {s t : Text} {q : Nat × Char} (h : q ∈ placed (size s) t) :
    ∃ r, (s ++ t).after? q.1 = some (q.2 :: r) := by
  induction t generalizing s with
  | nil => cases h
  | cons x t ih =>
    rcases List.mem_cons.1 h with rfl | h
    · exact ⟨t, after?_append s (x :: t)⟩
    · have hsize : size s + x.utf8Size = size (s ++ [x]) := by simp
      rw [hsize] at h
      obtain ⟨r, hr⟩ := ih h
      exact ⟨r, by rw [← hr, List.append_assoc, List.singleton_append]⟩

namespace Cursor

/-- Steps on behind a first look until a step fails.  The outcomes are answered in order, the failure as the last one; there is
no answer if more than `n` steps succeed. -/
def walk : Nat → Outcome Char → Option (List (Outcome Char))
  | n, o =>
    match o.answer, n with
    | .error _, _ => some [o]
    | .ok _, 0 => none
    | .ok _, n + 1 => (walk n (o.cursor.next false)).map (o :: ·)

/-- The outcome of a step to a character. -/
def visit (c : Cursor) (q : Nat × Char) : Outcome Char := ⟨.ok q.2, { c with pos := q.1 }⟩

/-- The outcome of a step where no character is left. -/
def pastEnd (c : Cursor) : Outcome Char := ⟨.error (.outOfRange c.text.size), { c with pos := c.text.size }⟩

variable {c : Cursor}

theorem peek_of_rest_cons {x : Char} {r : Text} (h : c.rest = x :: r) : c.peek false = c.visit (c.pos, x) := by
  have hx : c.current? = some x := by rw [current?, h]; rfl
  simp only [peek, skipIf_false, hx]
  rfl

theorem peek_of_rest_nil (hb : c.OnBoundary) (h : c.rest = []) : c.peek false = c.pastEnd := by
  have hx : c.current? = none := by rw [current?, h]; rfl
  have hpos : c.pos = c.text.size := by rw [← pos_add_size_rest hb, h]; rfl
  simp only [peek, skipIf_false, hx, pastEnd, ← hpos]

/-- **A walk shows every character of the rest once**, where it starts, and then fails at the end of the text. -/
theorem walk_peek (hb : c.OnBoundary) {n : Nat} (hn : c.rest.length ≤ n) :
    walk n (c.peek false) = some ((c.rest.placed c.pos).map c.visit ++ [c.pastEnd]) := by
  generalize hr : c.rest = r at hn ⊢
  induction r generalizing c n with
  | nil =>
    rw [peek_of_rest_nil hb hr]
    cases n <;> rfl
  | cons x r ih =>
    obtain ⟨m, rfl⟩ : ∃ m, n = m + 1 := ⟨n - 1, by rw [List.length_cons] at hn; omega⟩
    have hrest : (c.pass 1).rest = r := by rw [rest_pass, hr]; rfl
    have hpos : (c.pass 1).pos = c.pos + x.utf8Size := by rw [pos_pass, hr]; rfl
    -- the cursor of a first look is the one looked from, and what a step may answer does not depend on where it starts
    have hstep : (c.visit (c.pos, x)).cursor.next false = (c.pass 1).peek false := rfl
    have hwalk := ih (onBoundary_pass hb 1) hrest (Nat.le_of_succ_le_succ hn)
    rw [peek_of_rest_cons hr]
    show (walk m ((c.visit (c.pos, x)).cursor.next false)).map (c.visit (c.pos, x) :: ·) = _
    rw [hstep, hwalk, hpos]
    rfl

/-- **Behind the end of the text nothing changes any more.** -/
theorem next_pastEnd (c : Cursor) : c.pastEnd.cursor.next false = c.pastEnd := by
  have hrest : c.pastEnd.cursor.rest = [] := rest_eq_nil_of_size_le (Nat.le_refl c.text.size)
  have hpass : c.pastEnd.cursor.pass 1 = c.pastEnd.cursor := by
    rw [pass, hrest]
    rfl
  rw [next, hpass]
  exact peek_of_rest_nil (Text.isBoundary_size c.text) hrest

theorem lookAhead_eq (c : Cursor) (skip : Bool) : c.lookAhead skip = ⟨(c.next skip).answer, c⟩ := by
  have hcursor : (c.next skip).cursor = (c.pass 1).skipIf skip := cursor_peek _ _
  rw [lookAhead, hcursor, skipIf_eq_pass]
  rfl

/-- Commands that leave the cursor as it is answer in a run what each answers alone. -/
theorem run_of_stays {ms : List Command} (h : ∀ m ∈ ms, (c.perform m).cursor = c) : c.run ms = ms.map c.perform := by
  induction ms with
  | nil => rfl
  | cons m ms ih =>
    rw [run, h m List.mem_cons_self, ih fun m' hm' => h m' (List.mem_cons_of_mem m hm')]
    rfl

theorem run_lookAhead (c : Cursor) (skips : List Bool) :
    c.run (skips.map .lookAhead) = skips.map fun skip => ⟨(c.perform (.next skip)).answer, c⟩ := by
  have hlook : ∀ skip, c.perform (.lookAhead skip) = ⟨(c.perform (.next skip)).answer, c⟩ := fun skip => by
    show (c.lookAhead skip).map Reply.char = _
    rw [lookAhead_eq]
    rfl
  rw [run_of_stays fun m hm => ?_, List.map_map]
  · exact List.map_congr_left fun skip _ => hlook skip
  · obtain ⟨skip, -, rfl⟩ := List.mem_map.1 hm
    rw [hlook]

theorem run_pastEnd (c : Cursor) (k : Nat) :
    c.pastEnd.cursor.run (List.replicate k (.next false)) = List.replicate k (c.pastEnd.map .char) := by
  have hstep : c.pastEnd.cursor.perform (.next false) = c.pastEnd.map .char := by rw [perform, next_pastEnd]
  rw [run_of_stays fun m hm => ?_, List.map_replicate, hstep]
  rw [List.eq_of_mem_replicate hm, hstep]
  rfl

/-- **Stepping visits every character once, and looking ahead visits none.**  From any place in the text, a first look and steps
until one fails show the characters that were left, in order, each with the cursor where it starts; the failure is at the end of
the text, and so is every further one.  Looking ahead, any number of times and over blanks or not, answers what a step would
answer, a failure and its offset included, and leaves everything as it was. -/
theorem stepping_exact :
    (∀ c : Cursor, c.OnBoundary →
      walk c.rest.length (c.peek false) = some ((c.rest.placed c.pos).map c.visit ++ [c.pastEnd]) ∧
      c.text.after? c.pos = some ((c.rest.placed c.pos).map Prod.snd) ∧
      (∀ q ∈ c.rest.placed c.pos, ∃ r, c.text.after? q.1 = some (q.2 :: r)) ∧
      ∀ k, c.pastEnd.cursor.run (List.replicate k (.next false)) = List.replicate k (c.pastEnd.map .char)) ∧
    ∀ (c : Cursor) (skips : List Bool),
      c.run (skips.map .lookAhead) = skips.map fun skip => ⟨(c.perform (.next skip)).answer, c⟩ := by
  refine ⟨fun c hb => ⟨walk_peek hb (Nat.le_refl _), ?_, fun q hq => ?_, c.run_pastEnd⟩, run_lookAhead⟩
  · rw [Text.map_snd_placed, after?_pos hb]
  · obtain ⟨p, htext, hpos⟩ := onBoundary_iff.1 hb
    rw [← hpos] at hq
    rw [htext]
    exact Text.after?_of_mem_placed hq

/-- Characters of two, three and four bytes behind one of one byte. -/
theorem stepping_exact_wide :
    let c := (ofText ['a', 'ä', '€', '𝄞'] {}).after [.next false]
    c.OnBoundary ∧
    walk 3 (c.peek false) = some
      [c.visit (1, 'ä'), c.visit (3, '€'), c.visit (6, '𝄞'), ⟨.error (.outOfRange 10), { c with pos := 10 }⟩] ∧
    c.run [.lookAhead true, .lookAhead false] = [⟨.ok (.char '€'), c⟩, ⟨.ok (.char '€'), c⟩] := by
  intro c
  have hb : c.OnBoundary := rfl
  exact ⟨hb, (stepping_exact.1 c hb).1, stepping_exact.2 c [true, false]⟩

end Cursor
end TextCursor
