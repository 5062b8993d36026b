import TextCursor.Proofs.Progress
/-!
# Placing the cursor

A cursor is placed at an offset, or by a distance from where it is, and a window is opened at an offset.  Each is accepted at
the offsets of the text and nowhere else, changes one thing, and leaves everything as it was where it is refused
(`placing_exact`).  The offsets of a text are where its characters start, and its end (`Text.IsOffset`); stepping over one
character after the other leads to just these (`isOffset_iff_stepped`).  A distance is a machine word, and the sum with it is
checked there, which comes to the same as reckoning in numbers (`moveBy_toInt`).
-/
namespace TextCursor

namespace Text

variable {t : Text} {n : Nat}

/-- Texts are shorter than this, in bytes. -/
def sizeBound : Nat := 0x8000000000000000

/-- A character of the text starts at the offset. -/
def Starts (t : Text) (n : Nat) : Prop := ∃ p x r, t = p ++ x :: r ∧ size p = n

/-- The offset is where a character of the text starts, or the end of the text. -/
def IsOffset (t : Text) (n : Nat) : Prop := t.Starts n ∨ n = size t

theorem starts_iff : t.Starts n ↔ n < size t ∧ t.isBoundary n = true := by
  constructor
  · rintro ⟨p, x, r, rfl, rfl⟩
    have hx := x.utf8Size_pos
    refine ⟨?_, isBoundary_size_append _ _⟩
    rw [size_append, size_cons]
    omega
  · rintro ⟨hlt, hb⟩
    obtain ⟨p, r, rfl, rfl⟩ := isBoundary_iff.1 hb
    cases r with
    | nil =>
      rw [List.append_nil] at hlt
      exact absurd hlt (Nat.lt_irrefl _)
    | cons x r => exact ⟨p, x, r, rfl, rfl⟩

/-- **The boundaries are the offsets of the text.** -/
theorem isBoundary_iff_isOffset : t.isBoundary n = true ↔ t.IsOffset n := by
  rw [IsOffset, starts_iff]
  constructor
  · intro h
    rcases Nat.lt_or_eq_of_le (le_size_of_isBoundary h) with hlt | heq
    · exact .inl ⟨hlt, h⟩
    · exact .inr heq
  · rintro (⟨-, h⟩ | rfl)
    · exact h
    · exact isBoundary_size t

/-- The offsets are the sizes of the first characters, so many of them. -/
theorem isOffset_iff_exists_take : t.IsOffset n ↔ ∃ k, size (t.take k) = n := by
  rw [← isBoundary_iff_isOffset, isBoundary_iff]
  constructor
  · rintro ⟨p, r, rfl, rfl⟩
    exact ⟨p.length, by rw [List.take_left]⟩
  · rintro ⟨k, rfl⟩
    exact ⟨t.take k, t.drop k, (List.take_append_drop k t).symm, rfl⟩

end Text

/-! ## Sums in machine words -/

/-- The sum of an offset and a distance, reckoned in machine words; none where it is no word.  A word that wraps round becomes
smaller, which it has to do exactly if the distance is negative. -/
def sumWord? (p : UInt64) (d : Int64) : Option UInt64 :=
  if p + d.toUInt64 < p ↔ d < 0 then some (p + d.toUInt64) else none

/-- **The check finds the sums that are exact.** -/
theorem sumWord?_eq_some {p q : UInt64} {d : Int64} : sumWord? p d = some q ↔ (p.toNat : Int) + d.toInt = q.toNat := by
  have hp := p.toNat_lt
  have hq := q.toNat_lt
  have hword := d.toUInt64.toNat_lt
  have hsum : (p + d.toUInt64).toNat = (p.toNat + d.toUInt64.toNat) % 2 ^ 64 := UInt64.toNat_add _ _
  have hdistance : d.toInt = if 2 * d.toUInt64.toNat < 2 ^ 64 then (d.toUInt64.toNat : Int)
      else (d.toUInt64.toNat : Int) - (2 ^ 64 : Nat) := BitVec.toInt_eq_toNat_cond d.toBitVec
  have hnegative : d < 0 ↔ d.toInt < 0 := Int64.lt_iff_toInt_lt
  have heq : p + d.toUInt64 = q ↔ (p + d.toUInt64).toNat = q.toNat := UInt64.toNat_inj.symm
  rw [sumWord?, Option.ite_none_right_eq_some, Option.some_inj, heq, UInt64.lt_iff_toNat_lt, hnegative, hsum]
  generalize d.toUInt64.toNat = u at *
  split at hdistance <;> omega

/-- A distance that leads to an offset from another one has an opposite. -/
theorem toInt_neg_of_add_eq {m n : Nat} {d : Int64} (hm : m < Text.sizeBound) (h : (m : Int) + d.toInt = n) :
    (-d).toInt = -d.toInt := by
  have hlt := d.toInt_lt
  rw [Text.sizeBound] at hm
  rw [Int64.toInt_neg]
  exact Int.bmod_eq_of_le_mul_two (by omega) (by omega)

namespace Cursor

variable {c : Cursor} {d : Int} {p : Nat}

/-! ## One thing changes, or nothing does -/

theorem moveTo_of_isOffset (h : c.text.IsOffset p) : c.moveTo p = ⟨.ok (), { c with pos := p, window := ⟨p, some p⟩ }⟩ :=
  if_pos (Text.isBoundary_iff_isOffset.2 h)

theorem moveTo_refused (h : ¬ c.text.IsOffset p) : c.moveTo p = ⟨.error (.outOfRange p), c⟩ :=
  if_neg fun hb => h (Text.isBoundary_iff_isOffset.1 hb)

theorem moveBy_of_isOffset (hsum : (c.pos : Int) + d = p) (h : c.text.IsOffset p) :
    c.moveBy d = ⟨.ok (), { c with pos := p }⟩ := by
  have hsum : (c.pos : Int) + d = .ofNat p := hsum
  rw [moveBy, hsum]
  exact if_pos (Text.isBoundary_iff_isOffset.2 h)

theorem moveBy_refused (h : ∀ p : Nat, (c.pos : Int) + d = p → ¬ c.text.IsOffset p) :
    c.moveBy d = ⟨.error (.outOfRange c.pos), c⟩ := by
  unfold moveBy
  split
  · rename_i p hsum
    exact if_neg fun hb => h p hsum (Text.isBoundary_iff_isOffset.1 hb)
  · rfl

theorem markAt_of_starts (h : c.text.Starts p) (e : Option Ends) :
    c.markAt p e = ⟨.ok (), { c with window := ⟨p, e.map { c with window := ⟨p, none⟩ }.stopAt⟩ }⟩ := by
  rw [markAt, if_pos (Text.starts_iff.1 h)]
  cases e <;> rfl

theorem markAt_refused (h : ¬ c.text.Starts p) (e : Option Ends) : c.markAt p e = ⟨.error (.argumentOutOfRange p), c⟩ :=
  if_neg fun hb => h (Text.starts_iff.2 hb)

/-! ## Machine words -/

/-- Moves by a distance that is a machine word, as a machine reckons. -/
def moveByWord (c : Cursor) (d : Int64) : Outcome Unit :=
  match (sumWord? (.ofNat c.pos) d).filter fun q => c.text.isBoundary q.toNat with
  | some q => ⟨.ok (), { c with pos := q.toNat }⟩
  | none => ⟨.error (.outOfRange c.pos), c⟩

/-- **Reckoning in machine words is reckoning in numbers**, for a text whose offsets are machine words. -/
theorem moveBy_toInt (hc : c.OnBoundary) (hsize : c.text.size < UInt64.size) (d : Int64) :
    c.moveBy d.toInt = c.moveByWord d := by
  have hpos := Text.le_size_of_isBoundary hc
  have hword : (UInt64.ofNat c.pos).toNat = c.pos := UInt64.toNat_ofNat_of_lt' (Nat.lt_of_le_of_lt hpos hsize)
  unfold moveByWord
  split
  · rename_i q hq
    obtain ⟨hsum, hb⟩ := Option.filter_eq_some_iff.1 hq
    rw [sumWord?_eq_some, hword] at hsum
    exact moveBy_of_isOffset hsum (Text.isBoundary_iff_isOffset.1 hb)
  · rename_i hnone
    refine moveBy_refused fun p hsum hp => ?_
    have hb := Text.isBoundary_iff_isOffset.2 hp
    have hp : (UInt64.ofNat p).toNat = p :=
      UInt64.toNat_ofNat_of_lt' (Nat.lt_of_le_of_lt (Text.le_size_of_isBoundary hb) hsize)
    have hfound : sumWord? (.ofNat c.pos) d = some (.ofNat p) := sumWord?_eq_some.2 (by rw [hword, hp]; exact hsum)
    rw [hfound, Option.filter_some, hp, if_pos hb] at hnone
    cases hnone

/-! ## Stepping -/

theorem after_replicate_next (c : Cursor) (k : Nat) : c.after (List.replicate k (.next false)) = c.pass k := by
  induction k generalizing c with
  | zero => exact (pass_zero c).symm
  | succ k ih =>
    have hstep : (c.perform (.next false)).cursor = c.pass 1 := cursor_peek (c.pass 1) false
    rw [List.replicate_succ, after_cons, hstep, ih, pass_pass, Nat.add_comm]

/-- **Stepping from the front leads to the offsets of the text**, and to nothing else. -/
theorem isOffset_iff_stepped (c : Cursor) (p : Nat) :
    c.text.IsOffset p ↔ ∃ k, ((c.perform (.moveTo 0)).cursor.after (List.replicate k (.next false))).pos = p := by
  have hfront : (c.perform (.moveTo 0)).cursor = { c with pos := 0, window := ⟨0, some 0⟩ } :=
    cursor_moveTo (Text.isBoundary_zero _)
  have hrest : (c.perform (.moveTo 0)).cursor.rest = c.text := by
    rw [hfront]
    exact rest_of_after? (Text.after?_zero _)
  have hpos : ∀ k, ((c.perform (.moveTo 0)).cursor.after (List.replicate k (.next false))).pos =
      Text.size (c.text.take k) := fun k => by
    rw [after_replicate_next, pos_pass, hrest, hfront]
    exact Nat.zero_add _
  simp only [hpos]
  exact Text.isOffset_iff_exists_take

/-! ## The commands -/

/-- What the commands that place a cursor or a window do: which offsets they accept, the one thing that changes then, and
that nothing changes where they refuse. -/
structure PlacesExactly (c : Cursor) : Prop where
  moveTo : ∀ p, c.text.IsOffset p → c.perform (.moveTo p) = ⟨.ok .done, { c with pos := p, window := ⟨p, some p⟩ }⟩
  moveTo_refused : ∀ p, ¬ c.text.IsOffset p → c.perform (.moveTo p) = ⟨.error (.outOfRange p), c⟩
  moveBy : ∀ (d : Int64) (p : Nat), (c.pos : Int) + d.toInt = p → c.text.IsOffset p →
    c.perform (.moveBy d.toInt) = ⟨.ok .done, { c with pos := p }⟩ ∧
    (c.perform (.moveBy d.toInt)).cursor.perform (.moveBy (-d).toInt) = ⟨.ok .done, c⟩
  moveBy_refused : ∀ d : Int64, (∀ p : Nat, (c.pos : Int) + d.toInt = p → ¬ c.text.IsOffset p) →
    c.perform (.moveBy d.toInt) = ⟨.error (.outOfRange c.pos), c⟩
  /-- The sum with the distance may be reckoned in machine words. -/
  words : ∀ d : Int64, c.perform (.moveBy d.toInt) = (c.moveByWord d).map fun _ => .done
  markAt : ∀ p s, c.text.Starts p → c.perform (.markAt p s) =
    ⟨.ok .done, { c with window := ⟨p, s.toEnds?.map { c with window := ⟨p, none⟩ }.stopAt⟩ }⟩
  markAt_refused : ∀ p s, ¬ c.text.Starts p → c.perform (.markAt p s) = ⟨.error (.argumentOutOfRange p), c⟩
  stepped : ∀ p, c.text.IsOffset p ↔
    ∃ k, ((c.perform (.moveTo 0)).cursor.after (List.replicate k (.next false))).pos = p

/-- A move there and back leads to where it started. -/
theorem moveBy_moveBy_neg (hc : c.OnBoundary) (hsize : c.text.size < Text.sizeBound) {d : Int64}
    (hsum : (c.pos : Int) + d.toInt = p) : Cursor.moveBy { c with pos := p } (-d).toInt = ⟨.ok (), c⟩ := by
  have hpos := Text.le_size_of_isBoundary hc
  have hneg := toInt_neg_of_add_eq (Nat.lt_of_le_of_lt hpos hsize) hsum
  have hback : (p : Int) + (-d).toInt = c.pos := by
    rw [hneg]
    omega
  exact moveBy_of_isOffset (c := { c with pos := p }) hback (Text.isBoundary_iff_isOffset.1 hc)

theorem placesExactly (hc : c.OnBoundary) (hsize : c.text.size < Text.sizeBound) : c.PlacesExactly where
  moveTo p h := by
    rw [perform, moveTo_of_isOffset h]
    rfl
  moveTo_refused p h := by
    rw [perform, Cursor.moveTo_refused h]
    rfl
  moveBy d p hsum h := by
    have hmove : c.perform (.moveBy d.toInt) = ⟨.ok .done, { c with pos := p }⟩ := by
      rw [perform, moveBy_of_isOffset hsum h]
      rfl
    refine ⟨hmove, ?_⟩
    rw [hmove, perform, moveBy_moveBy_neg hc hsize hsum]
    rfl
  moveBy_refused d h := by
    rw [perform, Cursor.moveBy_refused h]
    rfl
  words d := by
    rw [perform, moveBy_toInt hc (Nat.lt_trans hsize (by decide))]
  markAt p s h := by
    rw [perform, markAt_of_starts h]
    rfl
  markAt_refused p s h := by
    rw [perform, Cursor.markAt_refused h]
    rfl
  stepped := isOffset_iff_stepped c

/-- **A cursor is placed at exactly the offsets of its text**, whatever has been done before: the commands that place it or a
window accept these and no others, also where the sum with a distance is beyond a machine word, and a command that refuses
changes nothing. -/
theorem placing_exact (t : Text) (s : Config) (ms : List Command) (hsize : ((ofText t s).after ms).text.size < Text.sizeBound) :
    ((ofText t s).after ms).PlacesExactly :=
  placesExactly (sound_after t s ms).pos hsize

/-- Characters of every width: two bytes back from the third one and forward again, into a character, and far beyond. -/
theorem placing_exact_wide :
    let t : Text := ['a', 'ä', '€', '𝄞']
    let c := (ofText t {}).after [.moveTo 1, .next false, .mark]
    (c.text.size < Text.sizeBound ∧ (c.pos : Int) + (-2 : Int64).toInt = (1 : Nat) ∧ c.text.IsOffset 1 ∧ ¬ c.text.IsOffset 4 ∧
      ¬ c.text.Starts 10) ∧
    c.perform (.moveBy (-2)) = ⟨.ok .done, { c with pos := 1 }⟩ ∧
    (c.perform (.moveBy (-2))).cursor.perform (.moveBy 2) = ⟨.ok .done, c⟩ ∧
    c.perform (.moveTo 4) = ⟨.error (.outOfRange 4), c⟩ ∧
    c.perform (.moveBy Int64.minValue.toInt) = ⟨.error (.outOfRange 3), c⟩ ∧
    c.perform (.markAt 10 .empty) = ⟨.error (.argumentOutOfRange 10), c⟩ := by
  intro t c
  have hsize : c.text.size < Text.sizeBound := by decide
  have hsum : (c.pos : Int) + (-2 : Int64).toInt = (1 : Nat) := by decide
  have hone : c.text.IsOffset 1 := Text.isBoundary_iff_isOffset.1 (by decide)
  have hfour : ¬ c.text.IsOffset 4 := fun h => absurd (Text.isBoundary_iff_isOffset.2 h) (by decide)
  have hend : ¬ c.text.Starts 10 := fun h => absurd (Text.starts_iff.1 h) (by decide)
  have hbeyond : ∀ p : Nat, (c.pos : Int) + Int64.minValue.toInt = p → ¬ c.text.IsOffset p := fun p h => by
    have hpos : c.pos = 3 := by decide
    rw [hpos, Int64.toInt_minValue] at h
    omega
  have hplaces : c.PlacesExactly := placing_exact t {} _ hsize
  obtain ⟨hmove, hback⟩ := hplaces.moveBy (-2) 1 hsum hone
  exact ⟨⟨hsize, hsum, hone, hfour, hend⟩, hmove, hback, hplaces.moveTo_refused 4 hfour,
    hplaces.moveBy_refused Int64.minValue hbeyond, hplaces.markAt_refused 10 .empty hend⟩

end Cursor
end TextCursor
