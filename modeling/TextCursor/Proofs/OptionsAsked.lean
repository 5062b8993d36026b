import TextCursor.Command
/-!
# The options that a command asks for

A command asks its word of flags for a few options and for nothing else (`Command.asks`), so words that agree on these are one
and the same to it (`perform_congr`), whatever else they hold, and adding what a word implies changes nothing
(`perform_prepared`).  Nothing ever asks whether a sign is accepted.  A decimal integer is read as any other would be without
the two hexadecimal options, and fails at the same places under a name of its own (`perform_by_options`).
-/
namespace TextCursor

variable {α β : Type}

/-! ## What is asked for -/

/-- The options that say how the digits of an integer are read. -/
def Numeral.asks (s : Flags) : Numeral → List Flag
  | .number => .hexOnly :: if s.has .hexOnly then [] else [.hex]
  | .decimal => []

/-- The options that say where a token ends. -/
def Flags.asksEnds (s : Flags) : List Flag :=
  .toBlank :: .toCursor :: if s.has .toBlank || s.has .toCursor then [] else [.toEnd]

namespace Command

/-- The options that a command asks a word of flags for. -/
def asks (s : Flags) : Command → List Flag
  | .markAt _ _ | .resolve _ | .lastToken _ => s.asksEnds
  | .matchKeyword _ _ => [.skipBlanks, .digits, .fullName, .extraChar, .umlaut]
  | .readUnsigned k _ _ | .readSigned k _ _ => .skipBlanks :: k.asks s
  | .readFloat _ => [.skipBlanks, .comma]
  | .readString _ => [.skipBlanks, .quoted]
  | _ => []

/-- The command with another word of flags, if it has one. -/
def withFlags (s : Flags) : Command → Command
  | .markAt p _ => .markAt p s
  | .resolve _ => .resolve s
  | .lastToken _ => .lastToken s
  | .matchKeyword list _ => .matchKeyword list s
  | .readUnsigned k _ max => .readUnsigned k s max
  | .readSigned k _ max => .readSigned k s max
  | .readFloat _ => .readFloat s
  | .readString _ => .readString s
  | m => m

/-- Nothing asks whether a sign is accepted. -/
theorem signed_not_mem_asks (s : Flags) (m : Command) : Flag.signed ∉ m.asks s := by
  have hends : Flag.signed ∉ s.asksEnds := by
    unfold Flags.asksEnds
    split <;> decide
  have hdigits : ∀ k : Numeral, Flag.signed ∉ k.asks s := fun k => by
    unfold Numeral.asks
    cases k with
    | number => dsimp only; split <;> decide
    | decimal => exact List.not_mem_nil
  cases m with
  | readUnsigned k _ max => simp [asks, hdigits k]
  | readSigned k _ max => simp [asks, hdigits k]
  | markAt p _ => exact hends
  | resolve _ => exact hends
  | lastToken _ => exact hends
  | _ => simp [asks]

/-- Nothing asks for hexadecimal digits where there are to be no others. -/
theorem has_hexOnly_of_hex_mem_asks {s : Flags} {m : Command} (h : Flag.hex ∈ m.asks s) : s.has .hexOnly = false := by
  have hends : Flag.hex ∉ s.asksEnds := by
    unfold Flags.asksEnds
    split <;> decide
  have hdigits : ∀ k : Numeral, Flag.hex ∈ k.asks s → s.has .hexOnly = false := fun k hk => by
    unfold Numeral.asks at hk
    cases k with
    | number =>
      refine Bool.eq_false_iff.2 fun honly => ?_
      simp [honly] at hk
    | decimal => cases hk
  cases m with
  | readUnsigned k _ max => exact hdigits k (by simpa [asks] using h)
  | readSigned k _ max => exact hdigits k (by simpa [asks] using h)
  | markAt p _ => exact absurd h hends
  | resolve _ => exact absurd h hends
  | lastToken _ => exact absurd h hends
  | _ => simp [asks] at h

end Command

/-! ## Words that agree -/

namespace Flags

/-- The words agree on the options. -/
def Agree (fs : List Flag) (s s' : Flags) : Prop := ∀ f ∈ fs, s.has f = s'.has f

variable {fs gs : List Flag} {f : Flag} {s s' : Flags}

theorem Agree.has (h : Agree fs s s') (hf : f ∈ fs) : s.has f = s'.has f := h f hf

theorem Agree.head (h : Agree (f :: fs) s s') : s.has f = s'.has f := h f (List.mem_cons_self ..)

theorem Agree.tail (h : Agree (f :: fs) s s') : Agree fs s s' := fun g hg => h g (List.mem_cons_of_mem f hg)

theorem toEnds_congr (h : Agree s.asksEnds s s') : s.toEnds = s'.toEnds := by
  rw [toEnds, toEnds, h.head, h.tail.head]

theorem toEnds?_congr (h : Agree s.asksEnds s s') : s.toEnds? = s'.toEnds? := by
  have hhas : s.hasEnd = s'.hasEnd := by
    have hblank := h.head
    have hcursor := h.tail.head
    have hend := h.tail.tail
    rw [hasEnd, hasEnd, ← hblank, ← hcursor]
    by_cases hset : (s.has .toBlank || s.has .toCursor) = true
    · rw [hset, Bool.true_or, Bool.true_or]
    · rw [if_neg hset] at hend
      rw [hend.head]
  rw [toEnds?, toEnds?, hhas, toEnds_congr h]

theorem style_congr {k : Numeral} (h : Agree (k.asks s) s s') : k.style s = k.style s' := by
  cases k with
  | decimal => rfl
  | number =>
    have honly : s.has .hexOnly = s'.has .hexOnly := h.head
    have hhex : s.normalized.has .hex = s'.normalized.has .hex := by
      have htail := h.tail
      rw [has_normalized, has_normalized, ← honly]
      by_cases hset : s.has .hexOnly = true
      · simp only [hset, decide_true, Bool.and_true, Bool.or_true]
      · rw [if_neg hset] at htail
        rw [htail.head]
    have hnormal : s.normalized.has .hexOnly = s'.normalized.has .hexOnly := by
      rw [has_normalized, has_normalized, honly]
    rw [Numeral.style, Numeral.style, hhex, hnormal]

theorem isNameChar_congr (h : Agree [.skipBlanks, .digits, .fullName, .extraChar, .umlaut] s s') :
    isNameChar s = isNameChar s' := by
  funext x
  rw [isNameChar, isNameChar, h.has (f := .digits) (by decide), h.has (f := .extraChar) (by decide),
    h.has (f := .umlaut) (by decide)]

end Flags

namespace Cursor

open Flags (Agree)

variable {s s' : Flags}

/-! ## The readers -/

theorem matchKeyword_congr (h : Agree [.skipBlanks, .digits, .fullName, .extraChar, .umlaut] s s') (c : Cursor) (list : Text) :
    c.matchKeyword list s = c.matchKeyword list s' := by
  simp only [matchKeyword, h.head, Flags.isNameChar_congr h, h.has (f := .fullName) (by decide)]

theorem readUnsigned_congr {k : Numeral} (h : Agree (.skipBlanks :: k.asks s) s s') (c : Cursor) (max : Nat) :
    c.readUnsigned k s max = c.readUnsigned k s' max := by
  simp only [readUnsigned, readMagnitude, h.head, Flags.style_congr h.tail]

theorem readSigned_congr {k : Numeral} (h : Agree (.skipBlanks :: k.asks s) s s') (c : Cursor) (max : Nat) :
    c.readSigned k s max = c.readSigned k s' max := by
  simp only [readSigned, readMagnitude, h.head, Flags.style_congr h.tail]

theorem readFloat_congr (h : Agree [.skipBlanks, .comma] s s') (c : Cursor) : c.readFloat s = c.readFloat s' := by
  simp only [readFloat, h.head, h.tail.head]

theorem readString_congr (h : Agree [.skipBlanks, .quoted] s s') (c : Cursor) : c.readString s = c.readString s' := by
  simp only [readString, h.head, h.tail.head]

/-- **Words that agree on what a command asks for are one and the same to it**: the answer, the fault and the cursor left
behind do not depend on anything else in them. -/
theorem perform_congr {m : Command} (h : Agree (m.asks s) s s') (c : Cursor) :
    c.perform (m.withFlags s) = c.perform (m.withFlags s') := by
  cases m with
  | markAt p o => simp only [Command.withFlags, perform, Flags.toEnds?_congr h]
  | resolve o => simp only [Command.withFlags, perform, Flags.toEnds_congr h]
  | lastToken o => simp only [Command.withFlags, perform, Flags.toEnds?_congr h]
  | matchKeyword list o => simp only [Command.withFlags, perform, matchKeyword_congr h]
  | readUnsigned k o max => simp only [Command.withFlags, perform, readUnsigned_congr h]
  | readSigned k o max => simp only [Command.withFlags, perform, readSigned_congr h]
  | readFloat o => simp only [Command.withFlags, perform, readFloat_congr h]
  | readString o => simp only [Command.withFlags, perform, readString_congr h]
  | _ => rfl

/-- **A word may be prepared first**: what its options imply may be added, and that a sign is accepted may be put in or taken
out. -/
theorem perform_prepared (c : Cursor) (m : Command) (s : Flags) :
    c.perform (m.withFlags (s.normalized.union (.only .signed))) = c.perform (m.withFlags s) ∧
    c.perform (m.withFlags (s.normalized.diff (.only .signed))) = c.perform (m.withFlags s) := by
  have hnormal : ∀ f ∈ m.asks s, s.normalized.has f = s.has f := fun f hf => by
    rw [Flags.has_normalized]
    by_cases hhex : f = .hex
    · subst hhex
      rw [Command.has_hexOnly_of_hex_mem_asks hf, Bool.and_false, Bool.or_false]
    · rw [decide_eq_false hhex, Bool.false_and, Bool.or_false]
  have hsigned : ∀ f ∈ m.asks s, (Flags.only .signed).has f = false := fun f hf => by
    rw [Flags.has_only]
    exact decide_eq_false fun h => m.signed_not_mem_asks s (h ▸ hf)
  constructor
  · refine (perform_congr (fun f hf => ?_) c).symm
    rw [Flags.has_union, hnormal f hf, hsigned f hf, Bool.or_false]
  · refine (perform_congr (fun f hf => ?_) c).symm
    rw [Flags.has_diff, hnormal f hf, hsigned f hf, Bool.not_false, Bool.and_true]

end Cursor

/-! ## Decimal integers -/

def Cause.asDecimal : Cause → Cause
  | .numberExpected => .decimalExpected
  | e => e

/-- The outcome with the fault of a missing number called that of a missing decimal number. -/
def Outcome.asDecimal (o : Outcome α) : Outcome α :=
  ⟨o.answer.mapError fun f => { f with cause := f.cause.asDecimal }, o.cursor⟩

/-- The options that make hexadecimal digits digits of an integer. -/
def Flags.hexadecimal : Flags := ofList [.hex, .hexOnly]

theorem Outcome.map_asDecimal (o : Outcome α) (g : α → β) : o.asDecimal.map g = (o.map g).asDecimal := by
  obtain ⟨a, c⟩ := o
  cases a <;> rfl

theorem Outcome.andThen_asDecimal (o : Outcome α) {f g : α → Cursor → Outcome β} (h : ∀ a c, g a c = (f a c).asDecimal) :
    o.asDecimal.andThen g = (o.andThen f).asDecimal := by
  obtain ⟨a, c⟩ := o
  cases a with
  | ok a => exact h a c
  | error f => rfl

theorem Flags.style_diff_hexadecimal (s : Flags) : Numeral.number.style (s.diff hexadecimal) = Numeral.decimal.style s := by
  have hhex : hexadecimal.has .hex = true := by decide
  have honly : hexadecimal.has .hexOnly = true := by decide
  simp only [Numeral.style, has_normalized, has_diff, hhex, honly, Bool.not_true, Bool.and_false, Bool.or_self,
    Bool.false_and, Bool.false_eq_true, if_false, beq_self_eq_true, reduceCtorEq, Bool.and_self]
  rfl

theorem Flags.has_skipBlanks_diff_hexadecimal (s : Flags) : (s.diff hexadecimal).has .skipBlanks = s.has .skipBlanks := by
  have hskip : hexadecimal.has .skipBlanks = false := by decide
  rw [has_diff, hskip, Bool.not_false, Bool.and_true]

theorem DigitRun.result_decimal (r : DigitRun) (max : Nat) :
    r.result .decimal max = (r.result .number max).mapError fun p => (p.1, p.2.asDecimal) := by
  unfold result
  split
  · rfl
  · split
    · rfl
    · split
      · rfl
      · split <;> rfl

namespace Cursor

theorem fail_asDecimal (c : Cursor) (e : Ends) (cause : Cause) :
    (c.fail e cause.asDecimal : Outcome α) = (c.fail e cause).asDecimal := rfl

theorem readMagnitude_decimal (c : Cursor) (s : Flags) (max : Nat) :
    c.readMagnitude .decimal s max = (c.readMagnitude .number (s.diff Flags.hexadecimal) max).asDecimal := by
  simp only [readMagnitude, s.style_diff_hexadecimal, DigitRun.result_decimal]
  generalize (DigitRun.start (Numeral.decimal.style s)).scan (Numeral.decimal.style s) c.rest = r
  cases r.result .number max with
  | ok n => rfl
  | error p => exact fail_asDecimal _ p.1 p.2

theorem readUnsigned_decimal (c : Cursor) (s : Flags) (max : Nat) :
    c.readUnsigned .decimal s max = (c.readUnsigned .number (s.diff Flags.hexadecimal) max).asDecimal := by
  rw [readUnsigned, readUnsigned, s.has_skipBlanks_diff_hexadecimal, readMagnitude_decimal]
  exact Outcome.andThen_asDecimal _ fun _ _ => rfl

theorem readSigned_decimal (c : Cursor) (s : Flags) (max : Nat) :
    c.readSigned .decimal s max = (c.readSigned .number (s.diff Flags.hexadecimal) max).asDecimal := by
  simp only [readSigned, s.has_skipBlanks_diff_hexadecimal, readMagnitude_decimal]
  -- a magnitude beyond the signed numbers has the same fault in both
  split
  · refine Outcome.andThen_asDecimal _ fun n d => ?_
    split <;> rfl
  · refine Outcome.andThen_asDecimal _ fun n d => ?_
    split <;> rfl

/-- **A command depends on the options that it asks for**, and on no other bit of its word: not on one without a meaning, not
on an option of another command, and never on whether a sign is accepted.  So it does not matter that a reader first adds what
its word implies and says for itself whether a sign is accepted.  A decimal integer is read as any other integer is without the
hexadecimal options, down to the cursor left behind, and only its fault has a name of its own. -/
theorem perform_by_options :
    (∀ (c : Cursor) (m : Command) (s s' : Flags), (∀ f ∈ m.asks s, s.has f = s'.has f) →
      c.perform (m.withFlags s) = c.perform (m.withFlags s')) ∧
    (∀ (c : Cursor) (m : Command) (s s' : Flags), (∀ f, f ≠ .signed → s.has f = s'.has f) →
      c.perform (m.withFlags s) = c.perform (m.withFlags s')) ∧
    (∀ (c : Cursor) (m : Command) (s : Flags),
      c.perform (m.withFlags (s.normalized.union (.only .signed))) = c.perform (m.withFlags s) ∧
      c.perform (m.withFlags (s.normalized.diff (.only .signed))) = c.perform (m.withFlags s)) ∧
    ∀ (c : Cursor) (s : Flags) (max : Nat),
      c.perform (.readUnsigned .decimal s max) =
        (c.perform (.readUnsigned .number (s.diff Flags.hexadecimal) max)).asDecimal ∧
      c.perform (.readSigned .decimal s max) =
        (c.perform (.readSigned .number (s.diff Flags.hexadecimal) max)).asDecimal := by
  refine ⟨fun c m s s' h => perform_congr h c, fun c m s s' h => ?_, perform_prepared, fun c s max => ⟨?_, ?_⟩⟩
  · refine perform_congr (fun f hf => h f ?_) c
    rintro rfl
    exact m.signed_not_mem_asks s hf
  · rw [perform, readUnsigned_decimal]
    exact Outcome.map_asDecimal _ _
  · rw [perform, readSigned_decimal]
    exact Outcome.map_asDecimal _ _

/-- Two words that differ in an option implied by another, in two that are not asked for, and in a bit without a meaning. -/
theorem perform_by_options_hexOnly :
    let c := ofText ['-', 'f', 'F'] {}
    let m := Command.readSigned .number .empty 0
    let s : Flags := .ofList [.hexOnly]
    let s' : Flags := ⟨0x8000020E⟩
    ((∀ f ∈ m.asks s, s.has f = s'.has f) ∧ s ≠ s') ∧ c.perform (m.withFlags s) = c.perform (m.withFlags s') ∧
      (c.perform (m.withFlags s')).cursor.pos = 3 := by
  intro c m s s'
  have hagree : ∀ f ∈ m.asks s, s.has f = s'.has f := by decide
  exact ⟨⟨hagree, by decide⟩, perform_by_options.1 c m s s' hagree, by decide⟩

end Cursor
end TextCursor
