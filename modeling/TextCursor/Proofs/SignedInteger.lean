import TextCursor.Proofs.IntegerGrammar
import TextCursor.Proofs.Skipping
/-!
# Integers with a sign

An integer without a minus sign is read as the magnitude that it is, and one with a minus sign as the magnitude behind it.  The
two readers make the same pass over the digits, so that they fail at the same place and for the same reason
(`readSigned_agrees`); they differ only in where the token starts, and in that a magnitude that no signed number has is refused.
-/
namespace TextCursor

namespace Cursor

variable {c d : Cursor} {k : Numeral} {s : Flags} {max : Nat}

/-- **A fault blames what was passed over, or, if nothing was, the word at the cursor.** -/
theorem digitRun_of_error {e : Ends} {cause : Cause} (h : (d.digitRun k s).result k max = .error (e, cause)) :
    (e = .atCursor ∧ d.pos < (d.pass (d.digitRun k s).taken).pos) ∨ (e = .atBlank ∧ (d.digitRun k s).taken = 0) := by
  have hmoves : ∀ w : Text, w ≠ [] → w <+: d.rest → d.pos < (d.pass w.length).pos := fun w hw hpre => by
    have hrest : d.rest ≠ [] := fun hr => hw (List.prefix_nil.1 (hr ▸ hpre))
    exact pos_lt_pos_pass (List.length_pos_iff.2 hw) hrest
  have hfound : (Figures.ofText k s d.rest).Describes d.rest (d.digitRun k s) := Figures.describes_scan k s d.rest
  cases hf : Figures.ofText k s d.rest with
  | misplaced w =>
    rw [hf] at hfound
    obtain ⟨hbad, htaken, hw, hpre⟩ := hfound
    rw [DigitRun.result_of_misplaced hbad] at h
    cases h
    exact .inl ⟨rfl, by rw [htaken]; exact hmoves w hw hpre⟩
  | number mark ds base =>
    rw [hf] at hfound
    obtain ⟨hrun, hpre, hbase, hdigits⟩ := hfound
    rw [hrun] at h ⊢
    by_cases hw : mark ++ ds = []
    · obtain ⟨rfl, rfl⟩ := List.append_eq_nil_iff.1 hw
      rw [List.reverse_nil, DigitRun.result_of_no_digits] at h
      cases h
      exact .inr ⟨rfl, rfl⟩
    · have hmoved := hmoves _ hw hpre
      rw [List.length_append] at hmoved
      refine .inl ⟨?_, hmoved⟩
      by_cases hds : ds = []
      · subst hds
        have hmark : (!mark.isEmpty) = true := by simpa using hw
        rw [List.reverse_nil, DigitRun.result_of_no_digits, hmark] at h
        cases h
        rfl
      · rw [DigitRun.result_eq hbase hds hdigits] at h
        split at h
        · cases h
          rfl
        · split at h
          · cases h
            rfl
          · cases h

/-! ## Without a minus sign -/

theorem readSigned_of_ok (hd : c.skipIf (s.has .skipBlanks) = d) (hsign : d.current? ≠ some '-') {n : Nat}
    (h : (d.digitRun k s).result k max = .ok n) :
    c.readSigned k s max =
      if n < negativeBound then
        ⟨.ok (n : Int), (d.afterToken (d.rest.take (d.digitRun k s).taken)).skipIf (s.has .skipBlanks)⟩
      else d.blame (d.rest.take (d.digitRun k s).taken) (.overflow (negativeBound - 1)) := by
  have hmiss : d.mark.accept '-' false = (false, d.mark) := accept_miss hsign
  have hread : d.mark.readMagnitude k s max = ⟨.ok n, d.mark.pass (d.digitRun k s).taken⟩ := readMagnitude_of_ok h
  simp only [readSigned, hd, hmiss, hread, Outcome.andThen_ok, finish_passed, fail_passed]

theorem readSigned_of_error (hd : c.skipIf (s.has .skipBlanks) = d) (hsign : d.current? ≠ some '-') {e : Ends}
    {cause : Cause} (h : (d.digitRun k s).result k max = .error (e, cause)) :
    c.readSigned k s max = (d.mark.pass (d.digitRun k s).taken).fail e cause := by
  have hmiss : d.mark.accept '-' false = (false, d.mark) := accept_miss hsign
  have hread : d.mark.readMagnitude k s max = (d.mark.pass (d.digitRun k s).taken).fail e cause := readMagnitude_of_error h
  simp only [readSigned, hd, hmiss, hread]
  rfl

/-! ## Behind a minus sign -/

theorem take_of_minus (hsign : d.current? = some '-') (n : Nat) : d.rest.take (1 + n) = '-' :: (d.pass 1).rest.take n := by
  rw [rest_of_current? hsign, Nat.add_comm]
  rfl

theorem readSigned_minus_of_ok (hd : c.skipIf (s.has .skipBlanks) = d) (hsign : d.current? = some '-') {n : Nat}
    (h : ((d.pass 1).digitRun k s).result k max = .ok n) :
    let w := '-' :: (d.pass 1).rest.take ((d.pass 1).digitRun k s).taken
    c.readSigned k s max =
      if n ≤ negativeBound then ⟨.ok (-n : Int), (d.afterToken w).skipIf (s.has .skipBlanks)⟩
      else d.blame w (.overflow negativeBound) := by
  have hhit : d.mark.accept '-' false = (true, d.mark.pass 1) := accept_hit hsign
  have hread : (d.mark.pass 1).readMagnitude k s max =
      ⟨.ok n, (d.mark.pass 1).pass ((d.pass 1).digitRun k s).taken⟩ := readMagnitude_of_ok h
  rw [pass_pass] at hread
  intro w
  have hw : d.rest.take (1 + ((d.pass 1).digitRun k s).taken) = w := take_of_minus hsign _
  simp only [readSigned, hd, hhit, hread, Outcome.andThen_ok, finish_passed, fail_passed, hw]

theorem readSigned_minus_of_error (hd : c.skipIf (s.has .skipBlanks) = d) (hsign : d.current? = some '-') {e : Ends}
    {cause : Cause} (h : ((d.pass 1).digitRun k s).result k max = .error (e, cause)) :
    c.readSigned k s max = (d.mark.pass (1 + ((d.pass 1).digitRun k s).taken)).fail e cause := by
  have hhit : d.mark.accept '-' false = (true, d.mark.pass 1) := accept_hit hsign
  have hread : (d.mark.pass 1).readMagnitude k s max =
      ((d.mark.pass 1).pass ((d.pass 1).digitRun k s).taken).fail e cause := readMagnitude_of_error h
  rw [pass_pass] at hread
  simp only [readSigned, hd, hhit, hread]
  rfl

theorem afterToken_minus (hsign : d.current? = some '-') (w : Text) :
    d.afterToken ('-' :: w) =
      { (d.pass 1).afterToken w with window := ⟨d.pos, some ((d.pass 1).pos + Text.size w)⟩ } := by
  have hpos : (d.pass 1).pos + Text.size w = d.pos + Text.size ('-' :: w) := by
    rw [pos_pass, rest_of_current? hsign, Text.size_cons, ← Nat.add_assoc]
    rfl
  rw [afterToken, ← hpos]
  rfl

/-! ## The two readers -/

theorem digitRun_plain (d : Cursor) (k : Numeral) (s : Flags) : d.digitRun k s.plain = d.digitRun k s := by
  rw [digitRun, digitRun, s.style_plain]

/-- What the signed reader makes of the outcome of the unsigned one at the same cursor, where no minus sign stands. -/
structure SignedAgrees (d : Cursor) (u : Outcome Nat) (o : Outcome Int) : Prop where
  error : ∀ f, u.answer = .error f → o.answer = .error f ∧ o.cursor = u.cursor
  fits : ∀ m, u.answer = .ok m → m < negativeBound → o.answer = .ok (m : Int) ∧ o.cursor = u.cursor
  overflows : ∀ m, u.answer = .ok m → negativeBound ≤ m → o = d.blame u.cursor.token (.overflow (negativeBound - 1))

/-- What the signed reader at a minus sign makes of the outcome of the unsigned one behind it.  The token is longer by the
sign, except where the sign is a blank and there is no digit behind it: then the word to blame is empty. -/
structure NegativeAgrees (d : Cursor) (skip : Bool) (u : Outcome Nat) (o : Outcome Int) : Prop where
  error : ∀ f, u.answer = .error f → d.isBlank '-' = false ∨ (d.pass 1).pos < u.cursor.pos →
    o = ⟨.error ⟨f.cause, '-' :: f.token, d.pos⟩, { u.cursor with window := ⟨d.pos, u.cursor.window.stop⟩ }⟩
  blank : ∀ f, u.answer = .error f → d.isBlank '-' = true → u.cursor.pos = (d.pass 1).pos →
    o = ⟨.error ⟨f.cause, [], d.pos⟩, { u.cursor with window := ⟨d.pos, some d.pos⟩ }⟩
  fits : ∀ m, u.answer = .ok m → m ≤ negativeBound →
    o = ⟨.ok (-m : Int), (d.afterToken ('-' :: u.cursor.token)).skipIf skip⟩
  overflows : ∀ m, u.answer = .ok m → negativeBound < m → o = d.blame ('-' :: u.cursor.token) (.overflow negativeBound)

theorem signedAgrees (hd : c.skipIf (s.has .skipBlanks) = d) (hsign : d.current? ≠ some '-') :
    SignedAgrees d (c.readUnsigned k s max) (c.readSigned k s max) := by
  cases hr : (d.digitRun k s).result k max with
  | error p =>
    obtain ⟨e, cause⟩ := p
    rw [readUnsigned_of_error hd hr, readSigned_of_error hd hsign hr]
    exact ⟨fun f hf => by cases hf; exact ⟨rfl, rfl⟩, nofun, nofun⟩
  | ok n =>
    rw [readUnsigned_of_ok hd hr, readSigned_of_ok hd hsign hr]
    refine ⟨nofun, fun m hm hfits => ?_, fun m hm hover => ?_⟩
    · cases hm
      rw [if_pos hfits]
      exact ⟨rfl, rfl⟩
    · cases hm
      rw [if_neg (Nat.not_lt.2 hover), token_afterToken]

theorem negativeAgrees (hd : c.skipIf (s.has .skipBlanks) = d) (hsign : d.current? = some '-') :
    NegativeAgrees d (s.has .skipBlanks) ((d.pass 1).readUnsigned k s.plain max) (c.readSigned k s max) := by
  have hplain : s.plain.has .skipBlanks = false := s.has_skipBlanks_plain
  have hbehind : (d.pass 1).skipIf (s.plain.has .skipBlanks) = d.pass 1 := by rw [hplain, skipIf_false]
  have hrun := digitRun_plain (d.pass 1) k s
  cases hr : ((d.pass 1).digitRun k s).result k max with
  | ok n =>
    have hu := readUnsigned_of_ok hbehind (by rw [hrun]; exact hr)
    have htoken := token_afterToken (d.pass 1) ((d.pass 1).digitRun k s).taken (s.plain.has .skipBlanks)
    rw [hu, hrun, readSigned_minus_of_ok hd hsign hr]
    refine ⟨nofun, nofun, fun m hm hfits => ?_, fun m hm hover => ?_⟩
    · cases hm
      rw [if_pos hfits, htoken]
    · cases hm
      rw [if_neg (Nat.not_le.2 hover), htoken]
  | error p =>
    obtain ⟨e, cause⟩ := p
    rw [readUnsigned_of_error hbehind (by rw [hrun]; exact hr), hrun, readSigned_minus_of_error hd hsign hr]
    rcases digitRun_of_error hr with ⟨rfl, hmoved⟩ | ⟨rfl, hnone⟩
    · -- characters were passed, and they are the token of both
      rw [fail_passed, fail_passed, take_of_minus hsign]
      refine ⟨fun f hf _ => ?_, fun f hf _ hstay => ?_, nofun, nofun⟩
      · cases hf
        rw [blame, afterToken_minus hsign]
        rfl
      · exact absurd hstay (Nat.ne_of_gt hmoved)
    · -- nothing was passed, and each blames the word at its start
      rw [hnone, fail_word, fail_word, blameWord, blameWord, word_of_current? hsign]
      refine ⟨fun f hf hor => ?_, fun f hf hblank _ => ?_, nofun, nofun⟩
      · cases hf
        have hblank : ¬ d.isBlank '-' = true := fun h => by
          rcases hor with hnot | hlt
          · rw [h] at hnot
            cases hnot
          · exact absurd hlt (Nat.lt_irrefl _)
        rw [if_neg hblank, afterToken_minus hsign]
        rfl
      · cases hf
        rw [if_pos hblank]
        rfl

/-- **The signed reader agrees with the unsigned one** at the same cursor or, where a minus sign stands, right behind it,
where no blank is skipped: it fails as that one does, and reads what that one reads unless no signed number has that
magnitude. -/
theorem readSigned_agrees (c : Cursor) (k : Numeral) (s : Flags) (max : Nat) :
    let d := c.skipIf (s.has .skipBlanks)
    (d.current? ≠ some '-' → SignedAgrees d (c.readUnsigned k s max) (c.readSigned k s max)) ∧
    (d.current? = some '-' →
      NegativeAgrees d (s.has .skipBlanks) ((d.pass 1).readUnsigned k s.plain max) (c.readSigned k s max)) :=
  ⟨fun hsign => signedAgrees rfl hsign, fun hsign => negativeAgrees rfl hsign⟩

end Cursor
end TextCursor
