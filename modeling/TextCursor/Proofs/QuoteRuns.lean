import Mathlib.Data.List.Induction
import TextCursor.Proofs.Quoting
import TextCursor.Proofs.Token
/-!
# Where a string in quotes ends

Behind its opening quote a string ends with the first run of quotes that is odd: the quotes before its last one are doubled
quotes of the value, and the last one closes the string.  So a text that holds no odd run is a doubled text and is never
closed (`eq_doubled_of_not_hasOddRun`), and any other is a doubled text up to the last quote of its first odd run
(`IsFirstOddRun.exists_doubled`); the reader is then read off (`readString_quoted`).
-/
namespace TextCursor

namespace Text

/-- The text with every doubled quote replaced by one, pair by pair from the left. -/
def undoubled : Text → Text
  | [] => []
  | [c] => [c]
  | c :: d :: t => if c = '"' ∧ d = '"' then '"' :: undoubled t else c :: undoubled (d :: t)

theorem undoubled_cons_of_ne {c : Char} (h : c ≠ '"') (t : Text) : undoubled (c :: t) = c :: undoubled t := by
  cases t with
  | nil => rfl
  | cons d t => rw [undoubled, if_neg fun hc => h hc.1]

theorem undoubled_doubled (v : Text) : v.doubled.undoubled = v := by
  induction v with
  | nil => rfl
  | cons c v ih =>
    by_cases hc : c = '"'
    · rw [doubled, if_pos hc, undoubled, if_pos ⟨rfl, rfl⟩, ih, hc]
    · rw [doubled_cons_of_ne hc, undoubled_cons_of_ne hc, ih]

theorem doubled_append (v w : Text) : (v ++ w).doubled = v.doubled ++ w.doubled := by
  induction v with
  | nil => rfl
  | cons c v ih => rw [List.cons_append, doubled_cons, ih, doubled_cons c v, List.append_assoc]

theorem doubled_quotes (k : Nat) : doubled (List.replicate k '"') = List.replicate (2 * k) '"' := by
  induction k with
  | zero => rfl
  | succ k ih => rw [List.replicate_succ, doubled, if_pos rfl, ih]; rfl

theorem getLast?_doubled (v : Text) : v.doubled.getLast? = v.getLast? := by
  rcases List.eq_nil_or_concat v with rfl | ⟨w, c, rfl⟩
  · rfl
  · rw [List.concat_eq_append, doubled_append, List.getLast?_append, List.getLast?_append]
    by_cases hc : c = '"'
    · rw [hc]; rfl
    · rw [doubled_cons_of_ne hc]; rfl

/-- The quotes that a text ends with are taken off it. -/
theorem exists_eq_append_quotes (v : Text) : ∃ w k, v = w ++ List.replicate k '"' ∧ w.getLast? ≠ some '"' := by
  induction v using List.reverseRecOn with
  | nil => exact ⟨[], 0, rfl, by decide⟩
  | append_singleton v c ih =>
    by_cases hc : c = '"'
    · obtain ⟨w, k, rfl, hw⟩ := ih
      exact ⟨w, k + 1, by rw [hc, List.append_assoc, ← List.replicate_succ'], hw⟩
    · refine ⟨v ++ [c], 0, (List.append_nil _).symm, fun h => hc ?_⟩
      rw [List.getLast?_append] at h
      exact Option.some.inj h

/-- Pair by pair from the left, a text is doubled to its end, or up to a quote that is not. -/
theorem doubled_or_closed (t : Text) :
    (∃ v : Text, t = v.doubled) ∨ ∃ (v after : Text), t = v.doubled ++ '"' :: after ∧ after.head? ≠ some '"' := by
  have step : ∀ (c : Char) (u : Text),
      ((∃ v : Text, u = v.doubled) ∨ ∃ (v after : Text), u = v.doubled ++ '"' :: after ∧ after.head? ≠ some '"') →
      (∃ v : Text, doubled [c] ++ u = v.doubled) ∨
        ∃ (v after : Text), doubled [c] ++ u = v.doubled ++ '"' :: after ∧ after.head? ≠ some '"' := by
    rintro c u (⟨v, rfl⟩ | ⟨v, after, rfl, hafter⟩)
    · exact .inl ⟨c :: v, (doubled_cons c v).symm⟩
    · exact .inr ⟨c :: v, after, by rw [doubled_cons c v, List.append_assoc], hafter⟩
  fun_induction undoubled t with
  | case1 => exact .inl ⟨[], rfl⟩
  | case2 c =>
    by_cases hc : c = '"'
    · exact .inr ⟨[], [], by rw [hc]; rfl, by decide⟩
    · exact .inl ⟨[c], (doubled_cons_of_ne hc []).symm⟩
  | case3 c d t h ih =>
    obtain ⟨rfl, rfl⟩ := h
    exact step '"' t ih
  | case4 c d t h ih =>
    by_cases hc : c = '"'
    · refine .inr ⟨[], d :: t, by rw [hc]; rfl, fun hd => h ⟨hc, Option.some.inj hd⟩⟩
    · have hcons := step c (d :: t) ih
      rwa [doubled_cons_of_ne hc] at hcons

/-! ## Runs of quotes -/

/-- A longest run of quotes in the text, odd in number, with what is before and behind it. -/
structure IsOddRun (t before : Text) (n : Nat) (after : Text) : Prop where
  eq : t = before ++ (List.replicate n '"' ++ after)
  odd : n % 2 = 1
  left : before.getLast? ≠ some '"'
  right : after.head? ≠ some '"'

def HasOddRun (t : Text) : Prop := ∃ before n after, IsOddRun t before n after

/-- The first odd run: there is none in what is before it. -/
structure IsFirstOddRun (t before : Text) (n : Nat) (after : Text) : Prop where
  run : IsOddRun t before n after
  first : ¬ HasOddRun before

theorem hasOddRun_of_cons {c : Char} (hc : c ≠ '"') {t : Text} (h : HasOddRun (c :: t)) : HasOddRun t := by
  obtain ⟨before, n, after, heq, hodd, hleft, hright⟩ := h
  cases before with
  | nil =>
    obtain ⟨k, rfl⟩ : ∃ k, n = k + 1 := ⟨n - 1, by omega⟩
    rw [List.nil_append, List.replicate_succ, List.cons_append] at heq
    exact absurd (List.cons.inj heq).1 hc
  | cons x before =>
    refine ⟨before, n, after, (List.cons.inj heq).2, hodd, fun h => hleft ?_, hright⟩
    rw [List.getLast?_cons, h]; rfl

/-- Two quotes in front add to the first run, which stays odd, or are a run by themselves. -/
theorem hasOddRun_of_cons_cons {t : Text} (h : HasOddRun ('"' :: '"' :: t)) : HasOddRun t := by
  obtain ⟨before, n, after, heq, hodd, hleft, hright⟩ := h
  match before with
  | [] =>
    match n with
    | 1 =>
      rw [List.nil_append, List.replicate_one, List.singleton_append] at heq
      rw [← (List.cons.inj heq).2] at hright
      exact absurd rfl hright
    | n + 2 =>
      have htail := (List.cons.inj (List.cons.inj heq).2).2
      exact ⟨[], n, after, htail, by omega, hleft, hright⟩
  | [x] =>
    rw [← (List.cons.inj heq).1] at hleft
    exact absurd rfl hleft
  | x :: y :: before =>
    obtain ⟨hx, htail⟩ := List.cons.inj heq
    refine ⟨before, n, after, (List.cons.inj htail).2, hodd, fun h => hleft ?_, hright⟩
    rw [List.getLast?_cons, List.getLast?_cons, h]; rfl

/-- **In a doubled text every run of quotes is even.** -/
theorem not_hasOddRun_doubled (v : Text) : ¬ HasOddRun v.doubled := by
  induction v with
  | nil =>
    rintro ⟨before, n, after, heq, hodd, -, -⟩
    have hlength := congrArg List.length heq
    rw [List.length_append, List.length_append, List.length_replicate] at hlength
    change 0 = _ at hlength
    omega
  | cons c v ih =>
    by_cases hc : c = '"'
    · rw [doubled, if_pos hc]
      exact fun h => ih (hasOddRun_of_cons_cons h)
    · rw [doubled_cons_of_ne hc]
      exact fun h => ih (hasOddRun_of_cons hc h)

/-- The first odd run starts behind the last character of the doubled text that is not a quote, and ends with the quote that
is not doubled. -/
theorem isFirstOddRun_closed {w after : Text} (hw : w.getLast? ≠ some '"') (hafter : after.head? ≠ some '"') (k : Nat) :
    IsFirstOddRun ((w ++ List.replicate k '"').doubled ++ '"' :: after) w.doubled (2 * k + 1) after where
  run :=
    { eq := by
        rw [doubled_append, doubled_quotes, List.append_assoc, List.replicate_succ', List.append_assoc]; rfl
      odd := by omega
      left := by rw [getLast?_doubled]; exact hw
      right := hafter }
  first := not_hasOddRun_doubled w

theorem exists_isFirstOddRun (v : Text) {after : Text} (hafter : after.head? ≠ some '"') :
    ∃ before n, IsFirstOddRun (v.doubled ++ '"' :: after) before n after := by
  obtain ⟨w, k, rfl, hw⟩ := exists_eq_append_quotes v
  exact ⟨w.doubled, 2 * k + 1, isFirstOddRun_closed hw hafter k⟩

/-- **A text without an odd run is doubled throughout.** -/
theorem eq_doubled_of_not_hasOddRun {t : Text} (h : ¬ HasOddRun t) : ∃ v : Text, t = v.doubled := by
  rcases doubled_or_closed t with hv | ⟨v, after, rfl, hafter⟩
  · exact hv
  · obtain ⟨before, n, hrun⟩ := exists_isFirstOddRun v hafter
    exact absurd ⟨before, n, after, hrun.run⟩ h

theorem exists_isFirstOddRun_of_hasOddRun {t : Text} (h : HasOddRun t) :
    ∃ before n after, IsFirstOddRun t before n after := by
  rcases doubled_or_closed t with ⟨v, rfl⟩ | ⟨v, after, rfl, hafter⟩
  · exact absurd h (not_hasOddRun_doubled v)
  · obtain ⟨before, n, hrun⟩ := exists_isFirstOddRun v hafter
    exact ⟨before, n, after, hrun⟩

/-- **Up to the last quote of its first odd run a text is doubled**, and that quote is not. -/
theorem IsFirstOddRun.exists_doubled {t before after : Text} {n : Nat} (h : IsFirstOddRun t before n after) :
    ∃ v : Text, t = v.doubled ++ '"' :: after ∧ before ++ List.replicate (n - 1) '"' = v.doubled ∧
      before ++ List.replicate n '"' = v.doubled ++ ['"'] := by
  obtain ⟨w, rfl⟩ := eq_doubled_of_not_hasOddRun h.first
  obtain ⟨k, rfl⟩ : ∃ k, n = 2 * k + 1 := ⟨n / 2, by have := h.run.odd; omega⟩
  have hbody : w.doubled ++ List.replicate (2 * k + 1 - 1) '"' = (w ++ List.replicate k '"').doubled := by
    rw [doubled_append, doubled_quotes]; rfl
  have hrun : w.doubled ++ List.replicate (2 * k + 1) '"' = (w ++ List.replicate k '"').doubled ++ ['"'] := by
    rw [← hbody, List.replicate_succ', List.append_assoc]; rfl
  refine ⟨w ++ List.replicate k '"', ?_, hbody, hrun⟩
  rw [h.run.eq, ← List.append_assoc, hrun, List.append_assoc]
  rfl

end Text

namespace Cursor

open Text (HasOddRun IsFirstOddRun)

/-- Behind the opening quote the reading decides. -/
theorem readString_behind_quote {c d : Cursor} {o : Flags} {t : Text} (hd : c.skipIf (o.has .skipBlanks) = d)
    (h : d.rest = '"' :: t) :
    c.readString o = match Reading.quoted? t with
      | some r => ⟨.ok r.value, (d.afterToken ('"' :: t.take r.taken)).skipIf (o.has .skipBlanks)⟩
      | none => d.blame ('"' :: t) .stringEndExpected := by
  have hquote : d.mark.current? = some '"' := by rw [current?, rest_mark, h]; rfl
  have hrest : (d.mark.pass 1).rest = t := by rw [rest_pass, rest_mark, h]; rfl
  simp only [readString, hd, if_pos hquote, hrest]
  cases Reading.quoted? t with
  | some r =>
    have hfinish := finish_passed d (1 + r.taken) (o.has .skipBlanks)
    rw [← pass_pass, h, Nat.add_comm 1, List.take_succ_cons] at hfinish
    exact congrArg (Outcome.mk _) hfinish
  | none =>
    have hboundary : d.OnBoundary := onBoundary_of_rest_ne_nil (by rw [h]; exact List.cons_ne_nil _ _)
    have hfail := fail_rest (α := Text) hboundary .stringEndExpected
    rw [h, List.length_cons, Nat.add_comm, ← pass_pass] at hfail
    exact hfail

theorem readString_of_isFirstOddRun {c : Cursor} {o : Flags} {t before after : Text} {n : Nat}
    (h : (c.skipIf (o.has .skipBlanks)).rest = '"' :: t) (hrun : IsFirstOddRun t before n after) :
    let token := '"' :: (before ++ List.replicate n '"')
    c.readString o = ⟨.ok (Text.undoubled (before ++ List.replicate (n - 1) '"')).folded,
        ((c.skipIf (o.has .skipBlanks)).afterToken token).skipIf (o.has .skipBlanks)⟩ ∧
      (c.readString o).cursor.token = token := by
  intro token
  obtain ⟨v, rfl, hbody, htoken⟩ := hrun.exists_doubled
  have htake : (v.doubled ++ '"' :: after).take (v.doubled.length + 1) = before ++ List.replicate n '"' := by
    rw [htoken, List.take_length_add_append]; rfl
  have hread := readString_behind_quote rfl h
  rw [Reading.quoted?_doubled hrun.run.right] at hread
  have hshown := token_afterToken (c.skipIf (o.has .skipBlanks)) (v.doubled.length + 1 + 1) (o.has .skipBlanks)
  rw [h, List.take_succ_cons, htake] at hshown
  rw [hread, hbody, Text.undoubled_doubled]
  simp only [htake]
  exact ⟨rfl, hshown⟩

theorem readString_of_not_hasOddRun {c : Cursor} {o : Flags} {t : Text}
    (h : (c.skipIf (o.has .skipBlanks)).rest = '"' :: t) (hodd : ¬ HasOddRun t) :
    c.readString o = (c.skipIf (o.has .skipBlanks)).blame ('"' :: t) .stringEndExpected := by
  obtain ⟨v, rfl⟩ := Text.eq_doubled_of_not_hasOddRun hodd
  have hread := readString_behind_quote rfl h
  rwa [Reading.quoted?_doubled_eq_none] at hread

/-- **A string in quotes ends with the last quote of the first odd run of quotes behind its opening one**, and there is no
string where there is no odd run.  Its value is the text between the two quotes, with each doubled quote made one and the
control characters then folded; the token runs from the one quote to the other.  Without an odd run the fault takes all that
is left of the text. -/
theorem readString_quoted {c : Cursor} {o : Flags} {t : Text} (h : (c.skipIf (o.has .skipBlanks)).rest = '"' :: t) :
    let d := c.skipIf (o.has .skipBlanks)
    let read := c.readString o
    ((∃ v, read.answer = .ok v) ↔ HasOddRun t) ∧
    (HasOddRun t → ∃ before n after, IsFirstOddRun t before n after) ∧
    (∀ before n after, IsFirstOddRun t before n after →
      let body := before ++ List.replicate (n - 1) '"'
      let token := '"' :: (before ++ List.replicate n '"')
      read = ⟨.ok body.undoubled.folded, (d.afterToken token).skipIf (o.has .skipBlanks)⟩ ∧ read.cursor.token = token) ∧
    (¬ HasOddRun t → read = d.blame ('"' :: t) .stringEndExpected ∧ read.cursor.pos = c.text.size) := by
  intro d read
  have hopen : ¬ HasOddRun t → read = d.blame ('"' :: t) .stringEndExpected := readString_of_not_hasOddRun h
  refine ⟨⟨fun ⟨v, hv⟩ => ?_, fun hodd => ?_⟩, Text.exists_isFirstOddRun_of_hasOddRun,
    fun before n after hrun => readString_of_isFirstOddRun h hrun, fun hodd => ⟨hopen hodd, ?_⟩⟩
  · by_contra hodd
    rw [hopen hodd] at hv
    cases hv
  · obtain ⟨before, n, after, hrun⟩ := Text.exists_isFirstOddRun_of_hasOddRun hodd
    exact ⟨_, congrArg Outcome.answer (readString_of_isFirstOddRun h hrun).1⟩
  · have hboundary : d.OnBoundary := onBoundary_of_rest_ne_nil (by rw [h]; exact List.cons_ne_nil _ _)
    have hend := pos_add_size_rest hboundary
    rw [h] at hend
    rw [hopen hodd, ← text_skipIf c (o.has .skipBlanks)]
    exact hend

theorem readString_quoted_runs :
    let c := Cursor.ofText [' ', '"', '"', '"', 'a', '\r', '\n', '"', '"', '"', 'b'] {}
    let o := Flags.only .skipBlanks
    let t : Text := ['"', '"', 'a', '\r', '\n', '"', '"', '"', 'b']
    (c.skipIf (o.has .skipBlanks)).rest = '"' :: t ∧ (c.readString o).answer = .ok ['"', 'a', '\n', '"'] ∧
      (c.readString o).cursor.token = ['"', '"', '"', 'a', '\r', '\n', '"', '"', '"'] := by
  have hrest : ((Cursor.ofText [' ', '"', '"', '"', 'a', '\r', '\n', '"', '"', '"', 'b'] {}).skipIf
      ((Flags.only .skipBlanks).has .skipBlanks)).rest = ['"', '"', '"', 'a', '\r', '\n', '"', '"', '"', 'b'] := by
    decide
  have hafter : (['b'] : Text).head? ≠ some '"' := by decide
  have hrun := Text.isFirstOddRun_closed (w := ['"', 'a', '\r', '\n']) (by decide) hafter 1
  have hread := (readString_quoted hrest).2.2.1 _ _ _ hrun
  exact ⟨hrest, congrArg Outcome.answer hread.1, hread.2⟩

end Cursor
end TextCursor
