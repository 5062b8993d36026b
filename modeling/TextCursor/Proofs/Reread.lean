import TextCursor.Proofs.Line
import TextCursor.Proofs.Literal
import TextCursor.Proofs.Word
/-!
# A token read by itself

A command that reads a token reads the literal that stands at the cursor, behind the blanks it skips (`Command.Reads`).
Literals are closed, so the text of the window, taken alone, is read by the same command as the same value and to its end
(`reread_token`).
-/
namespace TextCursor

variable {α β : Type}

namespace Cursor

/-- The outcome is that of reading the literal at the cursor: its value, with the cursor behind it and closed, or a fault
where there is none. -/
def Takes (close : Cursor → Cursor) (c : Cursor) (l : Literal α) (o : Outcome α) : Prop :=
  (∃ v n, l c.rest = some (v, n) ∧ o = ⟨.ok v, close (c.pass n)⟩) ∨ (l c.rest = none ∧ ∃ f, o.answer = .error f)

variable {close : Cursor → Cursor} {c : Cursor}

theorem takes_pure (v : α) : Takes close c (Literal.pure v) ⟨.ok v, close c⟩ :=
  .inl ⟨v, 0, rfl, by rw [pass_zero]⟩

theorem takes_never {o : Outcome α} {f : Fault} (h : o.answer = .error f) : Takes close c Literal.never o :=
  .inr ⟨rfl, f, h⟩

/-- **What stands behind a literal is taken from the cursor behind it.** -/
theorem takes_andThen {l : Literal α} {f : α → Literal β} {o : Outcome β} {a : α} {m : Nat}
    (hl : l c.rest = some (a, m)) (h : Takes close (c.pass m) (f a) o) : Takes close c (l.andThen f) o := by
  unfold Takes at h ⊢
  rw [rest_pass] at h
  rw [Literal.andThen, hl]
  rcases h with ⟨v, n, hf, ho⟩ | ⟨hf, he⟩
  · exact .inl ⟨v, m + n, by simp only [hf, Option.map_some], by rw [ho, pass_pass]⟩
  · exact .inr ⟨by simp only [hf, Option.map_none], he⟩

theorem takes_bind {l : Literal α} {f : α → Literal β} {o : Outcome α} {g : α → Cursor → Outcome β}
    (ho : Takes id c l o) (hg : ∀ a n, Takes close (c.pass n) (f a) (g a (c.pass n))) :
    Takes close c (l.andThen f) (o.andThen g) := by
  rcases ho with ⟨a, n, hl, rfl⟩ | ⟨hl, e, he⟩
  · exact takes_andThen hl (hg a n)
  · exact .inr ⟨by rw [Literal.andThen, hl], e, by rw [Outcome.andThen, he]⟩

theorem Takes.map {l : Literal α} {o : Outcome α} (h : Takes close c l o) (g : α → β) :
    Takes close c (l.map g) (o.map g) := by
  rcases h with ⟨v, n, hl, rfl⟩ | ⟨hl, e, he⟩
  · exact .inl ⟨g v, n, by rw [Literal.map, hl]; rfl, rfl⟩
  · exact .inr ⟨by rw [Literal.map, hl]; rfl, e, by rw [Outcome.map, he]; rfl⟩

/-! ## The steps of the readers -/

theorem accept_eq (c : Cursor) (x : Char) :
    ∃ n, Literal.char x c.rest = some ((c.accept x false).1, n) ∧ (c.accept x false).2 = c.pass n := by
  have ha : c.accept x false = if c.current? = some x then (true, c.pass 1) else (false, c) := rfl
  unfold Literal.char Literal.map Literal.optional
  rw [ha, current?]
  cases c.rest.head? with
  | none => exact ⟨0, rfl, (pass_zero c).symm⟩
  | some y =>
    by_cases hy : y = x
    · exact ⟨1, by simp [hy], by simp [hy]⟩
    · exact ⟨0, by simp [hy], by simp [hy]⟩

theorem acceptOneOf_eq (c : Cursor) (set : Text) :
    ∃ n, Literal.oneOf set c.rest = some ((c.acceptOneOf set false).1, n) ∧ (c.acceptOneOf set false).2 = c.pass n := by
  unfold Literal.oneOf Literal.optional acceptOneOf
  simp only [skipIf_false, current?]
  cases c.rest.head? with
  | none => exact ⟨0, rfl, (pass_zero c).symm⟩
  | some y =>
    rw [Option.bind_some]
    dsimp only
    cases set.idxOf? y with
    | none => exact ⟨0, rfl, (pass_zero c).symm⟩
    | some i => exact ⟨1, rfl, rfl⟩

theorem acceptPoint_eq (c : Cursor) (comma : Bool) :
    ∃ n, Literal.point comma c.rest = some ((c.acceptPoint comma).1, n) ∧ (c.acceptPoint comma).2 = c.pass n := by
  obtain ⟨n, hn, hc⟩ := accept_eq c '.'
  unfold Literal.point Literal.andThen
  rw [hn, acceptPoint]
  generalize c.accept '.' false = a at hc
  obtain ⟨found, e⟩ := a
  cases found with
  | true => exact ⟨n, rfl, hc⟩
  | false =>
    cases comma with
    | false => exact ⟨n, rfl, hc⟩
    | true =>
      have hce : e = c.pass n := hc
      obtain ⟨m, hm, he⟩ := accept_eq e ','
      refine ⟨n + m, ?_, he.trans (by rw [hce, pass_pass])⟩
      have hr : e.rest = c.rest.drop n := by rw [hce, rest_pass]
      rw [hr] at hm
      simp only [Bool.false_eq_true, if_false, if_true, hm, Option.map_some]

theorem takes_readMagnitude (c : Cursor) (k : Numeral) (s : Flags) (max : Nat) :
    Takes id c (Literal.magnitude k s max) (c.readMagnitude k s max) := by
  unfold Takes Literal.magnitude
  simp only [readMagnitude]
  cases ((DigitRun.start (k.style s)).scan (k.style s) c.rest).result k max with
  | ok n => exact .inl ⟨n, _, rfl, rfl⟩
  | error e => exact .inr ⟨rfl, _, rfl⟩

/-! ## The readers -/

theorem takes_readUnsigned (c : Cursor) (k : Numeral) (s : Flags) (max : Nat) :
    Takes (finish · (s.has .skipBlanks)) (c.skipIf (s.has .skipBlanks)).mark (Literal.magnitude k s max)
      (c.readUnsigned k s max) := by
  rw [readUnsigned]
  rcases takes_readMagnitude (c.skipIf (s.has .skipBlanks)).mark k s max with ⟨v, n, hl, ho⟩ | ⟨hl, e, he⟩
  · exact .inl ⟨v, n, hl, by rw [ho]; rfl⟩
  · exact .inr ⟨hl, e, by rw [Outcome.andThen, he]⟩

theorem takes_readSigned (c : Cursor) (k : Numeral) (s : Flags) (max : Nat) :
    Takes (finish · (s.has .skipBlanks)) (c.skipIf (s.has .skipBlanks)).mark (Literal.signed k s max)
      (c.readSigned k s max) := by
  obtain ⟨n, hn, hc⟩ := accept_eq (c.skipIf (s.has .skipBlanks)).mark '-'
  simp only [readSigned]
  split
  all_goals
    rename_i e he
    rw [he] at hn hc
    refine takes_andThen hn ?_
    rw [← hc]
    refine takes_bind (takes_readMagnitude e k s max) fun a m => ?_
    simp only [if_true, Bool.false_eq_true, if_false]
    split
    · exact takes_pure _
    · exact takes_never rfl

theorem takes_readFloat (c : Cursor) (s : Flags) :
    Takes (finish · (s.has .skipBlanks)) (c.skipIf (s.has .skipBlanks)).mark (Literal.float s) (c.readFloat s) := by
  obtain ⟨n, hn, hc⟩ := acceptOneOf_eq (c.skipIf (s.has .skipBlanks)).mark ['+', '-']
  simp only [readFloat]
  refine takes_andThen hn ?_
  rw [← hc]
  generalize (c.skipIf (s.has .skipBlanks)).mark.acceptOneOf ['+', '-'] false = o
  refine takes_andThen rfl ?_
  by_cases hw : o.2.rest.takeWhile Char.isDigit = []
  · rw [if_pos hw, if_pos hw]
    exact takes_never rfl
  · rw [if_neg hw, if_neg hw]
    obtain ⟨m, hm, hp⟩ := acceptPoint_eq (o.2.pass (o.2.rest.takeWhile Char.isDigit).length) (s.has .comma)
    refine takes_andThen hm ?_
    rw [← hp]
    generalize (o.2.pass (o.2.rest.takeWhile Char.isDigit).length).acceptPoint (s.has .comma) = a
    obtain ⟨found, e⟩ := a
    cases found with
    | false => exact takes_pure _
    | true =>
      rw [if_pos rfl]
      refine takes_andThen rfl ?_
      dsimp only
      split
      · exact takes_never rfl
      · exact takes_pure _

theorem takes_readString (c : Cursor) (s : Flags) :
    Takes (finish · (s.has .skipBlanks)) (c.skipIf (s.has .skipBlanks)).mark (Literal.string c.config.isBlank s)
      (c.readString s) := by
  have hb : (c.skipIf (s.has .skipBlanks)).mark.isBlank = c.config.isBlank := by rw [isBlank_mark, isBlank_skipIf]; rfl
  simp only [readString]
  generalize (c.skipIf (s.has .skipBlanks)).mark = d at hb ⊢
  have hq : Literal.char '"' d.rest = some (decide (d.current? = some '"'), if d.current? = some '"' then 1 else 0) := by
    unfold Literal.char Literal.map Literal.optional
    rw [current?]
    cases d.rest.head? with
    | none => rfl
    | some y => by_cases hy : y = '"' <;> simp [hy]
  refine takes_andThen hq ?_
  by_cases hd : d.current? = some '"'
  · rw [if_pos hd, if_pos hd, decide_eq_true hd, if_pos rfl]
    unfold Takes Literal.quoted
    cases Reading.quoted? (d.pass 1).rest with
    | none => exact .inr ⟨rfl, _, rfl⟩
    | some r => exact .inl ⟨r.value, r.taken, rfl, rfl⟩
  · rw [if_neg hd, if_neg hd, decide_eq_false hd, if_neg Bool.false_ne_true, pass_zero]
    split
    · exact takes_never rfl
    · rw [hb]
      exact .inl ⟨_, _, rfl, rfl⟩

theorem takes_readWord (c : Cursor) (skip : Bool) :
    Takes (finish · skip) (c.skipIf skip).mark (Literal.run fun x => !c.config.isBlank x)
      ⟨.ok (c.readWord skip).1, (c.readWord skip).2⟩ := by
  have hb : (c.skipIf skip).isBlank = c.config.isBlank := by rw [isBlank_skipIf]; rfl
  rw [readWord_eq, word, hb]
  exact .inl ⟨_, _, rfl, rfl⟩

/-- **A name is read as a keyword exactly where the literal is.** -/
theorem matchKeyword_cases (c : Cursor) (list : Text) (s : Flags) :
    let d := (c.skipIf (s.has .skipBlanks)).mark
    (∃ i n, Literal.keyword list s d.rest = some (.found i, n) ∧
      c.matchKeyword list s = ⟨.ok (.found i), (d.pass n).finish (s.has .skipBlanks)⟩) ∨
    (Literal.keyword list s d.rest = none ∧ ∀ i, (c.matchKeyword list s).answer ≠ .ok (.found i)) := by
  intro d
  have hcur : (c.skipIf (s.has .skipBlanks)).current? = none → d.rest.takeWhile (isNameChar s) = [] := fun h => by
    rw [show d.rest = [] from List.head?_eq_none_iff.1 h, List.takeWhile_nil]
  simp only [matchKeyword]
  rw [Literal.keyword_eq]
  by_cases hname : d.rest.takeWhile (isNameChar s) = [] ∨ list = []
  · refine .inr ⟨if_pos hname, fun i h => ?_⟩
    split at h
    · cases h
    · split at h
      · cases h
      · rename_i hl
        rw [if_pos (hname.resolve_right hl)] at h
        cases h
  · rw [if_neg hname]
    rw [not_or] at hname
    rw [if_neg fun h => hname.1 (hcur h), if_neg hname.2, if_neg hname.1]
    cases Keyword.search (s.has .fullName) ((d.rest.takeWhile (isNameChar s)).map foldCase) list with
    | nothing => exact .inr ⟨rfl, fun i h => by cases h⟩
    | one i => exact .inl ⟨i, _, rfl, rfl⟩
    | several => exact .inr ⟨rfl, fun i h => by cases h⟩

theorem gap_ofText_take (c : Cursor) (skip : Bool) (n : Nat) :
    (ofText ((c.skipIf skip).rest.take n) c.config).gap skip = [] := by
  refine gap_eq_nil fun hs x hx => ?_
  subst hs
  refine not_isBlank_of_current? (c := c) ?_
  rw [current?, rest_ofText] at hx
  rw [current?, ← List.take_append_drop n (c.skipIf true).rest, List.head?_append, hx]; rfl

end Cursor

/-! ## The commands -/

/-- The reply is no answer that a name is missing or unknown. -/
def Reply.isHit : Reply → Bool
  | .keyword m => m.place?.isSome
  | _ => true

namespace Command

/-- The command reads a token: a number, a string, a word, a line or a name. -/
def readsToken : Command → Bool
  | .matchKeyword _ _ | .readUnsigned _ _ _ | .readSigned _ _ _ | .readFloat _ | .readString _ | .readWord _ | .readLine _ =>
    true
  | _ => false

def skips : Command → Bool
  | .matchKeyword _ s | .readUnsigned _ s _ | .readSigned _ s _ | .readFloat s | .readString s => s.has .skipBlanks
  | .readWord skip | .readLine skip => skip
  | _ => false

/-- What a command passes behind its token: the line end behind a line, blanks, if asked, behind any other. -/
def trail (c : Cursor) : Command → Text
  | .readLine _ => Text.lineEnd c.rest
  | m => c.gap m.skips

/-- The cursor that a command leaves once it has read its token. -/
def close (m : Command) (c : Cursor) : Cursor := (c.resolve .atCursor).pass (m.trail c).length

/-- **What the command reads is its literal**: it succeeds only with the literal behind the blanks it skips, and always with
the literal at the cursor where there are no blanks to skip. -/
structure Reads (m : Command) : Prop where
  found : ∀ (c : Cursor) v, (c.perform m).answer = .ok v → v.isHit = true →
    ∃ n, m.literal c.config (c.skipIf m.skips).rest = some (v, n) ∧
      (c.perform m).cursor = m.close ((c.skipIf m.skips).mark.pass n)
  reads : ∀ (c : Cursor) v n, c.gap m.skips = [] → m.literal c.config c.rest = some (v, n) →
    c.perform m = ⟨.ok v, m.close (c.mark.pass n)⟩

theorem close_eq_finish {m : Command} (h : ∀ c, m.trail c = c.gap m.skips) : m.close = (Cursor.finish · m.skips) := by
  funext c
  rw [close, h, Cursor.finish_eq_pass]

theorem reads_of_takes {m : Command} (ht : ∀ c, m.trail c = c.gap m.skips)
    (h : ∀ c : Cursor, Cursor.Takes (Cursor.finish · m.skips) (c.skipIf m.skips).mark (m.literal c.config) (c.perform m)) :
    m.Reads := by
  have hclose := close_eq_finish ht
  constructor
  · intro c v hv _
    rcases h c with ⟨w, n, hl, ho⟩ | ⟨-, f, hf⟩
    · rw [ho] at hv ⊢
      cases hv
      exact ⟨n, hl, by rw [hclose]⟩
    · rw [hf] at hv
      cases hv
  · intro c v n hg hl
    have hc := h c
    rw [Cursor.skipIf_of_gap_eq_nil hg] at hc
    rcases hc with ⟨w, m, hl', ho⟩ | ⟨hl', -⟩
    · cases hl.symm.trans hl'
      rw [ho, hclose]
    · cases hl.symm.trans hl'

theorem reads_matchKeyword (list : Text) (s : Flags) : (matchKeyword list s).Reads := by
  have hclose : (matchKeyword list s).close = (Cursor.finish · (s.has .skipBlanks)) := close_eq_finish fun _ => rfl
  have hperform : ∀ c : Cursor, c.perform (matchKeyword list s) = (c.matchKeyword list s).map .keyword := fun _ => rfl
  have hliteral : ∀ t c, (matchKeyword list s).literal c t =
      (Literal.keyword list s t).map fun p => (.keyword p.1, p.2) := fun _ _ => rfl
  constructor
  · intro c v hv hhit
    rcases c.matchKeyword_cases list s with ⟨i, n, hl, ho⟩ | ⟨-, hne⟩
    · rw [hperform, ho] at hv ⊢
      cases hv
      refine ⟨n, ?_, by rw [hclose]; rfl⟩
      rw [hliteral]
      exact congrArg _ hl
    · rw [hperform] at hv
      cases ha : (c.matchKeyword list s).answer with
      | error e => rw [Outcome.map, ha] at hv; cases hv
      | ok a =>
        rw [Outcome.map, ha] at hv
        cases hv
        cases a with
        | found i => exact absurd ha (hne i)
        | unknown => cases hhit
        | noInput => cases hhit
  · intro c v n hg hl
    rw [hliteral] at hl
    obtain ⟨p, hp, he⟩ := Option.map_eq_some_iff.1 hl
    cases he
    have hskip : c.skipIf (s.has .skipBlanks) = c := Cursor.skipIf_of_gap_eq_nil hg
    rcases c.matchKeyword_cases list s with ⟨i, n, hl, ho⟩ | ⟨hl, -⟩
    · rw [hskip, Cursor.rest_mark, hp] at hl
      cases hl
      rw [hperform, ho, hskip, hclose]
      rfl
    · rw [hskip, Cursor.rest_mark, hp] at hl
      cases hl

theorem reads_readLine (skip : Bool) : (readLine skip).Reads := by
  have hclose : ∀ d : Cursor, (readLine skip).close (d.mark.pass d.rest.line.length) = d.afterLine := fun d => by
    rw [close, trail, Cursor.rest_pass]; rfl
  have hperform : ∀ c : Cursor, c.perform (readLine skip) = (c.readLine skip).map .text := fun _ => rfl
  constructor
  · intro c v hv _
    rw [hperform, Cursor.readLine_eq] at hv ⊢
    split at hv
    · cases hv
    · rename_i hc
      cases hv
      rw [if_neg hc]
      exact ⟨_, rfl, (hclose (c.skipIf skip)).symm⟩
  · intro c v n hg hl
    have hskip : c.skipIf skip = c := Cursor.skipIf_of_gap_eq_nil hg
    cases hl
    rw [hperform, Cursor.readLine_eq, hskip, if_neg fun h => Nat.lt_irrefl _ h.1]
    exact congrArg _ (hclose c).symm

/-- **Every command that reads a token reads its literal.** -/
theorem reads_of_readsToken {m : Command} (hm : m.readsToken = true) : m.Reads := by
  cases m with
  | matchKeyword list s => exact reads_matchKeyword list s
  | readUnsigned k s max =>
    exact reads_of_takes (fun _ => rfl) fun c => (c.takes_readUnsigned k s max).map fun (n : Nat) => Reply.integer n
  | readSigned k s max => exact reads_of_takes (fun _ => rfl) fun c => (c.takes_readSigned k s max).map _
  | readFloat s => exact reads_of_takes (fun _ => rfl) fun c => (c.takes_readFloat s).map _
  | readString s => exact reads_of_takes (fun _ => rfl) fun c => (c.takes_readString s).map _
  | readWord skip => exact reads_of_takes (fun _ => rfl) fun c => (c.takes_readWord skip).map _
  | readLine skip => exact reads_readLine skip
  | _ => cases hm

theorem trail_prefix (m : Command) (c : Cursor) : m.trail c <+: c.rest := by
  unfold trail
  split
  · exact Text.lineEnd_prefix _
  · exact List.prefix_iff_eq_take.2 (c.take_length_gap _).symm

theorem trail_eq_gap {m : Command} (h : ∀ skip, m ≠ .readLine skip) (c : Cursor) : m.trail c = c.gap m.skips := by
  unfold trail
  split
  · exact absurd rfl (h _)
  · rfl

theorem slice?_close {c : Cursor} (h : c.OnBoundary) (m : Command) :
    c.text.slice? c.pos (m.close c).pos = some (m.trail c) := by
  have hs := Cursor.slice?_pass h (m.trail c).length
  rw [← List.prefix_iff_eq_take.1 (m.trail_prefix c)] at hs
  exact hs

theorem close_of_rest_eq_nil {c : Cursor} (m : Command) (h : c.rest = []) : m.close c = c.resolve .atCursor := by
  have ht : m.trail c = [] := List.prefix_nil.1 (h ▸ m.trail_prefix c)
  rw [close, ht]
  exact Cursor.pass_zero _

theorem skips_of_mem_gap {m : Command} {c : Cursor} {x : Char} (hx : x ∈ c.gap m.skips) :
    m.skips = true ∧ c.isBlank x = true := by
  refine ⟨?_, Cursor.isBlank_of_mem_gap hx⟩
  by_contra hs
  rw [Cursor.gap, if_neg hs] at hx
  cases hx

/-- **The characters of a literal, taken alone, are read as the same literal**, to their end. -/
theorem Reads.alone {m : Command} (hm : m.Reads) {c : Cursor} {v : Reply} {n : Nat}
    (hl : m.literal c.config (c.skipIf m.skips).rest = some (v, n)) :
    let token := (c.skipIf m.skips).rest.take n
    let o := (Cursor.ofText token c.config).perform m
    o.answer = .ok v ∧ o.cursor.window = ⟨0, some (Text.size token)⟩ ∧ o.cursor.isDone = true := by
  intro token o
  have hn : token.length = n := List.length_take_of_le (m.closed_literal c.config _ v n hl).1
  have hcut := (m.closed_literal c.config _ v n hl).2 n (Nat.le_refl n)
  have ho : o = ⟨.ok v, m.close ((Cursor.ofText token c.config).mark.pass n)⟩ := by
    refine hm.reads _ v n (c.gap_ofText_take m.skips n) ?_
    rw [Cursor.rest_ofText]; exact hcut
  generalize hc : Cursor.ofText token c.config = d at ho
  have hrest : d.rest = token := by rw [← hc, Cursor.rest_ofText]
  have hpos : (d.pass n).pos = Text.size token := by
    rw [Cursor.pos_pass, hrest, ← hn, List.take_length, ← hc]
    exact Nat.zero_add _
  have hnil : (d.mark.pass n).rest = [] := by rw [Cursor.rest_pass, Cursor.rest_mark, hrest, ← hn, List.drop_length]
  rw [close_of_rest_eq_nil m hnil] at ho
  refine ⟨by rw [ho], ?_, ?_⟩
  · rw [ho, ← hpos, Cursor.window_passed, ← hc]; rfl
  · rw [ho, Cursor.isDone, decide_eq_true_eq]
    show d.text.size ≤ (d.pass n).pos
    rw [hpos, ← hc]
    exact Nat.le_refl _

end Command

namespace Cursor

/-- The command leaves the window on a token with nothing but skipped blanks in front, and behind it as well unless it is a
line; and it reads the token, taken alone, as the same value, leaving the window on all of it and the cursor at the end. -/
def Rereads (c : Cursor) (m : Command) (v : Reply) : Prop :=
  let d := (c.perform m).cursor
  ∃ s e gap token trail,
    (d.text = c.text ∧ d.config = c.config ∧ d.window = ⟨s, some e⟩) ∧
    (c.text.slice? c.pos s = some gap ∧ ∀ x ∈ gap, m.skips = true ∧ c.isBlank x = true) ∧
    c.text.slice? s e = some token ∧
    (c.text.slice? e d.pos = some trail ∧
      ((∀ skip, m ≠ .readLine skip) → ∀ x ∈ trail, m.skips = true ∧ c.isBlank x = true)) ∧
    let again := (ofText token c.config).perform m
    again.answer = .ok v ∧ again.cursor.window = ⟨0, some (e - s)⟩ ∧ again.cursor.isDone = true

/-- **Wherever a token is read, it is read again by itself.**  The cursor may be any that a run leaves (`sound_after`). -/
theorem reread_token {c : Cursor} (h : c.OnBoundary) {m : Command} (hm : m.readsToken = true) {v : Reply}
    (hv : (c.perform m).answer = .ok v) (hhit : v.isHit = true) : c.Rereads m v := by
  have hreads := Command.reads_of_readsToken hm
  obtain ⟨n, hl, hd⟩ := hreads.found c v hv hhit
  have hgap : c.text.slice? c.pos (c.skipIf m.skips).pos = some (c.gap m.skips) := by
    rw [skipIf_eq_pass, slice?_pass h, take_length_gap]
  have hagain := hreads.alone hl
  have hat := onBoundary_skipIf h m.skips
  have htoken := slice?_pass hat n
  have htrail := Command.slice?_close (onBoundary_pass (onBoundary_mark hat) n) m
  have hblank : ((c.skipIf m.skips).mark.pass n).isBlank = c.isBlank := by
    rw [isBlank_pass, isBlank_mark, isBlank_skipIf]
  have hsize : ((c.skipIf m.skips).pass n).pos - (c.skipIf m.skips).pos = Text.size ((c.skipIf m.skips).rest.take n) := by
    rw [pos_pass, Nat.add_sub_cancel_left]
  rw [text_skipIf] at htoken
  rw [text_pass, text_mark, text_skipIf] at htrail
  unfold Rereads
  intro d
  rw [show d = m.close ((c.skipIf m.skips).mark.pass n) from hd]
  refine ⟨(c.skipIf m.skips).pos, ((c.skipIf m.skips).pass n).pos, c.gap m.skips, (c.skipIf m.skips).rest.take n,
    m.trail ((c.skipIf m.skips).mark.pass n), ⟨text_skipIf c _, config_skipIf c _, window_passed _ n⟩,
    ⟨hgap, fun x => Command.skips_of_mem_gap⟩, htoken, ⟨htrail, fun hline x hx => ?_⟩, ?_⟩
  · rw [← hblank]
    rw [Command.trail_eq_gap hline] at hx
    exact Command.skips_of_mem_gap hx
  · intro again
    rw [hsize]
    exact hagain

theorem reread_token_between_blanks :
    let c := ofText [' ', '0', 'x', '1', 'F', ' ', 'a'] {}
    let m := Command.readUnsigned .number (.ofList [.skipBlanks, .hex]) 0
    let v := Reply.integer 31
    c.OnBoundary ∧ m.readsToken = true ∧ (c.perform m).answer = .ok v ∧ v.isHit = true ∧ c.Rereads m v :=
  ⟨rfl, rfl, rfl, rfl, reread_token (by rfl) rfl rfl rfl⟩

end Cursor
end TextCursor
