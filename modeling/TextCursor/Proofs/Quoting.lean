import TextCursor.Proofs.Unquoted
/-!
# Strings in quotes

A text is put in quotes by doubling every quote in it (`Text.quoted`).  Reading it back, whatever surrounds it, undoes the
doubling and leaves the value of the text (`readString_atQuoted`); a value is its own value, so that a string once read
survives any further writing and reading.
-/
namespace TextCursor

namespace Text

/-- The text with every quote doubled. -/
def doubled : Text → Text
  | [] => []
  | c :: t => if c = '"' then '"' :: '"' :: doubled t else c :: doubled t

/-- The text written as a string in quotes. -/
def quoted (s : Text) : Text := '"' :: (s.doubled ++ ['"'])

theorem doubled_cons (c : Char) (t : Text) : doubled (c :: t) = doubled [c] ++ doubled t := by
  simp only [doubled]
  split <;> rfl

theorem doubled_cons_of_ne {c : Char} (h : c ≠ '"') (t : Text) : doubled (c :: t) = c :: doubled t := by
  rw [doubled, if_neg h]

theorem head?_doubled_cons (c : Char) (t : Text) : (doubled (c :: t)).head? = some c := by
  by_cases h : c = '"'
  · rw [doubled, if_pos h, h]; rfl
  · rw [doubled_cons_of_ne h]; rfl

/-! ## Values -/

/-- The text holds no control character but line feeds. -/
def Plain (t : Text) : Prop := ∀ x ∈ t, isControl x = true → x = '\n'

theorem plain_cons {c : Char} {t : Text} (hc : isControl c = true → c = '\n') (ht : Plain t) : Plain (c :: t) := by
  intro x hx
  rcases List.mem_cons.1 hx with rfl | hx
  · exact hc
  · exact ht x hx

theorem eq_lineFeed_of_isControl_foldControl {c : Char} (h : isControl (foldControl c) = true) : foldControl c = '\n' := by
  unfold foldControl at h ⊢
  split at h
  · rw [if_pos (by assumption)]
  · rename_i hc
    exact absurd h hc

theorem plain_folded (t : Text) : Plain t.folded := by
  fun_induction folded t with
  | case1 => intro x hx; cases hx
  | case2 c =>
    rw [← foldControl_eq]
    exact plain_cons eq_lineFeed_of_isControl_foldControl (fun x hx => by cases hx)
  | case3 c d t h ih => exact plain_cons (fun _ => rfl) ih
  | case4 c d t h ih =>
    rw [← foldControl_eq]
    exact plain_cons eq_lineFeed_of_isControl_foldControl ih

theorem foldControl_of_plain {c : Char} (h : isControl c = true → c = '\n') : foldControl c = c := by
  unfold foldControl
  split
  · rename_i hc
    exact (h hc).symm
  · rfl

/-- **A text without control characters other than line feeds is its own value.** -/
theorem Plain.folded_eq {t : Text} (h : Plain t) : t.folded = t := by
  fun_induction folded t with
  | case1 => rfl
  | case2 c => rw [← foldControl_eq, foldControl_of_plain (h c List.mem_cons_self)]
  | case3 c d t hp ih =>
    -- one half of a pair is a carriage return
    rcases hp with ⟨rfl, rfl⟩ | ⟨rfl, rfl⟩
    · cases h '\r' List.mem_cons_self rfl
    · cases h '\r' (List.mem_cons_of_mem _ List.mem_cons_self) rfl
  | case4 c d t hp ih =>
    rw [← foldControl_eq, foldControl_of_plain (h c List.mem_cons_self), ih fun x hx => h x (List.mem_cons_of_mem c hx)]

theorem folded_folded (t : Text) : t.folded.folded = t.folded := (plain_folded t).folded_eq

end Text

namespace Reading

theorem plain_quoted? {t : Text} {r : Reading} (h : quoted? t = some r) : Text.Plain r.value := by
  fun_induction quoted? t generalizing r with
  | case1 => cases h
  | case2 => cases h; intro x hx; cases hx
  | case3 => cases h
  | case4 t ih =>
    obtain ⟨q, hq, rfl⟩ := Option.map_eq_some_iff.1 h
    exact Text.plain_cons (by decide) (ih hq)
  | case5 => cases h; intro x hx; cases hx
  | case6 c d t hc hp ih =>
    obtain ⟨q, hq, rfl⟩ := Option.map_eq_some_iff.1 h
    exact Text.plain_cons (fun _ => rfl) (ih hq)
  | case7 c d t hc hp ih =>
    obtain ⟨q, hq, rfl⟩ := Option.map_eq_some_iff.1 h
    exact Text.plain_cons Text.eq_lineFeed_of_isControl_foldControl (ih hq)

theorem plain_bare (p : Char → Bool) (t : Text) : Text.Plain (bare p t).value := by
  rw [bare_value]
  exact Text.plain_folded _

/-! ## Reading behind the opening quote -/

/-- **A character is read from its doubled form**, unless it makes a line pair with the one that follows. -/
theorem quoted?_doubled_cons {c : Char} {u : Text} (h : ∀ d, u.head? = some d → isLinePair c d = false) :
    quoted? (Text.doubled [c] ++ u) = (quoted? u).map (cons (foldControl c) (Text.doubled [c]).length) := by
  by_cases hc : c = '"'
  · subst hc
    show quoted? ('"' :: '"' :: u) = _
    rw [quoted?, if_pos rfl, if_pos rfl]
    rfl
  · rw [Text.doubled_cons_of_ne hc]
    cases u with
    | nil =>
      show quoted? [c] = none
      rw [quoted?, if_neg hc]
    | cons d u =>
      show quoted? (c :: d :: u) = _
      rw [quoted?, if_neg hc, if_neg (by rw [h d rfl]; exact Bool.false_ne_true)]
      rfl

theorem quoted?_close {r : Text} (hr : r.head? ≠ some '"') : quoted? ('"' :: r) = some ⟨[], 1⟩ := by
  cases r with
  | nil => rfl
  | cons d t => rw [quoted?, if_pos rfl, if_neg fun hd => hr (by rw [hd]; rfl)]

/-- **The doubled text is read as its value**, and the reading goes on behind it, where the text ends or a quote stands. -/
theorem quoted?_doubled_append {u : Text} (hu : ∀ d, u.head? = some d → d = '"') (s : Text) :
    quoted? (s.doubled ++ u) = (quoted? u).map fun r => ⟨s.folded ++ r.value, r.taken + s.doubled.length⟩ := by
  fun_induction Text.folded s with
  | case1 => exact (Option.map_id' (x := quoted? u)).symm
  | case2 c =>
    rw [quoted?_doubled_cons fun d hd => by rw [hu d hd]; simp [isLinePair], foldControl_eq]
    rfl
  | case3 c d t hp ih =>
    have h := isLinePair_iff.2 hp
    have hends := isLineEnd_of_isLinePair h
    have hc : c ≠ '"' := fun hc => by rw [hc] at hends; exact absurd hends.1 (by decide)
    have hd : d ≠ '"' := fun hd => by rw [hd] at hends; exact absurd hends.2 (by decide)
    rw [Text.doubled_cons_of_ne hc, Text.doubled_cons_of_ne hd, List.cons_append, List.cons_append, quoted?, if_neg hc,
      if_pos h, ih, Option.map_map]
    rfl
  | case4 c d t h ih =>
    have hhead : (Text.doubled (d :: t) ++ u).head? = some d := by
      rw [List.head?_append, Text.head?_doubled_cons]; rfl
    have hpair : ∀ e, (Text.doubled (d :: t) ++ u).head? = some e → isLinePair c e = false := by
      intro e he
      rw [hhead] at he
      cases he
      exact Bool.eq_false_iff.2 (mt isLinePair_iff.1 h)
    rw [Text.doubled_cons, List.append_assoc, quoted?_doubled_cons hpair, ih, Option.map_map, List.length_append,
      Nat.add_comm (Text.doubled [c]).length]
    simp only [← Nat.add_assoc, foldControl_eq]
    rfl

/-- **The doubled text is read as its value, up to the quote behind it.** -/
theorem quoted?_doubled {r : Text} (hr : r.head? ≠ some '"') (s : Text) :
    quoted? (s.doubled ++ '"' :: r) = some ⟨s.folded, s.doubled.length + 1⟩ := by
  have hquote : ∀ d, ('"' :: r).head? = some d → d = '"' := fun d hd => (Option.some.inj hd).symm
  rw [quoted?_doubled_append hquote, quoted?_close hr, Option.map_some, List.append_nil, Nat.add_comm]

/-- A doubled text is never closed by itself. -/
theorem quoted?_doubled_eq_none (s : Text) : quoted? s.doubled = none := by
  have h := quoted?_doubled_append (u := []) (fun d hd => by cases hd) s
  rwa [List.append_nil] at h

end Reading

namespace Cursor

/-- **Whatever string is read, it is its own value.** -/
theorem plain_readString {c : Cursor} {o : Flags} {v : Text} (h : (c.readString o).answer = .ok v) : v.Plain := by
  simp only [readString] at h
  split at h
  · split at h
    · rename_i r hr
      cases h; exact Reading.plain_quoted? hr
    · cases h
  · split at h
    · cases h
    · cases h; exact Reading.plain_bare _ _

/-- The cursor at a text in quotes, between any other texts. -/
def atQuoted (before after : Text) (s : Config) (w : Window) (t : Text) : Cursor :=
  ⟨before ++ t.quoted ++ after, Text.size before, s, w⟩

theorem rest_atQuoted (before after : Text) (s : Config) (w : Window) (t : Text) :
    (atQuoted before after s w t).rest = t.quoted ++ after :=
  rest_of_append (List.append_assoc _ _ _) rfl

theorem readString_of_quoted {c : Cursor} {o : Flags} {t after : Text} (hc : c.rest = t.quoted ++ after)
    (hafter : after.head? ≠ some '"') (hblank : o.has .skipBlanks = true → c.isBlank '"' = false) :
    c.readString o = ⟨.ok t.folded, (c.mark.pass t.quoted.length).finish (o.has .skipBlanks)⟩ := by
  have hquote : c.current? = some '"' := by rw [current?, hc]; rfl
  have hskip : c.skipIf (o.has .skipBlanks) = c := by
    refine skipIf_of_gap_eq_nil (gap_eq_nil fun ho x hx => ?_)
    rw [hquote] at hx
    cases hx
    exact hblank ho
  have hbody : (c.mark.pass 1).rest = t.doubled ++ '"' :: after := by
    rw [rest_pass, rest_mark, hc, Text.quoted, List.cons_append, List.append_assoc]; rfl
  have hlength : t.quoted.length = 1 + (t.doubled.length + 1) := by
    rw [Text.quoted, List.length_cons, List.length_append, Nat.add_comm]; rfl
  have hmark : c.mark.current? = some '"' := hquote
  simp only [readString, hskip, if_pos hmark, hbody, Reading.quoted?_doubled hafter]
  rw [pass_pass, hlength]

/-- **A text in quotes is read as the value of the text**, whatever is before and behind it, as long as no further quote is
behind it and no quote is skipped.  A text without control characters comes back as it is; so does any string that was
read before. -/
theorem readString_atQuoted (before after : Text) (s : Config) (w : Window) (o : Flags)
    (hafter : after.head? ≠ some '"') (hblank : o.has .skipBlanks = true → s.isBlank '"' = false) (t : Text) :
    let read := fun u => (atQuoted before after s w u).readString o
    (read t).answer = .ok t.folded ∧
    (read t).cursor.window = ⟨Text.size before, some (Text.size before + Text.size t.quoted)⟩ ∧
    (read t).cursor.token = t.quoted ∧
    ((∀ x ∈ t, 0x20 ≤ x.toNat) → (read t).answer = .ok t) ∧
    t.folded.folded = t.folded ∧
    ∀ (c : Cursor) (p : Flags) (v : Text), (c.readString p).answer = .ok v → (read v).answer = .ok v := by
  intro read
  have hread : ∀ u, read u =
      ⟨.ok u.folded, ((atQuoted before after s w u).mark.pass u.quoted.length).finish (o.has .skipBlanks)⟩ :=
    fun u => readString_of_quoted (rest_atQuoted before after s w u) hafter hblank
  have htake : (atQuoted before after s w t).rest.take t.quoted.length = t.quoted := by
    rw [rest_atQuoted]; exact List.take_left
  refine ⟨by rw [hread], ?_, ?_, fun ht => ?_, t.folded_folded, fun c p v hv => ?_⟩
  · rw [hread, window_finish, pos_pass, htake]; rfl
  · rw [hread, token_finish, htake]
  · have hplain : t.Plain := fun x hx hc => absurd (of_decide_eq_true hc) (Nat.not_lt.2 (ht x hx))
    rw [hread, hplain.folded_eq]
  · rw [hread, (plain_readString hv).folded_eq]

theorem readString_atQuoted_pairs :
    let before : Text := ['ä', '"']
    let after : Text := [' ', '"']
    let o := Flags.only .skipBlanks
    let t : Text := ['"', '\r', '\n', '"', '"', '\n', '\n', '\x01', '"']
    let read := (atQuoted before after {} ⟨0, none⟩ t).readString o
    after.head? ≠ some '"' ∧ (o.has .skipBlanks = true → Config.isBlank {} '"' = false) ∧
    read.answer = .ok ['"', '\n', '"', '"', '\n', '\n', '\n', '"'] ∧ read.cursor.window = ⟨3, some 18⟩ := by
  have h := readString_atQuoted ['ä', '"'] [' ', '"'] {} ⟨0, none⟩ (Flags.only .skipBlanks) (by decide) (by decide)
    ['"', '\r', '\n', '"', '"', '\n', '\n', '\x01', '"']
  exact ⟨by decide, by decide, h.1, h.2.1⟩

end Cursor
end TextCursor
