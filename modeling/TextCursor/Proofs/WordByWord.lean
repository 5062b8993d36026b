import Mathlib.Data.List.Basic
import TextCursor.Command
import TextCursor.Proofs.Loop
import TextCursor.Proofs.Token
/-!
# Reading word by word

The words of a text are its longest runs of characters that are no blanks (`IsWord`).  Behind blanks the words are those of
what follows, and behind a word they are that word and those of what follows (`isWord_blanks_append`,
`isWord_word_append`), which is how a loop that reads words to the end of the text finds them: all of them, in order, and
nothing else (`readWords_exact`).
-/
namespace TextCursor

/-- The text is `a`, then `w`, then `r`, and `w` is a longest run of characters that are no blanks: there is a blank or an
end of the text on either side of it. -/
structure IsWord (p : Char → Bool) (t a w r : Text) : Prop where
  split : t = a ++ w ++ r
  ne_nil : w ≠ []
  not_blank : ∀ x ∈ w, p x = false
  before : ∀ x, a.getLast? = some x → p x = true
  behind : ∀ x, r.head? = some x → p x = true

variable {p : Char → Bool} {t a w r : Text}

/-! ## The words of a text -/

theorem not_isWord_nil : ¬ IsWord p [] a w r := fun h => by
  have hs := h.split
  simp only [List.nil_eq, List.append_eq_nil_iff] at hs
  exact h.ne_nil hs.1.2

theorem isWord_blank_cons {x : Char} (hx : p x = true) :
    IsWord p (x :: t) a w r ↔ ∃ a', a = x :: a' ∧ IsWord p t a' w r := by
  constructor
  · intro h
    cases a with
    | nil =>
      obtain ⟨y, w', rfl⟩ := List.exists_cons_of_ne_nil h.ne_nil
      obtain rfl : x = y := (List.cons.inj h.split).1
      rw [h.not_blank x List.mem_cons_self] at hx
      cases hx
    | cons y a' =>
      obtain ⟨rfl, ht⟩ := List.cons.inj h.split
      refine ⟨a', rfl, ht, h.ne_nil, h.not_blank, fun y hy => h.before y ?_, h.behind⟩
      rw [List.getLast?_cons, hy]; rfl
  · rintro ⟨a', rfl, h⟩
    refine ⟨by rw [h.split]; rfl, h.ne_nil, h.not_blank, fun y hy => ?_, h.behind⟩
    rw [List.getLast?_cons] at hy
    cases hl : a'.getLast? with
    | none => rw [hl] at hy; cases hy; exact hx
    | some z => rw [hl] at hy; cases hy; exact h.before z hl

/-- **Behind blanks the words are those of what follows.** -/
theorem isWord_blanks_append {g : Text} (hg : ∀ x ∈ g, p x = true) :
    IsWord p (g ++ t) a w r ↔ ∃ a', a = g ++ a' ∧ IsWord p t a' w r := by
  induction g generalizing a with
  | nil => simp
  | cons x g ih =>
    rw [List.cons_append, isWord_blank_cons (hg x List.mem_cons_self)]
    have ih' := fun b => ih (a := b) fun y hy => hg y (List.mem_cons_of_mem x hy)
    constructor
    · rintro ⟨b, rfl, h⟩
      obtain ⟨a', rfl, h'⟩ := (ih' b).1 h
      exact ⟨a', rfl, h'⟩
    · rintro ⟨a', rfl, h⟩
      exact ⟨g ++ a', rfl, (ih' _).2 ⟨a', rfl, h⟩⟩

theorem IsWord.before_ne_nil (h : IsWord p t a w r) (ht : ∀ x, t.head? = some x → p x = true) : a ≠ [] := by
  rintro rfl
  obtain ⟨x, w', rfl⟩ := List.exists_cons_of_ne_nil h.ne_nil
  have hx := h.not_blank x List.mem_cons_self
  rw [ht x (by rw [h.split]; rfl)] at hx
  cases hx

theorem takeWhile_word_append (hw : ∀ x ∈ w, p x = false) (hr : ∀ x, r.head? = some x → p x = true) :
    (w ++ r).takeWhile (fun x => !p x) = w :=
  Text.takeWhile_run_append (fun x hx => by rw [hw x hx]; rfl) fun x hx => by rw [hr x hx]; rfl

theorem eq_of_append_eq_append {v s : Text} (hw : ∀ x ∈ w, p x = false) (hr : ∀ x, r.head? = some x → p x = true)
    (hv : ∀ x ∈ v, p x = false) (hs : ∀ x, s.head? = some x → p x = true) (h : w ++ r = v ++ s) : w = v ∧ r = s := by
  have hwv : w = v := by rw [← takeWhile_word_append hw hr, h, takeWhile_word_append hv hs]
  subst hwv
  exact ⟨rfl, List.append_cancel_left h⟩

/-- **The words of a text that starts with a word are that word and those behind it.** -/
theorem isWord_word_append {v s : Text} (hne : w ≠ []) (hw : ∀ x ∈ w, p x = false)
    (hr : ∀ x, r.head? = some x → p x = true) :
    IsWord p (w ++ r) a v s ↔ (a = [] ∧ v = w ∧ s = r) ∨ ∃ a', a = w ++ a' ∧ IsWord p r a' v s := by
  constructor
  · intro h
    have hs := h.split
    rw [List.append_assoc, List.append_eq_append_iff] at hs
    rcases hs with ⟨b, ha, hr'⟩ | ⟨b, hw', -⟩
    · -- the word starts behind `w`, and not directly, for then `w` would be longer
      have hb : b ≠ [] := by
        rintro rfl
        rw [List.append_nil] at ha
        have hlast := h.before _ (by rw [ha]; exact List.getLast?_eq_some_getLast hne)
        rw [hw _ (List.getLast_mem hne)] at hlast
        cases hlast
      refine .inr ⟨b, ha, by rw [hr', List.append_assoc], h.ne_nil, h.not_blank, fun x hx => h.before x ?_, h.behind⟩
      rw [ha, List.getLast?_append_of_ne_nil _ hb, hx]
    · -- the word starts within `w`, so at its start
      have ha : a = [] := by
        by_contra hne'
        have hlast := h.before _ (List.getLast?_eq_some_getLast hne')
        rw [hw _ (by rw [hw']; exact List.mem_append_left b (List.getLast_mem hne'))] at hlast
        cases hlast
      have hsplit : w ++ r = v ++ s := by rw [h.split, ha]; rfl
      obtain ⟨hv, hs⟩ := eq_of_append_eq_append hw hr h.not_blank h.behind hsplit
      exact .inl ⟨ha, hv.symm, hs.symm⟩
  · rintro (⟨rfl, rfl, rfl⟩ | ⟨a', rfl, h⟩)
    · exact ⟨rfl, hne, hw, fun x hx => (by cases hx), hr⟩
    · refine ⟨by rw [h.split, List.append_assoc, List.append_assoc, List.append_assoc], h.ne_nil, h.not_blank,
        fun x hx => h.before x ?_, h.behind⟩
      rwa [List.getLast?_append_of_ne_nil _ (h.before_ne_nil hr)] at hx

/-! ## The loop -/

/-- The call reads the word `w` that starts at an offset of the text of `c`: it is made with the cursor there, answers the
word, and leaves the window on it, as marking the place and resolving to the next blank does. -/
structure Call.ReadsWord (c : Cursor) (start : Nat) (w : Text) (k : Call Reply) : Prop where
  text : k.before.text = c.text
  config : k.before.config = c.config
  pos : k.before.pos = start
  answer : k.outcome.answer = .ok (.text w)
  window : k.outcome.cursor.window = ⟨start, some (start + Text.size w)⟩
  token : k.outcome.cursor.token = w
  resolved : ((k.before.perform .mark).cursor.perform (.resolve (.only .toBlank))).cursor.window = k.outcome.cursor.window

namespace Cursor

/-- The cursor behind a word and the blanks that follow it, with the window on the word. -/
def afterWord (c : Cursor) : Cursor := (c.mark.pass c.word.length).finish true

theorem perform_readWord_of_gap_eq_nil {c : Cursor} (h : c.gap true = []) :
    c.perform (.readWord true) = ⟨.ok (.text c.word), c.afterWord⟩ := by
  show (⟨.ok (.text (c.readWord true).1), (c.readWord true).2⟩ : Outcome Reply) = _
  rw [readWord_eq, skipIf_of_gap_eq_nil h]; rfl

theorem onBoundary_afterWord {c : Cursor} (h : c.OnBoundary) : c.afterWord.OnBoundary := by
  have hpass : (c.mark.pass c.word.length).OnBoundary := onBoundary_pass (onBoundary_mark h) _
  exact onBoundary_skipIf (c := (c.mark.pass c.word.length).resolve .atCursor) hpass true

/-- **What is left is the word, blanks, and what is left behind them.** -/
theorem exists_rest_afterWord (c : Cursor) :
    ∃ g, c.rest = c.word ++ (g ++ c.afterWord.rest) ∧ c.afterWord.pos = c.pos + Text.size c.word + Text.size g ∧
      (∀ x ∈ g, c.isBlank x = true) ∧ ∀ x, (g ++ c.afterWord.rest).head? = some x → c.isBlank x = true := by
  obtain ⟨r, hr, hbehind⟩ := exists_word_append c
  have hgap := gap_append_rest ((c.mark.pass c.word.length).resolve .atCursor) true
  have hpos := pos_skipIf ((c.mark.pass c.word.length).resolve .atCursor) true
  have hblank : ∀ x ∈ ((c.mark.pass c.word.length).resolve .atCursor).gap true, c.isBlank x = true :=
    fun x hx => isBlank_of_mem_gap (c := (c.mark.pass c.word.length).resolve .atCursor) hx
  rw [rest_resolve, rest_pass, rest_mark, hr, List.drop_left] at hgap
  rw [pos_resolve, pos_pass, rest_mark, take_length_word] at hpos
  exact ⟨_, hgap ▸ hr, hpos, hblank, hgap ▸ hbehind⟩

theorem word_ne_nil {c : Cursor} (h : c.gap true = []) (hr : c.rest ≠ []) : c.word ≠ [] := by
  obtain ⟨x, t, hx⟩ := List.exists_cons_of_ne_nil hr
  intro hw
  rw [gap, if_pos rfl, hx] at h
  rw [word, hx] at hw
  cases hb : c.isBlank x with
  | true => rw [List.takeWhile_cons_of_pos hb] at h; cases h
  | false => rw [List.takeWhile_cons_of_pos (by rw [hb]; rfl)] at hw; cases hw

theorem readsWord_perform {c : Cursor} (h : c.gap true = []) :
    Call.ReadsWord c c.pos c.word ⟨c, c.perform (.readWord true)⟩ := by
  have hpos : (c.pass c.word.length).pos = c.pos + Text.size c.word := by rw [pos_pass, take_length_word]
  have hends : (Flags.only .toBlank).toEnds = .atBlank := by decide
  rw [perform_readWord_of_gap_eq_nil h]
  refine ⟨rfl, rfl, rfl, rfl, ?_, ?_, ?_⟩
  · exact (window_finish c _ true).trans (by rw [hpos])
  · exact (token_finish c _ true).trans (take_length_word c)
  · show (c.mark.resolve (Flags.only .toBlank).toEnds).window = c.afterWord.window
    rw [hends, window_resolve_atBlank, afterWord, window_finish, hpos]

/-- The calls read the words of what is left at `d`, in order and each once, from offsets of the text of `c`. -/
structure ReadsWords (c d : Cursor) (ks : List (Call Reply)) : Prop where
  sound : ∀ k ∈ ks, ∃ a w r, IsWord c.isBlank d.rest a w r ∧ k.ReadsWord c (d.pos + Text.size a) w
  complete : ∀ a w r, IsWord c.isBlank d.rest a w r → ∃ k ∈ ks, k.ReadsWord c (d.pos + Text.size a) w
  ordered : ks.Pairwise fun k k' =>
    ∀ e, k.outcome.cursor.window.stop = some e → e < k'.outcome.cursor.window.start

theorem readsWords_nil {c d : Cursor} (h : ∀ x ∈ d.rest, c.isBlank x = true) : ReadsWords c d [] where
  sound k hk := by cases hk
  complete a w r hw := by
    rw [← List.append_nil d.rest] at hw
    obtain ⟨a', -, hw⟩ := (isWord_blanks_append h).1 hw
    exact absurd hw not_isWord_nil
  ordered := .nil

/-- **A call that reads the first word, and then calls that read the words behind it, read all words.** -/
theorem ReadsWords.cons {c d e : Cursor} {ks : List (Call Reply)} {k : Call Reply} {g w g' : Text}
    (hrest : d.rest = g ++ (w ++ (g' ++ e.rest))) (hpos : e.pos = d.pos + Text.size g + Text.size w + Text.size g')
    (hg : ∀ x ∈ g, c.isBlank x = true) (hg' : ∀ x ∈ g', c.isBlank x = true) (hne : w ≠ [])
    (hw : ∀ x ∈ w, c.isBlank x = false) (hbehind : ∀ x, (g' ++ e.rest).head? = some x → c.isBlank x = true)
    (hk : k.ReadsWord c (d.pos + Text.size g) w) (h : ReadsWords c e ks) : ReadsWords c d (k :: ks) := by
  have hwords : ∀ a v s, IsWord c.isBlank d.rest a v s ↔
      (a = g ∧ v = w ∧ s = g' ++ e.rest) ∨ ∃ b, a = g ++ (w ++ (g' ++ b)) ∧ IsWord c.isBlank e.rest b v s := by
    intro a v s
    rw [hrest, isWord_blanks_append hg]
    constructor
    · rintro ⟨a', rfl, hv⟩
      rcases (isWord_word_append hne hw hbehind).1 hv with ⟨rfl, rfl, rfl⟩ | ⟨b, rfl, hb⟩
      · exact .inl ⟨List.append_nil g, rfl, rfl⟩
      · obtain ⟨b', rfl, hb'⟩ := (isWord_blanks_append hg').1 hb
        exact .inr ⟨b', rfl, hb'⟩
    · rintro (⟨rfl, rfl, rfl⟩ | ⟨b, rfl, hv⟩)
      · exact ⟨[], (List.append_nil a).symm, (isWord_word_append hne hw hbehind).2 (.inl ⟨rfl, rfl, rfl⟩)⟩
      · exact ⟨w ++ (g' ++ b), rfl, (isWord_word_append hne hw hbehind).2
          (.inr ⟨g' ++ b, rfl, (isWord_blanks_append hg').2 ⟨b, rfl, hv⟩⟩)⟩
  have hoffset : ∀ b : Text, d.pos + Text.size (g ++ (w ++ (g' ++ b))) = e.pos + Text.size b := fun b => by
    rw [hpos, Text.size_append, Text.size_append, Text.size_append]; omega
  refine ⟨fun k' hk' => ?_, fun a v s hv => ?_, ?_⟩
  · rcases List.mem_cons.1 hk' with rfl | hk'
    · exact ⟨g, w, _, (hwords _ _ _).2 (.inl ⟨rfl, rfl, rfl⟩), hk⟩
    · obtain ⟨b, v, s, hv, hr⟩ := h.sound k' hk'
      exact ⟨_, v, s, (hwords _ _ _).2 (.inr ⟨b, rfl, hv⟩), by rw [hoffset]; exact hr⟩
  · rcases (hwords _ _ _).1 hv with ⟨rfl, rfl, -⟩ | ⟨b, rfl, hb⟩
    · exact ⟨k, List.mem_cons_self, hk⟩
    · obtain ⟨k', hk', hr⟩ := h.complete b v s hb
      exact ⟨k', List.mem_cons_of_mem k hk', by rw [hoffset]; exact hr⟩
  · refine List.pairwise_cons.2 ⟨fun k' hk' stop hstop => ?_, h.ordered⟩
    obtain ⟨b, v, s, hv, hr⟩ := h.sound k' hk'
    -- between two words there is a blank
    have hgap : g' ++ b ≠ [] := ((isWord_blanks_append hg').2 ⟨b, rfl, hv⟩).before_ne_nil hbehind
    have hsize : Text.size g' + Text.size b ≠ 0 := fun h0 => hgap (by rw [← Text.size_eq_zero, Text.size_append, h0])
    rw [hk.window] at hstop
    cases hstop
    rw [hr.window]
    show d.pos + Text.size g + Text.size w < e.pos + Text.size b
    omega

/-- **One call of the loop reads the first word**, and leaves less to read. -/
theorem readsWords_step {c d e : Cursor} (he : d.skipIf true = e) (htext : d.text = c.text) (hconfig : d.config = c.config)
    (hleft : e.rest ≠ []) :
    e.afterWord.rest.length < d.rest.length ∧
    ∀ ks, ReadsWords c e.afterWord ks → ReadsWords c d (⟨e, e.perform (.readWord true)⟩ :: ks) := by
  have hblank : d.isBlank = c.isBlank := funext fun x => by rw [isBlank, isBlank, hconfig]
  have hgap : e.gap true = [] := he ▸ gap_skipIf d
  have hfirst : d.gap true ++ e.rest = d.rest := he ▸ gap_append_rest d true
  have hpos : e.pos = d.pos + Text.size (d.gap true) := he ▸ pos_skipIf d true
  have hstartText : e.text = c.text := he ▸ (text_skipIf d true).trans htext
  have hstartConfig : e.config = c.config := he ▸ (config_skipIf d true).trans hconfig
  have hstartBlank : e.isBlank = c.isBlank := he ▸ (isBlank_skipIf d true).trans hblank
  have hne := word_ne_nil hgap hleft
  obtain ⟨g, hrest, hafter, hg, hbehind⟩ := exists_rest_afterWord e
  constructor
  · have hlength := congrArg List.length hfirst
    have hlength' := congrArg List.length hrest
    have hword := List.length_pos_iff.2 hne
    simp only [List.length_append] at hlength hlength'
    omega
  · intro ks hks
    have hread := readsWord_perform hgap
    refine hks.cons (g := d.gap true) (w := e.word) ?_ ?_ ?_ (hstartBlank ▸ hg) hne ?_ (hstartBlank ▸ hbehind) ?_
    · rw [← hrest, hfirst]
    · rw [hafter, hpos]
    · exact fun x hx => hblank ▸ isBlank_of_mem_gap hx
    · exact fun x hx => hstartBlank ▸ not_isBlank_of_mem_word hx
    · rw [← hpos]
      exact ⟨hread.text.trans hstartText, hread.config.trans hstartConfig, hread.pos, hread.answer, hread.window,
        hread.token, hread.resolved⟩

/-- **Reading word by word finds exactly the words of the text.**  From any place in the text the loop comes to its end.
Each of its calls reads a word of what was left of the text, each word is read by a call, and the calls read one word after
another. -/
theorem readWords_exact {c : Cursor} {left : Text} (h : c.text.after? c.pos = some left) :
    ∃ n ks, c.callsWithin true (fun d => d.perform (.readWord true)) n = some ks ∧
      (∀ k ∈ ks, ∃ a w r, IsWord c.isBlank left a w r ∧ k.ReadsWord c (c.pos + Text.size a) w) ∧
      (∀ a w r, IsWord c.isBlank left a w r → ∃ k ∈ ks, k.ReadsWord c (c.pos + Text.size a) w) ∧
      ks.Pairwise fun k k' => ∀ e, k.outcome.cursor.window.stop = some e → e < k'.outcome.cursor.window.start := by
  have hbound := onBoundary_of_after? h
  have hleft := rest_of_after? h
  have hloop := exists_calls true (fun d => d.perform (.readWord true))
    (fun d => d.OnBoundary ∧ d.text = c.text ∧ d.config = c.config) (ReadsWords c) ?_ ?_ c.rest.length c
    ⟨hbound, rfl, rfl⟩ (Nat.le_refl _)
  · obtain ⟨ks, hks, hr⟩ := hloop
    exact ⟨_, ks, hks, hleft ▸ hr.sound, hleft ▸ hr.complete, hr.ordered⟩
  · rintro d ⟨hd, -, hconfig⟩ he
    have hnil : (d.skipIf true).rest = [] := (isDone_iff (onBoundary_skipIf hd true)).1 he
    have hgap := gap_append_rest d true
    rw [hnil, List.append_nil] at hgap
    refine readsWords_nil fun x hx => ?_
    rw [← hgap] at hx
    have hx' := isBlank_of_mem_gap hx
    rwa [isBlank, hconfig] at hx'
  · rintro d ⟨hd, htext, hconfig⟩ he
    have hstart := onBoundary_skipIf hd true
    have hne : (d.skipIf true).rest ≠ [] := fun hr => by
      have hdone : (d.skipIf true).isDone = false := he
      rw [(isDone_iff hstart).2 hr] at hdone
      cases hdone
    have hat : (d.atEnd true).2 = d.skipIf true := rfl
    have hcursor : ((d.skipIf true).perform (.readWord true)).cursor = (d.skipIf true).afterWord := by
      rw [perform_readWord_of_gap_eq_nil (gap_skipIf d)]
    have hafter : (d.skipIf true).afterWord.text = c.text ∧ (d.skipIf true).afterWord.config = c.config :=
      ⟨(text_finish _ true).trans ((text_skipIf d true).trans htext),
        (config_skipIf _ true).trans ((config_skipIf d true).trans hconfig)⟩
    rw [hat, hcursor]
    exact ⟨⟨onBoundary_afterWord hstart, hafter⟩, readsWords_step rfl htext hconfig hne⟩

theorem readWords_exact_wide :
    let c : Cursor := ⟨['ä', 'b', ' ', 'ß', 'ö', 'ö', 'c', ' '], 2, ⟨['ö', ' ']⟩, ⟨0, none⟩⟩
    let left : Text := ['b', ' ', 'ß', 'ö', 'ö', 'c', ' ']
    c.text.after? c.pos = some left ∧
    ∃ n ks, c.callsWithin true (fun d => d.perform (.readWord true)) n = some ks ∧
      (∀ k ∈ ks, ∃ a w r, IsWord c.isBlank left a w r ∧ k.ReadsWord c (c.pos + Text.size a) w) ∧
      (∀ a w r, IsWord c.isBlank left a w r → ∃ k ∈ ks, k.ReadsWord c (c.pos + Text.size a) w) ∧
      ks.Pairwise fun k k' => ∀ e, k.outcome.cursor.window.stop = some e → e < k'.outcome.cursor.window.start :=
  ⟨rfl, readWords_exact rfl⟩

end Cursor
end TextCursor
