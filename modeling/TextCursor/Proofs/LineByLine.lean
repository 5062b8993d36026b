import TextCursor.Proofs.Line
import TextCursor.Proofs.Loop
/-!
# Reading line by line

The lines of a text and the line ends behind them make up the text: a loop that reads lines to the end of the text reads
every character once, as part of a line or of its line end (`readLines_lossless`).
-/
namespace TextCursor

/-- The first text is a whole line end in front of the second: a carriage return and a line feed in either order, one of them
alone where the other does not follow, or nothing in front of nothing. -/
inductive LineStop : Text → Text → Prop where
  | crlf (r : Text) : LineStop ['\r', '\n'] r
  | lfcr (r : Text) : LineStop ['\n', '\r'] r
  | cr (r : Text) : r.head? ≠ some '\n' → LineStop ['\r'] r
  | lf (r : Text) : r.head? ≠ some '\r' → LineStop ['\n'] r
  | nothing : LineStop [] []

/-- The call reads one line: what it moves over is the text of its window, in which no line ends, and a whole line end; what
it answers is that text with every control character as a line feed. -/
def ReadsLine (k : Call Text) : Prop :=
  ∃ line stop, k.before.rest = line ++ stop ++ k.outcome.cursor.rest ∧ (∀ x ∈ line, x ≠ '\r' ∧ x ≠ '\n') ∧
    LineStop stop k.outcome.cursor.rest ∧ k.outcome.answer = .ok (line.map fun x => if x.toNat < 0x20 then '\n' else x) ∧
    k.outcome.cursor.window = ⟨k.before.pos, some (k.before.pos + Text.size line)⟩ ∧ k.outcome.cursor.token = line ∧
    k.outcome.cursor.pos = k.before.pos + Text.size line + Text.size stop

namespace Text

theorem lineEnd_cr {t : Text} (h : t.head? ≠ some '\n') : lineEnd ('\r' :: t) = ['\r'] := by
  cases t with
  | nil => rfl
  | cons y t => simpa [lineEnd, isLineEnd, isLinePair] using h

theorem lineEnd_lf {t : Text} (h : t.head? ≠ some '\r') : lineEnd ('\n' :: t) = ['\n'] := by
  cases t with
  | nil => rfl
  | cons y t => simpa [lineEnd, isLineEnd, isLinePair] using h

theorem lineStop_lineEnd {t : Text} (h : ∀ x, t.head? = some x → isLineEnd x = true) :
    LineStop t.lineEnd (t.drop t.lineEnd.length) := by
  cases t with
  | nil => exact .nothing
  | cons x t =>
    rcases isLineEnd_iff.1 (h x rfl) with rfl | rfl
    · by_cases hpair : t.head? = some '\n'
      · obtain ⟨t, rfl⟩ := List.head?_eq_some_iff.1 hpair
        exact .crlf t
      · rw [lineEnd_cr hpair]
        exact .cr t hpair
    · by_cases hpair : t.head? = some '\r'
      · obtain ⟨t, rfl⟩ := List.head?_eq_some_iff.1 hpair
        exact .lfcr t
      · rw [lineEnd_lf hpair]
        exact .lf t hpair

theorem head?_drop_line {t : Text} {x : Char} (h : (t.drop t.line.length).head? = some x) : isLineEnd x = true := by
  have hd : t.drop t.line.length = t.dropWhile fun x => !isLineEnd x := drop_length_takeWhile _ t
  have hn := List.head?_dropWhile_not (fun x => !isLineEnd x) t
  rw [← hd, h] at hn
  simpa using hn

theorem line_append_lineEnd_ne_nil {t : Text} (h : t ≠ []) : t.line ++ lineEnd (t.drop t.line.length) ≠ [] := by
  obtain ⟨x, r, rfl⟩ := List.exists_cons_of_ne_nil h
  intro he
  obtain ⟨hl, he⟩ := List.append_eq_nil_iff.1 he
  rw [hl, List.length_nil, List.drop_zero, lineEnd] at he
  have hx : isLineEnd x = true := head?_drop_line (t := x :: r) (by rw [hl]; rfl)
  rw [if_pos hx] at he
  split at he <;> cases he

end Text

namespace Cursor

theorem rest_afterLine (c : Cursor) : c.afterLine.rest =
    (c.rest.drop c.rest.line.length).drop (Text.lineEnd (c.rest.drop c.rest.line.length)).length := by
  rw [afterLine, rest_pass, rest_resolve, rest_pass, rest_mark]

theorem rest_eq_line_append (c : Cursor) :
    c.rest = c.rest.line ++ Text.lineEnd (c.rest.drop c.rest.line.length) ++ c.afterLine.rest := by
  have he := List.prefix_iff_eq_append.1 (Text.lineEnd_prefix (c.rest.drop c.rest.line.length))
  rw [rest_afterLine, List.append_assoc, he, Text.line_append_drop]

theorem pos_afterLine (c : Cursor) :
    c.afterLine.pos = c.pos + Text.size c.rest.line + Text.size (Text.lineEnd (c.rest.drop c.rest.line.length)) := by
  have he := List.prefix_iff_eq_take.1 (Text.lineEnd_prefix (c.rest.drop c.rest.line.length))
  rw [afterLine, pos_pass, rest_resolve, rest_pass, rest_mark, ← he, pos_resolve, pos_pass, rest_mark, Text.take_length_line]
  rfl

theorem token_afterLine (c : Cursor) : c.afterLine.token = c.rest.line := by
  have ht : c.afterLine.token = ((c.mark.pass c.rest.line.length).resolve .atCursor).token := rfl
  rw [ht, token_passed, Text.take_length_line]

theorem readLine_false (c : Cursor) :
    c.readLine false = ⟨.ok (c.rest.line.map fun x => if x.toNat < 0x20 then '\n' else x), c.afterLine⟩ := by
  rw [readLine_eq, if_neg (fun h => Nat.lt_irrefl _ h.1), funext foldControl_eq]
  rfl

/-- **Reading a line reads one line**, wherever the cursor stands. -/
theorem readsLine_readLine (c : Cursor) : ReadsLine ⟨c, c.readLine false⟩ := by
  have hline : ∀ x ∈ c.rest.line, x ≠ '\r' ∧ x ≠ '\n' := fun x hx =>
    isLineEnd_eq_false_iff.1 (Text.not_isLineEnd_of_mem_line hx)
  rw [readLine_false]
  refine ⟨c.rest.line, Text.lineEnd (c.rest.drop c.rest.line.length), rest_eq_line_append c, hline, ?_, rfl,
    window_afterLine c, token_afterLine c, pos_afterLine c⟩
  have hs := Text.lineStop_lineEnd (t := c.rest.drop c.rest.line.length) fun x => Text.head?_drop_line
  rw [rest_afterLine]
  exact hs

theorem length_rest_afterLine_lt {c : Cursor} (h : c.rest ≠ []) : c.afterLine.rest.length < c.rest.length := by
  have hr := congrArg List.length (rest_eq_line_append c)
  have hpos := List.length_pos_iff.2 (Text.line_append_lineEnd_ne_nil h)
  rw [List.length_append] at hr
  omega

theorem onBoundary_afterLine {c : Cursor} (h : c.OnBoundary) : c.afterLine.OnBoundary :=
  onBoundary_pass (onBoundary_pass (c := c.mark) h _) _

/-- What a reading of one line moves over is a slice of the text, and the next calls take up behind it. -/
theorem slice?_afterLine {c : Cursor} (h : c.OnBoundary) :
    ∃ piece, c.text.slice? c.pos c.afterLine.pos = some piece ∧ c.rest = piece ++ c.afterLine.rest := by
  refine ⟨_, ?_, rest_eq_line_append c⟩
  have hr : c.rest = [] ++ (c.rest.line ++ Text.lineEnd (c.rest.drop c.rest.line.length)) ++ c.afterLine.rest :=
    rest_eq_line_append c
  have hs := slice?_between h hr
  rw [Text.size_nil, Nat.add_zero, Text.size_append, ← Nat.add_assoc, ← pos_afterLine] at hs
  exact hs

/-- **Reading line by line loses and repeats nothing.**  From any place in the text the loop comes to its end; each of its
calls reads one line, and what the calls move over is, put together, all that was left of the text. -/
theorem readLines_lossless {c : Cursor} (h : c.OnBoundary) :
    ∃ n ks, c.callsWithin false (fun d => d.readLine false) n = some ks ∧
      (∃ pieces : List Text, ks.map (fun k => c.text.slice? k.before.pos k.outcome.cursor.pos) = pieces.map some ∧
        c.text.after? c.pos = some pieces.flatten) ∧
      ∀ k ∈ ks, k.before.text = c.text ∧ ReadsLine k := by
  let R := fun (d : Cursor) (ks : List (Call Text)) =>
    (∃ pieces : List Text, ks.map (fun k => c.text.slice? k.before.pos k.outcome.cursor.pos) = pieces.map some ∧
      d.rest = pieces.flatten) ∧ ∀ k ∈ ks, k.before.text = c.text ∧ ReadsLine k
  have hloop := exists_calls false (fun d => d.readLine false)
    (fun d => d.OnBoundary ∧ d.text = c.text) R ?_ ?_ c.rest.length c ⟨h, rfl⟩ (Nat.le_refl _)
  · obtain ⟨ks, hks, ⟨pieces, hp, hr⟩, hk⟩ := hloop
    exact ⟨_, ks, hks, ⟨pieces, hp, by rw [after?_pos h, hr]⟩, hk⟩
  · rintro d ⟨hd, -⟩ he
    have hr : d.rest = [] := (isDone_iff hd).1 he
    exact ⟨⟨[], rfl, hr⟩, fun k hk => by cases hk⟩
  · rintro d ⟨hd, ht⟩ he
    have hne : d.rest ≠ [] := fun hr => by
      have hdone : d.isDone = false := he
      rw [(isDone_iff hd).2 hr] at hdone
      cases hdone
    have hat : (d.atEnd false).2 = d := rfl
    have hread := readLine_false d
    obtain ⟨piece, hpiece, hrest⟩ := slice?_afterLine hd
    rw [hat, hread]
    refine ⟨⟨onBoundary_afterLine hd, ht⟩, length_rest_afterLine_lt hne, ?_⟩
    rintro ks ⟨⟨pieces, hp, hr⟩, hk⟩
    refine ⟨⟨piece :: pieces, ?_, ?_⟩, ?_⟩
    · rw [List.map_cons, List.map_cons, hp, ← ht, hpiece]
    · rw [List.flatten_cons, ← hr, hrest]
    · intro k hmem
      rcases List.mem_cons.1 hmem with rfl | hmem
      · exact ⟨ht, hread ▸ readsLine_readLine d⟩
      · exact hk k hmem

theorem readLines_lossless_mixed :
    let c : Cursor := ⟨['ä', '\n', '\r', '\r', '\n', '\n', 'b'], 2, {}, ⟨0, some 2⟩⟩
    c.OnBoundary ∧ ∃ n ks, c.callsWithin false (fun d => d.readLine false) n = some ks ∧
      (∃ pieces : List Text, ks.map (fun k => c.text.slice? k.before.pos k.outcome.cursor.pos) = pieces.map some ∧
        c.text.after? c.pos = some pieces.flatten) ∧
      ∀ k ∈ ks, k.before.text = c.text ∧ ReadsLine k :=
  ⟨rfl, readLines_lossless rfl⟩

end Cursor
end TextCursor
