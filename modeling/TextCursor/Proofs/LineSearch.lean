import TextCursor.Proofs.LineByLine
import TextCursor.Proofs.Token
import TextCursor.Proofs.TokenEnd
/-!
# Searching the end of a line

The end of a line is looked for among bytes, and the copy of the line takes a line pair as a whole.  Told by characters
(`Cursor.LineRead`), a line is what stands before the first character that ends one, and its line end follows it whole.  Both
come to the same (`readLine_exact`): the first byte that ends a line is the first character that does (`firstLineEnd_findIdx`),
and the copy stops before the line end and takes nothing of it.
-/
namespace TextCursor

namespace Text

/-- The offset of the first character that ends a line, or of the end of the text if there is none. -/
def FirstLineEnd (t : Text) (n : Nat) : Prop := IsLeast {k | t.StartsAt (fun x => x == '\r' || x == '\n') k ∨ k = size t} n

theorem firstLineEnd_line (t : Text) : t.FirstLineEnd (size t.line) := isLeast_size_takeWhile isLineEnd t

/-- **The first byte that ends a line is the first character that does**, or neither is there. -/
theorem firstLineEnd_findIdx (t : Text) : t.FirstLineEnd (t.bytes.findIdx Reading.isLineEndByte) := by
  have hlength : (t.bytes.takeWhile fun b => !Reading.isLineEndByte b).length = t.bytes.findIdx Reading.isLineEndByte := by
    rw [List.takeWhile_eq_take_findIdx_not, List.length_take]
    simpa using List.findIdx_le_length
  rw [← hlength, length_takeWhile_bytes]
  exact t.firstLineEnd_line

/-- The first text is a line, the second the line end behind it, and the third what follows. -/
structure IsLineOf (t line stop behind : Text) : Prop where
  text : t = line ++ stop ++ behind
  line : ∀ x ∈ line, x ≠ '\r' ∧ x ≠ '\n'
  stop : LineStop stop behind

theorem isLineEnd_of_head?_lineStop {stop behind : Text} (h : LineStop stop behind) {x : Char}
    (hx : (stop ++ behind).head? = some x) : isLineEnd x = true := by
  cases h with
  | crlf | lfcr | cr | lf =>
    cases hx
    rfl
  | nothing => cases hx

theorem lineEnd_of_lineStop {stop behind : Text} (h : LineStop stop behind) : lineEnd (stop ++ behind) = stop := by
  cases h with
  | crlf | lfcr | nothing => rfl
  | cr _ h => exact lineEnd_cr h
  | lf _ h => exact lineEnd_lf h

/-- **A text has one line at its front, and one line end behind it.** -/
theorem isLineOf_iff {t line stop behind : Text} : t.IsLineOf line stop behind ↔
    line = t.line ∧ stop = lineEnd (t.drop t.line.length) ∧ behind = (t.drop t.line.length).drop stop.length := by
  constructor
  · rintro ⟨ht, hline, hstop⟩
    have hl : t.line = line := by
      rw [ht, List.append_assoc]
      exact takeWhile_run_append (fun x hx => by rw [isLineEnd_eq_false_iff.2 (hline x hx)]; rfl) fun x hx => by
        rw [isLineEnd_of_head?_lineStop hstop hx]
        rfl
    have hd : t.drop t.line.length = stop ++ behind := by
      rw [hl, ht, List.append_assoc, List.drop_left]
    exact ⟨hl.symm, by rw [hd, lineEnd_of_lineStop hstop], by rw [hd, List.drop_left]⟩
  · rintro ⟨rfl, rfl, rfl⟩
    refine ⟨?_, fun x hx => isLineEnd_eq_false_iff.1 (not_isLineEnd_of_mem_line hx), lineStop_lineEnd fun x => head?_drop_line⟩
    rw [List.append_assoc, List.prefix_iff_eq_append.1 (Text.lineEnd_prefix (t.drop t.line.length)), line_append_drop]

theorem exists_isLineOf (t : Text) : ∃ line stop behind, t.IsLineOf line stop behind :=
  ⟨_, _, _, isLineOf_iff.2 ⟨rfl, rfl, rfl⟩⟩

end Text

namespace Cursor

/-- Blanks have been skipped, and there is nothing behind them. -/
def OnlyBlanksLeft (c : Cursor) (skip : Bool) : Prop := c.pos < (c.skipIf skip).pos ∧ (c.skipIf skip).pos = c.text.size

/-- What reading a line leaves behind, told by characters. -/
inductive LineRead (c : Cursor) (skip : Bool) : Outcome Text → Prop where
  | missing : c.OnlyBlanksLeft skip → LineRead c skip
      ⟨.error (.notFound "line".toList [] c.text.size),
        { c with pos := c.text.size, window := ⟨c.text.size, some c.text.size⟩ }⟩
  | line (line stop behind : Text) : ¬ c.OnlyBlanksLeft skip → (c.skipIf skip).rest.IsLineOf line stop behind →
      LineRead c skip
        ⟨.ok (line.map fun x => if x.toNat < 0x20 then '\n' else x),
          { c with
            pos := (c.skipIf skip).pos + Text.size line + Text.size stop
            window := ⟨(c.skipIf skip).pos, some ((c.skipIf skip).pos + Text.size line)⟩ }⟩

variable {c : Cursor} {skip : Bool}

/-- Blanks that have been skipped lie within the text. -/
theorem onBoundary_of_pos_lt (h : c.pos < (c.skipIf skip).pos) : c.OnBoundary := by
  refine onBoundary_of_rest_ne_nil fun hnil => ?_
  rw [skipIf_eq_pass, pos_pass, hnil, List.take_nil] at h
  exact absurd h (Nat.lt_irrefl _)

theorem onlyBlanksLeft_iff : c.OnlyBlanksLeft skip ↔ c.pos < (c.skipIf skip).pos ∧ (c.skipIf skip).rest = [] := by
  refine and_congr_right fun hlt => ?_
  have hsize := pos_add_size_rest (onBoundary_skipIf (onBoundary_of_pos_lt hlt) skip)
  rw [text_skipIf] at hsize
  rw [← Text.size_eq_zero]
  omega

theorem readLine_of_onlyBlanksLeft (h : c.OnlyBlanksLeft skip) : c.readLine skip =
    ⟨.error (.notFound "line".toList [] c.text.size),
      { c with pos := c.text.size, window := ⟨c.text.size, some c.text.size⟩ }⟩ := by
  obtain ⟨hlt, hrest⟩ := onlyBlanksLeft_iff.1 h
  have hfail := fail_rest (α := Text) (onBoundary_skipIf (onBoundary_of_pos_lt hlt) skip) (.notFound "line".toList)
  rw [hrest, List.length_nil, pass_zero] at hfail
  have hskip : c.skipIf skip = c.setPos c.text.size := by rw [skipIf_eq_setPos, h.2]
  rw [readLine_eq, if_pos ⟨hlt, hrest⟩, hfail, hskip]
  rfl

/-- The cursor after a line stands behind its line end, and its window spans the line. -/
theorem readLine_of_line (h : ¬ c.OnlyBlanksLeft skip) {line stop behind : Text}
    (hline : (c.skipIf skip).rest.IsLineOf line stop behind) : c.readLine skip =
      ⟨.ok (line.map fun x => if x.toNat < 0x20 then '\n' else x),
        { c with
          pos := (c.skipIf skip).pos + Text.size line + Text.size stop
          window := ⟨(c.skipIf skip).pos, some ((c.skipIf skip).pos + Text.size line)⟩ }⟩ := by
  obtain ⟨rfl, rfl, -⟩ := Text.isLineOf_iff.1 hline
  have hafter : ∀ d : Cursor, d.afterLine = { d with pos := d.afterLine.pos, window := d.afterLine.window } := fun _ => rfl
  rw [readLine_eq, if_neg fun hnone => h (onlyBlanksLeft_iff.2 hnone), hafter, pos_afterLine, window_afterLine,
    text_skipIf, config_skipIf, funext foldControl_eq]

/-- **What a line is by its characters is what is read**, in each case. -/
theorem lineRead_iff {o : Outcome Text} : c.LineRead skip o ↔ o = c.readLine skip := by
  constructor
  · intro ho
    cases ho with
    | missing h => exact (readLine_of_onlyBlanksLeft h).symm
    | line line stop behind h hline => exact (readLine_of_line h hline).symm
  · rintro rfl
    by_cases h : c.OnlyBlanksLeft skip
    · rw [readLine_of_onlyBlanksLeft h]
      exact .missing h
    · obtain ⟨line, stop, behind, hline⟩ := (c.skipIf skip).rest.exists_isLineOf
      rw [readLine_of_line h hline]
      exact .line line stop behind h hline

theorem error_readLine_iff : (∃ f, (c.readLine skip).answer = .error f) ↔ c.OnlyBlanksLeft skip := by
  constructor
  · rintro ⟨f, hf⟩
    by_contra h
    obtain ⟨line, stop, behind, hline⟩ := (c.skipIf skip).rest.exists_isLineOf
    rw [readLine_of_line h hline] at hf
    cases hf
  · intro h
    rw [readLine_of_onlyBlanksLeft h]
    exact ⟨_, rfl⟩

/-- **Reading a line fails in one case only, and otherwise reads what a search among characters finds.**  There is no line
where blanks have been skipped up to the end of the text.  Otherwise the line is what stands before the first character that
ends one, whether or not that is a blank, with every control character as a line feed; the window is on it, and the cursor
behind the line end, which is a pair where the next two characters are one.  The search among the bytes finds the same end,
and the copy stops there. -/
theorem readLine_exact (c : Cursor) (skip : Bool) :
    ((∃ f, (c.readLine skip).answer = .error f) ↔ c.pos < (c.skipIf skip).pos ∧ (c.skipIf skip).pos = c.text.size) ∧
    (∀ o, c.LineRead skip o ↔ o = c.readLine skip) ∧
    let t := (c.skipIf skip).rest
    let n := t.bytes.findIdx fun b => b == 0x0D || b == 0x0A
    t.FirstLineEnd n ∧ Text.size (t.take (Reading.line t).taken) = n := by
  refine ⟨error_readLine_iff, fun o => lineRead_iff, Text.firstLineEnd_findIdx _, ?_⟩
  generalize (c.skipIf skip).rest = t
  rw [Reading.line_eq, Text.take_length_line]
  exact t.firstLineEnd_line.unique t.firstLineEnd_findIdx

end Cursor
end TextCursor
