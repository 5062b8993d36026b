import TextCursor.Command
import TextCursor.Proofs.Line
import TextCursor.Proofs.Word
/-!
# The cursor and its window lie in the text

`Cursor.Sound` is the one invariant of a cursor: the position and both ends of the window are boundaries of the text, the
ends in order.  Every command keeps it, whether it succeeds or fails (`sound_perform`), so every run does (`sound_after`),
and no weaker or stronger condition holds of all runs: the sound cursors are exactly those that runs lead to
(`sound_iff_exists_run`).

`Outcome.Sound` carries the invariant through the operations, together with what it says of a fault: the token blamed is
the text of the window left behind.
-/
namespace TextCursor

/-- The fault blames a piece of the text, and not an argument of the call or a position without a character. -/
def Cause.blamesToken : Cause → Bool
  | .outOfRange | .argumentMissing | .argumentOutOfRange => false
  | _ => true

/-- The position and the window lie on boundaries of the text, the window's stop, once settled, not before its start. -/
structure Cursor.Sound (c : Cursor) : Prop where
  pos : c.text.isBoundary c.pos = true
  start : c.text.isBoundary c.window.start = true
  stop : ∀ e, c.window.stop = some e → c.window.start ≤ e ∧ c.text.isBoundary e = true

/-- The cursor left behind is sound, and a fault that blames a token blames the one its window shows. -/
structure Outcome.Sound {α : Type} (o : Outcome α) : Prop where
  cursor : o.cursor.Sound
  fault : ∀ f, o.answer = .error f → f.cause.blamesToken = true →
    o.cursor.window.stop.isSome = true ∧ f.token = o.cursor.token ∧ f.pos = o.cursor.window.start

theorem Outcome.Sound.ok {α : Type} {c : Cursor} (h : c.Sound) (a : α) : (⟨.ok a, c⟩ : Outcome α).Sound :=
  ⟨h, fun f hf => by cases hf⟩

theorem Outcome.Sound.refused {α : Type} {c : Cursor} (h : c.Sound) {f : Fault} (hf : f.cause.blamesToken = false) :
    (⟨.error f, c⟩ : Outcome α).Sound :=
  ⟨h, fun g hg hb => by cases hg; rw [hf] at hb; cases hb⟩

theorem Outcome.Sound.map {α β : Type} {o : Outcome α} (h : o.Sound) (g : α → β) : (o.map g).Sound :=
  ⟨h.cursor, fun f hf => h.fault f (answer_of_map_error hf)⟩

theorem Outcome.Sound.andThen {α β : Type} {o : Outcome α} {g : α → Cursor → Outcome β} (h : o.Sound)
    (hg : ∀ a, (g a o.cursor).Sound) : (o.andThen g).Sound := by
  cases ha : o.answer with
  | ok a => rw [Outcome.andThen, ha]; exact hg a
  | error e =>
    rw [Outcome.andThen, ha]
    exact ⟨h.cursor, fun f hf => by cases hf; exact h.fault _ ha⟩

namespace Cursor

theorem sound_ofText (t : Text) (s : Config) : (ofText t s).Sound :=
  ⟨t.isBoundary_zero, t.isBoundary_zero, fun e he => by cases he; exact ⟨Nat.le_refl 0, t.isBoundary_zero⟩⟩

/-! ## The steps that operations are made of -/

theorem isBoundary_add_takeWhile {t : Text} {n : Nat} (h : t.isBoundary n = true) (p : Char → Bool) :
    t.isBoundary (n + Text.size (((t.after? n).getD []).takeWhile p)) = true := by
  obtain ⟨q, r, rfl, rfl⟩ := Text.isBoundary_iff.1 h
  rw [Text.after?_append, Option.getD_some]
  refine Text.isBoundary_iff.2 ⟨q ++ r.takeWhile p, r.dropWhile p, ?_, Text.size_append _ _⟩
  rw [List.append_assoc, List.takeWhile_append_dropWhile]

namespace Sound

variable {c : Cursor}

theorem pass (h : c.Sound) (n : Nat) : (c.pass n).Sound := ⟨onBoundary_pass h.pos n, h.start, h.stop⟩

theorem skipIf (h : c.Sound) (skip : Bool) : (c.skipIf skip).Sound := by
  rw [skipIf_eq_pass]; exact h.pass _

theorem mark (h : c.Sound) : c.mark.Sound := ⟨h.pos, h.pos, fun e he => by cases he⟩

/-- **Wherever a window is asked to end, it ends on a boundary at or after its start.** -/
theorem stopAt (h : c.Sound) (e : Ends) :
    c.window.start ≤ c.stopAt e ∧ c.text.isBoundary (c.stopAt e) = true := by
  have hblank := isBoundary_add_takeWhile h.start fun x => !c.isBlank x
  have hhere : c.text.isBoundary (max c.pos c.window.start) = true := by
    rcases Nat.le_total c.pos c.window.start with hle | hle
    · rw [Nat.max_eq_right hle]; exact h.start
    · rw [Nat.max_eq_left hle]; exact h.pos
  have hmin : ∀ a b, c.text.isBoundary a = true → c.text.isBoundary b = true → c.text.isBoundary (min a b) = true := by
    intro a b ha hb
    rcases Nat.le_total a b with hle | hle
    · rw [Nat.min_eq_left hle]; exact ha
    · rw [Nat.min_eq_right hle]; exact hb
  simp only [Cursor.stopAt]
  split
  · exact ⟨Nat.le_refl _, h.start⟩
  · split
    · split
      · exact ⟨by omega, hmin _ _ hblank hhere⟩
      · exact ⟨by omega, hblank⟩
    · split
      · exact ⟨by omega, hhere⟩
      · exact ⟨by omega, Text.isBoundary_size _⟩

theorem resolve (h : c.Sound) (e : Ends) : (c.resolve e).Sound :=
  ⟨h.pos, h.start, fun e' he => by cases he; exact h.stopAt e⟩

theorem settle (h : c.Sound) : ∀ e : Option Ends, (c.settle e).Sound
  | some e => h.resolve e
  | none => by
    rw [Cursor.settle]
    split
    · exact h.resolve _
    · exact h

theorem finish (h : c.Sound) (skip : Bool) : (c.finish skip).Sound := (h.resolve _).skipIf skip

theorem fail {α : Type} (h : c.Sound) (e : Ends) (cause : Cause) : (c.fail e cause : Outcome α).Sound :=
  ⟨h.resolve e, fun f hf _ => by cases hf; exact ⟨rfl, rfl, rfl⟩⟩

/-! ## The operations -/

theorem moveTo (h : c.Sound) (p : Nat) : (c.moveTo p).Sound := by
  unfold Cursor.moveTo
  split
  · rename_i hp
    have hc : Cursor.Sound { c with pos := p, window := ⟨p, some p⟩ } :=
      ⟨hp, hp, fun e he => by cases he; exact ⟨Nat.le_refl p, hp⟩⟩
    exact .ok hc _
  · exact .refused h rfl

theorem moveBy (h : c.Sound) (d : Int) : (c.moveBy d).Sound := by
  unfold Cursor.moveBy
  split
  · split
    · rename_i p _ hp
      have hc : Cursor.Sound { c with pos := p } := ⟨hp, h.start, h.stop⟩
      exact .ok hc _
    · exact .refused h rfl
  · exact .refused h rfl

theorem setBlanks (h : c.Sound) : ∀ s : Option Text, (c.setBlanks s).Sound
  | none => .refused h rfl
  | some s => .ok (show Cursor.Sound { c with config := ⟨s⟩ } from ⟨h.pos, h.start, h.stop⟩) _

theorem markAt (h : c.Sound) (p : Nat) (e : Option Ends) : (c.markAt p e).Sound := by
  unfold Cursor.markAt
  split
  · rename_i hp
    have hm : Cursor.Sound { c with window := ⟨p, none⟩ } := ⟨h.pos, hp.2, fun e he => by cases he⟩
    cases e with
    | none => exact .ok hm _
    | some e => exact .ok (hm.resolve e) _
  · exact .refused h rfl

theorem peek (h : c.Sound) (skip : Bool) : (c.peek skip).Sound := by
  simp only [Cursor.peek]
  split
  · exact .ok (h.skipIf skip) _
  · exact .refused (h.skipIf skip) rfl

theorem lookAhead (h : c.Sound) (skip : Bool) : (c.lookAhead skip).Sound := by
  have hn : (c.next skip).Sound := (h.pass 1).peek skip
  have hc : (c.next skip).cursor = (c.pass 1).skipIf skip := by
    simp only [Cursor.next, Cursor.peek]; split <;> rfl
  have hs : Cursor.Sound { (c.next skip).cursor with pos := c.pos } := by
    rw [hc, skipIf_eq_pass]; exact ⟨h.pos, h.start, h.stop⟩
  refine ⟨hs, fun f hf hb => ?_⟩
  have hcause : ∀ f, (c.next skip).answer = .error f → f.cause = .outOfRange := by
    intro f hf
    simp only [Cursor.next, Cursor.peek] at hf
    split at hf
    · cases hf
    · cases hf; rfl
  rw [hcause f hf] at hb
  cases hb

theorem atBlank (h : c.Sound) : c.atBlank.Sound := by
  unfold Cursor.atBlank
  split
  · exact .ok h _
  · exact .refused h rfl

theorem requireBlank (h : c.Sound) : c.requireBlank.Sound := by
  unfold Cursor.requireBlank
  split
  · exact .ok (h.pass _) _
  · exact h.mark.fail _ _

theorem requireEnd (h : c.Sound) (skip : Bool) : (c.requireEnd skip).Sound := by
  have ha : (c.atEnd skip).2.Sound := h.skipIf skip
  unfold Cursor.requireEnd
  split
  · rename_i heq
    rw [heq] at ha; exact .ok ha _
  · rename_i heq
    rw [heq] at ha; exact ha.mark.fail _ _

theorem accept (h : c.Sound) (x : Char) (skip : Bool) : (c.accept x skip).2.Sound := by
  simp only [Cursor.accept]
  split
  · exact ((h.skipIf skip).pass 1).skipIf skip
  · exact h.skipIf skip

theorem expect (h : c.Sound) (x : Char) (skip : Bool) : (c.expect x skip).Sound := by
  have ha := h.accept x skip
  unfold Cursor.expect
  split
  · rename_i heq
    rw [heq] at ha; exact .ok ha _
  · rename_i heq
    rw [heq] at ha; exact ha.mark.fail _ _

theorem acceptOneOf (h : c.Sound) (set : Text) (skip : Bool) : (c.acceptOneOf set skip).2.Sound := by
  simp only [Cursor.acceptOneOf]
  split
  · exact h.skipIf skip
  · split
    · exact h.skipIf skip
    · exact ((h.skipIf skip).pass 1).skipIf skip

theorem expectOneOf (h : c.Sound) (set : Text) (skip : Bool) : (c.expectOneOf set skip).Sound := by
  have ha := h.acceptOneOf set skip
  unfold Cursor.expectOneOf
  split
  · rename_i heq
    rw [heq] at ha; exact .ok ha _
  · rename_i heq
    rw [heq] at ha; exact ha.mark.fail _ _

theorem matchKeyword (h : c.Sound) (list : Text) (s : Flags) : (c.matchKeyword list s).Sound := by
  have hs := h.skipIf (s.has .skipBlanks)
  simp only [Cursor.matchKeyword]
  split
  · exact .ok hs _
  · split
    · exact .ok hs _
    · split
      · exact .ok (hs.mark.pass _) _
      · split
        · exact .ok hs.mark _
        · exact .ok ((hs.mark.pass _).finish _) _
        · exact (hs.mark.pass _).fail _ _

theorem readMagnitude (h : c.Sound) (k : Numeral) (s : Flags) (max : Nat) : (c.readMagnitude k s max).Sound := by
  simp only [Cursor.readMagnitude]
  split
  · exact .ok (h.pass _) _
  · exact (h.pass _).fail _ _

theorem readUnsigned (h : c.Sound) (k : Numeral) (s : Flags) (max : Nat) : (c.readUnsigned k s max).Sound := by
  have hm := (h.skipIf (s.has .skipBlanks)).mark.readMagnitude k s max
  simp only [Cursor.readUnsigned]
  exact hm.andThen fun n => .ok (hm.cursor.finish _) n

theorem readSigned (h : c.Sound) (k : Numeral) (s : Flags) (max : Nat) : (c.readSigned k s max).Sound := by
  have ha := (h.skipIf (s.has .skipBlanks)).mark.accept '-' false
  simp only [Cursor.readSigned]
  split
  all_goals
    rename_i heq
    rw [heq] at ha
    have hm := ha.readMagnitude k s max
    refine hm.andThen fun n => ?_
    split
    · exact .ok (hm.cursor.finish _) _
    · exact hm.cursor.fail _ _

theorem acceptPoint (h : c.Sound) (comma : Bool) : (c.acceptPoint comma).2.Sound := by
  have ha := h.accept '.' false
  unfold Cursor.acceptPoint
  split
  · rename_i heq
    rw [heq] at ha; exact ha
  · rename_i heq
    rw [heq] at ha
    split
    · exact ha.accept ',' false
    · exact ha

theorem readFloat (h : c.Sound) (s : Flags) : (c.readFloat s).Sound := by
  have ha := (h.skipIf (s.has .skipBlanks)).mark.acceptOneOf ['+', '-'] false
  simp only [Cursor.readFloat]
  generalize (c.skipIf (s.has .skipBlanks)).mark.acceptOneOf ['+', '-'] false = o at ha ⊢
  have hw := ha.pass (o.2.rest.takeWhile Char.isDigit).length
  split
  · exact hw.fail _ _
  · have hp := hw.acceptPoint (s.has .comma)
    split
    · rename_i heq'
      rw [heq'] at hp; exact .ok (hp.finish _) _
    · rename_i heq'
      rw [heq'] at hp
      split
      · exact (hp.pass _).fail _ _
      · exact .ok ((hp.pass _).finish _) _

theorem readString (h : c.Sound) (s : Flags) : (c.readString s).Sound := by
  have hm := (h.skipIf (s.has .skipBlanks)).mark
  simp only [Cursor.readString]
  split
  · split
    · exact .ok (((hm.pass 1).pass _).finish _) _
    · exact ((hm.pass 1).pass _).fail _ _
  · split
    · exact hm.fail _ _
    · exact .ok ((hm.pass _).finish _) _

theorem readWord (h : c.Sound) (skip : Bool) : (c.readWord skip).2.Sound :=
  (((h.skipIf skip).mark.pass _).finish skip).settle none

theorem passLineEnd (h : c.Sound) : c.passLineEnd.Sound := by
  unfold Cursor.passLineEnd
  split
  · exact h
  · split
    · exact h.pass _
    · exact h

theorem readLine (h : c.Sound) (skip : Bool) : (c.readLine skip).Sound := by
  have hm := (h.skipIf skip).mark
  simp only [Cursor.readLine]
  split
  · exact hm.fail _ _
  · exact .ok ((hm.pass _).resolve _).passLineEnd _

end Sound

/-! ## Runs -/

/-- **Every command keeps the invariant**, whether it succeeds or fails. -/
theorem sound_perform {c : Cursor} (h : c.Sound) (m : Command) : (c.perform m).Sound := by
  cases m with
  | load t => exact .ok (sound_ofText t c.config) _
  | text => exact .ok h _
  | blanks => exact .ok h _
  | size => exact .ok h _
  | isEmpty => exact .ok h _
  | position => exact .ok h _
  | remaining => exact .ok h _
  | setBlanks s => exact (h.setBlanks s).map _
  | moveTo p => exact (h.moveTo p).map _
  | moveBy d => exact (h.moveBy d).map _
  | mark => exact .ok h.mark _
  | markAt p s => exact (h.markAt p s.toEnds?).map _
  | resolve s => exact .ok (h.resolve s.toEnds) _
  | lastToken s => exact .ok (h.settle s.toEnds?) _
  | tokenRange => exact .ok (h.settle none) _
  | skipBlanks => exact .ok (h.pass _) _
  | requireBlank => exact h.requireBlank.map _
  | atBlank => exact h.atBlank.map _
  | peek skip => exact (h.peek skip).map _
  | next skip => exact ((h.pass 1).peek skip).map _
  | lookAhead skip => exact (h.lookAhead skip).map _
  | atEnd skip => exact .ok (h.skipIf skip) _
  | requireEnd skip => exact (h.requireEnd skip).map _
  | accept x skip => exact .ok (h.accept x skip) _
  | expect x skip => exact (h.expect x skip).map _
  | acceptOneOf set skip => exact .ok (h.acceptOneOf set skip) _
  | expectOneOf set skip => exact (h.expectOneOf set skip).map _
  | matchKeyword list s => exact (h.matchKeyword list s).map _
  | readUnsigned k s max => exact (h.readUnsigned k s max).map _
  | readSigned k s max => exact (h.readSigned k s max).map _
  | readFloat s => exact (h.readFloat s).map _
  | readString s => exact (h.readString s).map _
  | readWord skip => exact .ok (h.readWord skip) _
  | readLine skip => exact (h.readLine skip).map _

/-- **Every run keeps the invariant.** -/
theorem Sound.after {c : Cursor} (h : c.Sound) : ∀ ms : List Command, (c.after ms).Sound
  | [] => h
  | m :: ms => Sound.after (sound_perform h m).cursor ms

theorem sound_after (t : Text) (s : Config) (ms : List Command) : ((ofText t s).after ms).Sound :=
  (sound_ofText t s).after ms

/-- The commands that lead a fresh cursor to a given one: its window is opened at its start and, if it has a stop, settled
with the cursor there, before the cursor moves to its place. -/
def route (c : Cursor) : List Command :=
  match c.window.stop with
  | none => [.moveTo c.window.start, .mark, .moveBy (c.pos - c.window.start)]
  | some e => [.moveTo c.window.start, .mark, .moveBy (e - c.window.start), .resolve (.only .toCursor), .moveBy (c.pos - e)]

theorem cursor_moveBy {c : Cursor} {p : Nat} (hp : c.text.isBoundary p = true) :
    (c.perform (.moveBy (p - c.pos))).cursor = { c with pos := p } := by
  have hd : (c.pos : Int) + (p - c.pos) = Int.ofNat p := by rw [Int.ofNat_eq_natCast]; omega
  show (c.moveBy (p - c.pos)).cursor = _
  rw [moveBy, hd]
  simp only [if_pos hp]

theorem cursor_moveTo {c : Cursor} {p : Nat} (hp : c.text.isBoundary p = true) :
    (c.perform (.moveTo p)).cursor = { c with pos := p, window := ⟨p, some p⟩ } := by
  show (c.moveTo p).cursor = _
  rw [moveTo, if_pos hp]

theorem after_cons (c : Cursor) (m : Command) (ms : List Command) :
    c.after (m :: ms) = (c.perform m).cursor.after ms := rfl

theorem after_route {c : Cursor} (h : c.Sound) : (ofText c.text c.config).after c.route = c := by
  obtain ⟨t, p, s, w, e⟩ := c
  have hp : t.isBoundary p = true := h.pos
  have hw : t.isBoundary w = true := h.start
  have hopen : ∀ ms, (ofText t s).after (.moveTo w :: .mark :: ms) = (Cursor.mk t w s ⟨w, none⟩).after ms := fun ms => by
    rw [after_cons, cursor_moveTo (c := ofText t s) hw]; rfl
  cases e with
  | none =>
    show (ofText t s).after [.moveTo w, .mark, .moveBy (p - w)] = _
    rw [hopen]
    exact cursor_moveBy (c := ⟨t, w, s, ⟨w, none⟩⟩) hp
  | some e =>
    obtain ⟨hle, he⟩ : w ≤ e ∧ t.isBoundary e = true := h.stop e rfl
    have hsize := Text.le_size_of_isBoundary he
    have hstop : (Cursor.mk t e s ⟨w, none⟩).stopAt (Flags.only .toCursor).toEnds = e := by
      simp only [stopAt, Flags.toEnds, Flags.has_only, reduceCtorEq, decide_false, decide_true, if_true,
        Bool.false_eq_true, if_false]
      split <;> omega
    have hresolve : ((Cursor.mk t e s ⟨w, none⟩).perform (.resolve (.only .toCursor))).cursor = ⟨t, e, s, ⟨w, some e⟩⟩ := by
      show (Cursor.mk t e s ⟨w, none⟩).resolve _ = _
      rw [resolve, hstop]
    show (ofText t s).after [.moveTo w, .mark, .moveBy (e - w), .resolve (.only .toCursor), .moveBy (p - e)] = _
    rw [hopen, after_cons, cursor_moveBy (c := ⟨t, w, s, ⟨w, none⟩⟩) he, after_cons, hresolve]
    exact cursor_moveBy (c := ⟨t, e, s, ⟨w, some e⟩⟩) hp

/-- **The sound cursors are exactly those that a run leads to.** -/
theorem sound_iff_exists_run {c : Cursor} : c.Sound ↔ ∃ t s ms, c = (ofText t s).after ms := by
  refine ⟨fun h => ⟨c.text, c.config, c.route, (after_route h).symm⟩, ?_⟩
  rintro ⟨t, s, ms, rfl⟩
  exact sound_after t s ms

/-! ## No slice out of range -/

theorem Sound.slice?_span {c : Cursor} (h : c.Sound) : c.text.slice? c.span.1 c.span.2 = some c.token := by
  have hs : c.span.1 ≤ c.span.2 ∧ c.text.isBoundary c.span.2 = true := by
    cases hw : c.window.stop with
    | none => simp only [span, hw]; exact ⟨Nat.le_refl _, h.start⟩
    | some e => simp only [span, hw]; exact h.stop e hw
  obtain ⟨u, hu⟩ := Text.exists_slice? h.start hs.2 hs.1
  have hu' : c.text.slice? c.span.1 c.span.2 = some u := hu
  rw [token, hu']; rfl

/-- Every slice of the text that the operations take goes from one boundary to another that is not before it: what is left
to read, what is left from the window's start on, where the window's stop is looked for, and the text of the window, as
the last token, in a fault, and as the word or line read. -/
structure SlicesInRange (c : Cursor) : Prop where
  remaining : ∀ r, c.remaining? = some r → c.text.after? c.pos = some r
  resolve : ∃ r, c.text.after? c.window.start = some r
  lastToken : ∀ e, c.text.slice? (c.settle e).span.1 (c.settle e).span.2 = some (c.lastToken e).1
  fault : ∀ m f, (c.perform m).answer = .error f → f.cause.blamesToken = true →
    (c.perform m).cursor.text.slice? (c.perform m).cursor.span.1 (c.perform m).cursor.span.2 = some f.token
  word : ∀ skip, c.text.slice? (c.readWord skip).2.span.1 (c.readWord skip).2.span.2 = some (c.readWord skip).1
  line : ∀ skip v, (c.readLine skip).answer = .ok v →
    ∃ r, c.text.after? (c.readLine skip).cursor.window.start = some r ∧ v = (Reading.line r).value

theorem Sound.slicesInRange {c : Cursor} (h : c.Sound) : c.SlicesInRange where
  remaining r hr := by
    rw [remaining?] at hr
    split at hr
    · cases hr
    · cases hr; exact after?_pos h.pos
  resolve := Option.isSome_iff_exists.1 h.start
  lastToken e := by
    have ht : (c.settle e).text = c.text := by
      cases e with
      | some e => rfl
      | none => rw [Cursor.settle]; split <;> rfl
    rw [← ht]; exact (h.settle e).slice?_span
  fault m f hf hb := by
    have hs := sound_perform h m
    rw [(hs.fault f hf hb).2.1]
    exact hs.cursor.slice?_span
  word skip := by
    have ht : (c.readWord skip).2.text = c.text := by rw [readWord_eq]; simp
    rw [← ht]; exact (h.readWord skip).slice?_span
  line skip v hv := by
    rw [readLine_eq] at hv ⊢
    split at hv
    · cases hv
    · rename_i hc
      cases hv
      have hr := after?_pos (h.skipIf skip).pos
      rw [text_skipIf] at hr
      rw [if_neg hc, window_afterLine]
      exact ⟨_, hr, by rw [Reading.line_eq]⟩

/-- **Whatever is asked of a cursor, and in whatever order, its position and its window stay within the text, on boundaries
and in order**, so that no slice is ever taken out of range, backwards or inside a character. -/
theorem after_within_text (t : Text) (s : Config) (ms : List Command) :
    let c := (ofText t s).after ms
    (c.pos ≤ c.text.size ∧ c.text.isBoundary c.pos = true) ∧
    (c.window.start ≤ c.text.size ∧ c.text.isBoundary c.window.start = true) ∧
    (∀ e, c.window.stop = some e → c.window.start ≤ e ∧ e ≤ c.text.size ∧ c.text.isBoundary e = true) ∧
    c.SlicesInRange := by
  intro c
  have h : c.Sound := sound_after t s ms
  refine ⟨⟨Text.le_size_of_isBoundary h.pos, h.pos⟩, ⟨Text.le_size_of_isBoundary h.start, h.start⟩, ?_, h.slicesInRange⟩
  intro e he
  obtain ⟨hle, hb⟩ := h.stop e he
  exact ⟨hle, Text.le_size_of_isBoundary hb, hb⟩

end Cursor
end TextCursor
