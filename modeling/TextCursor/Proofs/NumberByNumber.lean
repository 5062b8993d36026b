import TextCursor.Proofs.Loop
import TextCursor.Proofs.Numeral
import TextCursor.Proofs.Reread
/-!
# Reading number by number

A list of numbers is printed with blanks between them (`Cursor.Lists`).  A loop that reads one number after another comes
to the end of the text and answers the list (`readNumbers_exact`), because each call reads one number whole and skips the
blanks behind it, up to where the next number starts.
-/
namespace TextCursor

variable {α : Type}

/-- A value as it is printed in a list: how it is written, and what stands between it and the next one. -/
structure Item (α : Type) where
  value : α
  written : Text
  gap : Text

/-- The items printed one after another, behind something that stands before the first. -/
def Item.print (lead : Text) (is : List (Item α)) : Text := lead ++ is.flatMap fun i => i.written ++ i.gap

/-- There are only blanks before, between and behind the items, and at least one between two of them. -/
structure Item.Apart (p : Char → Bool) (lead : Text) (is : List (Item α)) : Prop where
  lead : ∀ x ∈ lead, p x = true
  gaps : ∀ i ∈ is, ∀ x ∈ i.gap, p x = true
  between : ∀ i ∈ is.dropLast, i.gap ≠ []

namespace Item

variable {p : Char → Bool} {lead : Text} {i : Item α} {is : List (Item α)}

theorem print_cons : print lead (i :: is) = lead ++ (i.written ++ print i.gap is) := by
  simp only [print, List.flatMap_cons, List.append_assoc]

instance : Decidable (Apart p lead is) :=
  decidable_of_iff (lead.all p = true ∧ is.all (fun i => i.gap.all p) = true ∧
    is.dropLast.all (fun i => !i.gap.isEmpty) = true) (by
      simp only [List.all_eq_true, Bool.not_eq_true', List.isEmpty_eq_false_iff]
      exact ⟨fun ⟨hlead, hgaps, hbetween⟩ => ⟨hlead, hgaps, hbetween⟩, fun h => ⟨h.lead, h.gaps, h.between⟩⟩)

/-- Behind the first item its gap leads the others. -/
theorem Apart.tail (h : Apart p lead (i :: is)) : Apart p i.gap is where
  lead := h.gaps i (List.mem_cons_self ..)
  gaps := fun j hj => h.gaps j (List.mem_cons_of_mem i hj)
  between := fun j hj => by
    cases is with
    | nil => cases hj
    | cons k is => exact h.between j (List.mem_cons_of_mem i hj)

/-- **Behind an item there is a blank or nothing.** -/
theorem Apart.head (h : Apart p lead (i :: is)) : ∀ x, (print i.gap is).head? = some x → p x = true := by
  intro x hx
  have hblank : ∀ t, (i.gap ++ t).head? = some x → i.gap ≠ [] → p x = true := fun t ht hne => by
    obtain ⟨y, g, hg⟩ := List.exists_cons_of_ne_nil hne
    rw [hg] at ht
    cases ht
    exact h.tail.lead x (hg ▸ List.mem_cons_self ..)
  cases is with
  | nil =>
    refine hblank [] hx fun hnil => ?_
    rw [print, hnil] at hx
    cases hx
  | cons j is => exact hblank _ hx (h.between i (List.mem_cons_self ..))

end Item

namespace Cursor

/-- What is left to read is a list of items, led, separated and followed by blanks, each written as it may be. -/
structure Lists (written : α → Text → Prop) (c : Cursor) (lead : Text) (is : List (Item α)) : Prop where
  text : c.text.after? c.pos = some (Item.print lead is)
  apart : Item.Apart c.isBlank lead is
  written : ∀ i ∈ is, written i.value i.written

/-- The loop comes to the end of the text, fails nowhere and answers exactly the values. -/
def ReadsBack (c : Cursor) (body : Cursor → Outcome α) (vs : List α) : Prop :=
  ∃ ks, c.callsWithin true body vs.length = some ks ∧ ks.map (fun k => k.outcome.answer) = vs.map .ok

/-- **A skip ends where the blanks do.** -/
theorem rest_skipIf_of_append {c : Cursor} {g t : Text} (hr : c.rest = g ++ t) (hg : ∀ x ∈ g, c.isBlank x = true)
    (ht : ∀ x, t.head? = some x → c.isBlank x = false) : (c.skipIf true).rest = t := by
  have hgap : c.gap true = g := by
    show c.rest.takeWhile c.isBlank = g
    rw [hr]
    exact Text.takeWhile_run_append hg ht
  rw [skipIf_eq_pass, rest_pass, hgap, hr, List.drop_left]

/-- Items without a lead start with no blank. -/
theorem not_isBlank_of_head?_print {l : Literal α} {p : Char → Bool} {is : List (Item α)}
    (his : ∀ i ∈ is, l.Spells p i.value i.written) {x : Char} (hx : (Item.print [] is).head? = some x) : p x = false := by
  cases is with
  | nil => cases hx
  | cons i is =>
    obtain ⟨y, u, hw, hy⟩ := (his i (List.mem_cons_self ..)).head
    rw [Item.print_cons, hw] at hx
    cases hx
    exact hy

/-! ## Loops whose calls read a literal between blanks -/

section

variable {body : Cursor → Outcome α} {l : Literal α} {p : Char → Bool}
  (hbody : ∀ c, Takes (finish · true) (c.skipIf true).mark l (body c))
include hbody

/-- **A call reads the item at the cursor** and skips to where the next one starts. -/
theorem exists_call_of_spells {v : α} {w g t : Text} (hspells : l.Spells p v w) (hg : ∀ x ∈ g, p x = true)
    (hbehind : ∀ x, (g ++ t).head? = some x → p x = true) (ht : ∀ x, t.head? = some x → p x = false) {c : Cursor}
    (hbound : c.OnBoundary) (hp : c.isBlank = p) (hrest : (c.skipIf true).rest = w ++ (g ++ t)) :
    ∃ d, body (c.skipIf true) = ⟨.ok v, d⟩ ∧ d.OnBoundary ∧ d.isBlank = p ∧ (d.skipIf true).rest = t := by
  have hread : l (c.skipIf true).rest = some (v, w.length) := hrest ▸ hspells.read _ hbehind
  have hcall := hbody (c.skipIf true)
  rw [skipIf_of_gap_eq_nil (gap_skipIf c)] at hcall
  rcases hcall with ⟨u, n, hl, ho⟩ | ⟨hl, -⟩
  · cases hread.symm.trans hl
    let e := ((c.skipIf true).mark.pass w.length).resolve .atCursor
    have hblank : e.isBlank = p := (isBlank_skipIf c true).trans hp
    have hleft : e.rest = g ++ t := by
      show ((c.skipIf true).mark.pass w.length).rest = g ++ t
      rw [rest_pass, rest_mark, hrest, List.drop_left]
    refine ⟨e.skipIf true, ho, onBoundary_skipIf (onBoundary_pass (onBoundary_skipIf hbound true) _) true, ?_, ?_⟩
    · exact (isBlank_skipIf e true).trans hblank
    · rw [skipIf_of_gap_eq_nil (gap_skipIf e)]
      exact rest_skipIf_of_append hleft (fun x hx => hblank ▸ hg x hx) fun x hx => hblank ▸ ht x hx
  · cases hread.symm.trans hl

/-- **A loop reads items back** whose values its calls can read, from where the first of them starts. -/
theorem readsBack_of_skipped {is : List (Item α)} (his : ∀ i ∈ is, l.Spells p i.value i.written) {lead : Text}
    (hapart : Item.Apart p lead is) {c : Cursor} (hbound : c.OnBoundary) (hp : c.isBlank = p)
    (hrest : (c.skipIf true).rest = Item.print [] is) : c.ReadsBack body (is.map Item.value) := by
  have hstart := onBoundary_skipIf hbound true
  -- between two calls the next item starts right behind a skip: the last call has skipped there, and one more skip stays
  induction is generalizing c lead with
  | nil =>
    have hend : (c.atEnd true).1 = true := (isDone_iff hstart).2 hrest
    refine ⟨[], ?_, rfl⟩
    rw [List.map_nil, List.length_nil, callsWithin, if_pos hend]
  | cons i is ih =>
    have hspells := his i (List.mem_cons_self ..)
    have hothers : ∀ j ∈ is, l.Spells p j.value j.written := fun j hj => his j (List.mem_cons_of_mem i hj)
    rw [Item.print_cons, List.nil_append] at hrest
    have hend : (c.atEnd true).1 = false := Bool.eq_false_iff.2 fun hdone => by
      obtain ⟨x, u, hw, -⟩ := hspells.head
      rw [(isDone_iff hstart).1 hdone, hw] at hrest
      cases hrest
    obtain ⟨d, hcall, hd, hdp, hnext⟩ := exists_call_of_spells hbody hspells hapart.tail.lead hapart.head
      (fun x => not_isBlank_of_head?_print hothers) hbound hp hrest
    obtain ⟨ks, hks, hanswers⟩ := ih hothers hapart.tail hd hdp hnext (onBoundary_skipIf hd true)
    have hat : (c.atEnd true).2 = c.skipIf true := rfl
    refine ⟨⟨c.skipIf true, ⟨.ok i.value, d⟩⟩ :: ks, ?_, ?_⟩
    · rw [List.map_cons, List.length_cons, callsWithin, hend, if_neg Bool.false_ne_true, hat, hcall]
      exact congrArg (Option.map _) hks
    · rw [List.map_cons, List.map_cons, List.map_cons, hanswers]

/-- **A printed list is read back** by a loop whose calls can read each of its items as it is written. -/
theorem Lists.readsBack {written : α → Text → Prop} {c : Cursor} {lead : Text} {is : List (Item α)}
    (h : c.Lists written lead is) (hl : ∀ v w, written v w → l.Spells c.isBlank v w) :
    c.ReadsBack body (is.map Item.value) := by
  have hrest : c.rest = lead ++ Item.print [] is := rest_of_after? h.text
  have his : ∀ i ∈ is, l.Spells c.isBlank i.value i.written := fun i hi => hl _ _ (h.written i hi)
  exact readsBack_of_skipped hbody his h.apart (onBoundary_of_after? h.text) rfl
    (rest_skipIf_of_append hrest h.apart.lead fun x => not_isBlank_of_head?_print his)

end

/-! ## Numbers -/

/-- **Printed numbers are read back number by number.**  Signed and unsigned decimals are, where no digit and no minus sign
is a blank; so are numbers in hexadecimal digits behind a base mark, where nothing of them is a blank. -/
theorem readNumbers_exact (c : Cursor) (lead : Text) :
    ((∀ x, c.isBlank x = true → x.isDigit = false ∧ x ≠ '-') →
      (∀ is, c.Lists (fun z w => -(negativeBound : Int) ≤ z ∧ z < negativeBound ∧ w = decimal z) lead is →
        c.ReadsBack (fun d => d.readSigned .decimal (.only .skipBlanks) 0) (is.map Item.value)) ∧
      ∀ is, c.Lists (fun n w => n < magnitudeBound ∧ w = decimal n) lead is →
        c.ReadsBack (fun d => d.readUnsigned .decimal (.only .skipBlanks) 0) (is.map Item.value)) ∧
    ((∀ x, c.isBlank x = true → isHexDigit x = false ∧ x ≠ 'x' ∧ x ≠ 'X') →
      ∀ is, c.Lists (fun n w => n < magnitudeBound ∧ IsMarkedHex n w) lead is →
        c.ReadsBack (fun d => d.readUnsigned .number (.ofList [.skipBlanks, .hex]) 0) (is.map Item.value)) := by
  refine ⟨fun hp => ⟨fun is h => ?_, fun is h => ?_⟩, fun hp is h => ?_⟩
  · refine Lists.readsBack (takes_readSigned · .decimal (.only .skipBlanks) 0) h ?_
    rintro z w ⟨hlow, hhigh, rfl⟩
    exact Literal.spells_decimal hp _ hlow hhigh
  · refine Lists.readsBack (takes_readUnsigned · .decimal (.only .skipBlanks) 0) h ?_
    rintro n w ⟨hn, rfl⟩
    rw [decimal_natCast]
    exact Literal.spells_toDigits (fun x hx => (hp x hx).1) _ hn
  · refine Lists.readsBack (takes_readUnsigned · .number (.ofList [.skipBlanks, .hex]) 0) h ?_
    rintro n w ⟨hn, hw⟩
    exact Literal.spells_markedHex hp (by simp [Flags.has_ofList]) (by simp [Flags.has_ofList]) hn hw

/-- The greatest and least numbers of each kind, with commas among the blanks. -/
theorem readNumbers_exact_extremes :
    let s : Config := ⟨[',', ' ']⟩
    let signed : List (Item Int) := [⟨-9223372036854775808, "-9223372036854775808".toList, [',', ' ']⟩,
      ⟨9223372036854775807, "9223372036854775807".toList, [' ']⟩]
    let unsigned : List (Item Nat) := [⟨0, ['0'], [',']⟩, ⟨18446744073709551615, "18446744073709551615".toList, []⟩]
    let hex : List (Item Nat) := [⟨2748, "0X00aBc".toList, [' ']⟩,
      ⟨18446744073709551615, "0xFFFFffffFFFFffff".toList, [' ', ',']⟩]
    (ofText (Item.print [','] signed) s).ReadsBack (fun d => d.readSigned .decimal (.only .skipBlanks) 0)
      [-9223372036854775808, 9223372036854775807] ∧
    (ofText (Item.print [] unsigned) s).ReadsBack (fun d => d.readUnsigned .decimal (.only .skipBlanks) 0)
      [0, 18446744073709551615] ∧
    (ofText (Item.print [' '] hex) s).ReadsBack (fun d => d.readUnsigned .number (.ofList [.skipBlanks, .hex]) 0)
      [2748, 18446744073709551615] := by
  intro s signed unsigned hex
  have hblank : ∀ t x, (ofText t s).isBlank x = true → x = ',' ∨ x = ' ' := fun t x h => by
    simpa [isBlank, ofText, Config.isBlank, s] using h
  have hdecimal : ∀ t x, (ofText t s).isBlank x = true → x.isDigit = false ∧ x ≠ '-' := fun t x h => by
    rcases hblank t x h with rfl | rfl <;> decide
  have hhex : ∀ t x, (ofText t s).isBlank x = true → isHexDigit x = false ∧ x ≠ 'x' ∧ x ≠ 'X' := fun t x h => by
    rcases hblank t x h with rfl | rfl <;> decide
  refine ⟨?_, ?_, ?_⟩
  · have hapart : Item.Apart s.isBlank [','] signed := by decide
    exact ((readNumbers_exact _ [',']).1 (hdecimal _)).1 signed ⟨Text.after?_zero _, hapart, by decide⟩
  · have hapart : Item.Apart s.isBlank [] unsigned := by decide
    exact ((readNumbers_exact _ []).1 (hdecimal _)).2 unsigned ⟨Text.after?_zero _, hapart, by decide⟩
  · have hapart : Item.Apart s.isBlank [' '] hex := by decide
    refine (readNumbers_exact _ [' ']).2 (hhex _) hex ⟨Text.after?_zero _, hapart, ?_⟩
    refine List.forall_mem_cons.2 ⟨⟨by decide, ?_⟩, List.forall_mem_singleton.2 ⟨by decide, ?_⟩⟩
    · exact ⟨'X', "aBc".toList, 2, .inr rfl, by decide, by decide⟩
    · exact ⟨'x', "FFFFffffFFFFffff".toList, 0, .inl rfl, by decide, by decide⟩

end Cursor
end TextCursor
