import Mathlib.Data.List.Nodup
import TextCursor.Cursor.Name
import TextCursor.Proofs.Token
/-!
# Keywords looked up by name

The search stops at a second keyword that fits, yet finds what the places of all the fitting keywords say: nothing where
there is none, its place where there is one, and that there are several otherwise (`search_eq_nothing` and its siblings).  The
reader leaves its token in the latter two cases and goes back in the first (`matchKeyword_resolves`).
-/
namespace TextCursor

namespace Keyword

/-- The name, already folded, begins the keyword, or is the keyword where names are given in full. -/
def Fits (full : Bool) (name keyword : Text) : Prop := if full then keyword = name else name <+: keyword

/-- The name stands for the keyword at a place of the list, counted from one. -/
def StandsFor (full : Bool) (name list : Text) (place : Nat) : Prop :=
  ∃ keyword, (keyword, place) ∈ (list.splitOn separator).zipIdx 1 ∧ Fits full name keyword

/-- The places, from a given one on, of the keywords that pass a test. -/
def placesFrom (test : Text → Bool) (place : Nat) (keywords : List Text) : List Nat :=
  ((keywords.zipIdx place).filter fun k => test k.1).map Prod.snd

/-- What is found when these are the places of the keywords that fit. -/
def Found.ofPlaces : List Nat → Found
  | [] => .nothing
  | [i] => .one i
  | _ :: _ :: _ => .several

theorem fits_iff {full : Bool} {name keyword : Text} : fits full name keyword = true ↔ Fits full name keyword := by
  cases full
  · exact List.isPrefixOf_iff_prefix
  · exact beq_iff_eq

theorem placesFrom_cons (test : Text → Bool) (place : Nat) (k : Text) (ks : List Text) :
    placesFrom test place (k :: ks) =
      if test k then place :: placesFrom test (place + 1) ks else placesFrom test (place + 1) ks := by
  rw [placesFrom, List.zipIdx_cons, List.filter_cons]
  by_cases hk : test k = true
  · rw [if_pos hk, if_pos hk]; rfl
  · rw [if_neg hk, if_neg hk]; rfl

/-- **What the search finds is said by all the places that fit**, the one found so far in front. -/
theorem searchFrom_eq (test : Text → Bool) (place : Nat) (found : Option Nat) (ks : List Text) :
    searchFrom test place found ks = Found.ofPlaces (found.toList ++ placesFrom test place ks) := by
  fun_induction searchFrom test place found ks with
  | case1 => rfl
  | case2 => rfl
  | case3 place k ks hk ih => rw [ih, placesFrom_cons, if_pos hk]; rfl
  | case4 place k ks hk i => rw [placesFrom_cons, if_pos hk]; rfl
  | case5 place found k ks hk ih => rw [ih, placesFrom_cons, if_neg hk]

theorem nodup_placesFrom (test : Text → Bool) (place : Nat) (ks : List Text) : (placesFrom test place ks).Nodup := by
  have hall : ((ks.zipIdx place).map Prod.snd).Nodup := by
    rw [List.zipIdx_map_snd]
    exact List.nodup_range'
  exact hall.sublist (List.filter_sublist.map Prod.snd)

theorem mem_placesFrom_fits {full : Bool} {name list : Text} {i : Nat} :
    i ∈ placesFrom (fits full name) 1 (list.splitOn separator) ↔ StandsFor full name list i := by
  simp only [placesFrom, StandsFor, List.mem_map, List.mem_filter, fits_iff, Prod.exists, exists_eq_right]

theorem search_eq_nothing {full : Bool} {name list : Text} (h : ∀ i, ¬ StandsFor full name list i) :
    search full name list = .nothing := by
  have hplaces : placesFrom (fits full name) 1 (list.splitOn separator) = [] :=
    List.eq_nil_iff_forall_not_mem.2 fun i hi => h i (mem_placesFrom_fits.1 hi)
  rw [search, searchFrom_eq, hplaces]
  rfl

theorem search_eq_one {full : Bool} {name list : Text} {i : Nat} (h : ∀ j, StandsFor full name list j ↔ j = i) :
    search full name list = .one i := by
  have hplaces : placesFrom (fits full name) 1 (list.splitOn separator) = [i] := by
    apply List.perm_singleton.1
    apply (List.perm_ext_iff_of_nodup (nodup_placesFrom _ _ _) (List.nodup_singleton i)).2
    intro j
    rw [mem_placesFrom_fits, h, List.mem_singleton]
  rw [search, searchFrom_eq, hplaces]
  rfl

theorem search_eq_several {full : Bool} {name list : Text} {i j : Nat} (hne : i ≠ j)
    (hi : StandsFor full name list i) (hj : StandsFor full name list j) : search full name list = .several := by
  rw [← mem_placesFrom_fits] at hi hj
  rw [search, searchFrom_eq]
  generalize placesFrom (fits full name) 1 (list.splitOn separator) = places at hi hj
  match places with
  | [] => cases hi
  | [k] => exact absurd ((List.mem_singleton.1 hi).trans (List.mem_singleton.1 hj).symm) hne
  | _ :: _ :: _ => rfl

end Keyword

namespace Cursor

/-- Behind the early ways out what has been found decides. -/
theorem matchKeyword_of_name {c d : Cursor} {list name : Text} {s : Flags} (hd : c.skipIf (s.has .skipBlanks) = d)
    (hname : d.rest.takeWhile (isNameChar s) = name) (hlist : list ≠ []) (hne : name ≠ []) :
    c.matchKeyword list s = match Keyword.search (s.has .fullName) (name.map foldCase) list with
      | .nothing => ⟨.ok .unknown, d.mark⟩
      | .one i => ⟨.ok (.found i), (d.afterToken name).skipIf (s.has .skipBlanks)⟩
      | .several => d.blame name .ambiguous := by
  have hcurrent : d.current? ≠ none := by
    intro h
    apply hne
    rw [← hname, List.head?_eq_none_iff.1 h, List.takeWhile_nil]
  have htake : d.rest.take name.length = name := by rw [← hname, Text.take_length_takeWhile]
  have hfinish := finish_passed d name.length (s.has .skipBlanks)
  have hfail := fail_passed (α := KeywordMatch) d name.length .ambiguous
  rw [htake] at hfinish hfail
  simp only [matchKeyword, hd, rest_mark, hname]
  rw [if_neg hcurrent, if_neg hlist, if_neg hne]
  cases Keyword.search (s.has .fullName) (name.map foldCase) list with
  | nothing => rfl
  | one i => exact congrArg (Outcome.mk _) hfinish
  | several => exact hfail

/-- **A name is resolved to the one keyword that it stands for**, wherever the others are in the list, and a name that
stands for two is blamed as it is written.  In every other case there is no match and the cursor is where the name would
start; without anything to read or to look up not even a window is opened. -/
theorem matchKeyword_resolves (c : Cursor) (list : Text) (s : Flags) :
    let d := c.skipIf (s.has .skipBlanks)
    let name := d.rest.takeWhile (isNameChar s)
    let standsFor := Keyword.StandsFor (s.has .fullName) (name.map foldCase) list
    let o := c.matchKeyword list s
    d.window = c.window ∧
    (d.rest = [] → o = ⟨.ok .noInput, d⟩) ∧
    (d.rest ≠ [] → list = [] → o = ⟨.ok .unknown, d⟩) ∧
    (d.rest ≠ [] → list ≠ [] →
      ((name = [] ∨ ∀ i, ¬ standsFor i) → o = ⟨.ok .unknown, d.mark⟩) ∧
      (name ≠ [] → ∀ i, (∀ j, standsFor j ↔ j = i) →
        o = ⟨.ok (.found i), (d.afterToken name).skipIf (s.has .skipBlanks)⟩ ∧ o.cursor.token = name) ∧
      (name ≠ [] → (∃ i j, i ≠ j ∧ standsFor i ∧ standsFor j) → o = d.blame name .ambiguous)) := by
  intro d name standsFor o
  have hd : c.skipIf (s.has .skipBlanks) = d := rfl
  have hname : d.rest.takeWhile (isNameChar s) = name := rfl
  have hcurrent : d.rest ≠ [] → d.current? ≠ none := fun hr h => hr (List.head?_eq_none_iff.1 h)
  refine ⟨window_skipIf _ _, fun hr => ?_, fun hr hl => ?_, fun hr hl => ⟨fun h => ?_, fun hn i hi => ?_, ?_⟩⟩
  · exact if_pos (List.head?_eq_none_iff.2 hr)
  · exact (if_neg (hcurrent hr)).trans (if_pos hl)
  · by_cases hn : name = []
    · have ho : o = ⟨.ok .unknown, d.mark.pass name.length⟩ :=
        (if_neg (hcurrent hr)).trans ((if_neg hl).trans (if_pos hn))
      rw [ho, hn, List.length_nil, pass_zero]
    · have ho := matchKeyword_of_name hd hname hl hn
      rwa [Keyword.search_eq_nothing (h.resolve_left hn)] at ho
  · have ho := matchKeyword_of_name hd hname hl hn
    rw [Keyword.search_eq_one hi] at ho
    have hshown := token_afterToken d name.length (s.has .skipBlanks)
    rw [← hname, Text.take_length_takeWhile, hname] at hshown
    exact ⟨ho, (congrArg (fun o => o.cursor.token) ho).trans hshown⟩
  · rintro hn ⟨i, j, hne, hi, hj⟩
    have ho := matchKeyword_of_name hd hname hl hn
    rwa [Keyword.search_eq_several hne hi hj] at ho

/-- The same keyword twice makes its name ambiguous, also in full. -/
example :
    let o := (Cursor.ofText ['N', 'o', '.'] {}).matchKeyword ['n', 'o', '\t', '\t', 'n', 'o'] (Flags.only .fullName)
    o.answer = .error ⟨.ambiguous, ['N', 'o'], 0⟩ ∧ o.cursor.pos = 2 := by
  decide

end Cursor
end TextCursor
