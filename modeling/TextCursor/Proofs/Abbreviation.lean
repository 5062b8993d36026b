import TextCursor.Proofs.KeywordLookup
/-!
# Abbreviated keywords

Whoever types on, or types a name in full, asks more of a keyword, so fewer keywords fit.  Among fewer places the search finds
what it found before, or nothing, unless it had found several (`narrows_of_sublist`).  So a longer name never stands for
another keyword than the shorter one did, and a keyword given in full is the one that its name abbreviates, if that name is
not ambiguous (`matchKeyword_narrows`).
-/
namespace TextCursor

namespace Keyword

/-- What has been found, and what may be found in its place when fewer keywords fit. -/
inductive Found.Narrows : Found → Found → Prop where
  | same (a : Found) : Narrows a a
  | lost (i : Nat) : Narrows (.one i) .nothing
  | several (a : Found) : Narrows .several a

/-- **Fewer places say what all of them said, or less.** -/
theorem narrows_of_sublist {places fewer : List Nat} (h : fewer.Sublist places) :
    (Found.ofPlaces places).Narrows (Found.ofPlaces fewer) := by
  match places with
  | [] =>
    rw [List.sublist_nil.1 h]
    exact .same _
  | [i] =>
    rcases List.sublist_singleton.1 h with rfl | rfl
    · exact .lost i
    · exact .same _
  | _ :: _ :: _ => exact .several _

theorem placesFrom_sublist {test stricter : Text → Bool} (h : ∀ k, stricter k = true → test k = true) (place : Nat)
    (ks : List Text) : (placesFrom stricter place ks).Sublist (placesFrom test place ks) :=
  (List.monotone_filter_right (ks.zipIdx place) fun k : Text × Nat => h k.1).map Prod.snd

/-- **A search that asks more of a keyword finds no other one.** -/
theorem search_narrows {full full' : Bool} {name name' : Text} (list : Text)
    (h : ∀ keyword, Fits full' name' keyword → Fits full name keyword) :
    (search full name list).Narrows (search full' name' list) := by
  rw [search, search, searchFrom_eq, searchFrom_eq]
  exact narrows_of_sublist (placesFrom_sublist (fun k hk => fits_iff.2 (h k (fits_iff.1 hk))) 1 _)

/-- Typing on asks more of a keyword. -/
theorem fits_of_prefix {name longer keyword : Text} (h : name <+: longer) (hk : Fits false longer keyword) :
    Fits false name keyword :=
  h.trans hk

/-- So does typing in full. -/
theorem fits_of_full {name keyword : Text} (hk : Fits true name keyword) : Fits false name keyword := by
  have heq : keyword = name := hk
  rw [heq]
  exact List.prefix_refl name

/-- No name is in an empty list, which holds the empty keyword only. -/
theorem search_nil {name : Text} (hne : name ≠ []) (full : Bool) : search full name [] = .nothing := by
  refine search_eq_nothing fun i => ?_
  rintro ⟨keyword, hmem, hfits⟩
  have hempty : keyword = [] := congrArg Prod.fst (List.mem_singleton.1 hmem)
  subst hempty
  cases full with
  | false => exact hne (List.prefix_nil.1 hfits)
  | true => exact hne (Eq.symm hfits)

end Keyword

namespace Flags

/-- The word with names to be given in full. -/
def inFull (s : Flags) : Flags := s.union (only .fullName)

/-- The word with names that may be abbreviated. -/
def abbreviated (s : Flags) : Flags := s.diff (only .fullName)

end Flags

namespace Cursor

/-- The name that is looked up: the longest run of name characters, behind the blanks that are skipped. -/
def name (c : Cursor) (s : Flags) : Text := (c.skipIf (s.has .skipBlanks)).rest.takeWhile (isNameChar s)

/-- The answer to a lookup, by what the search finds. -/
def answerFound (c : Cursor) (s : Flags) : Keyword.Found → Except Fault KeywordMatch
  | .nothing => .ok .unknown
  | .one i => .ok (.found i)
  | .several => .error ⟨.ambiguous, c.name s, (c.skipIf (s.has .skipBlanks)).pos⟩

variable {c d : Cursor} {s : Flags} {list : Text}

/-- **Where there is a name, the search for it is the answer**, also in a list without keywords. -/
theorem answer_matchKeyword (hne : c.name s ≠ []) (list : Text) :
    (c.matchKeyword list s).answer =
      c.answerFound s (Keyword.search (s.has .fullName) ((c.name s).map foldCase) list) := by
  by_cases hlist : list = []
  · have hrest : (c.skipIf (s.has .skipBlanks)).rest ≠ [] := fun h => hne (by rw [name, h]; rfl)
    have hfold : (c.name s).map foldCase ≠ [] := fun h => hne (List.map_eq_nil_iff.1 h)
    rw [((matchKeyword_resolves c list s).2.2.1 hrest hlist), hlist, Keyword.search_nil hfold]
    rfl
  · have hname : (c.skipIf (s.has .skipBlanks)).rest.takeWhile (isNameChar s) = c.name s := rfl
    rw [matchKeyword_of_name rfl hname hlist hne]
    cases Keyword.search (s.has .fullName) ((c.name s).map foldCase) list <;> rfl

theorem name_ne_nil_of_found {i : Nat} (h : (c.matchKeyword list s).answer = .ok (.found i)) : c.name s ≠ [] := by
  intro hname
  obtain ⟨-, hnoInput, hnoList, hunknown⟩ := matchKeyword_resolves c list s
  by_cases hrest : (c.skipIf (s.has .skipBlanks)).rest = []
  · rw [hnoInput hrest] at h
    cases h
  · by_cases hlist : list = []
    · rw [hnoList hrest hlist] at h
      cases h
    · rw [(hunknown hrest hlist).1 (.inl hname)] at h
      cases h

/-! ## Answers when fewer keywords fit -/

section

variable {a b : Keyword.Found} {o : Flags}

theorem answerFound_of_found (h : a.Narrows b) {i : Nat} (ha : c.answerFound s a = .ok (.found i)) :
    d.answerFound o b = .ok (.found i) ∨ d.answerFound o b = .ok .unknown := by
  cases h with
  | same =>
    cases a with
    | one j => exact .inl ha
    | nothing => cases ha
    | several => cases ha
  | lost j => exact .inr rfl
  | several => cases ha

theorem answerFound_of_unknown (h : a.Narrows b) (ha : c.answerFound s a = .ok .unknown) :
    d.answerFound o b = .ok .unknown := by
  cases h with
  | same =>
    cases a with
    | nothing => rfl
    | one j => cases ha
    | several => cases ha
  | lost j => rfl
  | several => cases ha

theorem answerFound_of_narrowed (h : a.Narrows b) {i : Nat} (hb : d.answerFound o b = .ok (.found i)) :
    c.answerFound s a = .ok (.found i) ∨ ∃ f, c.answerFound s a = .error f ∧ f.cause = .ambiguous := by
  cases h with
  | same =>
    cases a with
    | one j => exact .inl hb
    | nothing => cases hb
    | several => cases hb
  | lost j => cases hb
  | several => exact .inr ⟨_, rfl, rfl⟩

end

/-- The name runs are the same whether names are to be given in full or not. -/
theorem name_inFull (c : Cursor) (s : Flags) : c.name s.inFull = c.name s.abbreviated := by
  have hother : ∀ f : Flag, f ≠ .fullName → s.inFull.has f = s.abbreviated.has f := fun f hf => by
    simp [Flags.inFull, Flags.abbreviated, hf.symm]
  have hchar : isNameChar s.inFull = isNameChar s.abbreviated := by
    funext x
    rw [isNameChar, isNameChar, hother .digits nofun, hother .extraChar nofun, hother .umlaut nofun]
  rw [name, name, hother .skipBlanks nofun, hchar]

theorem answer_inFull (hne : c.name s.inFull ≠ []) (list : Text) : (c.matchKeyword list s.inFull).answer =
    c.answerFound s.inFull (Keyword.search true ((c.name s.inFull).map foldCase) list) := by
  have hfull : s.inFull.has .fullName = true := by simp [Flags.inFull]
  rw [answer_matchKeyword hne, hfull]

theorem answer_abbreviated (hne : c.name s.inFull ≠ []) (list : Text) : (c.matchKeyword list s.abbreviated).answer =
    c.answerFound s.abbreviated (Keyword.search false ((c.name s.inFull).map foldCase) list) := by
  have hfull : s.abbreviated.has .fullName = false := by simp [Flags.abbreviated]
  rw [name_inFull] at hne ⊢
  rw [answer_matchKeyword hne, hfull]

/-- **More of a keyword never means another one.**  Where the shorter of two names stands for a keyword, the longer one stands
for the same keyword or for none, and where it stands for none so does the longer one, wherever the names are and however
they are written.  A name that stands for a keyword in full also does where it may be abbreviated, unless it is ambiguous
there; and one that abbreviates a keyword stands in full for no other one. -/
theorem matchKeyword_narrows (list : Text) :
    (∀ (c d : Cursor) (s : Flags), s.has .fullName = false → c.name s ≠ [] →
      (c.name s).map foldCase <+: (d.name s).map foldCase →
      (∀ i, (c.matchKeyword list s).answer = .ok (.found i) →
        (d.matchKeyword list s).answer = .ok (.found i) ∨ (d.matchKeyword list s).answer = .ok .unknown) ∧
      ((c.matchKeyword list s).answer = .ok .unknown → (d.matchKeyword list s).answer = .ok .unknown)) ∧
    ∀ (c : Cursor) (s : Flags) (i : Nat),
      ((c.matchKeyword list s.inFull).answer = .ok (.found i) →
        (c.matchKeyword list s.abbreviated).answer = .ok (.found i) ∨
        ∃ f, (c.matchKeyword list s.abbreviated).answer = .error f ∧ f.cause = .ambiguous) ∧
      ((c.matchKeyword list s.abbreviated).answer = .ok (.found i) →
        (c.matchKeyword list s.inFull).answer = .ok (.found i) ∨
        (c.matchKeyword list s.inFull).answer = .ok .unknown) := by
  constructor
  · intro c d s hfull hc hprefix
    have hd : d.name s ≠ [] := fun h => by
      rw [h] at hprefix
      exact hc (List.map_eq_nil_iff.1 (List.prefix_nil.1 hprefix))
    have hnarrows := Keyword.search_narrows list fun _ => Keyword.fits_of_prefix hprefix
    rw [answer_matchKeyword hc, answer_matchKeyword hd, hfull]
    exact ⟨fun i hi => answerFound_of_found hnarrows hi, fun hunknown => answerFound_of_unknown hnarrows hunknown⟩
  · intro c s i
    have hnarrows : (Keyword.search false ((c.name s.inFull).map foldCase) list).Narrows
        (Keyword.search true ((c.name s.inFull).map foldCase) list) :=
      Keyword.search_narrows list fun _ => Keyword.fits_of_full
    constructor
    · intro hi
      have hne := name_ne_nil_of_found hi
      rw [answer_inFull hne] at hi
      rw [answer_abbreviated hne]
      exact answerFound_of_narrowed hnarrows hi
    · intro hi
      have hne : c.name s.inFull ≠ [] := by
        rw [name_inFull]
        exact name_ne_nil_of_found hi
      rw [answer_abbreviated hne] at hi
      rw [answer_inFull hne]
      exact answerFound_of_found hnarrows hi

/-- Two letters stand for the keyword that the whole name stands for, and not for any in full. -/
theorem matchKeyword_narrows_set :
    let list : Text := ['s', 'e', 't', '\t', 's', 'a', 'v', 'e']
    let c := ofText ['S', 'e', '='] {}
    let d := ofText [' ', 's', 'E', 'T', ' '] {}
    let s := Flags.only .skipBlanks
    (s.has .fullName = false ∧ c.name s ≠ [] ∧ (c.name s).map foldCase <+: (d.name s).map foldCase) ∧
    (c.matchKeyword list s).answer = .ok (.found 1) ∧ (d.matchKeyword list s).answer = .ok (.found 1) ∧
    (d.matchKeyword list s.inFull).answer = .ok (.found 1) ∧ (c.matchKeyword list s.inFull).answer = .ok .unknown ∧
    ((d.matchKeyword list s).answer = .ok (.found 1) ∨ (d.matchKeyword list s).answer = .ok .unknown) := by
  intro list c d s
  have hnames : s.has .fullName = false ∧ c.name s ≠ [] ∧ (c.name s).map foldCase <+: (d.name s).map foldCase := by decide
  have hfound : (c.matchKeyword list s).answer = .ok (.found 1) := by decide
  exact ⟨hnames, hfound, by decide, by decide, by decide,
    ((matchKeyword_narrows list).1 c d s hnames.1 hnames.2.1 hnames.2.2).1 1 hfound⟩

end Cursor
end TextCursor
