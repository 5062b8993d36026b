import Mathlib.Data.List.TakeWhile
import TextCursor.Command
/-!
# Literals

What a text starts with, apart from any cursor: a literal is read off the front of a text and says how many characters it
takes.  The literals of the commands are put together from a few (`Command.literal`).  **Each is closed**: what is behind
a literal has no say in it, so the text may be cut anywhere behind it (`closed_literal`).
-/
namespace TextCursor

/-- A value that a text starts with, and how many characters it takes there; none in a text that starts with no such
value. -/
abbrev Literal (α : Type) := Text → Option (α × Nat)

namespace Literal

variable {α β : Type}

/-- **The literal depends on nothing behind it.** -/
def Closed (l : Literal α) : Prop :=
  ∀ t v n, l t = some (v, n) → n ≤ t.length ∧ ∀ k, n ≤ k → l (t.take k) = some (v, n)

def pure (a : α) : Literal α := fun _ => some (a, 0)

def never : Literal α := fun _ => none

/-- A literal, and behind it another that may depend on its value. -/
def andThen (l : Literal α) (f : α → Literal β) : Literal β := fun t =>
  match l t with
  | some (a, m) => (f a (t.drop m)).map fun p => (p.1, m + p.2)
  | none => none

def map (f : α → β) (l : Literal α) : Literal β := fun t => (l t).map fun p => (f p.1, p.2)

/-- The longest run of characters of a class, which may be empty. -/
def run (p : Char → Bool) : Literal Text := fun t => some (t.takeWhile p, (t.takeWhile p).length)

/-- The first character, where it means something, or nothing. -/
def optional (f : Char → Option α) : Literal (Option α) := fun t =>
  match t.head?.bind f with
  | some a => some (some a, 1)
  | none => some (none, 0)

theorem closed_pure (a : α) : (pure a).Closed := fun t v n h => by
  cases h
  exact ⟨Nat.zero_le _, fun k _ => rfl⟩

theorem closed_never : (never : Literal α).Closed := fun t v n h => by cases h

theorem closed_map {l : Literal α} (hl : l.Closed) (f : α → β) : (l.map f).Closed := by
  intro t v n h
  obtain ⟨⟨a, m⟩, ha, he⟩ := Option.map_eq_some_iff.1 h
  cases he
  obtain ⟨hm, hcut⟩ := hl t a m ha
  exact ⟨hm, fun k hk => by rw [map, hcut k hk]; rfl⟩

/-- **A closed literal behind a closed one is closed.** -/
theorem closed_andThen {l : Literal α} {f : α → Literal β} (hl : l.Closed) (hf : ∀ a, (f a).Closed) :
    (l.andThen f).Closed := by
  intro t v n h
  rw [andThen] at h
  split at h
  · rename_i a m ha
    obtain ⟨⟨b, i⟩, hb, he⟩ := Option.map_eq_some_iff.1 h
    cases he
    obtain ⟨hm, hcut⟩ := hl t a m ha
    obtain ⟨hi, hcut'⟩ := hf a (t.drop m) b i hb
    rw [List.length_drop] at hi
    refine ⟨by omega, fun k hk => ?_⟩
    have hrest : f a ((t.take k).drop m) = some (b, i) := by
      rw [List.drop_take]
      exact hcut' (k - m) (by omega)
    rw [andThen, hcut k (by omega)]
    simp only [hrest, Option.map_some]
  · cases h

theorem closed_run (p : Char → Bool) : (run p).Closed := by
  intro t v n h
  cases h
  refine ⟨(List.takeWhile_prefix p).length_le, fun k hk => ?_⟩
  have hw : (t.take k).takeWhile p = t.takeWhile p := by
    rw [← List.take_takeWhile]; exact List.take_of_length_le hk
  rw [run, hw]

theorem closed_optional (f : Char → Option α) : (optional f).Closed := by
  intro t v n h
  cases t with
  | nil => cases h; exact ⟨Nat.zero_le _, fun k _ => by rw [List.take_nil]; rfl⟩
  | cons x t =>
    rw [optional, List.head?_cons, Option.bind_some] at h
    cases hx : f x with
    | none =>
      rw [hx] at h
      cases h
      refine ⟨Nat.zero_le _, fun k _ => ?_⟩
      cases k with
      | zero => rfl
      | succ k => rw [optional, List.take_succ_cons, List.head?_cons, Option.bind_some, hx]
    | some a =>
      rw [hx] at h
      cases h
      refine ⟨Nat.succ_le_succ (Nat.zero_le _), fun k hk => ?_⟩
      obtain ⟨k, rfl⟩ := Nat.exists_eq_add_of_le' hk
      rw [optional, List.take_succ_cons, List.head?_cons, Option.bind_some, hx]

end Literal

/-! ## Passes over a text that ends early -/

namespace DigitRun

theorem le_taken_scan (y : DigitStyle) (r : DigitRun) (t : Text) : r.taken ≤ (scan y r t).taken := by
  fun_induction scan y r t with
  | case1 r => exact Nat.le_refl _
  | case2 r c t h ih => exact Nat.le_of_succ_le ih
  | case3 r c t h hx ih => exact Nat.le_of_succ_le ih
  | case4 r c t h hx hm hbad => exact Nat.le_succ _
  | case5 r c t h hx hm hbad ih => exact Nat.le_of_succ_le ih
  | case6 r c t h hx hm => exact Nat.le_refl _

theorem taken_scan_le (y : DigitStyle) (r : DigitRun) (t : Text) : (scan y r t).taken ≤ r.taken + t.length := by
  fun_induction scan y r t with
  | case1 r => exact Nat.le_refl _
  | case2 r c t h ih => simp only [push, List.length_cons] at ih ⊢; omega
  | case3 r c t h hx ih => simp only [push, List.length_cons] at ih ⊢; omega
  | case4 r c t h hx hm hbad => simp only [List.length_cons]; omega
  | case5 r c t h hx hm hbad ih => simp only [List.length_cons] at ih ⊢; omega
  | case6 r c t h hx hm => exact Nat.le_add_right _ _

/-- **The pass over the digits does not see what it does not take.** -/
theorem scan_take (y : DigitStyle) (r : DigitRun) (t : Text) :
    ∀ k, (scan y r t).taken ≤ r.taken + k → scan y r (t.take k) = scan y r t := by
  fun_induction scan y r t with
  | case1 r => intro k _; rw [List.take_nil, scan]
  | case2 r c t h ih =>
    intro k hk
    have hle := le_taken_scan y (r.push c r.base) t
    simp only [push] at hle hk ih
    obtain ⟨k, rfl⟩ := Nat.exists_eq_succ_of_ne_zero (n := k) (by omega)
    rw [List.take_succ_cons, scan, if_pos h]
    exact ih k (by omega)
  | case3 r c t h hx ih =>
    intro k hk
    have hle := le_taken_scan y (r.push c 16) t
    simp only [push] at hle hk ih
    obtain ⟨k, rfl⟩ := Nat.exists_eq_succ_of_ne_zero (n := k) (by omega)
    rw [List.take_succ_cons, scan, if_neg h, if_pos hx]
    exact ih k (by omega)
  | case4 r c t h hx hm hbad =>
    intro k hk
    obtain ⟨k, rfl⟩ := Nat.exists_eq_succ_of_ne_zero (n := k) (by simp only at hk; omega)
    rw [List.take_succ_cons, scan, if_neg h, if_neg hx, if_pos hm, if_pos hbad]
  | case5 r c t h hx hm hbad ih =>
    intro k hk
    have hle := le_taken_scan y ⟨r.taken + 1, [], 16, true, false⟩ t
    simp only at hle hk ih
    obtain ⟨k, rfl⟩ := Nat.exists_eq_succ_of_ne_zero (n := k) (by omega)
    rw [List.take_succ_cons, scan, if_neg h, if_neg hx, if_pos hm, if_neg hbad]
    exact ih k (by omega)
  | case6 r c t h hx hm =>
    intro k _
    cases k with
    | zero => rw [List.take_zero, scan]
    | succ k => rw [List.take_succ_cons, scan, if_neg h, if_neg hx, if_neg hm]

end DigitRun

namespace Reading

/-- **A quoted string ends with its closing quote**: what is behind that is not looked at unless it is a quote. -/
theorem quoted?_take {t : Text} {r : Reading} (h : quoted? t = some r) :
    0 < r.taken ∧ r.taken ≤ t.length ∧ ∀ k, r.taken ≤ k → quoted? (t.take k) = some r := by
  fun_induction quoted? t generalizing r with
  | case1 => cases h
  | case2 =>
    cases h
    refine ⟨Nat.one_pos, Nat.le_refl 1, fun k hk => ?_⟩
    rw [List.take_of_length_le hk]; rfl
  | case3 c hc => cases h
  | case4 t ih =>
    obtain ⟨q, hq, rfl⟩ := Option.map_eq_some_iff.1 h
    obtain ⟨-, hle, hcut⟩ := ih hq
    simp only [cons, List.length_cons]
    refine ⟨by omega, by omega, fun k hk => ?_⟩
    obtain ⟨k, rfl⟩ := Nat.exists_eq_add_of_le' (show 2 ≤ k by omega)
    rw [List.take_succ_cons, List.take_succ_cons, quoted?, if_pos rfl, if_pos rfl, hcut k (by omega)]
    rfl
  | case5 d t hd =>
    cases h
    refine ⟨Nat.one_pos, Nat.le_add_left 1 _, fun k hk => ?_⟩
    obtain ⟨k, rfl⟩ := Nat.exists_eq_add_of_le' hk
    cases k with
    | zero => rfl
    | succ k => rw [List.take_succ_cons, List.take_succ_cons, quoted?, if_pos rfl, if_neg hd]
  | case6 c d t hc hp ih =>
    obtain ⟨q, hq, rfl⟩ := Option.map_eq_some_iff.1 h
    obtain ⟨-, hle, hcut⟩ := ih hq
    simp only [cons, List.length_cons]
    refine ⟨by omega, by omega, fun k hk => ?_⟩
    obtain ⟨k, rfl⟩ := Nat.exists_eq_add_of_le' (show 2 ≤ k by omega)
    rw [List.take_succ_cons, List.take_succ_cons, quoted?, if_neg hc, if_pos hp, hcut k (by omega)]
    rfl
  | case7 c d t hc hp ih =>
    obtain ⟨q, hq, rfl⟩ := Option.map_eq_some_iff.1 h
    obtain ⟨hpos, hle, hcut⟩ := ih hq
    simp only [cons, List.length_cons] at hle ⊢
    refine ⟨by omega, by omega, fun k hk => ?_⟩
    obtain ⟨k, rfl⟩ := Nat.exists_eq_add_of_le' (show 2 ≤ k by omega)
    have hq' := hcut (k + 1) (by omega)
    rw [List.take_succ_cons] at hq'
    rw [List.take_succ_cons, List.take_succ_cons, quoted?, if_neg hc, if_neg hp, hq']
    rfl

/-- **A string without quotes does not see what it does not take.** -/
theorem bare_take (p : Char → Bool) (t : Text) : ∀ k, (bare p t).taken ≤ k → bare p (t.take k) = bare p t := by
  fun_induction bare p t with
  | case1 => intro k _; rw [List.take_nil, bare]
  | case2 c h =>
    intro k _
    cases k with
    | zero => rfl
    | succ k => rw [List.take_succ_cons, List.take_nil, bare, if_pos h]
  | case3 c h =>
    intro k hk
    rw [List.take_of_length_le hk, bare, if_neg h]
  | case4 c d t h =>
    intro k _
    match k with
    | 0 => rfl
    | 1 => rw [List.take_succ_cons, List.take_zero, bare, if_pos h]
    | k + 2 => rw [List.take_succ_cons, List.take_succ_cons, bare, if_pos h]
  | case5 c d t h hp ih =>
    intro k hk
    simp only [cons] at hk
    obtain ⟨k, rfl⟩ := Nat.exists_eq_add_of_le' (show 2 ≤ k by omega)
    rw [List.take_succ_cons, List.take_succ_cons, bare, if_neg h, if_pos hp, ih k (by omega)]
  | case6 c d t h hp ih =>
    intro k hk
    simp only [cons] at hk
    obtain ⟨k, rfl⟩ := Nat.exists_eq_add_of_le' (show 1 ≤ k by omega)
    have hrest := ih k (by omega)
    cases k with
    | zero =>
      -- nothing is taken of what follows, so it reads as nothing
      have hnil : bare p (d :: t) = empty := hrest.symm
      rw [List.take_succ_cons, List.take_zero, bare, if_neg h, hnil]
      rfl
    | succ k =>
      rw [List.take_succ_cons] at hrest
      rw [List.take_succ_cons, List.take_succ_cons, bare, if_neg h, if_neg hp, hrest]

end Reading

/-! ## What the commands read -/

namespace Literal

/-- The character, or nothing: whether it is there. -/
def char (x : Char) : Literal Bool := (optional fun y => if y = x then some () else none).map Option.isSome

/-- A character of the set, or nothing: its place in the set, counted from one. -/
def oneOf (set : Text) : Literal (Option Nat) := optional fun y => (set.idxOf? y).map (· + 1)

def magnitude (k : Numeral) (s : Flags) (max : Nat) : Literal Nat := fun t =>
  let r := (DigitRun.start (k.style s)).scan (k.style s) t
  match r.result k max with
  | .ok n => some (n, r.taken)
  | .error _ => none

def signed (k : Numeral) (s : Flags) (max : Nat) : Literal Int :=
  (char '-').andThen fun negative => (magnitude k s max).andThen fun n =>
    if negative then (if n ≤ negativeBound then pure (-n) else never)
    else (if n < negativeBound then pure n else never)

def point (comma : Bool) : Literal Bool :=
  (char '.').andThen fun found => if found then pure true else if comma then char ',' else pure false

def float (s : Flags) : Literal Float :=
  (oneOf ['+', '-']).andThen fun sign => (run Char.isDigit).andThen fun whole =>
    if whole = [] then never
    else (point (s.has .comma)).andThen fun found =>
      if found then
        (run Char.isDigit).andThen fun part =>
          if part = [] then never
          else pure (signedFloat (sign = some 2) (wholeFloat whole + (Fraction.ofDigits part).toFloat))
      else pure (signedFloat (sign = some 2) (wholeFloat whole))

/-- A string from behind its opening quote on. -/
def quoted : Literal Text := fun t => (Reading.quoted? t).map fun r => (r.value, r.taken)

def bare (isBlank : Char → Bool) : Literal Text := fun t =>
  some ((Reading.bare isBlank t).value, (Reading.bare isBlank t).taken)

/-- A string, in quotes if its first character is one. -/
def string (isBlank : Char → Bool) (s : Flags) : Literal Text :=
  (char '"').andThen fun found => if found then quoted else if s.has .quoted then never else bare isBlank

def keyword (list : Text) (s : Flags) : Literal KeywordMatch :=
  (run (isNameChar s)).andThen fun name =>
    if name = [] ∨ list = [] then never
    else
      match Keyword.search (s.has .fullName) (name.map foldCase) list with
      | .one i => pure (.found i)
      | _ => never

theorem keyword_eq (list : Text) (s : Flags) (t : Text) : keyword list s t =
    if t.takeWhile (isNameChar s) = [] ∨ list = [] then none
    else
      match Keyword.search (s.has .fullName) ((t.takeWhile (isNameChar s)).map foldCase) list with
      | .one i => some (.found i, (t.takeWhile (isNameChar s)).length)
      | _ => none := by
  simp only [keyword, andThen, run]
  split
  · rfl
  · cases Keyword.search (s.has .fullName) ((t.takeWhile (isNameChar s)).map foldCase) list <;> rfl

theorem closed_char (x : Char) : (char x).Closed := closed_map (closed_optional _) _

theorem closed_oneOf (set : Text) : (oneOf set).Closed := closed_optional _

theorem closed_magnitude (k : Numeral) (s : Flags) (max : Nat) : (magnitude k s max).Closed := by
  intro t v n h
  rw [magnitude] at h
  split at h
  · rename_i n hres
    cases h
    have hle := DigitRun.taken_scan_le (k.style s) (DigitRun.start (k.style s)) t
    have hzero : (DigitRun.start (k.style s)).taken = 0 := rfl
    refine ⟨by omega, fun i hi => ?_⟩
    have hcut := DigitRun.scan_take (k.style s) (DigitRun.start (k.style s)) t i (by omega)
    simp only [magnitude, hcut, hres]
  · cases h

theorem closed_signed (k : Numeral) (s : Flags) (max : Nat) : (signed k s max).Closed := by
  refine closed_andThen (closed_char _) fun negative => closed_andThen (closed_magnitude k s max) fun n => ?_
  split
  · split
    · exact closed_pure _
    · exact closed_never
  · split
    · exact closed_pure _
    · exact closed_never

theorem closed_point (comma : Bool) : (point comma).Closed := by
  refine closed_andThen (closed_char _) fun found => ?_
  split
  · exact closed_pure _
  · split
    · exact closed_char _
    · exact closed_pure _

theorem closed_float (s : Flags) : (float s).Closed := by
  refine closed_andThen (closed_oneOf _) fun sign => closed_andThen (closed_run _) fun whole => ?_
  split
  · exact closed_never
  · refine closed_andThen (closed_point _) fun found => ?_
    split
    · refine closed_andThen (closed_run _) fun part => ?_
      split
      · exact closed_never
      · exact closed_pure _
    · exact closed_pure _

theorem closed_quoted : quoted.Closed := by
  intro t v n h
  obtain ⟨r, hr, he⟩ := Option.map_eq_some_iff.1 h
  cases he
  obtain ⟨-, hle, hcut⟩ := Reading.quoted?_take hr
  exact ⟨hle, fun k hk => by rw [quoted, hcut k hk]; rfl⟩

theorem closed_bare (isBlank : Char → Bool) : (bare isBlank).Closed := by
  intro t v n h
  cases h
  exact ⟨Reading.bare_taken_le isBlank t, fun k hk => by rw [bare, Reading.bare_take isBlank t k hk]⟩

theorem closed_string (isBlank : Char → Bool) (s : Flags) : (string isBlank s).Closed := by
  refine closed_andThen (closed_char _) fun found => ?_
  split
  · exact closed_quoted
  · split
    · exact closed_never
    · exact closed_bare _

theorem closed_keyword (list : Text) (s : Flags) : (keyword list s).Closed := by
  refine closed_andThen (closed_run _) fun name => ?_
  split
  · exact closed_never
  · split
    · exact closed_pure _
    · exact closed_never

end Literal

namespace Command

/-- What a command reads at the cursor, once blanks are skipped; nothing if the command is not for reading a token. -/
def literal (s : Config) : Command → Literal Reply
  | .matchKeyword list o => (Literal.keyword list o).map .keyword
  | .readUnsigned k o max => (Literal.magnitude k o max).map fun (n : Nat) => .integer n
  | .readSigned k o max => (Literal.signed k o max).map .integer
  | .readFloat o => (Literal.float o).map .float
  | .readString o => (Literal.string s.isBlank o).map .text
  | .readWord _ => (Literal.run fun x => !s.isBlank x).map .text
  | .readLine _ => (Literal.run fun x => !isLineEnd x).map fun t => .text (t.map foldControl)
  | _ => Literal.never

/-- **No command reads a literal that depends on what is behind it.** -/
theorem closed_literal (s : Config) (m : Command) : (m.literal s).Closed := by
  cases m with
  | matchKeyword list o => exact Literal.closed_map (Literal.closed_keyword list o) _
  | readUnsigned k o max => exact Literal.closed_map (Literal.closed_magnitude k o max) fun (n : Nat) => Reply.integer n
  | readSigned k o max => exact Literal.closed_map (Literal.closed_signed k o max) _
  | readFloat o => exact Literal.closed_map (Literal.closed_float o) _
  | readString o => exact Literal.closed_map (Literal.closed_string s.isBlank o) _
  | readWord skip => exact Literal.closed_map (Literal.closed_run _) _
  | readLine skip => exact Literal.closed_map (Literal.closed_run _) fun t : Text => Reply.text (t.map foldControl)
  | _ => exact Literal.closed_never

end Command
end TextCursor
