/-!
# Flags, the options of a call

A call takes one word of 32 bits.  Thirteen of the bits are named options (`Flag`), the others mean nothing and are kept
as they are.  An operation asks for single options with `has`, so two words that agree on the options it asks for are the
same word to it.
-/
namespace TextCursor

/-- A named option. -/
inductive Flag where
  /-- Blanks are skipped before and after what is read. -/
  | skipBlanks
  | signed
  /-- A number may have hexadecimal digits, after a base mark or not. -/
  | hex
  /-- A number has hexadecimal digits and no base mark. -/
  | hexOnly
  /-- A comma separates the fraction of a number, as a point does. -/
  | comma
  | digits
  /-- A name is given in full, not abbreviated. -/
  | fullName
  /-- A name may have underscores and hyphens. -/
  | extraChar
  | umlaut
  | quoted
  | toBlank
  | toCursor
  | toEnd
  deriving DecidableEq

namespace Flag

/-- Every option, in the order in which a word of flags lists them. -/
def all : List Flag :=
  [skipBlanks, signed, hex, hexOnly, comma, digits, fullName, extraChar, umlaut, quoted, toBlank, toCursor, toEnd]

def bit : Flag → Nat
  | skipBlanks => 0
  | signed => 1
  | hex => 2
  | hexOnly => 3
  | digits => 4
  | fullName => 5
  | extraChar => 6
  | umlaut => 7
  | quoted => 8
  | toBlank => 9
  | toCursor => 10
  | toEnd => 11
  | comma => 12

theorem bit_lt (f : Flag) : f.bit < 32 := by cases f <;> decide

theorem bit_inj {f g : Flag} : f.bit = g.bit ↔ f = g := by cases f <;> cases g <;> decide

end Flag

structure Flags where
  bits : BitVec 32
  deriving DecidableEq

namespace Flags

def empty : Flags := ⟨0⟩

def only (f : Flag) : Flags := ⟨BitVec.twoPow 32 f.bit⟩

def union (s t : Flags) : Flags := ⟨s.bits ||| t.bits⟩

def inter (s t : Flags) : Flags := ⟨s.bits &&& t.bits⟩

/-- The bits of the first word that the second does not have. -/
def diff (s t : Flags) : Flags := ⟨s.bits &&& ~~~t.bits⟩

/-- The word with exactly the listed options. -/
def ofList (fs : List Flag) : Flags := fs.foldr (fun f s => (only f).union s) empty

/-- The word holds the option. -/
def has (s : Flags) (f : Flag) : Bool := s.bits.getLsbD f.bit

def all : Flags := ofList Flag.all

def ends : Flags := ofList [.toBlank, .toCursor, .toEnd]

/-- The word with what its options imply: hexadecimal digits only are hexadecimal digits. -/
def normalized (s : Flags) : Flags := if s.has .hexOnly then s.union (only .hex) else s

def endsOf (s : Flags) : Flags := s.inter ends

def hasEnd (s : Flags) : Bool := s.has .toBlank || s.has .toCursor || s.has .toEnd

/-- The word that says only whether blanks are skipped. -/
def ofSkip (skip : Bool) : Flags := if skip then only .skipBlanks else empty

theorem ext_getLsbD {s t : Flags} (h : ∀ i, i < 32 → s.bits.getLsbD i = t.bits.getLsbD i) : s = t := by
  cases s; cases t
  congr 1
  exact BitVec.eq_of_getLsbD_eq h

@[simp] theorem has_empty (f : Flag) : empty.has f = false := by simp [has, empty]

@[simp] theorem has_only (f g : Flag) : (only f).has g = decide (f = g) := by
  have hf := f.bit_lt
  by_cases h : f = g
  · subst h; simp [has, only, hf]
  · have : ¬ f.bit = g.bit := fun e => h (Flag.bit_inj.1 e)
    simp [has, only, h, this]

@[simp] theorem has_union (s t : Flags) (f : Flag) : (s.union t).has f = (s.has f || t.has f) := by simp [has, union]

@[simp] theorem has_diff (s t : Flags) (f : Flag) : (s.diff t).has f = (s.has f && !t.has f) := by
  simp [has, diff, f.bit_lt]

theorem has_ofList (fs : List Flag) (f : Flag) : (ofList fs).has f = decide (f ∈ fs) := by
  induction fs with
  | nil => simp [ofList]
  | cons g fs ih =>
    rw [show ofList (g :: fs) = (only g).union (ofList fs) from rfl, has_union, ih, has_only]
    by_cases h : g = f
    · simp [h]
    · have : ¬ f = g := fun e => h e.symm
      simp [h, this]

theorem has_normalized (s : Flags) (f : Flag) :
    s.normalized.has f = (s.has f || (decide (f = .hex) && s.has .hexOnly)) := by
  unfold normalized
  by_cases h : s.has .hexOnly = true
  · simp [h, eq_comm]
  · simp [h]

end Flags
end TextCursor
