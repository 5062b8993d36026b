import TextCursor.CharClass
/-!
# Readings of strings and lines

A reading is the value that a piece of the text stands for, with the number of characters it takes there.  In a value a
control character is a line feed, and a line pair is a single one.  Each reading here is one pass over the text.
-/
namespace TextCursor

/-- A value read, and how many characters it takes in the text. -/
structure Reading where
  value : Text
  taken : Nat
  deriving DecidableEq

namespace Reading

def empty : Reading := ⟨[], 0⟩

/-- The reading with one character of the value in front, which takes `n` characters in the text. -/
def cons (x : Char) (n : Nat) (r : Reading) : Reading := ⟨x :: r.value, r.taken + n⟩

/-- Reads a quoted string behind its opening quote, through the closing one.  A doubled quote is one quote of the value;
there is no reading without a closing quote. -/
def quoted? : Text → Option Reading
  | [] => none
  | [c] => if c = '"' then some ⟨[], 1⟩ else none
  | c :: d :: t =>
    if c = '"' then
      if d = '"' then (quoted? t).map (cons '"' 2) else some ⟨[], 1⟩
    else if isLinePair c d then (quoted? t).map (cons '\n' 2)
    else (quoted? (d :: t)).map (cons (foldControl c) 1)

/-- Reads a string without quotes, up to a blank.  The second character of a line pair belongs to the first one and is
not looked at. -/
def bare (isBlank : Char → Bool) : Text → Reading
  | [] => empty
  | [c] => if isBlank c then empty else ⟨[foldControl c], 1⟩
  | c :: d :: t =>
    if isBlank c then empty
    else if isLinePair c d then (bare isBlank t).cons '\n' 2
    else (bare isBlank (d :: t)).cons (foldControl c) 1

theorem bare_taken_le (p : Char → Bool) (t : Text) : (bare p t).taken ≤ t.length := by
  fun_induction bare p t with
  | case1 => exact Nat.le_refl 0
  | case2 c h => exact Nat.zero_le 1
  | case3 c h => exact Nat.le_refl 1
  | case4 c d t h => exact Nat.zero_le _
  | case5 c d t h hp ih => simp only [cons, List.length_cons]; omega
  | case6 c d t h hp ih => simp only [cons, List.length_cons] at ih ⊢; omega

/-- Reads the characters that start within the next `n` bytes. -/
def within : Nat → Text → Reading
  | 0, _ => empty
  | _ + 1, [] => empty
  | _ + 1, [c] => ⟨[foldControl c], 1⟩
  | n + 1, c :: d :: t =>
    if isLinePair c d then (within (n + 1 - (c.utf8Size + d.utf8Size)) t).cons '\n' 2
    else (within (n + 1 - c.utf8Size) (d :: t)).cons (foldControl c) 1

def isLineEndByte (b : UInt8) : Bool := b == 0x0D || b == 0x0A

/-- Reads up to the first line end, which is looked for among the bytes of the text: a line end is its own byte in UTF-8,
and no other character has that byte. -/
def line (t : Text) : Reading := within (t.bytes.takeWhile fun b => !isLineEndByte b).length t

end Reading
end TextCursor
