import TextCursor.Text.Basic
/-!
# White space

The Unicode property White_Space, which has twenty-five characters, and the text without them at its two ends.
-/
namespace TextCursor

/-- The ranges of code points with the property White_Space, both ends included. -/
def unicodeSpaceRanges : List (Nat × Nat) :=
  [(0x09, 0x0D), (0x20, 0x20), (0x85, 0x85), (0xA0, 0xA0), (0x1680, 0x1680), (0x2000, 0x200A), (0x2028, 0x2029),
    (0x202F, 0x202F), (0x205F, 0x205F), (0x3000, 0x3000)]

def isUnicodeSpace (c : Char) : Bool := unicodeSpaceRanges.any fun r => r.1 ≤ c.toNat && c.toNat ≤ r.2

/-- The text without the white space at its ends. -/
def Text.trim (t : Text) : Text := ((t.dropWhile isUnicodeSpace).reverse.dropWhile isUnicodeSpace).reverse

end TextCursor
