import TextCursor.Json.Quoted
import TextCursor.Proofs.Numeral
/-!
# The grammar of JSON strings

A text has many spellings as a JSON string: each character stands plain between the quotes, as a letter behind a backslash or as
its code units, and white space may stand around the quotes (`IsString`).  The grammar has two levels, what is written between
the quotes, piece by piece (`Written`), and what the pieces denote (`Denotes`).  An object of strings is spelled from these
(`IsObject`).  A writer that escapes as the standard has it (`WritesStrings`) spells every text (`WritesStrings.isString`).
-/
namespace TextCursor
namespace Json

/-- The letters that may stand behind a backslash, and the characters that they name. -/
def letters : List (Char × Char) :=
  [('"', '"'), ('\\', '\\'), ('/', '/'), ('b', '\x08'), ('f', '\x0c'), ('n', '\n'), ('r', '\r'), ('t', '\t')]

/-- What may stand between the quotes of a JSON string, and the pieces that it is made of. -/
inductive Written : Text → List Piece → Prop
  | nil : Written [] []
  | plain {c : Char} {body : Text} {ps : List Piece} (hquote : c ≠ '"') (hback : c ≠ '\\') (hcode : 0x20 ≤ c.toNat)
      (h : Written body ps) : Written (c :: body) (.char c :: ps)
  | letter {a c : Char} {body : Text} {ps : List Piece} (ha : (a, c) ∈ letters) (h : Written body ps) :
      Written ('\\' :: a :: body) (.char c :: ps)
  | unit {a b c d : Char} {k l m n : Nat} {body : Text} {ps : List Piece} (ha : hexDigit? a = some k)
      (hb : hexDigit? b = some l) (hc : hexDigit? c = some m) (hd : hexDigit? d = some n) (h : Written body ps) :
      Written ('\\' :: 'u' :: a :: b :: c :: d :: body) (.unit (0x1000 * k + 0x100 * l + 0x10 * m + n) :: ps)

/-- The pieces of a JSON string denote the text: a surrogate pair is one character, and no surrogate stands alone. -/
inductive Denotes : List Piece → Text → Prop
  | nil : Denotes [] []
  | char {c : Char} {ps : List Piece} {t : Text} (h : Denotes ps t) : Denotes (.char c :: ps) (c :: t)
  | unit {c : Char} {ps : List Piece} {t : Text} (h : Denotes ps t) : Denotes (.unit c.toNat :: ps) (c :: t)
  | pair {u v : Nat} {c : Char} {ps : List Piece} {t : Text} (hu : 0xD800 ≤ u ∧ u ≤ 0xDBFF) (hv : 0xDC00 ≤ v ∧ v ≤ 0xDFFF)
      (hc : c.toNat = 0x10000 + (u - 0xD800) * 0x400 + (v - 0xDC00)) (h : Denotes ps t) :
      Denotes (.unit u :: .unit v :: ps) (c :: t)

/-- The characters that may stand around a JSON value. -/
def spaces : Text := [' ', '\n', '\t', '\r']

/-- The document is a JSON string, and the text is its value. -/
def IsString (j t : Text) : Prop :=
  ∃ front body back ps, (∀ c ∈ front ++ back, c ∈ spaces) ∧ j = front ++ '"' :: (body ++ '"' :: back) ∧
    Written body ps ∧ Denotes ps t

/-- What stands between the braces of a JSON object of strings: names and values, a colon in between and commas between the
members. -/
inductive AreMembers : Text → List (Text × Text) → Prop
  | one {i j k v : Text} (hk : IsString i k) (hv : IsString j v) : AreMembers (i ++ ':' :: j) [(k, v)]
  | more {i j body k v : Text} {ms : List (Text × Text)} (hk : IsString i k) (hv : IsString j v) (h : AreMembers body ms) :
      AreMembers (i ++ ':' :: (j ++ ',' :: body)) ((k, v) :: ms)

/-- The document is a JSON object of strings, with these names and values. -/
def IsObject (j : Text) (ms : List (Text × Text)) : Prop :=
  ∃ front body back, (∀ c ∈ front ++ back, c ∈ spaces) ∧ j = front ++ '{' :: (body ++ '}' :: back) ∧
    (AreMembers body ms ∨ (∀ c ∈ body, c ∈ spaces) ∧ ms = [])

theorem isObject_one {i j k v : Text} (hk : IsString i k) (hv : IsString j v) :
    IsObject ('{' :: (i ++ ':' :: (j ++ ['}']))) [(k, v)] :=
  ⟨[], i ++ ':' :: j, [], fun _ hc => (List.not_mem_nil hc).elim, by simp, .inl (.one hk hv)⟩

/-- The four digits of a control character name its code unit. -/
theorem written_control {n : Nat} (h : n < 0x20) {body : Text} {ps : List Piece} (hbody : Written body ps) :
    Written ('\\' :: 'u' :: '0' :: '0' :: Nat.digitChar (n / 16) :: Nat.digitChar (n % 16) :: body) (.unit n :: ps) := by
  have hzero : hexDigit? '0' = some 0 := by decide
  have hfirst : hexDigit? (Nat.digitChar (n / 16)) = some (n / 16) := hexDigit?_digitChar (by omega)
  have hsecond : hexDigit? (Nat.digitChar (n % 16)) = some (n % 16) := hexDigit?_digitChar (by omega)
  have hvalue : 0x1000 * 0 + 0x100 * 0 + 0x10 * (n / 16) + n % 16 = n := by omega
  have hunit := Written.unit hzero hzero hfirst hsecond hbody
  rwa [hvalue] at hunit

/-! ## Writers -/

/-- What is asked of a writer of JSON strings: it escapes as the standard has it, and nothing more than it has to. -/
structure WritesStrings (escape : Char → Text) (quote : Text → Text) : Prop where
  /-- A text is written between quotes, character by character. -/
  quoted : ∀ t, quote t = '"' :: (t.flatMap escape ++ ['"'])
  /-- What has a letter is written as a backslash and the letter, except for the solidus. -/
  letter : ∀ a c, (a, c) ∈ letters → a ≠ '/' → escape c = ['\\', a]
  /-- Any other control character is written as its code unit, in small digits. -/
  control : ∀ c, c.toNat < 0x20 → (∀ a, (a, c) ∉ letters) →
    escape c = ['\\', 'u', '0', '0', Nat.digitChar (c.toNat / 16), Nat.digitChar (c.toNat % 16)]
  /-- Everything else is written as it is. -/
  plain : ∀ c, c ≠ '"' → c ≠ '\\' → 0x20 ≤ c.toNat → escape c = [c]

namespace WritesStrings

variable {escape : Char → Text} {quote : Text → Text}

/-- A character is written as a letter behind a backslash, as its code unit in four digits, or as itself. -/
theorem escape_cases (h : WritesStrings escape quote) (c : Char) :
    (∃ a, (a, c) ∈ letters ∧ escape c = ['\\', a]) ∨
    (c.toNat < 0x20 ∧
      escape c = ['\\', 'u', '0', '0', Nat.digitChar (c.toNat / 16), Nat.digitChar (c.toNat % 16)]) ∨
    (c ≠ '"' ∧ c ≠ '\\' ∧ 0x20 ≤ c.toNat ∧ escape c = [c]) := by
  by_cases hletter : ∃ a, (a, c) ∈ letters ∧ a ≠ '/'
  · obtain ⟨a, ha, hne⟩ := hletter
    exact .inl ⟨a, ha, h.letter a c ha hne⟩
  · have hnone : ∀ a, (a, c) ∈ letters → a = '/' := fun a ha => by_contra fun hne => hletter ⟨a, ha, hne⟩
    by_cases hcode : c.toNat < 0x20
    · refine .inr (.inl ⟨hcode, h.control c hcode fun a ha => ?_⟩)
      rw [hnone a ha] at ha
      have hsolidus : c = '/' := by simpa [letters] using ha
      rw [hsolidus] at hcode
      exact absurd hcode (by decide)
    · have hquote : c ≠ '"' := fun he => absurd (hnone '"' (by rw [he]; decide)) (by decide)
      have hback : c ≠ '\\' := fun he => absurd (hnone '\\' (by rw [he]; decide)) (by decide)
      exact .inr (.inr ⟨hquote, hback, Nat.not_lt.1 hcode, h.plain c hquote hback (Nat.not_lt.1 hcode)⟩)

/-- **A character is written so that one piece spells it.** -/
theorem exists_piece (h : WritesStrings escape quote) (c : Char) :
    ∃ p : Piece, (∀ {body ps}, Written body ps → Written (escape c ++ body) (p :: ps)) ∧
      ∀ {ps t}, Denotes ps t → Denotes (p :: ps) (c :: t) := by
  rcases h.escape_cases c with ⟨a, ha, hc⟩ | ⟨hcode, hc⟩ | ⟨hquote, hback, hcode, hc⟩
  · exact ⟨.char c, fun hbody => hc ▸ .letter ha hbody, .char⟩
  · exact ⟨.unit c.toNat, fun hbody => hc ▸ written_control hcode hbody, .unit⟩
  · exact ⟨.char c, fun hbody => hc ▸ .plain hquote hback hcode hbody, .char⟩

theorem exists_pieces (h : WritesStrings escape quote) (t : Text) :
    ∃ ps, Written (t.flatMap escape) ps ∧ Denotes ps t := by
  induction t with
  | nil => exact ⟨[], .nil, .nil⟩
  | cons c t ih =>
    obtain ⟨p, hwritten, hdenotes⟩ := h.exists_piece c
    obtain ⟨ps, hbody, ht⟩ := ih
    exact ⟨p :: ps, hwritten hbody, hdenotes ht⟩

/-- **Every text is written as a JSON string whose value it is.** -/
theorem isString (h : WritesStrings escape quote) (t : Text) : IsString (quote t) t := by
  obtain ⟨ps, hbody, ht⟩ := h.exists_pieces t
  exact ⟨[], t.flatMap escape, [], ps, fun _ hc => (List.not_mem_nil hc).elim, h.quoted t, hbody, ht⟩

end WritesStrings
end Json
end TextCursor
