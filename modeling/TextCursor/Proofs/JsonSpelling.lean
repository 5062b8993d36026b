import Mathlib.Data.List.DropRight
import TextCursor.Json.Basic
import TextCursor.Proofs.JsonGrammar
/-!
# Reading and writing JSON

Texts are written with the standard escapes (`writesStrings_quote`), and just the JSON strings are read as texts
(`text?_eq_some_iff`).  The reading has the two levels of the grammar: `pieces?` takes a string apart into its pieces, `join?`
puts together what they denote.  An object of strings is read as its names and values (`object?_of_isObject`).
-/
namespace TextCursor
namespace Json

theorem isControl_eq_false_iff {c : Char} : isControl c = false ↔ 0x20 ≤ c.toNat := by simp [isControl]

theorem isHighSurrogate_iff {u : Nat} : isHighSurrogate u = true ↔ 0xD800 ≤ u ∧ u ≤ 0xDBFF := by simp [isHighSurrogate]

theorem isLowSurrogate_iff {u : Nat} : isLowSurrogate u = true ↔ 0xDC00 ≤ u ∧ u ≤ 0xDFFF := by simp [isLowSurrogate]

theorem unescape?_eq_some_iff {a c : Char} : unescape? a = some c ↔ (a, c) ∈ letters := by
  constructor
  · intro h
    unfold unescape? at h
    split_ifs at h <;> (subst ‹a = _›; cases h; decide)
  · intro h
    have hall : (letters.all fun p => unescape? p.1 == some p.2) = true := by decide
    exact eq_of_beq (List.all_eq_true.1 hall (a, c) h)

/-- **Texts are written with the standard escapes.** -/
theorem writesStrings_quote : WritesStrings escape quote where
  quoted _ := rfl
  letter a c h hne := by
    have hall : (letters.all fun p => p.1 == '/' || escape p.2 == ['\\', p.1]) = true := by decide
    have hpair := List.all_eq_true.1 hall (a, c) h
    simpa [hne] using hpair
  control c hcode hfree := by
    have hother : ∀ a d, (a, d) ∈ letters → c ≠ d := fun a d hd he => hfree a (he ▸ hd)
    have hcontrol : isControl c = true := decide_eq_true hcode
    rw [escape, if_neg (hother '"' '"' (by decide)), if_neg (hother '\\' '\\' (by decide)),
      if_neg (hother 'b' '\x08' (by decide)), if_neg (hother 'f' '\x0c' (by decide)), if_neg (hother 'n' '\n' (by decide)),
      if_neg (hother 'r' '\r' (by decide)), if_neg (hother 't' '\t' (by decide)), if_pos hcontrol]
    rfl
  plain c hquote hback hcode := by
    have hother : ∀ d : Char, d.toNat < 0x20 → c ≠ d := fun d hd he => absurd hcode (Nat.not_le.2 (he ▸ hd))
    have hcontrol : ¬ isControl c = true := Bool.eq_false_iff.1 (isControl_eq_false_iff.2 hcode)
    rw [escape, if_neg hquote, if_neg hback, if_neg (hother '\x08' (by decide)), if_neg (hother '\x0c' (by decide)),
      if_neg (hother '\n' (by decide)), if_neg (hother '\r' (by decide)), if_neg (hother '\t' (by decide)), if_neg hcontrol]

/-! ## Between the quotes -/

/-- A letter behind a backslash is read as the character that it names. -/
theorem pieces?_letter {a c : Char} (ha : (a, c) ∈ letters) (t : Text) :
    pieces? .between ('\\' :: a :: t) = push (.char c) (pieces? .between t) := by
  have hread := unescape?_eq_some_iff.2 ha
  have hu : a ≠ 'u' := by
    rintro rfl
    cases hread
  simp [pieces?, hu, hread]

/-- Four digits behind a backslash and a `u` are read as the code unit that they name. -/
theorem pieces?_unit {a b c d : Char} {k l m n : Nat} (ha : hexDigit? a = some k) (hb : hexDigit? b = some l)
    (hc : hexDigit? c = some m) (hd : hexDigit? d = some n) (t : Text) :
    pieces? .between ('\\' :: 'u' :: a :: b :: c :: d :: t) =
      push (.unit (0x1000 * k + 0x100 * l + 0x10 * m + n)) (pieces? .between t) := by
  have hvalue : 16 * (16 * (16 * k + l) + m) + n = 0x1000 * k + 0x100 * l + 0x10 * m + n := by omega
  simp [pieces?, ha, hb, hc, hd, hvalue]

theorem push_eq_some {p : Piece} {o : Option (List Piece × Text)} {ps : List Piece} {r : Text} :
    push p o = some (ps, r) ↔ ∃ qs, o = some (qs, r) ∧ ps = p :: qs := by
  constructor
  · intro h
    obtain ⟨⟨qs, r'⟩, ho, he⟩ := Option.map_eq_some_iff.1 h
    obtain ⟨rfl, rfl⟩ := Prod.mk.inj he
    exact ⟨qs, ho, rfl⟩
  · rintro ⟨qs, rfl, rfl⟩
    rfl

theorem pieces?_of_written {body : Text} {ps : List Piece} (h : Written body ps) (r : Text) :
    pieces? .between (body ++ '"' :: r) = some (ps, r) := by
  induction h with
  | nil => simp [pieces?]
  | plain hquote hback hcode _ ih => simp [pieces?, hquote, hback, isControl_eq_false_iff.2 hcode, ih, push]
  | letter ha _ ih =>
    rw [List.cons_append, List.cons_append, pieces?_letter ha, ih]
    rfl
  | unit ha hb hc hd _ ih =>
    simp only [List.cons_append]
    rw [pieces?_unit ha hb hc hd, ih]
    rfl

/-- The digits of a code unit are taken one by one, and with the last one the unit is there. -/
theorem exists_digit_of_pieces? {left value : Nat} {t : Text} {x : List Piece × Text}
    (h : pieces? (.unit left value) t = some x) : ∃ c u d, t = c :: u ∧ hexDigit? c = some d ∧
      (match left with
        | 0 => push (.unit (16 * value + d)) (pieces? .between u)
        | left + 1 => pieces? (.unit left (16 * value + d)) u) = some x := by
  cases t with
  | nil => simp [pieces?] at h
  | cons c u =>
    cases hd : hexDigit? c with
    | none => cases left <;> simp [pieces?, hd] at h
    | some d => cases left <;> exact ⟨c, u, d, rfl, hd, by simpa [pieces?, hd] using h⟩

theorem exists_unit_of_pieces? {t r : Text} {ps : List Piece} (h : pieces? (.unit 3 0) t = some (ps, r)) :
    ∃ p qs w u, ps = p :: qs ∧ t = w ++ u ∧ pieces? .between u = some (qs, r) ∧
      ∀ body, Written body qs → Written ('\\' :: 'u' :: (w ++ body)) (p :: qs) := by
  obtain ⟨a, t, k, rfl, ha, h⟩ := exists_digit_of_pieces? h
  obtain ⟨b, t, l, rfl, hb, h⟩ := exists_digit_of_pieces? h
  obtain ⟨c, t, m, rfl, hc, h⟩ := exists_digit_of_pieces? h
  obtain ⟨d, t, n, rfl, hd, h⟩ := exists_digit_of_pieces? h
  obtain ⟨qs, hread, rfl⟩ := push_eq_some.1 h
  have hvalue : 16 * (16 * (16 * (16 * 0 + k) + l) + m) + n = 0x1000 * k + 0x100 * l + 0x10 * m + n := by omega
  exact ⟨_, qs, [a, b, c, d], t, rfl, rfl, hread, fun _ hbody => hvalue ▸ .unit ha hb hc hd hbody⟩

/-- What is read between the quotes is the closing quote alone, or a first piece and what is read behind that. -/
theorem pieces?_between_cases {t r : Text} {ps : List Piece} (h : pieces? .between t = some (ps, r)) :
    (ps = [] ∧ t = '"' :: r) ∨ ∃ p qs w u, ps = p :: qs ∧ t = w ++ u ∧ pieces? .between u = some (qs, r) ∧
      ∀ body, Written body qs → Written (w ++ body) (p :: qs) := by
  cases t with
  | nil => simp [pieces?] at h
  | cons c t =>
    rw [pieces?] at h
    split_ifs at h with hquote hback hcontrol
    · cases h
      exact .inl ⟨rfl, by rw [hquote]⟩
    · subst hback
      cases t with
      | nil => simp [pieces?] at h
      | cons a t =>
        rw [pieces?] at h
        by_cases hu : a = 'u'
        · rw [if_pos hu] at h
          obtain ⟨p, qs, w, u, hps, rfl, hread, hwritten⟩ := exists_unit_of_pieces? h
          exact .inr ⟨p, qs, '\\' :: 'u' :: w, u, hps, by rw [hu]; rfl, hread, hwritten⟩
        · rw [if_neg hu] at h
          cases ha : unescape? a with
          | none => simp [ha] at h
          | some d =>
            simp only [ha] at h
            obtain ⟨qs, hread, hps⟩ := push_eq_some.1 h
            exact .inr ⟨_, qs, ['\\', a], t, hps, rfl, hread, fun _ => .letter (unescape?_eq_some_iff.1 ha)⟩
    · obtain ⟨qs, hread, hps⟩ := push_eq_some.1 h
      have hcode := isControl_eq_false_iff.1 (Bool.eq_false_iff.2 hcontrol)
      exact .inr ⟨_, qs, [c], t, hps, rfl, hread, fun _ => .plain hquote hback hcode⟩

/-- **Just what is written between the quotes is taken apart**, into the pieces that it is made of. -/
theorem pieces?_eq_some_iff {t r : Text} {ps : List Piece} :
    pieces? .between t = some (ps, r) ↔ ∃ body, t = body ++ '"' :: r ∧ Written body ps := by
  refine ⟨fun h => ?_, fun ⟨body, ht, h⟩ => ht ▸ pieces?_of_written h r⟩
  -- on the pieces and not on the text, which a piece shortens by one, two or six characters
  induction ps generalizing t with
  | nil =>
    rcases pieces?_between_cases h with ⟨-, ht⟩ | ⟨p, qs, w, u, hps, -⟩
    · exact ⟨[], ht, .nil⟩
    · cases hps
  | cons p ps ih =>
    rcases pieces?_between_cases h with ⟨hps, -⟩ | ⟨p, qs, w, u, hps, rfl, hread, hwritten⟩
    · cases hps
    · cases hps
      obtain ⟨body, rfl, hbody⟩ := ih hread
      exact ⟨w ++ body, by rw [List.append_assoc], hwritten body hbody⟩

/-! ## What the pieces denote -/

/-- The piece stands for the character, whatever comes behind it. -/
def Piece.StandsFor (p : Piece) (c : Char) : Prop := ∀ ps, join? (p :: ps) = (join? ps).map (c :: ·)

theorem standsFor_char (c : Char) : (Piece.char c).StandsFor c := fun _ => rfl

/-- No character is a surrogate. -/
theorem not_surrogate (c : Char) : isHighSurrogate c.toNat = false ∧ isLowSurrogate c.toNat = false := by
  have hvalid : c.toNat < 0xD800 ∨ (0xDFFF < c.toNat ∧ c.toNat < 0x110000) := c.valid
  simp only [isHighSurrogate, isLowSurrogate, Bool.and_eq_false_iff, decide_eq_false_iff_not]
  omega

/-- The code unit of a character stands for it. -/
theorem standsFor_unit (c : Char) : (Piece.unit c.toNat).StandsFor c := by
  obtain ⟨hhigh, hlow⟩ := not_surrogate c
  intro ps
  cases ps with
  | nil => simp [join?, hhigh, hlow, Char.ofNat_toNat]
  | cons p ps => simp [join?, hhigh, hlow, Char.ofNat_toNat]

theorem join?_of_denotes {ps : List Piece} {t : Text} (h : Denotes ps t) : join? ps = some t := by
  induction h with
  | nil => rfl
  | @char c ps t _ ih => rw [standsFor_char c ps, ih, Option.map_some]
  | @unit c ps t _ ih => rw [standsFor_unit c ps, ih, Option.map_some]
  | pair hu hv hc _ ih =>
    simp [join?, isHighSurrogate_iff.2 hu, isLowSurrogate_iff.2 hv, ih, ← hc, Char.ofNat_toNat]

theorem toNat_ofNat {n : Nat} (h : n.isValidChar) : (Char.ofNat n).toNat = n := by
  rw [Char.ofNat, dif_pos h]
  rfl

/-- A code unit that is no surrogate denotes a character. -/
theorem denotes_unit {u : Nat} (hu : u < 0x10000) (hhigh : ¬isHighSurrogate u = true) (hlow : ¬isLowSurrogate u = true)
    {ps : List Piece} {t : Text} (h : Denotes ps t) : Denotes (.unit u :: ps) (Char.ofNat u :: t) := by
  simp only [isHighSurrogate, isLowSurrogate, Bool.and_eq_true, decide_eq_true_eq] at hhigh hlow
  have hvalid : u.isValidChar := by
    simp only [Nat.isValidChar]
    omega
  have hdenotes : Denotes (.unit (Char.ofNat u).toNat :: ps) (Char.ofNat u :: t) := .unit h
  rw [toNat_ofNat hvalid] at hdenotes
  exact hdenotes

/-- A surrogate pair denotes a character. -/
theorem denotes_pair {u v : Nat} (hu : isHighSurrogate u = true) (hv : isLowSurrogate v = true) {ps : List Piece} {t : Text}
    (h : Denotes ps t) :
    Denotes (.unit u :: .unit v :: ps) (Char.ofNat (0x10000 + (u - 0xD800) * 0x400 + (v - 0xDC00)) :: t) := by
  refine .pair (isHighSurrogate_iff.1 hu) (isLowSurrogate_iff.1 hv) (toNat_ofNat ?_) h
  rw [isHighSurrogate_iff] at hu
  rw [isLowSurrogate_iff] at hv
  simp only [Nat.isValidChar]
  omega

/-- **Just what the pieces denote is put together from them**, if their code units have sixteen bits.  A greater number, which
four digits cannot name, might be no character at all. -/
theorem join?_eq_some_iff {ps : List Piece} {t : Text} (hps : ∀ u, .unit u ∈ ps → u < 0x10000) :
    join? ps = some t ↔ Denotes ps t := by
  refine ⟨fun h => ?_, join?_of_denotes⟩
  fun_induction join? ps generalizing t with
  | case1 =>
    cases h
    exact .nil
  | case2 c ps ih =>
    obtain ⟨t, ht, rfl⟩ := Option.map_eq_some_iff.1 h
    exact .char (ih (fun w hw => hps w (List.mem_cons_of_mem _ hw)) ht)
  | case3 => cases h
  | case4 u hsurrogate =>
    cases h
    rw [Bool.or_eq_true, not_or] at hsurrogate
    exact denotes_unit (hps u List.mem_cons_self) hsurrogate.1 hsurrogate.2 .nil
  | case5 u ps hu v hv ih =>
    obtain ⟨t, ht, rfl⟩ := Option.map_eq_some_iff.1 h
    exact denotes_pair hu hv (ih (fun w hw => hps w (List.mem_cons_of_mem _ (List.mem_cons_of_mem _ hw))) ht)
  | case6 => cases h
  | case7 => cases h
  | case8 => cases h
  | case9 u p ps hhigh hlow ih =>
    obtain ⟨t, ht, rfl⟩ := Option.map_eq_some_iff.1 h
    exact denotes_unit (hps u List.mem_cons_self) hhigh hlow (ih (fun w hw => hps w (List.mem_cons_of_mem _ hw)) ht)

theorem lt_of_written {body : Text} {ps : List Piece} (h : Written body ps) : ∀ u, .unit u ∈ ps → u < 0x10000 := by
  induction h with
  | nil => exact nofun
  | plain _ _ _ _ ih | letter _ _ ih => exact fun u hu => ih u ((List.mem_cons.1 hu).resolve_left nofun)
  | unit ha hb hc hd _ ih =>
    intro u hu
    rcases List.mem_cons.1 hu with hu | hu
    · have := hexDigit?_lt ha
      have := hexDigit?_lt hb
      have := hexDigit?_lt hc
      have := hexDigit?_lt hd
      cases hu
      omega
    · exact ih u hu

/-! ## Around the quotes -/

theorem passSpace_append {front : Text} (h : ∀ c ∈ front, c ∈ spaces) (t : Text) : passSpace (front ++ t) = passSpace t :=
  List.dropWhile_append_of_pos fun c hc => by simpa [spaces, or_assoc] using h c hc

theorem passSpace_eq_nil {t : Text} : passSpace t = [] ↔ ∀ c ∈ t, c ∈ spaces := by
  rw [passSpace, List.dropWhile_eq_nil_iff]
  simp [spaces, or_assoc]

theorem exists_append_passSpace (t : Text) : ∃ front, (∀ c ∈ front, c ∈ spaces) ∧ t = front ++ passSpace t := by
  refine ⟨t.takeWhile fun c => c == ' ' || c == '\n' || c == '\t' || c == '\r', fun c hc => ?_,
    List.takeWhile_append_dropWhile.symm⟩
  simpa [spaces, or_assoc] using List.mem_takeWhile_imp hc

theorem scalar?_ne_string (t r : Text) (ps : List Piece) : scalar? t ≠ some (string ps, r) := by
  unfold scalar?
  split
  · exact nofun
  · exact nofun
  · exact nofun
  · intro h
    obtain ⟨u, -, he⟩ := Option.map_eq_some_iff.1 h
    cases he

theorem passSpace_append_cons {front : Text} (h : ∀ c ∈ front, c ∈ spaces) {c : Char} (hc : c ∉ spaces) (t : Text) :
    passSpace (front ++ c :: t) = c :: t := by
  rw [passSpace_append h]
  exact List.dropWhile_cons_of_neg (by simpa [spaces, or_assoc] using hc)

theorem passSpace_passSpace (t : Text) : passSpace (passSpace t) = passSpace t :=
  List.dropWhile_idempotent _ t

/-- **A JSON string is read in front of any text**, behind the space before it and up to its closing quote. -/
theorem exists_pieces?_of_isString {j t : Text} (h : IsString j t) :
    ∃ ps back, join? ps = some t ∧ (∀ c ∈ back, c ∈ spaces) ∧
      ∀ r, ∃ u, passSpace (j ++ r) = '"' :: u ∧ pieces? .between u = some (ps, back ++ r) := by
  obtain ⟨front, body, back, ps, hspaces, rfl, hbody, hdenotes⟩ := h
  have hfront : ∀ c ∈ front, c ∈ spaces := fun c hc => hspaces c (List.mem_append_left back hc)
  refine ⟨ps, back, join?_of_denotes hdenotes, fun c hc => hspaces c (List.mem_append_right front hc),
    fun r => ⟨body ++ '"' :: (back ++ r), ?_, pieces?_of_written hbody _⟩⟩
  simp only [List.cons_append, List.append_assoc]
  exact passSpace_append_cons hfront (by decide) _

/-- A value is a string just where its first character that is no space is a quote. -/
theorem value?_eq_string_iff {n : Nat} {t r : Text} {ps : List Piece} :
    value? (n + 1) t = some (string ps, r) ↔ ∃ u, passSpace t = '"' :: u ∧ pieces? .between u = some (ps, r) := by
  have hother : ∀ {α : Type} {f : α → Json} {o : Option (α × Text)}, (∀ x, f x ≠ string ps) →
      o.map (fun x => (f x.1, x.2)) ≠ some (string ps, r) := fun hf h => by
    obtain ⟨x, -, he⟩ := Option.map_eq_some_iff.1 h
    exact hf x.1 (Prod.mk.inj he).1
  have harray : ∀ vs, array vs ≠ string ps := fun vs he => by cases he
  have hobject : ∀ ms, object ms ≠ string ps := fun ms he => by cases he
  rw [value?]
  constructor
  · intro h
    split at h
    · rename_i u ht
      obtain ⟨⟨qs, v⟩, hread, he⟩ := Option.map_eq_some_iff.1 h
      cases he
      exact ⟨u, ht, hread⟩
    · split at h
      · cases h
      · exact absurd h (hother harray)
    · split at h
      · cases h
      · exact absurd h (hother hobject)
    · exact absurd h (scalar?_ne_string _ _ _)
  · rintro ⟨u, ht, hu⟩
    simp [ht, hu]

theorem parse?_eq_string_iff {j : Text} {ps : List Piece} : parse? j = some (string ps) ↔
    ∃ u r, passSpace j = '"' :: u ∧ pieces? .between u = some (ps, r) ∧ passSpace r = [] := by
  rw [parse?]
  constructor
  · intro h
    split at h
    · rename_i v r hv
      split_ifs at h with hr
      cases h
      obtain ⟨u, hu, hread⟩ := value?_eq_string_iff.1 hv
      exact ⟨u, r, hu, hread, hr⟩
    · cases h
  · rintro ⟨u, r, hu, hread, hr⟩
    rw [value?_eq_string_iff.2 ⟨u, hu, hread⟩]
    exact if_pos hr

theorem text?_eq_some {j t : Text} : text? j = some t ↔ ∃ ps, parse? j = some (string ps) ∧ join? ps = some t := by
  rw [text?]
  constructor
  · intro h
    split at h
    · rename_i ps hps
      exact ⟨ps, hps, h⟩
    · cases h
  · rintro ⟨ps, hps, ht⟩
    rw [hps]
    exact ht

/-- **Just the JSON strings are read as texts**, each as its value. -/
theorem text?_eq_some_iff {j t : Text} : text? j = some t ↔ IsString j t := by
  rw [text?_eq_some]
  constructor
  · rintro ⟨ps, hparse, hjoin⟩
    obtain ⟨u, back, hu, hread, hback⟩ := parse?_eq_string_iff.1 hparse
    obtain ⟨front, hfront, hj⟩ := exists_append_passSpace j
    obtain ⟨body, rfl, hbody⟩ := pieces?_eq_some_iff.1 hread
    rw [hu] at hj
    refine ⟨front, body, back, ps, fun c hc => ?_, hj, hbody, (join?_eq_some_iff (lt_of_written hbody)).1 hjoin⟩
    exact (List.mem_append.1 hc).elim (hfront c) (passSpace_eq_nil.1 hback c)
  · intro h
    obtain ⟨ps, back, hjoin, hback, hread⟩ := exists_pieces?_of_isString h
    obtain ⟨u, hu, hpieces⟩ := hread []
    rw [List.append_nil] at hu hpieces
    exact ⟨ps, parse?_eq_string_iff.2 ⟨u, back, hu, hpieces, passSpace_eq_nil.2 hback⟩, hjoin⟩

/-! ## Objects -/

/-- The name and the value of a member whose value is a string. -/
def member? : List Piece × Json → Option (Text × Text)
  | (ks, string vs) => (join? ks).bind fun k => (join? vs).map fun v => (k, v)
  | _ => none

/-- The names and values of a document that is an object of strings. -/
def object? (t : Text) : Option (List (Text × Text)) :=
  match parse? t with
  | some (object ps) => ps.mapM member?
  | _ => none

theorem member?_eq_some_iff {p : List Piece × Json} {k v : Text} :
    member? p = some (k, v) ↔ ∃ ks vs, p = (ks, string vs) ∧ join? ks = some k ∧ join? vs = some v := by
  constructor
  · intro h
    unfold member? at h
    split at h
    · rename_i ks vs
      obtain ⟨k', hk, h⟩ := Option.bind_eq_some_iff.1 h
      obtain ⟨v', hv, he⟩ := Option.map_eq_some_iff.1 h
      cases he
      exact ⟨ks, vs, rfl, hk, hv⟩
    · cases h
  · rintro ⟨ks, vs, rfl, hk, hv⟩
    rw [member?, hk, Option.bind_some, hv]
    rfl

theorem mapM_member?_cons {p : List Piece × Json} {ps : List (List Piece × Json)} {ms : List (Text × Text)} :
    (p :: ps).mapM member? = some ms ↔ ∃ m ns, member? p = some m ∧ ps.mapM member? = some ns ∧ m :: ns = ms := by
  rw [List.mapM_cons]
  cases member? p <;> cases ps.mapM member? <;> simp

theorem object?_eq_some_iff {j : Text} {ms : List (Text × Text)} :
    object? j = some ms ↔ ∃ ps, parse? j = some (object ps) ∧ ps.mapM member? = some ms := by
  rw [object?]
  constructor
  · intro h
    split at h
    · rename_i ps hps
      exact ⟨ps, hps, h⟩
    · cases h
  · rintro ⟨ps, hps, hms⟩
    rw [hps]
    exact hms

theorem members?_passSpace (n : Nat) (t : Text) : members? n (passSpace t) = members? n t := by
  cases n with
  | zero => rw [members?, members?]
  | succ n => rw [members?, members?, passSpace_passSpace]

/-- **A member is read**, and it is the last one or the reading goes on behind a comma. -/
theorem exists_members?_of_isString {i j k v : Text} (hk : IsString i k) (hv : IsString j v) :
    ∃ p, member? p = some (k, v) ∧ ∀ n r,
      members? (n + 2) (i ++ ':' :: (j ++ '}' :: r)) = some ([p], r) ∧
      members? (n + 2) (i ++ ':' :: (j ++ ',' :: r)) = (members? (n + 1) r).map fun q => (p :: q.1, q.2) := by
  obtain ⟨ks, kback, hkey, hkback, hkread⟩ := exists_pieces?_of_isString hk
  obtain ⟨vs, vback, hvalue, hvback, hvread⟩ := exists_pieces?_of_isString hv
  have hcolon : ∀ t, passSpace (kback ++ ':' :: t) = ':' :: t := passSpace_append_cons hkback (by decide)
  have hstring : ∀ n r, value? (n + 1) (j ++ r) = some (string vs, vback ++ r) := fun n r => by
    obtain ⟨u, hu, hpieces⟩ := hvread r
    exact value?_eq_string_iff.2 ⟨u, hu, hpieces⟩
  refine ⟨(ks, string vs), member?_eq_some_iff.2 ⟨ks, vs, rfl, hkey, hvalue⟩, fun n r => ⟨?_, ?_⟩⟩
  · obtain ⟨u, hu, hpieces⟩ := hkread (':' :: (j ++ '}' :: r))
    have hclose : passSpace (vback ++ '}' :: r) = '}' :: r := passSpace_append_cons hvback (by decide) r
    simp [members?, hu, hpieces, hcolon, hstring, hclose]
  · obtain ⟨u, hu, hpieces⟩ := hkread (':' :: (j ++ ',' :: r))
    have hcomma : passSpace (vback ++ ',' :: r) = ',' :: r := passSpace_append_cons hvback (by decide) r
    rw [members?]
    simp [hu, hpieces, hcolon, hstring, hcomma]

theorem length_le_of_areMembers {body : Text} {ms : List (Text × Text)} (h : AreMembers body ms) :
    ms.length ≤ body.length := by
  induction h with
  | one =>
    simp only [List.length_cons, List.length_append, List.length_nil]
    omega
  | more _ _ _ ih =>
    simp only [List.length_cons, List.length_append]
    omega

/-- **The members of an object are read in order**, at a depth that is as great as their number. -/
theorem exists_members?_of_areMembers {body : Text} {ms : List (Text × Text)} (h : AreMembers body ms) :
    ∃ ps, ps.mapM member? = some ms ∧ ∀ n r, ms.length ≤ n → members? (n + 1) (body ++ '}' :: r) = some (ps, r) := by
  induction h with
  | @one i j k v hk hv =>
    obtain ⟨p, hp, hread⟩ := exists_members?_of_isString hk hv
    refine ⟨[p], mapM_member?_cons.2 ⟨_, [], hp, rfl, rfl⟩, fun n r hn => ?_⟩
    obtain ⟨m, rfl⟩ : ∃ m, n = m + 1 := Nat.exists_eq_add_of_le' hn
    rw [List.append_assoc, List.cons_append]
    exact (hread m r).1
  | @more i j body k v ms hk hv _ ih =>
    obtain ⟨p, hp, hread⟩ := exists_members?_of_isString hk hv
    obtain ⟨ps, hps, hreads⟩ := ih
    refine ⟨p :: ps, mapM_member?_cons.2 ⟨_, ms, hp, hps, rfl⟩, fun n r hn => ?_⟩
    obtain ⟨m, rfl⟩ : ∃ m, n = m + 1 := Nat.exists_eq_add_of_le' (Nat.le_trans (Nat.succ_pos ms.length) hn)
    have hbody : i ++ ':' :: (j ++ ',' :: body) ++ '}' :: r = i ++ ':' :: (j ++ ',' :: (body ++ '}' :: r)) := by simp
    rw [hbody, (hread m _).2, hreads m r (Nat.le_of_succ_le_succ hn)]
    rfl

/-- The members of an object start with a quote, so that its brace does not close at once. -/
theorem exists_quote_of_areMembers {body : Text} {ms : List (Text × Text)} (h : AreMembers body ms) (r : Text) :
    ∃ u, passSpace (body ++ r) = '"' :: u := by
  cases h with
  | one hk _ | more hk _ _ =>
    obtain ⟨ps, back, -, -, hread⟩ := exists_pieces?_of_isString hk
    rw [List.append_assoc]
    exact (hread _).imp fun _ hu => hu.1

theorem value?_of_areMembers {body : Text} {ms : List (Text × Text)} (h : AreMembers body ms) :
    ∃ ps, ps.mapM member? = some ms ∧ ∀ n t r, ms.length ≤ n → passSpace t = '{' :: (body ++ '}' :: r) →
      value? (n + 2) t = some (object ps, r) := by
  obtain ⟨ps, hps, hread⟩ := exists_members?_of_areMembers h
  refine ⟨ps, hps, fun n t r hn ht => ?_⟩
  obtain ⟨u, hu⟩ := exists_quote_of_areMembers h ('}' :: r)
  have hmembers := hread n r hn
  rw [← members?_passSpace, hu] at hmembers
  rw [value?, ht]
  simp [hu, hmembers]

/-- **An object of strings is read as its names and values**, in their order. -/
theorem object?_of_isObject {j : Text} {ms : List (Text × Text)} (h : IsObject j ms) : object? j = some ms := by
  obtain ⟨front, body, back, hspaces, rfl, hbody⟩ := h
  have hfront : ∀ c ∈ front, c ∈ spaces := fun c hc => hspaces c (List.mem_append_left back hc)
  have hback : passSpace back = [] := passSpace_eq_nil.2 fun c hc => hspaces c (List.mem_append_right front hc)
  have hopen : passSpace (front ++ '{' :: (body ++ '}' :: back)) = '{' :: (body ++ '}' :: back) :=
    passSpace_append_cons hfront (by decide) _
  suffices hvalue : ∃ ps, ps.mapM member? = some ms ∧ ∀ n, body.length ≤ n →
      value? (n + 2) (front ++ '{' :: (body ++ '}' :: back)) = some (object ps, back) by
    obtain ⟨ps, hps, hread⟩ := hvalue
    refine object?_eq_some_iff.2 ⟨ps, ?_, hps⟩
    rw [parse?, hread _ (by simp only [List.length_append, List.length_cons]; omega)]
    exact if_pos hback
  rcases hbody with hmembers | ⟨hempty, rfl⟩
  · obtain ⟨ps, hps, hread⟩ := value?_of_areMembers hmembers
    exact ⟨ps, hps, fun n hn => hread n _ _ (Nat.le_trans (length_le_of_areMembers hmembers) hn) hopen⟩
  · refine ⟨[], rfl, fun n _ => ?_⟩
    have hclose : passSpace (body ++ '}' :: back) = '}' :: back := passSpace_append_cons hempty (by decide) back
    rw [value?, hopen]
    simp only [hclose]

end Json
end TextCursor
