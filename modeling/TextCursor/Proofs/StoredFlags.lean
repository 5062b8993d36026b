import TextCursor.Flags.Stored
import TextCursor.Proofs.JsonSpelling
/-!
# Stored flags

A word of flags is stored as the JSON string of a text, the names of its options and the number of its other bits with bars
between them.  A text of such parts is read as their union, whatever their order, however often they come and whatever white
space stands around them, and what is written for a word is one, so it is read back as the same word (`stored_flags_exact`).
The store is a parameter of this.  It is asked to write the parts in order (`Flags.Writes`), to split a text into parts and to
read a single one (`Flags.Reads`), and to keep the text as a JSON string, escaped and read as the standard has it
(`Flags.Stores`).  The store at hand is one.
-/
namespace TextCursor

/-! ## White space around a text -/

/-- Between the space and the first control character behind ASCII there is no white space. -/
theorem isUnicodeSpace_eq_false {c : Char} (hlow : 0x20 < c.toNat) (hhigh : c.toNat < 0x85) : isUnicodeSpace c = false := by
  have hranges : ∀ r ∈ unicodeSpaceRanges, r.2 ≤ 0x20 ∨ 0x85 ≤ r.1 := by decide
  rw [isUnicodeSpace, List.any_eq_false]
  intro r hr
  have hrange := hranges r hr
  rw [Bool.and_eq_true, decide_eq_true_eq, decide_eq_true_eq]
  omega

namespace Text

theorem dropWhile_word_append {w : Text} (hw : ∀ c ∈ w, isUnicodeSpace c = false) (hne : w ≠ []) (t : Text) :
    (w ++ t).dropWhile isUnicodeSpace = w ++ t := by
  obtain ⟨x, w, rfl⟩ := List.exists_cons_of_ne_nil hne
  exact List.dropWhile_cons_of_neg (by rw [hw x List.mem_cons_self]; exact Bool.false_ne_true)

/-- White space around a text without any is taken off. -/
theorem trim_word {u w v : Text} (hu : u.all isUnicodeSpace = true) (hw : ∀ c ∈ w, isUnicodeSpace c = false) (hne : w ≠ [])
    (hv : v.all isUnicodeSpace = true) : (u ++ w ++ v).trim = w := by
  have hback : w.reverse.dropWhile isUnicodeSpace = w.reverse := by
    have h := dropWhile_word_append (fun c hc => hw c (List.mem_reverse.1 hc)) (List.reverse_ne_nil_iff.2 hne) []
    rwa [List.append_nil] at h
  rw [trim, List.append_assoc, List.dropWhile_append_of_pos (List.all_eq_true.1 hu), dropWhile_word_append hw hne,
    List.reverse_append, List.dropWhile_append_of_pos (fun c hc => List.all_eq_true.1 hv c (List.mem_reverse.1 hc)), hback,
    List.reverse_reverse]

theorem trim_eq_nil_iff {t : Text} : t.trim = [] ↔ t.all isUnicodeSpace = true := by
  have hback : t.trim = [] ↔ ∀ c ∈ t.dropWhile isUnicodeSpace, isUnicodeSpace c = true := by
    simp [trim, List.dropWhile_eq_nil_iff]
  rw [hback, List.all_eq_true]
  refine ⟨fun h c hc => ?_, fun h c hc => h c ((List.dropWhile_sublist _).subset hc)⟩
  rw [← List.takeWhile_append_dropWhile (p := isUnicodeSpace) (l := t), List.mem_append] at hc
  exact hc.elim List.mem_takeWhile_imp (h c)

end Text

namespace Flags

/-- The number that hexadecimal digits denote, the last digit being the lowest. -/
def hexNumber (ds : Text) : Nat := Nat.ofDigits 16 (ds.map digitValue).reverse

/-- Hexadecimal digits, at least one, whose number fits a word of flags. -/
structure FitsWord (ds : Text) : Prop where
  ne_nil : ds ≠ []
  digits : ds.all isHexDigit = true
  lt : hexNumber ds < 0x100000000

instance (ds : Text) : Decidable (FitsWord ds) :=
  decidable_of_iff (ds ≠ [] ∧ ds.all isHexDigit = true ∧ hexNumber ds < 0x100000000)
    ⟨fun ⟨hne, hdigits, hlt⟩ => ⟨hne, hdigits, hlt⟩, fun h => ⟨h.ne_nil, h.digits, h.lt⟩⟩

/-- A part of a stored word: the name of an option, or `0x` and a number. -/
inductive Part where
  | option (f : Flag)
  | number (ds : Text) (h : FitsWord ds)

/-- A part with white space around it. -/
structure Spaced where
  before : Text
  part : Part
  after : Text
  space_before : before.all isUnicodeSpace = true
  space_after : after.all isUnicodeSpace = true

namespace Part

def text : Part → Text
  | option f => f.name
  | number ds _ => '0' :: 'x' :: ds

def flags : Part → Flags
  | option f => only f
  | number ds _ => ⟨BitVec.ofNat 32 (hexNumber ds)⟩

end Part

def Spaced.text (p : Spaced) : Text := p.before ++ p.part.text ++ p.after

/-- The parts with bars between them. -/
def joined (ps : List Spaced) : Text := ['|'].intercalate (ps.map Spaced.text)

/-- The bitwise or of the words. -/
def unionAll (ss : List Flags) : Flags := ss.foldr union empty

/-- What is asked of the writer of the text of a word. -/
structure Writes (write : Flags → Text) : Prop where
  /-- The names of the options in the word are written in the order of their list, with bars between them. -/
  named : ∀ s, s.diff all = empty → write s = [' ', '|', ' '].intercalate ((Flag.all.filter s.has).map Flag.name)
  /-- Bits that have no name are written as one number behind the names, in small digits. -/
  unnamed : ∀ s, s.diff all ≠ empty → write s = [' ', '|', ' '].intercalate
    ((Flag.all.filter s.has).map Flag.name ++ ['0' :: 'x' :: Nat.toDigits 16 (s.diff all).bits.toNat])

/-- What is asked of the reader of the text of a word, where `part` reads a single part. -/
structure Reads (read part : Text → Option Flags) : Prop where
  /-- White space alone is the empty word. -/
  blank : ∀ t, t.all isUnicodeSpace = true → read t = some empty
  /-- Any other text is split at its bars, and the parts are added one by one, without the white space at their ends. -/
  split : ∀ t, t.all isUnicodeSpace = false →
    read t = (t.splitOn '|').foldlM (fun s p => (part (Text.trim p)).map s.union) empty
  /-- What does not start as a number is looked up among the names. -/
  name : ∀ t, ¬ ['0', 'x'] <+: t → part t = (Flag.all.find? fun f => f.name == t).map only
  /-- Hexadecimal digits behind `0x` are taken as bits, if they fit the word. -/
  number : ∀ ds, FitsWord ds → part ('0' :: 'x' :: ds) = some ⟨BitVec.ofNat 32 (hexNumber ds)⟩

/-- What is asked of a store of flags, where `quote` writes the strings of JSON and `text` reads them: a word is stored as the
string of its text. -/
structure Stores (quote : Text → Text) (text : Text → Option Text) (write : Flags → Text) (read : Text → Option Flags)
    (save : Flags → Text) (load : Text → Option Flags) : Prop where
  save_eq : ∀ s, save s = quote (write s)
  load_eq : ∀ j t, text j = some t → load j = read t

/-! ## The text of the parts -/

/-- Neither white space nor a bar is a character of a part. -/
theorem not_space_of_mem_text {p : Part} {c : Char} (hc : c ∈ p.text) : isUnicodeSpace c = false ∧ c ≠ '|' := by
  cases p with
  | option f =>
    have hname : (f.name.all fun c => !isUnicodeSpace c && c != '|') = true := by cases f <;> decide
    simpa using List.all_eq_true.1 hname c hc
  | number ds h =>
    rcases List.mem_cons.1 hc with rfl | hc
    · decide
    rcases List.mem_cons.1 hc with rfl | hc
    · decide
    have hdigit := List.all_eq_true.1 h.digits c hc
    obtain ⟨d, hd⟩ := Option.isSome_iff_exists.1 hdigit
    have hcases := hexDigit?_cases hd
    refine ⟨isUnicodeSpace_eq_false (by omega) (by omega), ?_⟩
    rintro rfl
    cases hdigit

theorem text_ne_nil (p : Part) : p.text ≠ [] := by
  cases p with
  | option f => cases f <;> decide
  | number ds h => exact List.cons_ne_nil _ _

theorem trim_text (p : Spaced) : p.text.trim = p.part.text :=
  Text.trim_word p.space_before (fun _ hc => (not_space_of_mem_text hc).1) (text_ne_nil p.part) p.space_after

theorem bar_not_mem_text (p : Spaced) : '|' ∉ p.text := by
  have hbar : ∀ t : Text, t.all isUnicodeSpace = true → '|' ∉ t := fun t ht hm => by
    cases List.all_eq_true.1 ht '|' hm
  intro hm
  rw [Spaced.text, List.mem_append, List.mem_append] at hm
  rcases hm with (hm | hm) | hm
  · exact hbar _ p.space_before hm
  · exact (not_space_of_mem_text hm).2 rfl
  · exact hbar _ p.space_after hm

theorem joined_cons_cons (p q : Spaced) (ps : List Spaced) : joined (p :: q :: ps) = p.text ++ '|' :: joined (q :: ps) := by
  rw [joined, List.map_cons, List.map_cons, List.intercalate_cons_cons, List.append_assoc]
  rfl

theorem joined_singleton (p : Spaced) : joined [p] = p.text := List.intercalate_singleton

theorem text_prefix_joined (p : Spaced) (ps : List Spaced) : p.text <+: joined (p :: ps) := by
  cases ps with
  | nil => exact ⟨[], by rw [joined_singleton, List.append_nil]⟩
  | cons q ps => exact ⟨_, (joined_cons_cons p q ps).symm⟩

theorem splitOn_joined (p : Spaced) (ps : List Spaced) : (joined (p :: ps)).splitOn '|' = (p :: ps).map Spaced.text :=
  List.splitOn_intercalate '|' (fun t ht => by
    obtain ⟨q, -, rfl⟩ := List.mem_map.1 ht
    exact bar_not_mem_text q) (List.cons_ne_nil _ _)

/-- A text with a part is not white space alone. -/
theorem not_all_space_joined (p : Spaced) (ps : List Spaced) : (joined (p :: ps)).all isUnicodeSpace = false := by
  obtain ⟨c, t, ht⟩ := List.exists_cons_of_ne_nil (text_ne_nil p.part)
  have hmem : c ∈ p.part.text := by rw [ht]; exact List.mem_cons_self
  have hjoined : c ∈ joined (p :: ps) :=
    (text_prefix_joined p ps).subset (List.mem_append_left _ (List.mem_append_right _ hmem))
  rw [List.all_eq_false]
  exact ⟨c, hjoined, Bool.eq_false_iff.1 (not_space_of_mem_text hmem).1⟩

/-! ## The bits of a union -/

theorem getLsbD_unionAll (ss : List Flags) (i : Nat) : (unionAll ss).bits.getLsbD i = ss.any fun s => s.bits.getLsbD i := by
  induction ss with
  | nil => exact BitVec.getLsbD_zero
  | cons s ss ih =>
    show (s.bits ||| (unionAll ss).bits).getLsbD i = _
    rw [BitVec.getLsbD_or, ih, List.any_cons]

theorem getLsbD_only (f : Flag) (i : Nat) : (only f).bits.getLsbD i = decide (f.bit = i) := by
  rw [only, BitVec.getLsbD_twoPow, decide_eq_true f.bit_lt, Bool.true_and]

theorem unionAll_append (ss ts : List Flags) : unionAll (ss ++ ts) = (unionAll ss).union (unionAll ts) :=
  ext_getLsbD fun i _ => by
    rw [union, BitVec.getLsbD_or, getLsbD_unionAll, getLsbD_unionAll, getLsbD_unionAll, List.any_append]

/-- **Order and repetition do not matter** to a union. -/
theorem unionAll_congr {ss ts : List Flags} (h : ∀ s, s ∈ ss ↔ s ∈ ts) : unionAll ss = unionAll ts :=
  ext_getLsbD fun i _ => by
    rw [getLsbD_unionAll, getLsbD_unionAll, Bool.eq_iff_iff, List.any_eq_true, List.any_eq_true]
    simp only [h]

theorem union_assoc (s t u : Flags) : (s.union t).union u = s.union (t.union u) :=
  congrArg mk (BitVec.or_assoc s.bits t.bits u.bits)

theorem union_empty (s : Flags) : s.union empty = s := congrArg mk BitVec.or_zero

theorem empty_union (s : Flags) : empty.union s = s := congrArg mk BitVec.zero_or

/-! ## Reading -/

namespace Reads

variable {read part : Text → Option Flags}

/-- **A part is read as its flags**: no name starts as a number, and no two options have one name. -/
theorem part_text (h : Reads read part) (p : Part) : part p.text = some p.flags := by
  cases p with
  | option f =>
    have hname : ¬ ['0', 'x'] <+: f.name := by cases f <;> decide
    have hfind : (Flag.all.find? fun g => g.name == f.name) = some f := by cases f <;> decide
    show part f.name = _
    rw [h.name _ hname, hfind]
    rfl
  | number ds hds => exact h.number ds hds

theorem foldlM_parts (h : Reads read part) (ps : List Spaced) (s : Flags) :
    (ps.map Spaced.text).foldlM (fun s p => (part (Text.trim p)).map s.union) s =
      some (s.union (unionAll (ps.map fun p => p.part.flags))) := by
  induction ps generalizing s with
  | nil => exact congrArg some (union_empty s).symm
  | cons p ps ih =>
    rw [List.map_cons, List.foldlM_cons, trim_text, h.part_text, Option.map_some, Option.bind_eq_bind, Option.bind_some, ih,
      union_assoc]
    rfl

/-- **A text of parts is read as their union**, with any white space around them. -/
theorem read_joined (h : Reads read part) (ps : List Spaced) :
    read (joined ps) = some (unionAll (ps.map fun p => p.part.flags)) := by
  cases ps with
  | nil => exact h.blank [] rfl
  | cons p ps =>
    rw [h.split _ (not_all_space_joined p ps), splitOn_joined, h.foldlM_parts, empty_union]

end Reads

/-! ## Writing -/

theorem hexNumber_toDigits (n : Nat) : hexNumber (Nat.toDigits 16 n) = n := by
  rw [hexNumber, ← DigitRun.foldDigits_eq_ofDigits]
  exact DigitRun.foldDigits_toDigits (by decide) (by decide) n

theorem fitsWord_toDigits {n : Nat} (h : n < 0x100000000) : FitsWord (Nat.toDigits 16 n) where
  ne_nil := Nat.toDigits_ne_nil
  digits := List.all_eq_true.2 fun c hc => by
    obtain ⟨k, hk, rfl⟩ := exists_of_mem_toDigits (by decide) n c hc
    rw [isHexDigit, hexDigit?_digitChar hk]
    rfl
  lt := (hexNumber_toDigits n).symm ▸ h

/-- The part for the bits without a name, if there are any. -/
def unnamedParts (s : Flags) : List Part :=
  if s.diff all = empty then [] else [.number _ (fitsWord_toDigits (s.diff all).bits.isLt)]

/-- The parts that are written for a word. -/
def parts (s : Flags) : List Part := (Flag.all.filter s.has).map .option ++ s.unnamedParts

theorem Writes.write_eq {write : Flags → Text} (h : Writes write) (s : Flags) :
    write s = [' ', '|', ' '].intercalate (s.parts.map Part.text) := by
  have hnames : ((Flag.all.filter s.has).map Part.option).map Part.text = (Flag.all.filter s.has).map Flag.name :=
    List.map_map ..
  rw [parts, List.map_append, hnames, unnamedParts]
  split_ifs with hrest
  · rw [h.named s hrest, List.map_nil, List.append_nil]
  · exact h.unnamed s hrest

/-- The options of a word are the bits of it that have a name. -/
theorem unionAll_options (s : Flags) : unionAll ((Flag.all.filter s.has).map only) = s.inter all := by
  refine ext_getLsbD fun i _ => ?_
  have hall : all.bits.getLsbD i = Flag.all.any fun f => decide (f.bit = i) := by
    have hlist : all = unionAll (Flag.all.map only) := rfl
    rw [hlist, getLsbD_unionAll, List.any_map]
    simp only [Function.comp_def, getLsbD_only]
  have hnamed : (unionAll ((Flag.all.filter s.has).map only)).bits.getLsbD i =
      Flag.all.any fun f => s.has f && decide (f.bit = i) := by
    rw [getLsbD_unionAll, List.any_map, List.any_filter]
    simp only [Function.comp_def, getLsbD_only]
  rw [inter, BitVec.getLsbD_and, hall, hnamed, Bool.eq_iff_iff, Bool.and_eq_true, List.any_eq_true, List.any_eq_true]
  simp only [Bool.and_eq_true, decide_eq_true_eq]
  constructor
  · rintro ⟨f, hf, hs, rfl⟩
    exact ⟨hs, f, hf, rfl⟩
  · rintro ⟨hs, f, hf, rfl⟩
    exact ⟨f, hf, hs, rfl⟩

theorem unionAll_unnamedParts (s : Flags) : unionAll (s.unnamedParts.map Part.flags) = s.diff all := by
  unfold unnamedParts
  split_ifs with h
  · exact h.symm
  · show Flags.mk (BitVec.ofNat 32 (hexNumber _) ||| 0#32) = s.diff all
    rw [hexNumber_toDigits, BitVec.ofNat_toNat, BitVec.setWidth_eq, BitVec.or_zero]

theorem inter_union_diff (s t : Flags) : (s.inter t).union (s.diff t) = s :=
  ext_getLsbD fun i hi => by
    rw [union, inter, diff, BitVec.getLsbD_or, BitVec.getLsbD_and, BitVec.getLsbD_and, BitVec.getLsbD_not,
      decide_eq_true hi, Bool.true_and, ← Bool.and_or_distrib_left, Bool.or_not_self, Bool.and_true]

theorem unionAll_parts (s : Flags) : unionAll (s.parts.map Part.flags) = s := by
  have hoptions : ((Flag.all.filter s.has).map Part.option).map Part.flags = (Flag.all.filter s.has).map only :=
    List.map_map ..
  rw [parts, List.map_append, unionAll_append, hoptions, unionAll_options, unionAll_unnamedParts, inter_union_diff]

/-- Parts with a bar between two spaces behind each but the last are parts with white space around them. -/
theorem exists_joined (p : Part) (ps : List Part) (front : Text) (hfront : front.all isUnicodeSpace = true) :
    ∃ qs : List Spaced, qs.map Spaced.part = p :: ps ∧
      joined qs = front ++ [' ', '|', ' '].intercalate ((p :: ps).map Part.text) := by
  induction ps generalizing p front with
  | nil =>
    refine ⟨[⟨front, p, [], hfront, rfl⟩], rfl, ?_⟩
    rw [joined_singleton, Spaced.text, List.append_nil, List.map_singleton, List.intercalate_singleton]
  | cons p' ps ih =>
    -- of the two spaces around the bar, the first belongs to this part and the second to the next one
    obtain ⟨qs, hqs, hjoined⟩ := ih p' [' '] rfl
    obtain ⟨q, qs, rfl, -⟩ := List.map_eq_cons_iff.1 hqs
    have hfirst : [' ', '|', ' '].intercalate ((p :: p' :: ps).map Part.text) =
        p.text ++ [' ', '|', ' '] ++ [' ', '|', ' '].intercalate ((p' :: ps).map Part.text) := List.intercalate_cons_cons
    refine ⟨⟨front, p, [' '], hfront, rfl⟩ :: q :: qs, by rw [List.map_cons, hqs], ?_⟩
    rw [joined_cons_cons, hjoined, hfirst, Spaced.text]
    simp only [List.append_assoc, List.cons_append, List.nil_append]

/-- **What is written for a word is read as the word.** -/
theorem read_write {write : Flags → Text} {read part : Text → Option Flags} (hwrite : Writes write) (hread : Reads read part)
    (s : Flags) : read (write s) = some s := by
  have hunion := unionAll_parts s
  rw [hwrite.write_eq]
  cases hparts : s.parts with
  | nil =>
    rw [hparts] at hunion
    rw [← hunion]
    exact hread.blank [] rfl
  | cons p ps =>
    obtain ⟨qs, hqs, hjoined⟩ := exists_joined p ps [] rfl
    rw [hparts, ← hqs, List.map_map] at hunion
    rw [← List.nil_append (List.intercalate _ _), ← hjoined, hread.read_joined]
    exact congrArg some hunion

/-! ## The store at hand -/

theorem writes_toText : Writes toText where
  named s h := by
    simp only [toText, unnamed, if_pos h, List.append_nil]
  unnamed s h := by
    simp only [toText, unnamed, if_neg h]
    rfl

theorem ofHex?_of_fitsWord {ds : Text} (h : FitsWord ds) : ofHex? ds = some ⟨BitVec.ofNat 32 (hexNumber ds)⟩ := by
  have hplus : (['+'].isPrefixOf? ds).getD ds = ds := by
    obtain ⟨c, t, rfl⟩ := List.exists_cons_of_ne_nil h.ne_nil
    have hc : '+' ≠ c := by
      rintro rfl
      cases List.all_eq_true.1 h.digits '+' List.mem_cons_self
    have hnone : ['+'].isPrefixOf? (c :: t) = none := if_neg (by simpa using hc)
    rw [hnone, Option.getD_none]
  have hvalue : ds.foldl (fun v c => v * 16 + digitValue c) 0 = hexNumber ds := DigitRun.foldDigits_eq_ofDigits 16 ds
  rw [ofHex?, hplus]
  simp only [hvalue]
  exact if_pos ⟨h.ne_nil, h.digits, h.lt⟩

theorem ofParts?_eq_foldlM (ps : List Text) (s : Flags) :
    ps.foldlM (fun s p => (ofPart? (Text.trim p)).map s.union) s = (ofParts? ps).map s.union := by
  induction ps generalizing s with
  | nil => exact congrArg some (union_empty s).symm
  | cons p ps ih =>
    rw [List.foldlM_cons, ofParts?]
    cases ofPart? p.trim with
    | none => rfl
    | some t =>
      rw [Option.map_some, Option.bind_eq_bind, Option.bind_some, ih, Option.bind_some, Option.map_map]
      exact congrArg (Option.map · _) (funext fun u => union_assoc s t u)

theorem reads_ofText? : Reads ofText? ofPart? where
  blank t h := by rw [ofText?, if_pos (Text.trim_eq_nil_iff.2 h)]
  split t h := by
    have hne : ¬ t.trim = [] := fun hnil => by
      rw [Text.trim_eq_nil_iff.1 hnil] at h
      cases h
    rw [ofText?, if_neg hne, ofParts?_eq_foldlM, funext empty_union]
    exact Option.map_id'.symm
  name t h := by
    cases hprefix : ['0', 'x'].isPrefixOf? t with
    | none => rw [ofPart?, hprefix]; rfl
    | some ds => exact absurd ⟨ds, List.append_eq_of_isPrefixOf?_eq_some hprefix⟩ h
  number ds h := ofHex?_of_fitsWord h

theorem stores_ofJson? : Stores Json.quote Json.text? toText ofText? toJson ofJson? where
  save_eq _ := rfl
  load_eq j t h := by rw [ofJson?, h, Option.bind_some]

/-- **Every word of flags survives being stored, and a stored text is read as a set**, in any store that does what is asked of
it.  Whatever bits a word has, with a name or without, what is saved for it is loaded as the word.  A JSON string, spelled in
any way, whose value is parts with bars between them and white space around them, each the name of an option or `0x` and a
number that fits the word, is loaded as the bitwise or of the parts; so the same flags in another order, more often or with
other spaces are the same word. -/
theorem stored_flags_exact {escape : Char → Text} {quote : Text → Text} {text : Text → Option Text} {write : Flags → Text}
    {read part : Text → Option Flags} {save : Flags → Text} {load : Text → Option Flags}
    (hquote : Json.WritesStrings escape quote) (htext : ∀ j t, Json.IsString j t → text j = some t) (hwrite : Writes write)
    (hread : Reads read part) (hstore : Stores quote text write read save load) :
    (∀ s : Flags, load (save s) = some s) ∧
    (∀ (j : Text) (ps : List Spaced), Json.IsString j (joined ps) →
      load j = some (unionAll (ps.map fun p => p.part.flags))) ∧
    ∀ (j k : Text) (ps qs : List Spaced), Json.IsString j (joined ps) → Json.IsString k (joined qs) →
      (∀ s, s ∈ ps.map (fun p => p.part.flags) ↔ s ∈ qs.map fun p => p.part.flags) → load j = load k := by
  have hload : ∀ (j : Text) (ps : List Spaced), Json.IsString j (joined ps) →
      load j = some (unionAll (ps.map fun p => p.part.flags)) := fun j ps hj => by
    rw [hstore.load_eq j _ (htext j _ hj), hread.read_joined]
  refine ⟨fun s => ?_, hload, fun j k ps qs hj hk h => ?_⟩
  · rw [hstore.save_eq, hstore.load_eq _ _ (htext _ _ (hquote.isString _)), read_write hwrite hread]
  · rw [hload j ps hj, hload k qs hk, unionAll_congr h]

/-- Bits without a name behind two options; and such bits between options, one of which comes twice, with escapes, and the same
parts in another order. -/
theorem stored_flags_exact_mixed :
    (Json.WritesStrings Json.escape Json.quote ∧ (∀ j t, Json.IsString j t → Json.text? j = some t) ∧ Writes toText ∧
      Reads ofText? ofPart? ∧ Stores Json.quote Json.text? toText ofText? toJson ofJson?) ∧
    toJson ⟨0xFF001004⟩ = "\"HEX | COMMA | 0xff000000\"".toList ∧ ofJson? (toJson ⟨0xFF001004⟩) = some ⟨0xFF001004⟩ ∧
    ofJson? "\n\"COMMA|\\t0xfF000003 |\\u0048EX\\u007cCOMMA\"".toList = some ⟨0xFF001007⟩ ∧
    ofJson? "\n\"COMMA|\\t0xfF000003 |\\u0048EX\\u007cCOMMA\"".toList =
      ofJson? "\"0x0ff000003 | COMMA|HEX\" ".toList := by
  have hfirst : Json.IsString "\n\"COMMA|\\t0xfF000003 |\\u0048EX\\u007cCOMMA\"".toList
      (joined [⟨[], .option .comma, [], rfl, rfl⟩, ⟨['\t'], .number "fF000003".toList (by decide), [' '], rfl, rfl⟩,
        ⟨[], .option .hex, [], rfl, rfl⟩, ⟨[], .option .comma, [], rfl, rfl⟩]) :=
    Json.text?_eq_some_iff.1 (by decide)
  have hsecond : Json.IsString "\"0x0ff000003 | COMMA|HEX\" ".toList
      (joined [⟨[], .number "0ff000003".toList (by decide), [' '], rfl, rfl⟩, ⟨[' '], .option .comma, [], rfl, rfl⟩,
        ⟨[], .option .hex, [], rfl, rfl⟩]) :=
    Json.text?_eq_some_iff.1 (by decide)
  have htext : ∀ j t, Json.IsString j t → Json.text? j = some t := fun _ _ => Json.text?_eq_some_iff.2
  obtain ⟨hsaved, hloaded, hsame⟩ :=
    stored_flags_exact Json.writesStrings_quote htext writes_toText reads_ofText? stores_ofJson?
  refine ⟨⟨Json.writesStrings_quote, htext, writes_toText, reads_ofText?, stores_ofJson?⟩, by decide, hsaved _,
    (hloaded _ _ hfirst).trans (by decide), hsame _ _ _ _ hfirst hsecond fun s => ?_⟩
  have hnumber : hexNumber "fF000003".toList = hexNumber "0ff000003".toList := by decide
  simp only [List.map_cons, List.map_nil, List.mem_cons, List.not_mem_nil, Part.flags, hnumber]
  tauto

end Flags
end TextCursor
