import TextCursor.CharClass
/-!
# Keywords

A list of keywords is one text, with tabs between them.  A name stands for the keyword that it begins, or, where names
are given in full, for the keyword that it is; a name that stands for two is ambiguous.
-/
namespace TextCursor
namespace Keyword

def separator : Char := '\t'

inductive Found where
  | nothing
  /-- One keyword fits: its place in the list, counted from one. -/
  | one (place : Nat)
  | several
  deriving DecidableEq

/-- The name, already folded, stands for the keyword. -/
def fits (full : Bool) (name keyword : Text) : Bool := if full then keyword == name else name.isPrefixOf keyword

/-- Goes through the keywords from a place on, with the place of the one found so far; stops at a second one. -/
def searchFrom (test : Text → Bool) : Nat → Option Nat → List Text → Found
  | _, none, [] => .nothing
  | _, some i, [] => .one i
  | place, found, k :: ks =>
    if test k then
      match found with
      | none => searchFrom test (place + 1) (some place) ks
      | some _ => .several
    else searchFrom test (place + 1) found ks

def search (full : Bool) (name list : Text) : Found := searchFrom (fits full name) 1 none (list.splitOn separator)

end Keyword

inductive KeywordMatch where
  /-- The name stands for the keyword at this place of the list, counted from one. -/
  | found (place : Nat)
  /-- There is no name, or it stands for no keyword. -/
  | unknown
  | noInput
  deriving DecidableEq

def KeywordMatch.place? : KeywordMatch → Option Nat
  | found i => some i
  | unknown | noInput => none

end TextCursor
