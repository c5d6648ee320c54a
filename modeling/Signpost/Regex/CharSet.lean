import Signpost.Unicode.CaseOrbit
import Signpost.Unicode.Ranges

/-!
# Sets of characters

A set of characters is an expression over ranges and tables.  Its meaning is
the membership test `CharSet.contains`; no operation ever lists its elements,
so a set and its complement cost the same.
-/

namespace Signpost.Regex

inductive CharSet where
  | none
  | range (low high : Char)
  | table (ranges : Unicode.Ranges)
  | union (left right : CharSet)
  | inter (left right : CharSet)
  | diff (left right : CharSet)
  | symmDiff (left right : CharSet)
  | compl (inner : CharSet)
  /-- Closed under simple case folding. -/
  | folded (inner : CharSet)
  /-- Closed under the case folding of the ASCII letters. -/
  | foldedAscii (inner : CharSet)
  deriving DecidableEq, Repr

namespace CharSet

def contains : CharSet → Char → Bool
  | none, _ => false
  | range low high, c => low ≤ c && c ≤ high
  | table ranges, c => ranges.contains c
  | union left right, c => left.contains c || right.contains c
  | inter left right, c => left.contains c && right.contains c
  | diff left right, c => left.contains c && !right.contains c
  | symmDiff left right, c => left.contains c != right.contains c
  | compl inner, c => !inner.contains c
  | folded inner, c =>
    inner.contains c || (Unicode.CaseOrbit.companions c).any fun d =>
      inner.contains d
  | foldedAscii inner, c =>
    inner.contains c || (Unicode.CaseOrbit.asciiCompanions c).any fun d =>
      inner.contains d

def singleton (c : Char) : CharSet := range c c

def all : CharSet := compl none

def ofChars : List Char → CharSet
  | [] => none
  | c :: rest => union (singleton c) (ofChars rest)

def unions : List CharSet → CharSet
  | [] => none
  | [set] => set
  | set :: rest => union set (unions rest)

def complIf (negated : Bool) (set : CharSet) : CharSet :=
  if negated then compl set else set

/-- An upper bound on the number of separate ranges in the set. -/
def rangeBound : CharSet → Nat
  | none => 0
  | range _ _ => 1
  | table ranges => ranges.rangeCount
  | union left right | inter left right | diff left right
  | symmDiff left right =>
    left.rangeBound + right.rangeBound
  | compl inner => inner.rangeBound + 1
  | folded inner => 2 * inner.rangeBound
  | foldedAscii inner => inner.rangeBound + 1

def isAsciiOnly : CharSet → Bool
  | none => true
  | range _ high => high.toNat < 128
  | table _ => false
  | union left right | symmDiff left right =>
      left.isAsciiOnly && right.isAsciiOnly
  | inter left right => left.isAsciiOnly || right.isAsciiOnly
  | diff left _ => left.isAsciiOnly
  | compl _ => false
  | folded inner | foldedAscii inner => inner.isAsciiOnly

end CharSet

end Signpost.Regex
