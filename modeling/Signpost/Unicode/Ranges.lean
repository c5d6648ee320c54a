/-!
# Sets of code points by ranges

A set of code points is kept as the increasing list of the places where
membership changes: a code point belongs to the set when the number of places
at or below it is odd.  Tables are written as text, one hexadecimal range
`41-5A` or single code point `AA` after the other, separated by blanks.
-/

namespace Signpost.Unicode

structure Ranges where
  bounds : Array Nat
  deriving DecidableEq, Repr

namespace Ranges

structure Reading where
  bounds : Array Nat := #[]
  low : Option Nat := none
  value : Nat := 0
  started : Bool := false

def hexValue (c : Char) : Nat :=
  if c.isDigit then c.toNat - 48
  else if 'a' ≤ c ∧ c ≤ 'f' then c.toNat - 87
  else c.toNat - 55

def Reading.finish (reading : Reading) : Array Nat :=
  if reading.started then
    (reading.bounds.push (reading.low.getD reading.value)).push
      (reading.value + 1)
  else reading.bounds

def Reading.step (reading : Reading) (c : Char) : Reading :=
  if c = '-' then { reading with low := some reading.value, value := 0 }
  else if c = ' ' then { bounds := reading.finish }
  else { reading with value := reading.value * 16 + hexValue c, started :=
    true }

def ofText (text : String) : Ranges :=
  ⟨(text.foldl Reading.step {}).finish⟩

def Reading.line (reading : Reading) (text : String) : Reading :=
  (text.foldl Reading.step reading).step ' '

def ofLines (lines : List String) : Ranges :=
  ⟨(lines.foldl Reading.line {}).finish⟩

/--
How many of the bounds between `low` and `high` lie at or below `code`, plus
`low`.
-/
def countFrom (bounds : Array Nat) (code : Nat) : Nat → Nat → Nat → Nat
  | 0, low, _ => low
  | fuel + 1, low, high =>
    if low < high then
      let middle := (low + high) / 2
      if bounds.getD middle 0 ≤ code then countFrom bounds code fuel
        (middle + 1) high
      else countFrom bounds code fuel low middle
    else low

def contains (ranges : Ranges) (c : Char) : Bool :=
  countFrom ranges.bounds c.toNat 32 0 ranges.bounds.size % 2 == 1

def rangeCount (ranges : Ranges) : Nat := ranges.bounds.size / 2

end Ranges

end Signpost.Unicode
