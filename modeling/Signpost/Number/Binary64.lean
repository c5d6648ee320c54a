/-!
# Binary floating-point numbers of 64 bits

A finite number is a significand below `2 ^ 53` times a power of two.  All
arithmetic is exact on natural numbers and rounded once at the end, to the
nearest number and from the middle to the even significand.
-/

namespace Signpost

def powerOfTwo (exponent : Nat) : Nat := Nat.pow 2 exponent

def powerOfTen (exponent : Nat) : Nat := Nat.pow 10 exponent

inductive Magnitude where
  /-- The value `significand * 2 ^ exponent`. -/
  | finite (significand : Nat) (exponent : Int)
  | infinite
  | notANumber
  deriving DecidableEq, Repr

structure Binary64 where
  negative : Bool
  magnitude : Magnitude
  deriving DecidableEq, Repr

namespace Magnitude

def leastExponent : Int := -1074

def greatestExponent : Int := 971

def zero : Magnitude := .finite 0 leastExponent

def roundHalfEven (numerator denominator : Nat) : Nat :=
  let quotient := numerator / denominator
  let twice := 2 * (numerator % denominator)
  if twice < denominator then quotient
  else if denominator < twice then quotient + 1
  else quotient + quotient % 2

def scaled (numerator denominator : Nat) : Int → Nat × Nat
  | .ofNat exponent => (numerator, denominator * powerOfTwo exponent)
  | .negSucc exponent => (numerator * powerOfTwo (exponent + 1), denominator)

/-- The number nearest to a quotient of natural numbers. -/
def nearest (numerator denominator : Nat) : Magnitude :=
  if numerator = 0 then zero
  else
    let guess : Int := (numerator.log2 : Int) - denominator.log2 - 52
    let (top, bottom) := scaled numerator denominator guess
    let normal := if top / bottom < powerOfTwo 52 then guess - 1 else guess
    let exponent := max normal leastExponent
    let (top, bottom) := scaled numerator denominator exponent
    let significand := roundHalfEven top bottom
    let (significand, exponent) :=
      if significand = powerOfTwo 53 then (powerOfTwo 52, exponent + 1)
      else (significand, exponent)
    if greatestExponent < exponent then .infinite
    else .finite significand exponent

def ratio : Magnitude → Nat × Nat
  | .finite significand (.ofNat exponent) =>
      (significand * powerOfTwo exponent, 1)
  | .finite significand (.negSucc exponent) =>
      (significand, powerOfTwo (exponent + 1))
  | _ => (0, 1)

def isZero : Magnitude → Bool
  | .finite significand _ => significand = 0
  | _ => false

def timesPowerOfTen (magnitude : Magnitude) (power : Nat) : Magnitude :=
  let (top, bottom) := magnitude.ratio
  let (powerTop, powerBottom) := (nearest (powerOfTen power) 1).ratio
  nearest (top * powerTop) (bottom * powerBottom)

def overPowerOfTen (magnitude : Magnitude) (power : Nat) : Magnitude :=
  let (top, bottom) := magnitude.ratio
  let (powerTop, powerBottom) := (nearest (powerOfTen power) 1).ratio
  nearest (top * powerBottom) (bottom * powerTop)

def powerLimit : Nat := 308

def descend : Nat → Magnitude → Nat → Magnitude
  | 0, magnitude, _ => magnitude
  | fuel + 1, magnitude, power =>
    if power ≤ powerLimit then magnitude.overPowerOfTen power
    else if magnitude.isZero then magnitude
    else descend fuel (magnitude.overPowerOfTen powerLimit) (power - powerLimit)

/--
The value `significand * 10 ^ exponent`, found by rounding the significand
first and scaling it afterwards; none if it is too large.
-/
def ofScaled? (significand : Nat) (exponent : Int) : Option Magnitude :=
  let rounded := nearest significand 1
  match exponent with
  | .ofNat power =>
    if rounded.isZero then some rounded
    else if powerLimit < power then none
    else
      match rounded.timesPowerOfTen power with
      | .infinite => none
      | magnitude => some magnitude
  | .negSucc power => some (descend 4 rounded (power + 1))

/--
The number nearest to `digits * 10 ^ exponent`.  Exponents far beyond the range
of the numbers are decided without computing the power.
-/
def ofDecimal (digits : Nat) (exponent : Int) : Magnitude :=
  if digits = 0 then zero
  else
    match exponent with
    | .ofNat power => if 400 < power then .infinite
        else nearest (digits * powerOfTen power) 1
    | .negSucc power =>
      if 400 + digits.log2 < power then zero
      else nearest digits (powerOfTen (power + 1))

end Magnitude

namespace Binary64

def ofMagnitude (negative : Bool) (magnitude : Magnitude) : Binary64 :=
  ⟨negative, magnitude⟩

def isFinite (number : Binary64) : Bool :=
  match number.magnitude with
  | .finite _ _ => true
  | _ => false

end Binary64

end Signpost
