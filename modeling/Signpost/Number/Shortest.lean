import Signpost.Number.Binary64

/-!
# Shortest decimals

Of all decimals that read back as a number, the one with the fewest digits is
chosen, and of those the nearest.  The search tries one digit, then two, and
so on; on each grid only the two neighbours of the number can be nearest.
-/

namespace Signpost

structure Decimal where
  digits : Nat
  exponent : Int
  deriving DecidableEq, Repr

namespace Magnitude

structure Basin where
  low : Nat
  value : Nat
  high : Nat
  denominator : Nat
  closed : Bool
  deriving DecidableEq, Repr

/-- Below a power of two the next number is half as far as above it. -/
def basin (significand : Nat) (exponent : Int) : Basin :=
  let lower := if significand = powerOfTwo 52 ∧ leastExponent <
    exponent then 1 else 2
  let (unit, denominator) := (Magnitude.finite 1 exponent).ratio
  { low := (4 * significand - lower) * unit
    value := 4 * significand * unit
    high := (4 * significand + 2) * unit
    denominator := 4 * denominator
    closed := significand % 2 = 0 }

def Basin.holds (basin : Basin) (numerator denominator : Nat) : Bool :=
  let scaledLow := basin.low * denominator
  let scaledHigh := basin.high * denominator
  let scaled := numerator * basin.denominator
  if basin.closed then scaledLow ≤ scaled && scaled ≤ scaledHigh
  else scaledLow < scaled && scaled < scaledHigh

def digitCount (n : Nat) : Nat := (Nat.toDigits 10 n).length

def leadingExponent (numerator denominator : Nat) : Int :=
  if denominator ≤
    numerator then (digitCount (numerator / denominator) : Int) - 1
  else
    let guess := digitCount (denominator / numerator)
    if denominator ≤ numerator * powerOfTen (guess - 1) then 1 - (guess : Int)
    else -(guess : Int)

def Basin.onGrid (basin : Basin) (exponent : Int) : Option Decimal :=
  let (top, bottom) :=
    match exponent with
    | .ofNat power => (1, powerOfTen power)
    | .negSucc power => (powerOfTen (power + 1), 1)
  let below := basin.value * top / (basin.denominator * bottom)
  let above := below + 1
  let fits (digits : Nat) : Bool := basin.holds (digits * bottom) top
  let twice := 2 * (basin.value * top % (basin.denominator * bottom))
  match fits below, fits above with
  | false, false => none
  | true, false => some ⟨below, exponent⟩
  | false, true => some ⟨above, exponent⟩
  | true, true =>
    if twice < basin.denominator * bottom then some ⟨below, exponent⟩
    else if basin.denominator * bottom < twice then some ⟨above, exponent⟩
    else some ⟨if below % 2 = 0 then below else above, exponent⟩

def Basin.shortestFrom (basin : Basin) (exponent : Int) : Nat → Decimal
  | 0 => (basin.onGrid exponent).getD ⟨0, exponent⟩
  | fuel + 1 =>
    match basin.onGrid exponent with
    | some decimal => decimal
    | none => basin.shortestFrom (exponent - 1) fuel

def trimZeros : Nat → Decimal → Decimal
  | 0, decimal => decimal
  | fuel + 1, decimal =>
    if decimal.digits % 10 = 0 ∧ decimal.digits ≠ 0 then
      trimZeros fuel ⟨decimal.digits / 10, decimal.exponent + 1⟩
    else decimal

/--
The shortest decimal that reads back as the number; seventeen digits always do.
-/
def shortest (significand : Nat) (exponent : Int) : Decimal :=
  if significand = 0 then ⟨0, 0⟩
  else
    let basin := basin significand exponent
    let leading := leadingExponent basin.value basin.denominator
    trimZeros 20 (basin.shortestFrom leading 17)

end Magnitude

namespace Decimal

def leading (decimal : Decimal) : Int :=
  decimal.exponent + (Magnitude.digitCount decimal.digits : Int) - 1

def digitChars (decimal : Decimal) : List Char := Nat.toDigits 10 decimal.digits

def positional (decimal : Decimal) : List Char :=
  let digits := decimal.digitChars
  match decimal.exponent with
  | .ofNat zeros => digits ++ List.replicate zeros '0' ++ ['.', '0']
  | .negSucc places =>
    let places := places + 1
    if places < digits.length then
      let whole := digits.length - places
      digits.take whole ++ '.' :: digits.drop whole
    else '0' :: '.' :: List.replicate (places - digits.length) '0' ++ digits

def scientific (decimal : Decimal) : List Char :=
  let exponent := decimal.leading
  let sign := if exponent < 0 then '-' else '+'
  let power := 'e' :: sign :: Nat.toDigits 10 exponent.natAbs
  match decimal.digitChars with
  | [] => power
  | [digit] => digit :: power
  | digit :: more => digit :: '.' :: more ++ power

end Decimal

namespace Binary64

/--
The shortest text of a finite number: with all its digits in place if the first
one stands between `10 ^ -5` and `10 ^ 15`, else with an exponent.
-/
def text (number : Binary64) : List Char :=
  let sign := if number.negative then ['-'] else []
  match number.magnitude with
  | .finite significand exponent =>
    let decimal := Magnitude.shortest significand exponent
    if -5 ≤ decimal.leading ∧ decimal.leading ≤
      15 then sign ++ decimal.positional
    else sign ++ decimal.scientific
  | .infinite => sign ++ ['i', 'n', 'f']
  | .notANumber => ['N', 'a', 'N']

def positionalText (number : Binary64) : List Char :=
  let sign := if number.negative then ['-'] else []
  match number.magnitude with
  | .finite significand exponent =>
    sign ++ (Magnitude.shortest significand exponent).positional
  | _ => number.text

end Binary64

end Signpost
