import Signpost.Number.Binary64

/-!
# Reading floating-point numbers

A number is written as digits with a point among them or not, with or without a
sign and an exponent; infinities and the undefined number have names.  The
nearest floating-point number is the one that is read.
-/

namespace Signpost.Binary64

def digitsValue (digits : List Char) : Nat :=
  digits.foldl (fun value c => value * 10 + (c.toNat - 48)) 0

def splitSign : List Char → Bool × List Char
  | '-' :: rest => (true, rest)
  | '+' :: rest => (false, rest)
  | text => (false, text)

def named? (text : List Char) : Option Magnitude :=
  match String.ofList (text.map Char.toLower) with
  | "inf" | "infinity" => some .infinite
  | "nan" => some .notANumber
  | _ => none

def exponentPart : List Char → Option Int
  | [] => some 0
  | c :: rest =>
    if c = 'e' ∨ c = 'E' then
      let (negative, digits) := splitSign rest
      if digits ≠ [] ∧ digits.all Char.isDigit then
        some (if negative then -(digitsValue digits : Int)
          else digitsValue digits)
      else none
    else none

def decimal? (text : List Char) : Option Magnitude := do
  let whole := text.takeWhile Char.isDigit
  let rest := text.dropWhile Char.isDigit
  let (fraction, rest) :=
    match rest with
    | '.' :: rest => (rest.takeWhile Char.isDigit, rest.dropWhile Char.isDigit)
    | rest => ([], rest)
  if whole = [] ∧ fraction = [] then none
  else
    let exponent ← exponentPart rest
    return .ofDecimal (digitsValue (whole ++ fraction))
      (exponent - fraction.length)

def ofText? (text : String) : Option Binary64 :=
  let (negative, text) := splitSign text.toList
  ((named? text).orElse fun _ => decimal? text).map (.ofMagnitude negative)

end Signpost.Binary64
