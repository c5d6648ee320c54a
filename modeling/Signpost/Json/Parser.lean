import Signpost.Json.Value

/-!
# Reading JSON

A text is one value with blanks around it.  What is not JSON, what nests deeper
than `depthLimit`, and numbers too large for a floating-point number give none.
-/

namespace Signpost.Json

def isBlank (c : Char) : Bool := c = ' ' || c = '\n' || c = '\t' || c = '\r'

def skipBlanks (text : List Char) : List Char := text.dropWhile isBlank

structure Numeral where
  negative : Bool
  whole : List Char
  fraction : Option (List Char)
  /-- Whether the exponent is negative, and its digits. -/
  power : Option (Bool × List Char)
  deriving DecidableEq, Repr

def digitValue (c : Char) : Nat := c.toNat - 48

def numberOf (digits : List Char) : Nat :=
  digits.foldl (fun value c => value * 10 + digitValue c) 0

/--
Adds digits to a significand while it fits a word, and counts the digits left
out.
-/
def significandOf (significand : Nat) : List Char → Nat × Nat
  | [] => (significand, 0)
  | c :: rest =>
    let next := significand * 10 + digitValue c
    if next < wordLimit then significandOf next rest
    else (significand, rest.length + 1)

def Numeral.powerValue (numeral : Numeral) : Int :=
  match numeral.power with
  | none => 0
  | some (negative, digits) =>
    if negative then -(numberOf digits : Int) else (numberOf digits : Int)

def Numeral.double? (numeral : Numeral) : Option Binary64 :=
  let (whole, cut) := significandOf 0 numeral.whole
  let fraction := numeral.fraction.getD []
  let (significand, left) := significandOf whole fraction
  let exponent : Int :=
    (cut : Int) - ((fraction.length - left : Nat) : Int) + numeral.powerValue
  (Magnitude.ofScaled? significand exponent).map
    (Binary64.ofMagnitude numeral.negative)

/-- Integers within 64 bits stay integers, except for the negative zero. -/
def Numeral.value? (numeral : Numeral) : Option Json :=
  let whole := numberOf numeral.whole
  if numeral.fraction = none ∧ numeral.power = none ∧
      (if numeral.negative then 0 < whole ∧ whole ≤ signLimit
        else whole < wordLimit) then
    some (.integer (if numeral.negative then -(whole : Int) else whole))
  else numeral.double?.map .double

def fractionPart : List Char → Option (Option (List Char) × List Char)
  | '.' :: rest =>
    match rest.takeWhile Char.isDigit with
    | [] => none
    | digits => some (some digits, rest.dropWhile Char.isDigit)
  | text => some (none, text)

def powerDigits (negative : Bool) (text : List Char) :
    Option (Option (Bool × List Char) × List Char) :=
  match text.takeWhile Char.isDigit with
  | [] => none
  | digits => some (some (negative, digits), text.dropWhile Char.isDigit)

def powerPart : List Char → Option (Option (Bool × List Char) × List Char)
  | c :: rest =>
    if c = 'e' ∨ c = 'E' then
      match rest with
      | '+' :: rest => powerDigits false rest
      | '-' :: rest => powerDigits true rest
      | rest => powerDigits false rest
    else some (none, c :: rest)
  | [] => some (none, [])

def numeral (negative : Bool) (text : List Char) :
    Option (Numeral × List Char) := do
  let whole := text.takeWhile Char.isDigit
  let rest := text.dropWhile Char.isDigit
  if whole = [] ∨ (whole.head? = some '0' ∧ whole.length ≠ 1) then none
  else
    let (fraction, rest) ← fractionPart rest
    let (power, rest) ← powerPart rest
    return (⟨negative, whole, fraction, power⟩, rest)

def number (text : List Char) : Option (Json × List Char) := do
  let (written, rest) ←
    match text with
    | '-' :: rest => numeral true rest
    | text => numeral false text
  return (← written.value?, rest)

def hexValue? (c : Char) : Option Nat :=
  if c.isDigit then some (c.toNat - 48)
  else if 'a' ≤ c ∧ c ≤ 'f' then some (c.toNat - 87)
  else if 'A' ≤ c ∧ c ≤ 'F' then some (c.toNat - 55)
  else none

def unit? : List Char → Option (Nat × List Char)
  | a :: b :: c :: d :: rest => do
    return (((← hexValue? a) * 16 + (← hexValue? b)) * 256 +
      (← hexValue? c) * 16 + (← hexValue? d), rest)
  | _ => none

def unicodeEscape (text : List Char) : Option (Char × List Char) := do
  let (high, rest) ← unit? text
  if high < 0xD800 ∨ 0xDFFF < high then return (Char.ofNat high, rest)
  else if 0xDC00 ≤ high then none
  else
    match rest with
    | '\\' :: 'u' :: rest =>
      let (low, rest) ← unit? rest
      if 0xDC00 ≤ low ∧ low ≤ 0xDFFF then
        return (Char.ofNat (0x10000 + (high - 0xD800) * 0x400 + (low - 0xDC00)),
          rest)
      else none
    | _ => none

def escaped : List Char → Option (Char × List Char)
  | '"' :: rest => some ('"', rest)
  | '\\' :: rest => some ('\\', rest)
  | '/' :: rest => some ('/', rest)
  | 'b' :: rest => some ('\x08', rest)
  | 'f' :: rest => some ('\x0c', rest)
  | 'n' :: rest => some ('\n', rest)
  | 'r' :: rest => some ('\r', rest)
  | 't' :: rest => some ('\t', rest)
  | 'u' :: rest => unicodeEscape rest
  | _ => none

def stringBody : Nat → List Char → List Char → Option (List Char × List Char)
  | fuel + 1, read, c :: rest =>
    if c = '"' then some (read, rest)
    else if c = '\\' then do
      let (c, rest) ← escaped rest
      stringBody fuel (c :: read) rest
    else if c.toNat < 32 then none
    else stringBody fuel (c :: read) rest
  | _, _, _ => none

def string? (text : List Char) : Option (String × List Char) :=
  (stringBody (text.length + 1) [] text).map fun (read, rest) =>
    (String.ofList read.reverse, rest)

def depthLimit : Nat := 127

def literal (word : List Char) (value : Json) (text : List Char) :
    Option (Json × List Char) :=
  if word.isPrefixOf text then some (value, text.drop word.length) else none

mutual

/-- One value; `depth` is how many more arrays and objects may open. -/
def value : Nat → Nat → List Char → Option (Json × List Char)
  | 0, _, _ => none
  | fuel + 1, depth, text =>
    match skipBlanks text with
    | '"' :: rest => (string? rest).map fun (text, rest) => (.string text, rest)
    | '[' :: rest =>
      match depth with
      | 0 => none
      | depth + 1 =>
        match skipBlanks rest with
        | ']' :: rest => some (.array [], rest)
        | rest => (items fuel depth rest).map fun (items, rest) =>
            (.array items, rest)
    | '\x7b' :: rest =>
      match depth with
      | 0 => none
      | depth + 1 =>
        match skipBlanks rest with
        | '\x7d' :: rest => some (.object [], rest)
        | rest => (members fuel depth rest).map fun (members, rest) =>
            (ofMembers members, rest)
    | 't' :: rest => literal ['r', 'u', 'e'] (.bool true) rest
    | 'f' :: rest => literal ['a', 'l', 's', 'e'] (.bool false) rest
    | 'n' :: rest => literal ['u', 'l', 'l'] .null rest
    | text => number text

def items : Nat → Nat → List Char → Option (List Json × List Char)
  | 0, _, _ => none
  | fuel + 1, depth, text => do
    let (item, rest) ← value fuel depth text
    match skipBlanks rest with
    | ',' :: rest =>
      let (more, rest) ← items fuel depth rest
      return (item :: more, rest)
    | ']' :: rest => return ([item], rest)
    | _ => none

def members : Nat → Nat → List Char → Option (List (String × Json) × List Char)
  | 0, _, _ => none
  | fuel + 1, depth, text =>
    match skipBlanks text with
    | '"' :: rest => do
      let (key, rest) ← string? rest
      match skipBlanks rest with
      | ':' :: rest =>
        let (item, rest) ← value fuel depth rest
        match skipBlanks rest with
        | ',' :: rest =>
          let (more, rest) ← members fuel depth rest
          return ((key, item) :: more, rest)
        | '\x7d' :: rest => return ([(key, item)], rest)
        | _ => none
      | _ => none
    | _ => none

end

/-- The value that the whole text is. -/
def parse? (text : String) : Option Json := do
  let chars := text.toList
  let (read, rest) ← value (chars.length + 1) depthLimit chars
  if skipBlanks rest = [] then return read else none

end Signpost.Json
