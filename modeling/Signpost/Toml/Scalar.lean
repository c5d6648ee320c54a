import Signpost.Toml.Value

/-!
# Scalars of TOML

Readers of the values that hold no others: strings in their four forms,
integers, floating-point numbers, truth values, dates and times.  A reader
takes as much of the text as belongs to its value and returns the rest.
-/

namespace Signpost.Toml

def isBlank (c : Char) : Bool := c = ' ' || c = '\t'

def skipBlanks (text : List Char) : List Char := text.dropWhile isBlank

def isTextChar (c : Char) : Bool := c = '\t' || (32 ≤ c.toNat && c.toNat != 127)

def lineEnd? : List Char → Option (List Char)
  | '\n' :: rest => some rest
  | '\r' :: '\n' :: rest => some rest
  | _ => none

def skipComment : List Char → List Char
  | '#' :: rest => rest.dropWhile isTextChar
  | text => text

def skipLineEnds : List Char → List Char
  | '\r' :: '\n' :: rest => skipLineEnds rest
  | c :: rest => if isBlank c || c = '\n' then skipLineEnds rest else c :: rest
  | [] => []

def hexValue? (c : Char) : Option Nat :=
  if c.isDigit then some (c.toNat - 48)
  else if 'a' ≤ c ∧ c ≤ 'f' then some (c.toNat - 87)
  else if 'A' ≤ c ∧ c ≤ 'F' then some (c.toNat - 55)
  else none

def hexEscape (count : Nat) (text : List Char) : Option (Char × List Char) := do
  let digits := text.take count
  let values ← digits.mapM hexValue?
  let value := values.foldl (fun value digit => value * 16 + digit) 0
  if values.length = count ∧ value.isValidChar then
    return (Char.ofNat value, text.drop count)
  else none

def escape : List Char → Option (Char × List Char)
  | 'b' :: rest => some ('\x08', rest)
  | 'f' :: rest => some ('\x0c', rest)
  | 'n' :: rest => some ('\n', rest)
  | 'r' :: rest => some ('\r', rest)
  | 't' :: rest => some ('\t', rest)
  | '\\' :: rest => some ('\\', rest)
  | '"' :: rest => some ('"', rest)
  | 'u' :: rest => hexEscape 4 rest
  | 'U' :: rest => hexEscape 8 rest
  | _ => none

def basicString : Nat → List Char → List Char → Option (String × List Char)
  | fuel + 1, read, c :: rest =>
    if c = '"' then some (String.ofList read.reverse, rest)
    else if c = '\\' then do
      let (c, rest) ← escape rest
      basicString fuel (c :: read) rest
    else if isTextChar c then basicString fuel (c :: read) rest
    else none
  | _, _, _ => none

def literalString (text : List Char) : Option (String × List Char) :=
  match text.dropWhile fun c => isTextChar c && c != '\'' with
  | '\'' :: rest =>
    some (String.ofList (text.takeWhile fun c => isTextChar c && c != '\''),
      rest)
  | _ => none

/--
The end of a string of several lines: three quotes, before which up to two more
belong to the string.
-/
def closing (quote : Char) (text : List Char) :
    Option (List Char × List Char) :=
  let quotes := (text.takeWhile (· = quote)).length
  if quotes < 3 then none
  else
    let inside := min (quotes - 3) 2
    some (List.replicate inside quote, text.drop (inside + 3))

def continuation? (text : List Char) : Option (List Char) :=
  (lineEnd? (skipBlanks text)).map skipLineEnds

/--
A string of several lines; `escapes` tells double quotes from single ones.
-/
def multilineString (quote : Char) (escapes : Bool) :
    Nat → List Char → List Char → Option (String × List Char)
  | 0, _, _ => none
  | fuel + 1, read, text =>
    match closing quote text with
    | some (quotes, rest) => some (String.ofList (read.reverse ++ quotes), rest)
    | none =>
      match lineEnd? text with
      | some rest => multilineString quote escapes fuel ('\n' :: read) rest
      | none =>
        match text with
        | [] => none
        | c :: rest =>
          if escapes && c = '\\' then
            match continuation? rest with
            | some rest => multilineString quote escapes fuel read rest
            | none => do
              let (c, rest) ← escape rest
              multilineString quote escapes fuel (c :: read) rest
          else if isTextChar c then multilineString quote escapes fuel
            (c :: read) rest
          else none

def openMultiline (text : List Char) : List Char := (lineEnd? text).getD text

def string? (text : List Char) : Option (String × List Char) :=
  let fuel := text.length + 1
  match text with
  | '"' :: '"' :: '"' :: rest =>
      multilineString '"' true fuel [] (openMultiline rest)
  | '\'' :: '\'' :: '\'' :: rest =>
      multilineString '\'' false fuel [] (openMultiline rest)
  | '"' :: rest => basicString fuel [] rest
  | '\'' :: rest => literalString rest
  | _ => none

def underscored (isDigit : Char → Bool) : List Char → List Char × List Char
  | '_' :: c :: rest =>
    if isDigit c then
      let (digits, rest) := underscored isDigit rest
      (c :: digits, rest)
    else ([], '_' :: c :: rest)
  | c :: rest =>
    if isDigit c then
      let (digits, rest) := underscored isDigit rest
      (c :: digits, rest)
    else ([], c :: rest)
  | [] => ([], [])

def digits? (isDigit : Char → Bool) : List Char → Option (List Char × List Char)
  | c :: rest =>
    if isDigit c then
      let (digits, rest) := underscored isDigit rest
      some (c :: digits, rest)
    else none
  | [] => none

def numberOf (base : Nat) (digits : List Char) : Nat :=
  digits.foldl (fun value c => value * base + (hexValue? c).getD 0) 0

def sign : List Char → Bool × List Char
  | '+' :: rest => (false, rest)
  | '-' :: rest => (true, rest)
  | text => (false, text)

def wholePart : List Char → Option (List Char × List Char)
  | '0' :: rest => some (['0'], rest)
  | text => digits? Char.isDigit text

def withinInteger (value : Int) : Option Toml :=
  if -(powerOfTwo 63 : Int) ≤ value ∧
  value < (powerOfTwo 63 : Int) then some (.integer value)
  else none

def radixInteger (base : Nat) (isDigit : Char → Bool) (text : List Char) :
    Option (Toml × List Char) := do
  let (digits, rest) ← digits? isDigit text
  return (← withinInteger (numberOf base digits), rest)

def integer? (text : List Char) : Option (Toml × List Char) :=
  match text with
  | '0' :: 'x' :: rest => radixInteger 16 (fun c => (hexValue? c).isSome) rest
  | '0' :: 'o' :: rest => radixInteger 8 (fun c => '0' ≤ c && c ≤ '7') rest
  | '0' :: 'b' :: rest => radixInteger 2 (fun c => c = '0' || c = '1') rest
  | text => do
    let (negative, rest) := sign text
    let (digits, rest) ← wholePart rest
    let value : Int := numberOf 10 digits
    return (← withinInteger (if negative then -value else value), rest)

def fraction? : List Char → Option (List Char × List Char)
  | '.' :: rest => digits? Char.isDigit rest
  | _ => none

def exponent? : List Char → Option (Int × List Char)
  | c :: rest =>
    if c = 'e' ∨ c = 'E' then do
      let (negative, rest) := sign rest
      let (digits, rest) ← digits? Char.isDigit rest
      let value : Int := numberOf 10 digits
      return (if negative then -value else value, rest)
    else none
  | [] => none

/-- A decimal as a float; one too large is refused if it is positive. -/
def decimalFloat (negative : Bool) (digits : List Char)
    (exponent : Int) : Option Toml :=
  let magnitude := Magnitude.ofDecimal (numberOf 10 digits) exponent
  if magnitude = .infinite ∧ !negative then none
  else some (.float (.ofMagnitude negative magnitude))

def specialFloat (negative : Bool) : List Char → Option (Toml × List Char)
  | 'i' :: 'n' :: 'f' :: rest => some (.float ⟨negative, .infinite⟩, rest)
  | 'n' :: 'a' :: 'n' :: rest => some (.float ⟨negative, .notANumber⟩, rest)
  | _ => none

def float? (text : List Char) : Option (Toml × List Char) :=
  let (negative, text) := sign text
  match wholePart text with
  | none => specialFloat negative text
  | some (whole, rest) =>
    match fraction? rest with
    | some (fraction, rest) =>
      let (exponent, rest) := (exponent? rest).getD (0, rest)
      (decimalFloat negative (whole ++ fraction)
        (exponent - fraction.length)).map (·, rest)
    | none =>
      match exponent? rest with
      | some (exponent, rest) =>
          (decimalFloat negative whole exponent).map (·, rest)
      | none => none

def fixed (count : Nat) (text : List Char) : Option (Nat × List Char) :=
  let digits := text.take count
  if digits.length = count ∧ digits.all Char.isDigit then
    some (numberOf 10 digits, text.drop count)
  else none

def sep (mark : Char) : List Char → Option (List Char)
  | c :: rest => if c = mark then some rest else none
  | [] => none

def daysIn (year month : Nat) : Nat :=
  if month = 2 then
    if year % 4 = 0 ∧ (year % 100 ≠ 0 ∨ year % 400 = 0) then 29 else 28
  else if month = 4 ∨ month = 6 ∨ month = 9 ∨ month = 11 then 30
  else 31

def day? (text : List Char) : Option (List Char) := do
  let (year, rest) ← fixed 4 text
  let (month, rest) ← fixed 2 (← sep '-' rest)
  let (day, rest) ← fixed 2 (← sep '-' rest)
  if 1 ≤ month ∧ month ≤ 12 ∧ 1 ≤ day ∧ day ≤ daysIn year month then return rest
  else none

def secondFraction (text : List Char) : List Char :=
  match text with
  | '.' :: rest =>
    match rest.dropWhile Char.isDigit with
    | after => if after.length < rest.length then after else text
  | _ => text

def time? (text : List Char) : Option (List Char) := do
  let (hour, rest) ← fixed 2 text
  let (minute, rest) ← fixed 2 (← sep ':' rest)
  let (second, rest) ← fixed 2 (← sep ':' rest)
  if hour ≤ 23 ∧ minute ≤ 59 ∧ second ≤ 60 then return secondFraction rest
  else none

def offset? : List Char → Option (List Char)
  | 'Z' :: rest | 'z' :: rest => some rest
  | '+' :: rest | '-' :: rest => do
    let (hour, rest) ← fixed 2 rest
    let (minute, rest) ← fixed 2 (← sep ':' rest)
    if hour ≤ 23 ∧ minute ≤ 59 then return rest else none
  | _ => none

def dayTime (text : List Char) : List Char :=
  match text with
  | c :: rest =>
    if c = 'T' ∨ c = 't' ∨ c = ' ' then
      match time? rest with
      | none => text
      | some rest => (offset? rest).getD rest
    else text
  | [] => text

def date? (text : List Char) : Option (Toml × List Char) :=
  match day? text with
  | some rest => some (.date, dayTime rest)
  | none => (time? text).map fun rest => (.date, rest)

def word (word : List Char) (value : Toml) (text : List Char) :
    Option (Toml × List Char) :=
  if word.isPrefixOf text then some (value, text.drop word.length) else none

def scalar? (text : List Char) : Option (Toml × List Char) :=
  match text with
  | [] => none
  | c :: _ =>
    if c = '"' ∨ c = '\'' then
      (string? text).map fun (text, rest) => (.string text, rest)
    else if c = 't' then word ['t', 'r', 'u', 'e'] (.bool true) text
    else if c = 'f' then word ['f', 'a', 'l', 's', 'e'] (.bool false) text
    else
      match date? text with
      | some found => some found
      | none =>
        match float? text with
        | some found => some found
        | none => integer? text

end Signpost.Toml
