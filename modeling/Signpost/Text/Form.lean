import Signpost.Text.Utf8

/-!
# Form data

Form data is a sequence of pairs between `&` signs, each a name and a value
with `=` between them.  In both, `+` stands for a blank and `%` with two
hexadecimal digits for a byte.
-/

namespace Signpost.Form

def ampersand : UInt8 := 38
def equalsSign : UInt8 := 61
def plus : UInt8 := 43
def percent : UInt8 := 37
def blank : UInt8 := 32

def hexValue? (b : UInt8) : Option Nat :=
  let value := b.toNat
  if 48 ≤ value ∧ value ≤ 57 then some (value - 48)
  else if 97 ≤ value ∧ value ≤ 102 then some (value - 87)
  else if 65 ≤ value ∧ value ≤ 70 then some (value - 55)
  else none

def plusToBlank (b : UInt8) : UInt8 := if b = plus then blank else b

/--
Replaces every `%XX` by its byte; a `%` without two digits stands for itself.
-/
def percentDecode : List UInt8 → List UInt8
  | [] => []
  | a :: b :: c :: rest =>
    if a = percent then
      match hexValue? b, hexValue? c with
      | some high, some low =>
          UInt8.ofNat (high * 16 + low) :: percentDecode rest
      | _, _ => a :: percentDecode (b :: c :: rest)
    else a :: percentDecode (b :: c :: rest)
  | a :: rest => a :: percentDecode rest

def decode (bytes : List UInt8) : List Char :=
  Utf8.decodeLossy (percentDecode (bytes.map plusToBlank))

def sequences : List UInt8 → List (List UInt8)
  | [] => [[]]
  | b :: rest =>
    if b = ampersand then [] :: sequences rest
    else
      match sequences rest with
      | [] => [[b]]
      | first :: more => (b :: first) :: more

def pair (sequence : List UInt8) : List Char × List Char :=
  (decode (sequence.takeWhile (· != equalsSign)),
    decode (sequence.dropWhile (· != equalsSign)).tail)

def pairs (bytes : List UInt8) : List (List Char × List Char) :=
  ((sequences bytes).filter fun sequence => sequence != []).map pair

end Signpost.Form
