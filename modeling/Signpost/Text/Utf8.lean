/-!
# UTF-8

Characters as bytes and back.  Reading is lenient: every longest stretch of
bytes that begins like a character and is cut short, and every byte that can
begin none, is read as one replacement character.
-/

namespace Signpost.Utf8

def byte (value : Nat) : UInt8 := UInt8.ofNat value

def tailByte (code place : Nat) : UInt8 := byte (0x80 + code / place % 64)

def encodeChar (c : Char) : List UInt8 :=
  let code := c.toNat
  if code < 0x80 then [byte code]
  else if code < 0x800 then [byte (0xC0 + code / 64), tailByte code 1]
  else if code < 0x10000 then
    [byte (0xE0 + code / 4096), tailByte code 64, tailByte code 1]
  else
    [byte (0xF0 + code / 262144), tailByte code 4096,
      tailByte code 64, tailByte code 1]

def encode (text : List Char) : List UInt8 := text.flatMap encodeChar

def width (text : List Char) : Nat := (encode text).length

/--
A character of which some bytes have been read: how many are to come, the
bounds of the next one, and the bits read so far.
-/
structure Partial where
  missing : Nat
  low : Nat := 0x80
  high : Nat := 0xBF
  code : Nat
  deriving DecidableEq, Repr

def replacement : Char := '\ufffd'

def lead (value : Nat) : Except Char Partial :=
  if value < 0x80 then .error (Char.ofNat value)
  else if value < 0xC2 then .error replacement
  else if value < 0xE0 then .ok { missing := 1, code := value - 0xC0 }
  else if value = 0xE0 then .ok { missing := 2, low := 0xA0, code := 0 }
  else if value = 0xED then .ok { missing := 2, high := 0x9F, code := 0xD }
  else if value < 0xF0 then .ok { missing := 2, code := value - 0xE0 }
  else if value = 0xF0 then .ok { missing := 3, low := 0x90, code := 0 }
  else if value < 0xF4 then .ok { missing := 3, code := value - 0xF0 }
  else if value = 0xF4 then .ok { missing := 3, high := 0x8F, code := 4 }
  else .error replacement

def decodeFrom : Option Partial → List UInt8 → List Char
  | none, [] => []
  | some _, [] => [replacement]
  | some pending, b :: rest =>
    if pending.low ≤ b.toNat ∧ b.toNat ≤ pending.high then
      let code := pending.code * 64 + b.toNat % 64
      if pending.missing = 1 then Char.ofNat code :: decodeFrom none rest
      else decodeFrom (some { missing := pending.missing - 1, code }) rest
    else
      match lead b.toNat with
      | .error c => replacement :: c :: decodeFrom none rest
      | .ok opened => replacement :: decodeFrom (some opened) rest
  | none, b :: rest =>
    match lead b.toNat with
    | .error c => c :: decodeFrom none rest
    | .ok opened => decodeFrom (some opened) rest

def decodeLossy (bytes : List UInt8) : List Char := decodeFrom none bytes

def decode? (bytes : List UInt8) : Option (List Char) :=
  let text := decodeLossy bytes
  if encode text = bytes then some text else none

/-- The text behind the first `count` bytes, if a character begins there. -/
def dropBytes? (count : Nat) : List Char → Option (List Char)
  | [] => if count = 0 then some [] else none
  | c :: rest =>
    if count = 0 then some (c :: rest)
    else
      let size := (encodeChar c).length
      if size ≤ count then dropBytes? (count - size) rest else none

end Signpost.Utf8
