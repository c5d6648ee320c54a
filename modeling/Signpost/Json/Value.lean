import Signpost.Number.Binary64

/-!
# JSON values

Numbers are kept as they are written: an integer literal within 64 bits is an
integer, any other number a binary floating-point number.  The members of an
object stand in increasing order of their keys, which is the order of the keys'
UTF-8 bytes, and no key stands twice.
-/

namespace Signpost

inductive Json where
  | null
  | bool (value : Bool)
  | integer (value : Int)
  | double (value : Binary64)
  | string (value : String)
  | array (items : List Json)
  | object (members : List (String × Json))
  deriving Inhabited, BEq, Repr

namespace Json

def insertMember (key : String) (value : Json) :
    List (String × Json) → List (String × Json)
  | [] => [(key, value)]
  | member :: rest =>
    if key < member.1 then (key, value) :: member :: rest
    else if key = member.1 then (key, value) :: rest
    else member :: insertMember key value rest

/-- The object of the members listed; of those with one key the last counts. -/
def ofMembers (members : List (String × Json)) : Json :=
  .object
    (members.foldl
      (fun sorted member => insertMember member.1 member.2 sorted) [])

def optional : Option String → Json
  | none => .null
  | some text => .string text

def ofNat (value : Nat) : Json := .integer value

def wordLimit : Nat := powerOfTwo 64

def signLimit : Nat := powerOfTwo 63

/-- The integers that a value may hold: those of 64 bits, signed or unsigned. -/
def fits (value : Int) : Bool :=
  -(signLimit : Int) ≤ value && value < (wordLimit : Int)

def ofBinary64 (value : Binary64) : Json :=
  if value.isFinite then .double value else .null

def member? (key : String) : Json → Option Json
  | .object members => (members.find? fun member => member.1 = key).map Prod.snd
  | _ => none

end Json

end Signpost
