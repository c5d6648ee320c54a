import Signpost.Json.Value

/-!
# Results of handlers

A handler may answer with more than JSON can say.  `Datum` is what it may
answer, and `Datum.toJson` the JSON for it, if there is one: keys of maps are
turned to text where they can be, and integers beyond 64 bits are refused.
-/

namespace Signpost

inductive OutputFault where
  | keyNotText
  | numberOutOfRange
  deriving DecidableEq, Repr

def OutputFault.message : OutputFault → String
  | .keyNotText => "key must be a string"
  | .numberOutOfRange => "number out of range"

inductive DatumKey where
  | text (value : String)
  | integer (value : Int)
  | bool (value : Bool)
  | list (values : List Int)
  deriving DecidableEq, Repr

inductive Datum where
  | unit
  | bool (value : Bool)
  | integer (value : Int)
  | float (value : Binary64)
  | char (value : Char)
  | optional (value : Option String)
  | json (value : Json)
  | map (entries : List (DatumKey × Json))
  | unitVariant (name : String)
  | newtypeVariant (name : String) (value : Json)
  | tupleVariant (name : String) (values : List Json)
  | structVariant (name : String) (fields : List (String × Json))
  deriving Repr

def DatumKey.toText : DatumKey → Except OutputFault String
  | .text value => .ok value
  | .integer value => .ok (toString value)
  | .bool value => .ok (if value then "true" else "false")
  | .list _ => .error .keyNotText

def Datum.toJson : Datum → Except OutputFault Json
  | .unit => .ok .null
  | .bool value => .ok (.bool value)
  | .integer value =>
    if Json.fits value then .ok (.integer value) else .error .numberOutOfRange
  | .float value => .ok (.ofBinary64 value)
  | .char value => .ok (.string (String.singleton value))
  | .optional value => .ok (.optional value)
  | .json value => .ok value
  | .map entries => do
    let members ← entries.mapM fun (key, value) =>
        do return (← key.toText, value)
    return .ofMembers members
  | .unitVariant name => .ok (.string name)
  | .newtypeVariant name value => .ok (.ofMembers [(name, value)])
  | .tupleVariant name values => .ok (.ofMembers [(name, .array values)])
  | .structVariant name fields => .ok (.ofMembers [(name, .ofMembers fields)])

end Signpost
