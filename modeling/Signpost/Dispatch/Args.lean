import Signpost.Pattern.Params

/-!
# Arguments

The values of a match reach a handler one by one while they are few, and as a
whole when they are more than `spreadLimit`.
-/

namespace Signpost

inductive Args where
  | spread (values : List Param)
  | packed (values : List Param)
  deriving DecidableEq, Repr

namespace Args

def spreadLimit : Nat := 5

def ofValues (values : List Param) : Args :=
  if spreadLimit < values.length then packed values else spread values

def isPacked : Args → Bool
  | spread _ => false
  | packed _ => true

def values : Args → List Param
  | spread values | packed values => values

def size (args : Args) : Nat := args.values.length

def isEmpty (args : Args) : Bool := args.size = 0

def value? (values : List Param) (index : Nat) : Option String :=
  values[index]?.join

end Args

end Signpost
