import Signpost.Json.Value
import Signpost.Text.Form

/-!
# Values taken from a path

The values of a match: one for each token in the order of the pattern, absent
where the part with the token was left out, and the remainder that a wildcard
at the end of the pattern took.
-/

namespace Signpost

abbrev Param := Option String

structure Params where
  named : List (String × Param) := []
  splat : Option String := none
  deriving DecidableEq, Repr

namespace Params

def get? (params : Params) (name : String) : Option String :=
  (params.named.find? fun entry => entry.1 = name).bind Prod.snd

def contains (params : Params) (name : String) : Bool :=
  params.named.any fun entry => entry.1 = name

def values (params : Params) : List Param :=
  params.named.map Prod.snd ++
    match params.splat with
    | none => []
    | some rest => [some rest]

def size (params : Params) : Nat :=
  params.named.length + if params.splat.isSome then 1 else 0

def isEmpty (params : Params) : Bool := params.size = 0

/-- The values as an object, the remainder under `*`. -/
def toJson (params : Params) : Json :=
  .ofMembers
    (params.named.map (fun entry => (entry.1, Json.optional entry.2)) ++
    match params.splat with
    | none => []
    | some rest => [("*", .string rest)])

end Params

def hideSeparators (raw : List Char) : List Char :=
  raw.flatMap fun c =>
    if c = '&' then ['%', '2', '6'] else if c = '=' then ['%', '3', 'D']
    else [c]

/--
Decodes a segment of a path: the name of the first pair that it is as form data.
-/
def decodeSegment (raw : List Char) : List Char :=
  match Form.pairs (Utf8.encode (hideSeparators raw)) with
  | [] => []
  | (name, _) :: _ => name

end Signpost
