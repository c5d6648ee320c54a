import Signpost.Json.Printer
import Signpost.Pattern.Template

/-!
# Building paths

A path is built from a pattern by putting values in the places of its tokens,
first to first.  Values that are left over go where stars stand, with slashes
between them.
-/

namespace Signpost

/-- A value as a part of a path: null and false are left out, true is 1. -/
def renderValue : Json → String
  | .null | .bool false => ""
  | .bool true => "1"
  | .string text => text
  | value => value.compact

def joinRest (values : List Json) : List Char :=
  ("/".intercalate (values.map renderValue)).toList

def fillStars (rest literal : List Char) : List Char :=
  literal.flatMap fun c => if c = '*' then rest else [c]

namespace Template

/-- Values in the places of the tokens, stars filled with the remainder. -/
def fillParts (rest : List Char) : List (Token × List Char) →
    List Json → List Char
  | [], _ | _, [] => []
  | (_, literal) :: parts, value :: values =>
    (renderValue value).toList ++ fillStars rest literal ++
      fillParts rest parts values

def fill (template : Template) (values : List Json) : List Char :=
  let rest := joinRest (values.drop template.parts.length)
  fillStars rest template.lead ++ fillParts rest template.parts values

end Template

structure BuildShortage where
  tokens : Nat
  values : Nat
  deriving DecidableEq, Repr

/--
The path of a pattern and values; a pattern without `@` and `*` is its own path.
-/
def buildPath (pattern : String) (values : List Json) :
    Except BuildShortage String :=
  let text := pattern.toList
  if !text.contains '*' && !text.contains '@' then .ok pattern
  else
    let template := Template.ofText text
    if values.length < template.parts.length then
      .error ⟨template.parts.length, values.length⟩
    else .ok (String.ofList (template.fill values))

end Signpost
