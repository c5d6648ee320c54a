import Signpost.Text.Utf8

/-!
# Templates

A route pattern is text with tokens in it.  A token is `@` and a name of
letters, digits and underscores, and may go on with `:` and a constraint, which
reaches to the next slash or parenthesis.  A template is a pattern taken apart:
the text before the first token, and every token with the text behind it.
-/

namespace Signpost

structure Token where
  name : List Char
  constraint : Option (List Char) := none
  deriving DecidableEq, Repr

structure Template where
  lead : List Char := []
  parts : List (Token × List Char) := []
  deriving DecidableEq, Repr

def isNameChar (c : Char) : Bool := c.isAlphanum || c = '_'

def isConstraintChar (c : Char) : Bool := c != '/' && c != '(' && c != ')'

def startsName : List Char → Bool
  | [] => false
  | c :: _ => isNameChar c

def Token.text (token : Token) : List Char :=
  match token.constraint with
  | none => '@' :: token.name
  | some constraint => '@' :: token.name ++ ':' :: constraint

namespace Template

def tokens (template : Template) : List Token := template.parts.map Prod.fst

def literals (template : Template) : List (List Char) :=
  template.lead :: template.parts.map Prod.snd

def text (template : Template) : List Char :=
  template.lead ++ template.parts.flatMap fun part => part.1.text ++ part.2

def addChar (c : Char) (template : Template) : Template :=
  { template with lead := c :: template.lead }

def addToken (token : Token) (template : Template) : Template :=
  { lead := [], parts := (token, template.lead) :: template.parts }

/--
Where in a pattern the reading stands; names and constraints are kept latest
first.
-/
inductive ScanState where
  | literal
  | name (name : List Char)
  | constraint (name constraint : List Char)
  deriving DecidableEq, Repr

def scan : ScanState → List Char → Template
  | .literal, [] => {}
  | .literal, c :: rest =>
    if c = '@' ∧ startsName rest then scan (.name []) rest
    else addChar c (scan .literal rest)
  | .name name, [] => addToken ⟨name.reverse, none⟩ {}
  | .name name, c :: rest =>
    if isNameChar c then scan (.name (c :: name)) rest
    else if c = ':' then scan (.constraint name.reverse []) rest
    else if c = '@' ∧ startsName rest then
      addToken ⟨name.reverse, none⟩ (scan (.name []) rest)
    else addToken ⟨name.reverse, none⟩ (addChar c (scan .literal rest))
  | .constraint name constraint, [] =>
      addToken ⟨name, some constraint.reverse⟩ {}
  | .constraint name constraint, c :: rest =>
    if isConstraintChar c then scan (.constraint name (c :: constraint)) rest
    else addToken ⟨name, some constraint.reverse⟩
      (addChar c (scan .literal rest))

def ofText (pattern : List Char) : Template := scan .literal pattern

/--
Tokens with the bytes where they begin and end, the first part beginning at
`start`.
-/
def spansFrom (start : Nat) : List (Token × List Char) →
    List (Token × Nat × Nat)
  | [] => []
  | (token, literal) :: rest =>
    let stop := start + Utf8.width token.text
    (token, start, stop) :: spansFrom (stop + Utf8.width literal) rest

def spans (template : Template) : List (Token × Nat × Nat) :=
  spansFrom (Utf8.width template.lead) template.parts

end Template

end Signpost
