import Signpost.Pattern.Compiled
import Signpost.Proofs.Regex.Words

/-!
# Shapes of patterns

A pattern that uses nothing of the notation of regular expressions outside of
its constraints is written from plain characters, tokens, optional groups and
wildcards.  Its shape is the tree of these; what the pattern means is said by
derivation, without any regular expression but those of the constraints.
-/

namespace Signpost

def specialChars : List Char :=
  ['\\', '.', '+', '*', '?', '(', ')', '|', '[', ']', '{', '}', '^', '$', '@']

abbrev PlainChar := { c : Char // c ∉ specialChars }

theorem PlainChar.ne {c d : Char} (hc : c ∉ specialChars)
    (hd : d ∈ specialChars) : c ≠ d :=
  fun heq => hc (heq ▸ hd)

/-- A constraint that is a regular expression of its own, without assertions. -/
structure Constraint (insensitive : Bool) where
  text : List Char
  regex : Regex
  compiles : Regex.compile text insensitive = .ok regex
  lookFree : regex.node.lookFree

inductive Shape (insensitive : Bool) where
  | done
  | plain (c : PlainChar) (next : Shape insensitive)
  | token (name : List Char) (constraint : Option (Constraint insensitive))
      (next : Shape insensitive)
  | wildcard (next : Shape insensitive)
  | optional (inner next : Shape insensitive)

namespace Shape

variable {insensitive : Bool}

def tokenOf (name : List Char) (constraint : Option (Constraint insensitive)) :
    Token :=
  ⟨name, constraint.map Constraint.text⟩

def text : Shape insensitive → List Char
  | done => []
  | plain c next => c.val :: next.text
  | token name constraint next => (tokenOf name constraint).text ++ next.text
  | wildcard next => '/' :: '*' :: next.text
  | optional inner next => '(' :: inner.text ++ ')' :: next.text

def tokens : Shape insensitive → List Token
  | done => []
  | plain _ next | wildcard next => next.tokens
  | token name constraint next => tokenOf name constraint :: next.tokens
  | optional inner next => inner.tokens ++ next.tokens

/-- The characters that a plain character of a pattern stands for. -/
def Stands (insensitive : Bool) (c d : Char) : Prop :=
  d = c ∨ insensitive ∧ c ∈ Unicode.CaseOrbit.companions d

/-- The texts that a token can be filled with. -/
def Fills : Option (Constraint insensitive) → List Char → Prop
  | none, filling => filling ≠ [] ∧ '/' ∉ filling ∧ '?' ∉ filling
  | some constraint, filling => constraint.regex.node.matchesWhole filling

/--
The texts derived from a shape, with a value for every token: what it is filled
with, or nothing where the group around it is left out.
-/
inductive Derives :
    Shape insensitive → List Char → List (Option (List Char)) → Prop
  | done : Derives done [] []
  | plain {c : PlainChar} {d next word values} :
      Stands insensitive c d → Derives next word values →
      Derives (plain c next) (d :: word) values
  | token {name constraint filling next word values} :
      Fills constraint filling → Derives next word values →
      Derives (token name constraint next) (filling ++ word)
        (some filling :: values)
  | nothing {next word values} :
      Derives next word values → Derives (wildcard next) word values
  | remainder {next rest word values} :
      '\n' ∉ rest → Derives next word values →
      Derives (wildcard next) ('/' :: rest ++ word) values
  | kept {inner next first second values values'} :
      Derives inner first values → Derives next second values' →
      Derives (optional inner next) (first ++ second) (values ++ values')
  | skipped {inner next word values} :
      Derives next word values →
      Derives (optional inner next) word
        (inner.tokens.map (fun _ => none) ++ values)

/-- One slash more or, where the pattern ends in one, that slash less. -/
def Yields (shape : Shape insensitive) (body : List Char)
    (values : List (Option (List Char))) : Prop :=
  shape.Derives body values ∨
    if shape.text.getLast? = some '/' then shape.Derives (body ++ ['/']) values
    else ∃ word, body = word ++ ['/'] ∧ shape.Derives word values

/-- What may follow behind the path proper. -/
def IsQuery (query : List Char) : Prop :=
  query = [] ∨ ∃ rest, query = '?' :: rest ∧ '\n' ∉ rest

theorem Derives.length {shape : Shape insensitive} {word values}
    (h : shape.Derives word values) : values.length = shape.tokens.length := by
  induction h with
  | done => rfl
  | plain _ _ ih => exact ih
  | token _ _ ih => simp [tokens, ih]
  | nothing _ ih => exact ih
  | remainder _ _ ih => exact ih
  | kept _ _ ihinner ihnext => simp [tokens, ihinner, ihnext]
  | skipped _ ih => simp [tokens, ih]

def append : Shape insensitive → Shape insensitive → Shape insensitive
  | done, after => after
  | plain c next, after => plain c (next.append after)
  | token name constraint next, after =>
    token name constraint (next.append after)
  | wildcard next, after => wildcard (next.append after)
  | optional inner next, after => optional inner (next.append after)

end Shape

end Signpost
