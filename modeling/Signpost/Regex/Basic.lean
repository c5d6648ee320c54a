import Signpost.Regex.Elaborate
import Signpost.Regex.Parser

/-!
# Regular expressions

A text is compiled once and then searched for in other texts.  Compiling
checks the notation first, then the flags and names of properties, then the
size that the expression would take when spelled out.
-/

namespace Signpost

structure Regex where
  source : List Char
  node : Regex.Node
  names : List (List Char × Nat)
  deriving DecidableEq, Repr

namespace Regex

def stateSize : Nat := 32

/-- An estimate: beyond ASCII a set counts by the number of its ranges. -/
def CharSet.size (set : CharSet) : Nat :=
  if set.isAsciiOnly then stateSize + 8 * set.rangeBound
  else stateSize * 8 + 26 * set.rangeBound

/--
An estimate of the bytes that the expression takes when it is spelled out as an
automaton; the automaton itself is not built.
-/
def Node.size : Node → Nat
  | empty | look _ => stateSize
  | one set => set.size
  | seq first second => first.size + second.size
  | alt first second => first.size + second.size + 2 * stateSize
  | loop body least most _ =>
    match most with
    | some most => body.size * least + (body.size + stateSize) *
        (most - least) + stateSize
    | none => body.size * max least 1 + 2 * stateSize
  | group _ body => body.size + 2 * stateSize

def sizeLimit : Nat := 10485760

def compile (source : List Char) (caseInsensitive : Bool) :
    Except Error Regex := do
  let ast ← parse source
  let (node, _) ← ast.elaborate { caseInsensitive }
  if node.size ≤ sizeLimit then return ⟨source, node, ast.groupNames⟩
  else .error (.sizeLimitExceeded sizeLimit)

def groupCount (regex : Regex) : Nat := regex.node.highestGroup + 1

def group? (regex : Regex) (found : Spot) (name : List Char) :
    Option (List Char) :=
  (regex.names.find? fun entry => entry.1 = name).bind fun entry =>
    found.group? entry.2

def search (regex : Regex) (text : List Char) : Option Spot :=
  regex.node.search text

end Regex

end Signpost
