/-!
# Syntax trees of regular expressions

The tree keeps what the notation says and nothing of what it means: flags are
items of the tree, classes are expressions, counted repetitions keep their
bounds.  Sequences and alternatives are chains that grow to the right of
`concat` and `alternation`, one item at a time.
-/

namespace Signpost.Regex

inductive Flag where
  | caseInsensitive
  | multiLine
  | dotMatchesNewline
  | swapGreed
  | unicode
  | crlf
  | ignoreWhitespace
  deriving DecidableEq, Repr

def Flag.ofChar? : Char → Option Flag
  | 'i' => some .caseInsensitive
  | 'm' => some .multiLine
  | 's' => some .dotMatchesNewline
  | 'U' => some .swapGreed
  | 'u' => some .unicode
  | 'R' => some .crlf
  | 'x' => some .ignoreWhitespace
  | _ => none

abbrev FlagChanges := List (Flag × Bool)

def FlagChanges.value? (changes : FlagChanges) (flag : Flag) : Option Bool :=
  (changes.find? fun change => change.1 = flag).map Prod.snd

/-- A character of the text; `byte` marks the two-digit form `\xHH`. -/
structure Literal where
  char : Char
  byte : Bool := false
  deriving DecidableEq, Repr

inductive PosixClass where
  | alnum | alpha | ascii | blank | cntrl | digit | graph
  | lower | print | punct | space | upper | word | xdigit
  deriving DecidableEq, Repr

def PosixClass.ofName? (name : List Char) : Option PosixClass :=
  match String.ofList name with
  | "alnum" => some .alnum
  | "alpha" => some .alpha
  | "ascii" => some .ascii
  | "blank" => some .blank
  | "cntrl" => some .cntrl
  | "digit" => some .digit
  | "graph" => some .graph
  | "lower" => some .lower
  | "print" => some .print
  | "punct" => some .punct
  | "space" => some .space
  | "upper" => some .upper
  | "word" => some .word
  | "xdigit" => some .xdigit
  | _ => none

inductive LetterClass where
  | digit | space | word
  deriving DecidableEq, Repr

inductive PropertyQuery where
  | name (name : List Char)
  | value (property value : List Char)
  deriving DecidableEq, Repr

inductive SetOp where
  | intersection | difference | symmetricDifference
  deriving DecidableEq, Repr

inductive ClassExpr where
  | empty
  | literal (literal : Literal)
  | range (first last : Literal)
  | posix (kind : PosixClass) (negated : Bool)
  | letter (kind : LetterClass) (negated : Bool)
  | property (query : PropertyQuery) (negated : Bool)
  | bracketed (negated : Bool) (inner : ClassExpr)
  | union (items item : ClassExpr)
  | binary (op : SetOp) (left right : ClassExpr)
  deriving DecidableEq, Repr

inductive Assertion where
  | startLine | endLine | startText | endText
  | wordBoundary | notWordBoundary
  | wordStart | wordEnd | wordStartHalf | wordEndHalf
  deriving DecidableEq, Repr

structure Bounds where
  least : Nat
  most : Option Nat
  deriving DecidableEq, Repr

inductive GroupKind where
  | capture (index : Nat) (name : Option (List Char))
  | flagged (changes : FlagChanges)
  deriving DecidableEq, Repr

inductive Ast where
  | empty
  | flags (changes : FlagChanges)
  | literal (literal : Literal)
  | dot
  | assertion (kind : Assertion)
  | letter (kind : LetterClass) (negated : Bool)
  | property (query : PropertyQuery) (negated : Bool)
  | bracketed (negated : Bool) (inner : ClassExpr)
  | repetition (operand : Ast) (bounds : Bounds) (greedy : Bool)
  | group (kind : GroupKind) (inner : Ast)
  | concat (items item : Ast)
  | alternation (branches branch : Ast)
  deriving DecidableEq, Repr

def Ast.ofItems : List Ast → Ast
  | [] => .empty
  | [item] => item
  | item :: earlier => .concat (Ast.ofItems earlier) item

def Ast.ofBranches : List Ast → Ast
  | [] => .empty
  | [branch] => branch
  | branch :: earlier => .alternation (Ast.ofBranches earlier) branch

def ClassExpr.ofItems : List ClassExpr → ClassExpr
  | [] => .empty
  | [item] => item
  | item :: earlier => .union (ClassExpr.ofItems earlier) item

namespace ClassExpr

/--
Nesting depth; `inUnion` says that the expression continues a chain already
counted.
-/
def depthFrom (inUnion : Bool) : ClassExpr → Nat
  | bracketed _ inner => inner.depthFrom false + 1
  | union items item =>
    max (items.depthFrom true) (item.depthFrom false) + if inUnion then 0 else 1
  | binary _ left right =>
      max (left.depthFrom false) (right.depthFrom false) + 1
  | _ => 0

def depth (expr : ClassExpr) : Nat := expr.depthFrom false

end ClassExpr

namespace Ast

inductive Chain where
  | none | concat | alternation
  deriving DecidableEq, Repr

def depthFrom (chain : Chain) : Ast → Nat
  | bracketed _ inner => inner.depth + 1
  | repetition operand _ _ => operand.depthFrom .none + 1
  | group _ inner => inner.depthFrom .none + 1
  | concat items item =>
    max (items.depthFrom .concat) (item.depthFrom .none) +
      if chain = .concat then 0 else 1
  | alternation branches branch =>
    max (branches.depthFrom .alternation) (branch.depthFrom .none) +
      if chain = .alternation then 0 else 1
  | _ => 0

def depth (ast : Ast) : Nat := ast.depthFrom .none

end Ast

end Signpost.Regex
