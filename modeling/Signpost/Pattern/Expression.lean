import Signpost.Pattern.Template

/-!
# Patterns as regular expressions

Outside of tokens a parenthesised part of a pattern may be left out, and `/*`
stands for any remainder; all else is the text of a regular expression already.
A token becomes a named group around its constraint.  A slash at the end of the
path is optional, whether the pattern ends in one or not.
-/

namespace Signpost.Template

def segmentExpression : List Char := "[^/?]+".toList

/-- Nothing, a slash, or a slash and whatever follows. -/
def wildcardExpression : List Char := "(/?|/.*?)".toList

def optionalGroups (literal : List Char) : List Char :=
  literal.flatMap fun c => if c = ')' then [')', '?'] else [c]

def expandWildcards : List Char → List Char
  | '/' :: '*' :: rest => wildcardExpression ++ expandWildcards rest
  | c :: rest => c :: expandWildcards rest
  | [] => []

def literalExpression (literal : List Char) : List Char :=
  expandWildcards (optionalGroups literal)

def tokenExpression (token : Token) : List Char :=
  "(?P<".toList ++ token.name ++ '>' :: token.constraint.getD
    segmentExpression ++ [')']

def bodyExpression (template : Template) : List Char :=
  literalExpression template.lead ++
    template.parts.flatMap fun part =>
      tokenExpression part.1 ++ literalExpression part.2

/-- A pattern that ends in a slash has its last slash made optional. -/
def trailingSlash (pattern : List Char) : List Char :=
  if pattern.getLast? = some '/' then ['?'] else ['/', '?']

/-- The regular expression of a pattern, with neither end tied to the path. -/
def synthesize (pattern : List Char) : List Char :=
  (ofText pattern).bodyExpression ++ trailingSlash pattern

def anchored (pattern : List Char) : List Char :=
  '^' :: synthesize pattern ++ "(?:\\?.*)?$".toList

end Signpost.Template
