import Signpost.Pattern.Expression
import Signpost.Pattern.Params
import Signpost.Regex.Basic

/-!
# Compiled patterns

A pattern compiles to its regular expression.  Matching a path reads the named
groups for the tokens; the remainder behind a wildcard at the end is found by
counting slashes, as many in the path as the pattern has.
-/

namespace Signpost

structure PatternError where
  pattern : String
  cause : Regex.Error
  deriving DecidableEq, Repr

/--
The cause is given by its reason alone, without the expression it stands in.
-/
def PatternError.message (error : PatternError) : String :=
  "pattern `" ++ error.pattern ++ "` does not compile: " ++ error.cause.message

structure CompiledPattern where
  source : String
  caseSensitive : Bool
  regex : Regex
  names : List String
  /--
  The number of slashes before the remainder, if the pattern ends in a star.
  -/
  splatSeparators : Option Nat
  deriving DecidableEq, Repr

/--
The first place behind a byte where as many slashes have passed as asked for,
with those seen and the bytes passed so far.
-/
def afterSeparators (count : Nat) : Nat → Nat → List UInt8 → Option Nat
  | _, _, [] => none
  | seen, passed, b :: rest =>
    let seen := if b = Utf8.byte '/'.toNat then seen + 1 else seen
    if seen = count then some (passed + 1)
    else afterSeparators count seen (passed + 1) rest

def splatStart (path : List Char) (count : Nat) : Option Nat :=
  afterSeparators count 0 0 (Utf8.encode path)

/-- The remainder of a path, unless nothing is left. -/
def splatOf (path : List Char) (count : Nat) : Option String :=
  match (splatStart path count).bind fun start =>
    Utf8.dropBytes? start path with
  | none | some [] => none
  | some rest => some (String.ofList rest)

namespace CompiledPattern

def separators (pattern : List Char) : Option Nat :=
  if pattern.getLast? = some '*' then some (pattern.count '/') else none

def compile (pattern : String) (caseSensitive : Bool) :
    Except PatternError CompiledPattern :=
  let text := pattern.toList
  match Regex.compile (Template.anchored text) (!caseSensitive) with
  | .error cause => .error ⟨pattern, cause⟩
  | .ok regex =>
    .ok
      { source := pattern
        caseSensitive
        regex
        names := (Template.ofText text).tokens.map fun token =>
          String.ofList token.name
        splatSeparators := separators text }

def hasSplat (compiled : CompiledPattern) : Bool :=
  compiled.splatSeparators.isSome

def namedValues (compiled : CompiledPattern) (found : Regex.Spot) :
    List (String × Param) :=
  compiled.names.map fun name =>
    (name, (compiled.regex.group? found name.toList).map fun raw =>
      String.ofList (decodeSegment raw))

/-- The values taken from a path, if it matches. -/
def captures (compiled : CompiledPattern) (path : String) : Option Params :=
  (compiled.regex.search path.toList).map fun found =>
    { named := compiled.namedValues found
      splat := compiled.splatSeparators.bind (splatOf path.toList) }

end CompiledPattern

end Signpost
