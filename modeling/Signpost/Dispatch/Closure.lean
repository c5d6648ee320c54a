import Signpost.Dispatch.Args
import Signpost.Dispatch.Output

/-!
# Closures

A closure takes a fixed number of values, all values as a whole, or the
arguments as they come.  What it answers may depend on the calls it has had
before, which are all the state it has; a call that is refused is none.
-/

namespace Signpost

inductive HandlerError where
  | unknownClass (className : String)
  | unknownMethod (className method : String)
  | tooFewArguments (expected received : Nat)
  | unexpectedPacked (received : Nat)
  | unexpectedSpread (received : Nat)
  | output (fault : OutputFault)
  deriving DecidableEq, Repr

def HandlerError.message : HandlerError → String
  | .unknownClass className => "class `" ++ className ++ "` is not registered"
  | .unknownMethod className method =>
    "class `" ++ className ++ "` has no method `" ++ method ++ "`"
  | .tooFewArguments expected received =>
    "handler takes " ++ toString expected ++ " arguments, " ++
      toString received ++ " given"
  | .unexpectedPacked received =>
    "handler takes discrete arguments, " ++ toString received ++
      " values were packed"
  | .unexpectedSpread received =>
    "handler takes packed arguments, " ++ toString received ++
      " values were spread"
  | .output fault => "handler output is not representable: " ++ fault.message

/-- How a closure takes its arguments. -/
inductive Convention where
  | discrete (arity : Nat)
  | packed
  | whole
  deriving DecidableEq, Repr

/--
What a closure gets to see of its arguments.  Values beyond the arity are left
out; packed values are refused unless no value is wanted.
-/
def Convention.accept : Convention → Args → Except HandlerError Args
  | .discrete arity, .spread values =>
    if arity ≤ values.length then .ok (.spread (values.take arity))
    else .error (.tooFewArguments arity values.length)
  | .discrete 0, .packed _ => .ok (.spread [])
  | .discrete _, .packed values => .error (.unexpectedPacked values.length)
  | .packed, .packed values => .ok (.packed values)
  | .packed, .spread values => .error (.unexpectedSpread values.length)
  | .whole, args => .ok args

structure Closure where
  convention : Convention
  /-- The answer to a call, given the earlier calls in order. -/
  respond : List Args → Args → Except OutputFault Json
  calls : List Args := []

namespace Closure

def invoke (closure : Closure) (args : Args) :
    Except HandlerError Json × Closure :=
  match closure.convention.accept args with
  | .error error => (.error error, closure)
  | .ok seen =>
    ((closure.respond closure.calls seen).mapError .output,
      { closure with calls := closure.calls ++ [seen] })

end Closure

end Signpost
