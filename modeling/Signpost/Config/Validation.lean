import Signpost.Config.Basic
import Signpost.LogFilter

/-!
# Validation

A configuration is checked route by route: the pattern first, then the handler
text, and at the end the log level.  All faults are reported in that order.
-/

namespace Signpost

inductive ValidationError where
  | emptyPattern (index : Nat)
  | duplicatePattern (index : Nat) (pattern : String)
  | invalidPattern (index : Nat) (error : PatternError)
  | invalidHandler (index : Nat) (handler : String)
  | invalidLogLevel (level : String)
  deriving DecidableEq, Repr

namespace ValidationError

def index? : ValidationError → Option Nat
  | emptyPattern index | duplicatePattern index _ | invalidPattern index _
  | invalidHandler index _ => some index
  | invalidLogLevel _ => none

def reason : ValidationError → String
  | emptyPattern _ => "pattern is empty"
  | duplicatePattern _ pattern => "pattern `" ++ pattern ++
      "` is already declared"
  | invalidPattern _ error => error.message
  | invalidHandler _ handler =>
    "handler `" ++ handler ++ "` is not of the form Class::method"
  | invalidLogLevel level => "log level `" ++ level ++ "` is not a valid filter"

def message (error : ValidationError) : String :=
  match error.index? with
  | some index => "route #" ++ toString index ++ ": " ++ error.reason
  | none => error.reason

end ValidationError

namespace DispatchConfig

def patternFault (caseSensitive : Bool) (seen : List String) (index : Nat)
    (pattern : String) : Option ValidationError :=
  if pattern = "" then some (.emptyPattern index)
  else if seen.contains pattern then some (.duplicatePattern index pattern)
  else
    match CompiledPattern.compile pattern caseSensitive with
    | .ok _ => none
    | .error error => some (.invalidPattern index error)

def handlerFault (index : Nat) (handler : String) : Option ValidationError :=
  match Target.parse? handler with
  | some _ => none
  | none => some (.invalidHandler index handler)

def routeFaults (caseSensitive : Bool) :
    List String → Nat → List RouteConfig → List ValidationError
  | _, _, [] => []
  | seen, index, route :: rest =>
    (patternFault caseSensitive seen index route.pattern).toList ++
      (handlerFault index route.handler).toList ++
      routeFaults caseSensitive (route.pattern :: seen) (index + 1) rest

def levelFault (level : String) : Option ValidationError :=
  match LogFilter.parse? level with
  | some _ => none
  | none => some (.invalidLogLevel level)

/-- All faults of a configuration; it is valid if there is none. -/
def validate (config : DispatchConfig) : List ValidationError :=
  routeFaults config.caseSensitive [] 0 config.routes ++
    (levelFault config.observability.logLevel).toList

end DispatchConfig

end Signpost
