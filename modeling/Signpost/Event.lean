import Signpost.Pattern.Compiled

/-!
# Events

What the library reports about its work, in the order in which it happens.  An
event is the thing that happened; level, message and fields are read off it.
-/

namespace Signpost

inductive Level where
  | trace | debug | info | warn | error
  deriving DecidableEq, Repr

def Level.name : Level → String
  | .trace => "TRACE"
  | .debug => "DEBUG"
  | .info => "INFO"
  | .warn => "WARN"
  | .error => "ERROR"

inductive FieldValue where
  | text (value : String)
  | flag (value : Bool)
  | count (value : Nat)
  deriving DecidableEq, Repr

inductive Event where
  | patternCompiled (pattern : String) (caseSensitive : Bool)
  | patternRejected (error : PatternError)
  | patternMatched (pattern path : String) (params : Nat)
  | valuesShort (pattern : String) (tokens values : Nat)
  | handlerReplaced (pattern : String)
  | routeDispatched (path route : String) (args : Nat)
  | handlerFailed (path route error : String)
  | noRouteMatched (path : String) (routes : Nat)
  | routeSkipped (pattern handler : String)
  /-- The name of the file is left out. -/
  | configLoaded (routes : Nat)
  deriving DecidableEq, Repr

namespace Event

def level : Event → Level
  | patternCompiled .. | patternMatched .. => .trace
  | patternRejected .. | handlerFailed .. | routeSkipped .. => .warn
  | _ => .debug

def message : Event → String
  | patternCompiled .. => "Compiled route pattern"
  | patternRejected .. => "Route pattern rejected"
  | patternMatched .. => "Pattern matched"
  | valuesShort .. => "Not enough values to build path"
  | handlerReplaced .. => "Route handler replaced"
  | routeDispatched .. => "Route dispatched"
  | handlerFailed .. => "Route handler could not be invoked"
  | noRouteMatched .. => "No route matched"
  | routeSkipped .. => "Skipping route with malformed handler target"
  | configLoaded .. => "Configuration loaded"

def fields : Event → List (String × FieldValue)
  | patternCompiled pattern caseSensitive =>
    [("pattern", .text pattern), ("case_sensitive", .flag caseSensitive)]
  | patternRejected error =>
    [("pattern", .text error.pattern), ("error", .text error.message)]
  | patternMatched pattern path params =>
    [("pattern", .text pattern), ("path", .text path),
      ("params", .count params)]
  | valuesShort pattern tokens values =>
    [("pattern", .text pattern), ("tokens", .count tokens),
      ("values", .count values)]
  | handlerReplaced pattern => [("pattern", .text pattern)]
  | routeDispatched path route args =>
    [("path", .text path), ("route", .text route), ("args", .count args)]
  | handlerFailed path route error =>
    [("path", .text path), ("route", .text route), ("error", .text error)]
  | noRouteMatched path routes =>
      [("path", .text path), ("routes", .count routes)]
  | routeSkipped pattern handler =>
      [("pattern", .text pattern), ("handler", .text handler)]
  | configLoaded routes => [("routes", .count routes)]

end Event

end Signpost
