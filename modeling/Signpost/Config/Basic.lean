import Signpost.Dispatch.Dispatcher

/-!
# Configurations

A configuration says how a dispatcher matches and which routes it has.  Binding
sets the routes on a dispatcher in their order; a route whose handler text is
not of the form `Class::method` is skipped.
-/

namespace Signpost

structure RouteConfig where
  pattern : String
  handler : String
  deriving DecidableEq, Repr

structure ObservabilityConfig where
  logLevel : String := "info"
  json : Bool := false
  deriving DecidableEq, Repr

structure DispatchConfig where
  caseSensitive : Bool := false
  cachePatterns : Bool := true
  observability : ObservabilityConfig := {}
  routes : List RouteConfig := []
  deriving DecidableEq, Repr

namespace DispatchConfig

def router (config : DispatchConfig) (cache : PatternCache) : Router :=
  if config.cachePatterns then .withCache cache else .uncached

def bindRoutes (dispatcher : Dispatcher) :
    List RouteConfig → Nat × Dispatcher × List Event
  | [] => (0, dispatcher, [])
  | route :: rest =>
    match Target.parse? route.handler with
    | none =>
      let (bound, dispatcher, events) := bindRoutes dispatcher rest
      (bound, dispatcher, .routeSkipped route.pattern route.handler :: events)
    | some target =>
      let (dispatcher, events) := dispatcher.set route.pattern (.method target)
      let (bound, dispatcher, more) := bindRoutes dispatcher rest
      (bound + 1, dispatcher, events ++ more)

/--
Takes over the case flag and all routes; the number is that of the routes bound.
-/
def bind (config : DispatchConfig) (dispatcher : Dispatcher) :
    Nat × Dispatcher × List Event :=
  bindRoutes { dispatcher with caseSensitive := config.caseSensitive }
    config.routes

def dispatcher (config : DispatchConfig) (cache : PatternCache)
    (path : String) :
    Dispatcher × List Event :=
  let (_, dispatcher, events) :=
    config.bind { router := config.router cache, path }
  (dispatcher, events)

end DispatchConfig

end Signpost
