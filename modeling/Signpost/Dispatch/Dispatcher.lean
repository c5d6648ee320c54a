import Signpost.Dispatch.Table
import Signpost.Router.Basic

/-!
# Dispatchers

A dispatcher holds one path and a table of routes.  A run looks for the first
route whose pattern matches the path and invokes its handler; the answer of a
handler that succeeds is kept as the result.
-/

namespace Signpost

structure Dispatcher where
  router : Router := .withCache {}
  path : String
  caseSensitive : Bool := false
  table : RouteTable := {}
  classes : Registry := {}
  result : Option Json := none

/-- A route that matched, and the routes around it. -/
structure RouteMatch where
  before : List Route
  route : Route
  after : List Route

namespace Dispatcher

def set (dispatcher : Dispatcher) (pattern : String) (handler : Handler) :
    Dispatcher × List Event :=
  let (replaced, table) := dispatcher.table.insert pattern handler
  ({ dispatcher with table },
    if replaced.isSome then [.handlerReplaced pattern] else [])

def remove (dispatcher : Dispatcher) (pattern : String) : Bool × Dispatcher :=
  let (removed, table) := dispatcher.table.remove pattern
  (removed.isSome, { dispatcher with table })

def firstMatch (path : String) (caseSensitive : Bool) :
    Router → List Route → Option RouteMatch × Router × List Event
  | router, [] => (none, router, [])
  | router, route :: rest =>
    let (found, router, events) :=
      router.matchPath route.pattern path caseSensitive
    if found then (some ⟨[], route, rest⟩, router, events)
    else
      let (later, router, more) := firstMatch path caseSensitive router rest
      (later.map fun hit => { hit with before := route :: hit.before },
        router, events ++ more)

/-- One run; the answer says whether a handler succeeded. -/
def run (dispatcher : Dispatcher) : Bool × Dispatcher × List Event :=
  let path := dispatcher.path
  let (hit, router, events) :=
    firstMatch path dispatcher.caseSensitive dispatcher.router
      dispatcher.table.routes
  match hit with
  | none =>
    (false, { dispatcher with router },
      events ++ [.noRouteMatched path dispatcher.table.size])
  | some ⟨before, route, after⟩ =>
    let (params, router) := router.takeParams
    let args := Args.ofValues params.values
    let (answer, handler, classes) :=
      route.handler.invoke dispatcher.classes args
    let dispatcher :=
      { dispatcher with
        router
        classes
        table := ⟨before ++ { route with handler } :: after⟩ }
    match answer with
    | .ok value =>
      (true, { dispatcher with result := some value },
        events ++ [.routeDispatched path route.pattern args.size])
    | .error error =>
      (false, dispatcher,
        events ++ [.handlerFailed path route.pattern error.message])

end Dispatcher

end Signpost
