import Signpost.Dispatch.Handler

/-!
# Route tables

Routes in the order in which their patterns came.  A pattern stands once; a new
handler for it takes the place of the old one.
-/

namespace Signpost

structure Route where
  pattern : String
  handler : Handler

structure RouteTable where
  routes : List Route := []

namespace RouteTable

/-- Sets the handler of a pattern and answers with the one it replaces. -/
def insertInto (pattern : String) (handler : Handler) :
    List Route → Option Handler × List Route
  | [] => (none, [⟨pattern, handler⟩])
  | route :: rest =>
    if route.pattern =
      pattern then (some route.handler, ⟨pattern, handler⟩ :: rest)
    else
      let (replaced, rest) := insertInto pattern handler rest
      (replaced, route :: rest)

def insert (table : RouteTable) (pattern : String) (handler : Handler) :
    Option Handler × RouteTable :=
  let (replaced, routes) := insertInto pattern handler table.routes
  (replaced, ⟨routes⟩)

def get? (table : RouteTable) (pattern : String) : Option Handler :=
  (table.routes.find? fun route => route.pattern = pattern).map Route.handler

def contains (table : RouteTable) (pattern : String) : Bool :=
  table.routes.any fun route => route.pattern = pattern

def removeFrom (pattern : String) : List Route → Option Handler × List Route
  | [] => (none, [])
  | route :: rest =>
    if route.pattern = pattern then (some route.handler, rest)
    else
      let (removed, rest) := removeFrom pattern rest
      (removed, route :: rest)

def remove (table : RouteTable) (pattern : String) :
    Option Handler × RouteTable :=
  let (removed, routes) := removeFrom pattern table.routes
  (removed, ⟨routes⟩)

def patterns (table : RouteTable) : List String :=
  table.routes.map Route.pattern

def size (table : RouteTable) : Nat := table.routes.length

def invokeAll (classes : Registry) (args : Args) :
    List Route → List (Except HandlerError Json) × List Route × Registry
  | [] => ([], [], classes)
  | route :: rest =>
    let (result, handler, classes) := route.handler.invoke classes args
    let (results, rest, classes) := invokeAll classes args rest
    (result :: results, { route with handler } :: rest, classes)

def describeRoute (route : Route) : String :=
  "Route \x7b pattern: " ++ Quoted.quote route.pattern ++ ", handler: " ++
    route.handler.describe ++ " \x7d"

def describe (table : RouteTable) : String :=
  "RouteTable \x7b routes: [" ++ ", ".intercalate
    (table.routes.map describeRoute) ++ "] \x7d"

end RouteTable

end Signpost
