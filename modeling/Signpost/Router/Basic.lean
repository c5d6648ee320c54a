import Signpost.Pattern.Build
import Signpost.Router.Cache

/-!
# Routers

A router matches paths against patterns, through a cache if it has one, and
remembers the values of its last match.  The pattern `*` matches every path and
a pattern equal to the path matches it, both without being compiled and without
values.
-/

namespace Signpost

structure Router where
  cache : Option PatternCache := none
  params : Params := {}
  deriving DecidableEq, Repr

namespace Router

def withCache (cache : PatternCache) : Router := { cache := some cache }

def uncached : Router := {}

def compile (router : Router) (pattern : String) (caseSensitive : Bool) :
    Except PatternError Compilation × Router × List Event :=
  match router.cache with
  | none =>
    ((CompiledPattern.compile pattern caseSensitive).map fun compiled =>
      { compiled },
      router, [])
  | some cache =>
    let (result, cache, events) := cache.getOrCompile pattern caseSensitive
    (result, { router with cache := some cache }, events)

/--
Whether the path matches; the values of the match, or none, become the router's.
-/
def matchPath (router : Router) (pattern path : String) (caseSensitive : Bool) :
    Bool × Router × List Event :=
  let router := { router with params := {} }
  if pattern = "*" ∨ pattern = path then (true, router, [])
  else
    let (result, router, events) := router.compile pattern caseSensitive
    match result with
    | .error error => (false, router, events ++ [.patternRejected error])
    | .ok compilation =>
      match compilation.compiled.captures path with
      | none => (false, router, events)
      | some params =>
        (true, { router with params },
          events ++ [.patternMatched pattern path params.size])

def accepts (router : Router) (pattern path : String) :
    Bool × Router × List Event :=
  router.matchPath pattern path false

def takeParams (router : Router) : Params × Router :=
  (router.params, { router with params := {} })

def make (pattern : String) (values : List Json) : Option String × List Event :=
  match buildPath pattern values with
  | .ok path => (some path, [])
  | .error shortage =>
      (none, [.valuesShort pattern shortage.tokens shortage.values])

end Router

end Signpost
