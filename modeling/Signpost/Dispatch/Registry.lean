import Signpost.Dispatch.Closure
import Signpost.Text.Quoted

/-!
# Classes

Classes are registered by name; backslashes that lead a name do not count.
Every call of a method builds a fresh instance, and the number of instances
built is all that a class remembers.
-/

namespace Signpost

structure ControllerClass where
  /--
  The answer of the instance with a number; none if it has no such method.
  -/
  respond : Nat → String → Args → Option (Except HandlerError Json)
  built : Nat := 0

structure Registry where
  classes : List (String × ControllerClass) := []

namespace Registry

def normalize (name : String) : String :=
  String.ofList (name.toList.dropWhile (· = '\\'))

def find? (registry : Registry) (name : String) : Option ControllerClass :=
  (registry.classes.find? fun entry => entry.1 = normalize name).map Prod.snd

def contains (registry : Registry) (name : String) : Bool :=
  (registry.find? name).isSome

def register (registry : Registry) (name : String)
    (controller : ControllerClass) :
    Registry :=
  let key := normalize name
  if registry.contains name then
    { classes := registry.classes.map fun entry =>
        if entry.1 = key then (key, controller) else entry }
  else { classes := registry.classes ++ [(key, controller)] }

def remove (registry : Registry) (name : String) : Bool × Registry :=
  (registry.contains name,
    { classes := registry.classes.filter fun entry =>
      entry.1 ≠ normalize name })

/-- Builds an instance: its number and its class, the number counted. -/
def instantiate (registry : Registry) (name : String) :
    Option (Nat × ControllerClass) × Registry :=
  match registry.find? name with
  | none => (none, registry)
  | some controller =>
    let built := controller.built + 1
    (some (built, controller), registry.register name { controller with built })

def invoke (registry : Registry) (className method : String) (args : Args) :
    Except HandlerError Json × Registry :=
  match registry.instantiate className with
  | (none, registry) => (.error (.unknownClass className), registry)
  | (some (number, controller), registry) =>
    ((controller.respond number method args).getD
      (.error (.unknownMethod className method)),
      registry)

def size (registry : Registry) : Nat := registry.classes.length

def names (registry : Registry) : List String :=
  (registry.classes.map Prod.fst).mergeSort fun first second => first ≤ second

def describe (registry : Registry) : String :=
  "ControllerRegistry \x7b classes: " ++ Quoted.quoteList
    registry.names ++ " \x7d"

end Registry

end Signpost
