import Signpost.Dispatch.Registry

/-!
# Handlers

A route leads to a closure or to a method of a class.  The method is written
`Class::method`, split at the last `::`.
-/

namespace Signpost

structure Target where
  className : String
  method : String
  deriving DecidableEq, Repr

namespace Target

def splitLast : List Char → Option (List Char × List Char)
  | [] => none
  | c :: rest =>
    match splitLast rest with
    | some (before, after) => some (c :: before, after)
    | none =>
      match c, rest with
      | ':', ':' :: after => some ([], after)
      | _, _ => none

/-- Reads a target; neither part of it may be empty. -/
def parse? (text : String) : Option Target :=
  match splitLast text.toList with
  | none | some ([], _) | some (_, []) => none
  | some (className, method) =>
      some ⟨String.ofList className, String.ofList method⟩

end Target

inductive Handler where
  | closure (closure : Closure)
  | method (target : Target)

namespace Handler

def isCallable : Handler → Bool
  | closure _ => true
  | method _ => false

def target? : Handler → Option Target
  | closure _ => none
  | method target => some target

def describe : Handler → String
  | closure _ => "Callable(..)"
  | method target => "ClassMethod(" ++ target.className ++
      "::" ++ target.method ++ ")"

/-- Runs the handler; closure and classes come back as they are afterwards. -/
def invoke (handler : Handler) (classes : Registry) (args : Args) :
    Except HandlerError Json × Handler × Registry :=
  match handler with
  | closure body =>
    let (result, body) := body.invoke args
    (result, closure body, classes)
  | method target =>
    let (result, classes) := classes.invoke target.className target.method args
    (result, method target, classes)

end Handler

end Signpost
