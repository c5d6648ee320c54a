import Signpost.Dispatch.Handler

/-!
# Stock handlers and classes

Handlers and classes that answer with what they were given, or with how often
they were called.  They are of use for looking at how a table dispatches.
-/

namespace Signpost

def Args.toJson (args : Args) : Json :=
  .ofMembers
    [("packed", .bool args.isPacked),
     ("len", .ofNat args.size),
     ("empty", .bool args.isEmpty),
     ("values", .array (args.values.map .optional))]

namespace Closure

def listing (arity : Nat) : Closure where
  convention := .discrete arity
  respond _ args := .ok (.array (args.values.map .optional))

def constant (datum : Datum) : Closure where
  convention := .discrete 0
  respond _ _ := datum.toJson

def counter : Closure where
  convention := .discrete 0
  respond earlier _ := .ok (.ofNat (earlier.length + 1))

/--
Takes packed values and answers with their number and each of them, and one
beyond.
-/
def unpacking : Closure where
  convention := .packed
  respond _ args :=
    .ok (.ofMembers
      [("len", .ofNat args.size),
       ("strs", .array ((List.range (args.size + 1)).map fun index =>
          .optional (Args.value? args.values index)))])

def echo : Closure where
  convention := .whole
  respond _ args := .ok args.toJson

def collector : Closure where
  convention := .whole
  respond earlier args :=
    .ok (.array ((earlier.flatMap Args.values ++ args.values).map .optional))

end Closure

namespace ControllerClass

def answer (convention : Convention) (args : Args)
    (respond : List Param → Json) :
    Option (Except HandlerError Json) :=
  some ((convention.accept args).map fun seen => respond seen.values)

def sample : ControllerClass where
  respond _ method args :=
    let last (arity : Nat) :=
      answer (.discrete arity) args fun values =>
        .optional (values.getLast?.join)
    match method with
    | "static_index" => answer (.discrete 0) args fun _ => .string "A"
    | "index" => answer (.discrete 0) args fun _ => .string "B"
    | "static_method" => answer (.discrete 0) args fun _ => .null
    | "param1" => last 1
    | "param2" => last 2
    | "param3" => last 3
    | "param4" => last 4
    | "param5" => last 5
    | "param6" => answer .packed args fun values =>
        .optional (Args.value? values 5)
    | _ => none

def echo : ControllerClass where
  respond _ method args :=
    some (.ok (.ofMembers
      [("method", .string method),
       ("packed", .bool args.isPacked),
       ("args", .array (args.values.map .optional))]))

def hollow : ControllerClass where
  respond _ _ _ := none

def counter : ControllerClass where
  respond number method args :=
    match method with
    | "calls" => answer (.discrete 0) args fun _ => .ofNat 1
    | "built" => answer (.discrete 0) args fun _ => .ofNat number
    | _ => none

end ControllerClass

end Signpost
