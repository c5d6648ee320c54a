import Signpost.Cli.Arguments
import Signpost.Config.Load
import Signpost.Json.Parser

/-!
# Commands

What each command prints and how it ends.  A command that finds nothing says so
in a note and fails; a command that is not understood prints nothing.
-/

namespace Signpost.Cli

structure Outcome where
  exitCode : Nat
  output : String := ""
  note : Option String := none
  deriving DecidableEq, Repr

def Outcome.printed (line : String) : Outcome :=
  { exitCode := 0, output := line ++ "\n" }

def Outcome.failed (note : String) : Outcome :=
  { exitCode := 1, note := some note }

/--
A value of the command line: JSON if it reads as such, else the text itself.
-/
def valueOf (text : String) : Json := (Json.parse? text).getD (.string text)

def matchPath (pattern path : String) (caseSensitive : Bool) : Outcome :=
  let (found, router, _) :=
    (Router.withCache {}).matchPath pattern path caseSensitive
  if found then .printed router.params.toJson.indented else .failed "No match"

def make (pattern : String) (values : List String) : Outcome :=
  match buildPath pattern (values.map valueOf) with
  | .ok path => .printed path
  | .error _ => .failed ("Not enough values for pattern " ++ pattern)

def check (file : String) (config : DispatchConfig) : Outcome :=
  .printed (file ++ ": " ++ toString config.routes.length ++ " routes OK")

/--
What the inspector of a route answers: the route and the arguments it was given.
-/
def inspection (route : RouteConfig) (args : Args) : Json :=
  .ofMembers
    [("pattern", .string route.pattern),
     ("handler", .string route.handler),
     ("packed", .bool args.isPacked),
     ("args", .array (args.values.map .optional))]

def inspector (route : RouteConfig) : Handler :=
  .closure { convention := .whole, respond :=
    fun _ args => .ok (inspection route args) }

def inspect (dispatcher : Dispatcher) (routes : List RouteConfig) :
    Dispatcher :=
  routes.foldl
    (fun dispatcher route => (dispatcher.set route.pattern (inspector route)).1)
    dispatcher

def dispatch (config : DispatchConfig) (path : String) : Outcome :=
  let (dispatcher, _) := config.dispatcher {} path
  let (ran, dispatcher, _) := (inspect dispatcher config.routes).run
  if ran then .printed (dispatcher.result.getD .null).indented
  else .failed ("No route matched " ++ path)

def usage : String :=
  "Usage: match PATTERN PATH [--case-sensitive] | make PATTERN [VALUES]... | " ++
    "check --config FILE | dispatch --config FILE PATH"

/--
Runs a command; `file` holds the bytes of the configuration file that it names.
-/
def Command.run (command : Command) (file : Option (List UInt8)) : Outcome :=
  match command with
  | .matchPath pattern path caseSensitive =>
      Cli.matchPath pattern path caseSensitive
  | .make pattern values => Cli.make pattern values
  | .help => .printed usage
  | .check name =>
    match (DispatchConfig.load file).1 with
    | .error _ => { exitCode := 1 }
    | .ok config => Cli.check name config
  | .dispatch _ path =>
    match (DispatchConfig.load file).1 with
    | .error _ => { exitCode := 1 }
    | .ok config => Cli.dispatch config path

def misuse : Outcome := { exitCode := 2 }

end Signpost.Cli
