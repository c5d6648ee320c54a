/-!
# Arguments of the command line

The command line names a command and gives its options and operands in any
order.  What begins with `-` is an option, a single `-` excepted, until `--`
ends the options.
-/

namespace Signpost.Cli

inductive Command where
  | matchPath (pattern path : String) (caseSensitive : Bool)
  | make (pattern : String) (values : List String)
  | check (config : String)
  | dispatch (config path : String)
  | help
  deriving DecidableEq, Repr

inductive UsageError where
  | missingCommand
  | unknownCommand (name : String)
  | unknownOption (option : String)
  | missingValue (option : String)
  | repeatedOption (option : String)
  | missingOperand
  | surplusOperand (operand : String)
  deriving DecidableEq, Repr

inductive Argument where
  | operand (text : String)
  | long (name : String) (value : Option String)
  /-- A letter and what is written right behind it. -/
  | short (letter : Char) (attached : List Char)
  | endOfOptions
  deriving DecidableEq, Repr

def Argument.ofText (text : String) : Argument :=
  match text.toList with
  | ['-', '-'] => .endOfOptions
  | '-' :: '-' :: rest =>
    match rest.dropWhile (· != '=') with
    | [] => .long (String.ofList rest) none
    | _ :: value => .long (String.ofList (rest.takeWhile (· != '=')))
        (some (String.ofList value))
  | '-' :: c :: rest => .short c rest
  | _ => .operand text

structure Reading where
  caseSensitive : Bool := false
  config : Option String := none
  operands : List String := []
  deriving DecidableEq, Repr

structure Options where
  caseSensitive : Bool := false
  config : Bool := false
  deriving DecidableEq, Repr

def Reading.setConfig (reading : Reading) (value : String) :
    Except UsageError Reading :=
  if value = "" then .error (.missingValue "config")
  else
    match reading.config with
    | some _ => .error (.repeatedOption "config")
    | none => .ok { reading with config := some value }

/--
Reads the arguments of a command; help is asked for where the answer is none.
-/
def Reading.run (options : Options) (reading : Reading) :
    List String → Except UsageError (Option Reading)
  | [] => .ok (some reading)
  | text :: rest =>
    match Argument.ofText text with
    | .endOfOptions =>
      .ok (some { reading with operands := rest.reverse ++ reading.operands })
    | .operand operand => run options
        { reading with operands := operand :: reading.operands } rest
    | .long "help" none => .ok none
    | .short 'h' [] => .ok none
    | .long "case-sensitive" none =>
      if !options.caseSensitive then .error (.unknownOption text)
      else if reading.caseSensitive then .error (.repeatedOption text)
      else run options { reading with caseSensitive := true } rest
    | .long "config" value =>
      if !options.config then .error (.unknownOption text)
      else
        match value, rest with
        | some value, rest => do run options (← reading.setConfig value) rest
        | none, next :: rest => separate text next rest
        | none, [] => .error (.missingValue text)
    | .short 'c' attached =>
      if !options.config then .error (.unknownOption text)
      else
        match attached, rest with
        | '=' :: value, rest =>
            do run options (← reading.setConfig (String.ofList value)) rest
        | [], next :: rest => separate text next rest
        | [], [] => .error (.missingValue text)
        | value, rest =>
            do run options (← reading.setConfig (String.ofList value)) rest
    | _ => .error (.unknownOption text)
where
  /-- A value given as the next argument, which must not look like an option. -/
  separate (option next : String) (rest : List String) :
      Except UsageError (Option Reading) :=
    match Argument.ofText next with
    | .operand value => do Reading.run options (← reading.setConfig value) rest
    | _ => .error (.missingValue option)

def Reading.toCommand (name : String) (reading : Reading) :
    Except UsageError Command :=
  match name, reading.config, reading.operands.reverse with
  | "match", _, [pattern, path] =>
      .ok (.matchPath pattern path reading.caseSensitive)
  | "match", _, _ :: _ :: operand :: _ => .error (.surplusOperand operand)
  | "make", _, pattern :: values => .ok (.make pattern values)
  | "check", some config, [] => .ok (.check config)
  | "check", _, operand :: _ => .error (.surplusOperand operand)
  | "dispatch", some config, [path] => .ok (.dispatch config path)
  | "dispatch", _, _ :: operand :: _ => .error (.surplusOperand operand)
  | "check", none, _ | "dispatch", none, _ => .error (.missingValue "config")
  | _, _, _ => .error .missingOperand

def optionsOf? : String → Option Options
  | "match" => some { caseSensitive := true }
  | "make" => some {}
  | "check" | "dispatch" => some { config := true }
  | _ => none

def Command.ofArguments : List String → Except UsageError Command
  | [] => .error .missingCommand
  | "--help" :: _ | "-h" :: _ | ["help"] => .ok .help
  | ["help", name] => if (optionsOf? name).isSome || name =
      "help" then .ok .help
    else .error (.unknownCommand name)
  | name :: rest =>
    match optionsOf? name with
    | none => .error (.unknownCommand name)
    | some options => do
      match ← Reading.run options {} rest with
      | none => return .help
      | some reading => reading.toCommand name

def Command.config? : Command → Option String
  | .check config | .dispatch config _ => some config
  | _ => none

end Signpost.Cli
