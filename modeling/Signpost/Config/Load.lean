import Signpost.Config.Schema
import Signpost.Config.Validation
import Signpost.Text.Utf8
import Signpost.Toml.Document

/-!
# Loading configurations

A configuration file is read, taken apart, checked for its shape and then
validated.  Each of these can fail, and the first failure is the answer.
-/

namespace Signpost

inductive ConfigError where
  | fileNotFound
  | fileNotText
  | notToml
  | schema (error : SchemaError)
  | validation (errors : List ValidationError)
  deriving DecidableEq, Repr

/-- What is said of the fault; where in the text it stands is left out. -/
def ConfigError.message : ConfigError → String
  | .fileNotFound => "IO error: file not found"
  | .fileNotText => "IO error: stream did not contain valid UTF-8"
  | .notToml => "Parse error"
  | .schema error => "Parse error: " ++ error.message
  | .validation errors =>
    "Validation failed: " ++ ", ".intercalate
      (errors.map ValidationError.message)

namespace DispatchConfig

def parse (text : String) : Except ConfigError DispatchConfig :=
  match Toml.parse? text with
  | none => .error .notToml
  | some entries =>
    match Toml.configEntries {} entries with
    | .error error => .error (.schema error)
    | .ok config =>
      match config.validate with
      | [] => .ok config
      | errors => .error (.validation errors)

/--
The configuration in a file, given its bytes if it is there.  The event does not
name the file.
-/
def load (file : Option (List UInt8)) :
    Except ConfigError DispatchConfig × List Event :=
  match file with
  | none => (.error .fileNotFound, [])
  | some bytes =>
    match Utf8.decode? bytes with
    | none => (.error .fileNotText, [])
    | some text =>
      match parse (String.ofList text) with
      | .error error => (.error error, [])
      | .ok config => (.ok config, [.configLoaded config.routes.length])

end DispatchConfig

end Signpost
