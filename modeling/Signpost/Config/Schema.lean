import Signpost.Config.Basic
import Signpost.Number.Shortest
import Signpost.Text.Quoted
import Signpost.Toml.Value

/-!
# The shape of a configuration

What the tables of a configuration file must hold.  Entries are read in the
order of the document and the first that does not fit is reported; keys that
are not known are passed over.  A record may also be written as an array of its
fields in order.
-/

namespace Signpost

inductive Found where
  | boolean (value : Bool)
  | integer (value : Int)
  | float (value : Binary64)
  | string (text : String)
  | sequence
  | map
  deriving DecidableEq, Repr

inductive Expected where
  | boolean
  | string
  | sequence
  | route
  | observability
  deriving DecidableEq, Repr

inductive SchemaError where
  | invalidType (found : Found) (expected : Expected)
  | missingField (name : String)
  | routeLength (length : Nat)
  deriving DecidableEq, Repr

def Found.text : Found → String
  | .boolean value => "boolean `" ++ toString value ++ "`"
  | .integer value => "integer `" ++ toString value ++ "`"
  | .float value =>
      "floating point `" ++ String.ofList value.positionalText ++ "`"
  | .string text => "string " ++ Quoted.quote text
  | .sequence => "sequence"
  | .map => "map"

def Expected.text : Expected → String
  | .boolean => "a boolean"
  | .string => "a string"
  | .sequence => "a sequence"
  | .route => "struct RouteConfig"
  | .observability => "struct ObservabilityConfig"

def SchemaError.message : SchemaError → String
  | .invalidType found expected =>
    "invalid type: " ++ found.text ++ ", expected " ++ expected.text
  | .missingField name => "missing field `" ++ name ++ "`"
  | .routeLength length =>
    "invalid length " ++ toString length ++
      ", expected struct RouteConfig with 2 elements"

namespace Toml

/-- A date counts as a map. -/
def found : Toml → Found
  | .string text => .string text
  | .integer value => .integer value
  | .float value => .float value
  | .bool value => .boolean value
  | .date | .table _ => .map
  | .array _ => .sequence

def asBool : Toml → Except SchemaError Bool
  | .bool value => .ok value
  | value => .error (.invalidType value.found .boolean)

def asString : Toml → Except SchemaError String
  | .string text => .ok text
  | value => .error (.invalidType value.found .string)

structure RouteParts where
  pattern : Option String := none
  handler : Option String := none

def routeEntries : RouteParts → List (String × Toml) →
    Except SchemaError RouteConfig
  | parts, [] =>
    match parts.pattern, parts.handler with
    | none, _ => .error (.missingField "pattern")
    | some _, none => .error (.missingField "handler")
    | some pattern, some handler => .ok ⟨pattern, handler⟩
  | parts, (key, value) :: rest => do
    match key with
    | "pattern" =>
        routeEntries { parts with pattern := some (← value.asString) } rest
    | "handler" =>
        routeEntries { parts with handler := some (← value.asString) } rest
    | _ => routeEntries parts rest

def asRoute : Toml → Except SchemaError RouteConfig
  | .table entries => routeEntries {} entries
  | .date => routeEntries {} []
  | .array (pattern :: handler :: _) => do
    return ⟨← pattern.asString, ← handler.asString⟩
  | .array [pattern] => do
    let _ ← pattern.asString
    .error (.routeLength 1)
  | .array [] => .error (.routeLength 0)
  | value => .error (.invalidType value.found .route)

def observabilityEntries : ObservabilityConfig → List (String × Toml) →
    Except SchemaError ObservabilityConfig
  | config, [] => .ok config
  | config, (key, value) :: rest => do
    match key with
    | "log_level" =>
        observabilityEntries { config with logLevel := ← value.asString } rest
    | "json" => observabilityEntries { config with json := ← value.asBool } rest
    | _ => observabilityEntries config rest

def asObservability : Toml → Except SchemaError ObservabilityConfig
  | .table entries => observabilityEntries {} entries
  | .date | .array [] => .ok {}
  | .array [level] => do return { logLevel := ← level.asString }
  | .array (level :: json :: _) => do
    return { logLevel := ← level.asString, json := ← json.asBool }
  | value => .error (.invalidType value.found .observability)

def asRoutes : Toml → Except SchemaError (List RouteConfig)
  | .array items => items.mapM asRoute
  | value => .error (.invalidType value.found .sequence)

def configEntries : DispatchConfig → List (String × Toml) →
    Except SchemaError DispatchConfig
  | config, [] => .ok config
  | config, (key, value) :: rest => do
    match key with
    | "case_sensitive" =>
        configEntries { config with caseSensitive := ← value.asBool } rest
    | "cache_patterns" =>
        configEntries { config with cachePatterns := ← value.asBool } rest
    | "observability" =>
      configEntries
        { config with observability := ← value.asObservability } rest
    | "routes" => configEntries { config with routes := ← value.asRoutes } rest
    | _ => configEntries config rest

end Toml

end Signpost
