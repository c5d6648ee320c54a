import Signpost.Unicode.Class

/-!
# Log filters

A filter is a list of directives with commas between them.  A directive sets a
level for everything, for a target, for a span, or for a span of a target; left
without a level it lets everything through.  More specific directives stand
first, and a later directive for the same thing replaces an earlier one.
-/

namespace Signpost

inductive LogLevel where
  | off | error | warn | info | debug | trace
  deriving DecidableEq, Repr

namespace LogLevel

def name : LogLevel → String
  | off => "off"
  | error => "error"
  | warn => "warn"
  | info => "info"
  | debug => "debug"
  | trace => "trace"

def ofNumber? : Nat → Option LogLevel
  | 0 => some off
  | 1 => some error
  | 2 => some warn
  | 3 => some info
  | 4 => some debug
  | 5 => some trace
  | _ => none

def ofWord? (word : String) : Option LogLevel :=
  [off, error, warn, info, debug, trace].find? fun level => level.name = word

def number? (text : List Char) : Option Nat :=
  let digits :=
    match text with
    | '+' :: rest => rest
    | _ => text
  if digits ≠ [] ∧ digits.all Char.isDigit then
    some (digits.foldl (fun value c => value * 10 + (c.toNat - 48)) 0)
  else none

def parse? (text : List Char) : Option LogLevel :=
  match (number? text).bind ofNumber? with
  | some level => some level
  | none => ofWord? (String.ofList (text.map Char.toLower))

end LogLevel

structure FieldMatch where
  name : List Char
  value : Option (List Char)
  deriving DecidableEq, Repr

structure Directive where
  target : Option (List Char) := none
  span : Option (List Char) := none
  fields : List FieldMatch := []
  level : LogLevel := .trace
  deriving DecidableEq, Repr

namespace Directive

/--
Where the reading of a directive stands, with the place where the current part
began.
-/
inductive ScanState where
  | start
  | levelOrTarget (begun : Nat)
  | span (begun : Nat)
  | field (begun : Nat)
  | fields
  | target
  | level (begun : Nat)
  deriving DecidableEq, Repr

def slice (text : List Char) (start stop : Nat) : List Char :=
  (text.take stop).drop start

def fieldOf (text : List Char) : FieldMatch :=
  { name := text.takeWhile (· != '=')
    value :=
      match text.dropWhile (· != '=') with
      | [] => none
      | _ :: rest => some (rest.takeWhile (· != '=')) }

def mayStart (c : Char) : Bool :=
  c = '-' || c = ':' || c = '_' || Unicode.isAlphanumeric c

def step (text : List Char) (place : Nat) (c : Char) :
    ScanState × Directive → Option (ScanState × Directive)
  | (.start, directive) =>
    if c = '[' then some (.span (place + 1), directive)
    else if mayStart c then some (.levelOrTarget place, directive)
    else none
  | (.levelOrTarget begun, directive) =>
    if c = '=' then
      some (.level (place + 1),
        { directive with target := some (slice text begun place) })
    else if c = '[' then
      some (.span (place + 1),
        { directive with target := some (slice text begun place) })
    else some (.levelOrTarget begun, directive)
  | (.span begun, directive) =>
    if c = ']' then
      some (.target, { directive with span := some (slice text begun place) })
    else if c = '\x7b' then
      let name := slice text begun place
      some (.field (place + 1),
        { directive with span := if name = [] then none else some name })
    else some (.span begun, directive)
  | (.field begun, directive) =>
    if c = '\x7d' then
      let field := slice text begun place
      if field = [] then none
      else some (.fields,
        { directive with fields := directive.fields ++ [fieldOf field] })
    else some (.field begun, directive)
  | (.fields, directive) => if c = ']' then some (.target, directive) else none
  | (.target, directive) => if c = '=' then some (.level (place + 1), directive)
      else none
  | (.level begun, directive) => some (.level begun, directive)

def scan (text : List Char) : Nat → List Char → ScanState × Directive →
    Option (ScanState × Directive)
  | _, [], state => some state
  | place, c :: rest, state => do
    let state ← step text place c state
    scan text (place + 1) rest state

def finish (text : List Char) : ScanState × Directive → Option Directive
  | (.levelOrTarget begun, directive) =>
    let word := text.drop begun
    match LogLevel.parse? word with
    | some level => some { directive with level }
    | none => some { directive with target := some word }
  | (.level begun, directive) =>
    match text.drop begun with
    | [] => some directive
    | word => (LogLevel.parse? word).map fun level => { directive with level }
  | _ => none

def trim (text : List Char) : List Char :=
  ((text.dropWhile Unicode.isWhiteSpace).reverse.dropWhile
    Unicode.isWhiteSpace).reverse

def parse? (text : List Char) : Option Directive := do
  let state ← scan text 0 (trim text) (.start, {})
  finish text state

def isDynamic (directive : Directive) : Bool :=
  directive.span.isSome || directive.fields ≠ []

def isStatic (directive : Directive) : Bool :=
  directive.span.isNone && directive.fields.all fun field => field.value.isNone

def byteLength (text : List Char) : Nat := (String.ofList text).utf8ByteSize

def compareOption (first second : Option (List Char)) : Ordering :=
  match first, second with
  | none, none => .eq
  | none, some _ => .lt
  | some _, none => .gt
  | some first, some second => compare (String.ofList first)
      (String.ofList second)

def compareFields : List FieldMatch → List FieldMatch → Ordering
  | [], [] => .eq
  | [], _ => .lt
  | _, [] => .gt
  | first :: firsts, second :: seconds =>
    (compareOption (some first.name) (some second.name)).then
      ((compareOption first.value second.value).then
        (compareFields firsts seconds))

def specificity (directive : Directive) : Nat × Nat × Nat :=
  (match directive.target with
    | none => 0
    | some target => byteLength target + 1,
   if directive.span.isSome then 1 else 0,
   directive.fields.length)

/-- The more specific directive is the lesser; texts decide between equals. -/
def order (first second : Directive) : Ordering :=
  let (length, span, fields) := first.specificity
  let (otherLength, otherSpan, otherFields) := second.specificity
  ((compare length otherLength).then <|
    (compare span otherSpan).then <|
    (compare fields otherFields).then <|
    (compareOption first.target second.target).then <|
    (compareOption first.span second.span).then <|
    compareFields first.fields second.fields).swap

def insert (directive : Directive) : List Directive → List Directive
  | [] => [directive]
  | other :: rest =>
    match order directive other with
    | .lt => directive :: other :: rest
    | .eq => directive :: rest
    | .gt => other :: insert directive rest

def fieldText (field : FieldMatch) : List Char :=
  match field.value with
  | none => field.name
  | some value => field.name ++ '=' :: value

def text (directive : Directive) : List Char :=
  let fields :=
    match directive.fields with
    | [] => []
    | fields =>
      '\x7b' :: ([','] : List Char).intercalate
        (fields.map fieldText) ++ ['\x7d']
  let span :=
    if directive.isDynamic then '[' :: directive.span.getD [] ++
      fields ++ [']'] else []
  let subject := directive.target.getD [] ++ span
  let mark := if directive.target.isSome || directive.isDynamic then ['=']
    else []
  subject ++ mark ++ directive.level.name.toList

end Directive

/-- The directives that do and that do not depend on spans, each in order. -/
structure LogFilter where
  statics : List Directive := []
  dynamics : List Directive := []
  deriving DecidableEq, Repr

namespace LogFilter

def splitCommas : List Char → List (List Char)
  | [] => [[]]
  | c :: rest =>
    if c = ',' then [] :: splitCommas rest
    else
      match splitCommas rest with
      | [] => [[c]]
      | first :: more => (c :: first) :: more

def insertAll (directives : List Directive) : List Directive :=
  directives.foldl (fun sorted directive => directive.insert sorted) []

def ofDirectives (directives : List Directive) : LogFilter :=
  let dynamics := directives.filter Directive.isDynamic
  let plain := directives.filter fun directive => !directive.isDynamic
  { statics := insertAll (plain ++ (dynamics.filter Directive.isStatic).map
    fun directive =>
      { directive with span := none })
    dynamics := insertAll dynamics }

def parse? (text : String) : Option LogFilter := do
  let directives ← ((splitCommas text.toList).filter (· ≠ [])).mapM
      Directive.parse?
  return ofDirectives directives

def text (filter : LogFilter) : String :=
  String.ofList
    (([','] : List Char).intercalate
      ((filter.statics ++ filter.dynamics).map Directive.text))

def info : LogFilter := { statics := [{ level := .info }] }

/--
The filter of the environment if it is valid, else the configured one, else
`info`.
-/
def choose (environment : Option String) (configured : String) : LogFilter :=
  ((environment.bind parse?).orElse fun _ => parse? configured).getD info

end LogFilter

end Signpost
