import Signpost.Regex.CharSet
import Signpost.Regex.Error
import Signpost.Regex.Syntax
import Signpost.Unicode.Category
import Signpost.Unicode.Property
import Signpost.Unicode.Script
import Signpost.Unicode.ScriptExtension

/-!
# Named classes of characters

The sets that stand behind `\p{...}`, the letters `\d`, `\s` and `\w`, and the
names in brackets such as `[:alpha:]`.  Names of properties are compared
loosely: case, blanks, underscores, hyphens and a leading "is" do not count.
-/

namespace Signpost.Regex

def significant (name : List Char) : List Char :=
  (name.filter fun c => c.toNat < 128 && c != ' ' && c != '_' && c != '-').map
    Char.toLower

/--
A name as the tables spell it; `isc` keeps its first letters, being no "is" and
"c".
-/
def looseName (name : List Char) : String :=
  match name with
  | i :: s :: rest =>
    if i.toLower = 'i' ∧ s.toLower = 's' then
      let kept := significant rest
      if kept = ['c'] then "isc" else String.ofList kept
    else String.ofList (significant name)
  | _ => String.ofList (significant name)

def lookup {α : Type} (name : String) (entries : List (List String × α)) :
    Option α :=
  (entries.find? fun entry => entry.1.contains name).map Prod.snd

def tables (ranges : List Unicode.Ranges) : CharSet :=
  .unions (ranges.map .table)

def categorySet? (name : String) : Option CharSet :=
  match name with
  | "any" => some .all
  | "ascii" => some (.range '\x00' '\x7f')
  | "assigned" => some (.compl (.table Unicode.Category.unassigned))
  | _ => (lookup name Unicode.Category.byName).map tables

def scriptSet? (name : String) : Option CharSet :=
  (lookup name Unicode.Script.byName).map .table

def scriptExtensionSet? (name : String) : Option CharSet :=
  (lookup name Unicode.ScriptExtension.byName).map .table

def valueProperties : List String :=
  ["gc", "generalcategory", "category", "sc", "script",
    "scx", "scriptextensions"]

def isPropertyName (name : String) : Bool :=
  valueProperties.contains name || Unicode.Property.otherNames.contains name ||
    (lookup name Unicode.Property.byName).isSome

/--
The short names of three categories hide properties with the same short names.
-/
def isCategoryFirst (name : String) : Bool :=
  name = "cf" || name = "sc" || name = "lc"

def namedSet (name : String) : Except Error CharSet :=
  if !isCategoryFirst name && isPropertyName name then
    match lookup name Unicode.Property.byName with
    | some ranges => .ok (.table ranges)
    | none => .error .unicodePropertyNotFound
  else
    match (categorySet? name).orElse fun _ => scriptSet? name with
    | some set => .ok set
    | none =>
      if name = "cs" ∨ name = "surrogate" then .error
        .unicodePropertyValueNotFound
      else .error .unicodePropertyNotFound

def valueSet (property value : String) : Except Error CharSet :=
  let found :=
    match property with
    | "gc" | "generalcategory" | "category" => categorySet? value
    | "sc" | "script" => scriptSet? value
    | "scx" | "scriptextensions" => scriptExtensionSet? value
    | _ => none
  match found with
  | some set => .ok set
  | none =>
    if isPropertyName property then .error .unicodePropertyValueNotFound
    else .error .unicodePropertyNotFound

def PropertyQuery.set : PropertyQuery → Except Error CharSet
  | .name text => namedSet (looseName text)
  | .value property text => valueSet (looseName property) (looseName text)

def asciiWord : CharSet :=
  .unions [.range 'a' 'z', .range 'A' 'Z', .range '0' '9', .singleton '_']

def LetterClass.asciiSet : LetterClass → CharSet
  | .digit => .range '0' '9'
  | .space => .union (.range '\t' '\r') (.singleton ' ')
  | .word => asciiWord

def LetterClass.unicodeSet : LetterClass → CharSet
  | .digit => .union (.range '0' '9') (.table Unicode.Category.decimalNumber)
  | .space => .table Unicode.Property.whiteSpace
  | .word =>
    .union asciiWord
      (tables [Unicode.Property.alphabetic, Unicode.Category.nonspacingMark,
      Unicode.Category.spacingMark, Unicode.Category.enclosingMark,
      Unicode.Category.decimalNumber, Unicode.Category.connectorPunctuation,
      Unicode.Property.joinControl])

def PosixClass.set : PosixClass → CharSet
  | .alnum => .unions [.range '0' '9', .range 'A' 'Z', .range 'a' 'z']
  | .alpha => .unions [.range 'A' 'Z', .range 'a' 'z']
  | .ascii => .range '\x00' '\x7f'
  | .blank => .ofChars ['\t', ' ']
  | .cntrl => .unions [.range '\x00' '\x1f', .singleton '\x7f']
  | .digit => .range '0' '9'
  | .graph => .range '!' '~'
  | .lower => .range 'a' 'z'
  | .print => .range ' ' '~'
  | .punct => .unions [.range '!' '/', .range ':' '@', .range '[' '\x60',
      .range '\x7b' '~']
  | .space => .unions [.range '\t' '\r', .singleton ' ']
  | .upper => .range 'A' 'Z'
  | .word => asciiWord
  | .xdigit => .unions [.range '0' '9', .range 'A' 'F', .range 'a' 'f']

end Signpost.Regex
