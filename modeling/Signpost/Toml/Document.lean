import Signpost.Toml.Scalar

/-!
# TOML documents

A document is a sequence of lines: entries, headers of tables and of arrays of
tables, comments.  Entries go into the table of the last header; a table is
placed in the document when the next header comes.  Keys, tables and arrays
that are given twice make the document invalid.
-/

namespace Signpost.Toml

/-- What stands under a key while the document is being read. -/
inductive Item where
  | value (value : Toml)
  /--
  `implicit`: only named on the way to another; `dotted`: named by a key with
  dots.
  -/
  | table (implicit dotted : Bool) (entries : List (String × Item))
  /-- The tables of an array of tables, latest first. -/
  | tables (tables : List (List (String × Item)))
  deriving Inhabited

abbrev Entries := List (String × Item)

def find? (key : String) (entries : Entries) : Option Item :=
  (entries.find? fun entry => entry.1 = key).map Prod.snd

def put (key : String) (item : Item) : Entries → Entries
  | [] => [(key, item)]
  | entry :: rest =>
    if entry.1 = key then (key, item) :: rest else entry :: put key item rest

def erase (key : String) (entries : Entries) : Entries :=
  entries.filter fun entry => entry.1 ≠ key

/--
Changes the table that a path leads to.  Tables missing on the way are made
implicitly.  A path of dotted keys may only pass through implicit tables.
-/
def changeAt (dotted : Bool) (change : Entries → Option Entries) :
    List String → Entries → Option Entries
  | [], entries => change entries
  | key :: path, entries =>
    match find? key entries with
    | none => do
      let inner ← changeAt dotted change path []
      return entries ++ [(key, .table true dotted inner)]
    | some (.table implicit isDotted inner) =>
      if dotted && !implicit then none
      else do
        let inner ← changeAt dotted change path inner
        return put key (.table implicit isDotted inner) entries
    | some (.tables (last :: earlier)) => do
      let last ← changeAt dotted change path last
      return put key (.tables (last :: earlier)) entries
    | _ => none

/--
Whether the table that a path leads to was named by dotted keys, or is yet to
be.
-/
def isDottedAt : List String → Entries → Bool
  | [], _ => false
  | [key], entries =>
    match find? key entries with
    | some (.table _ dotted _) => dotted
    | some _ => false
    | none => true
  | key :: path, entries =>
    match find? key entries with
    | some (.table _ _ inner) => isDottedAt path inner
    | some (.tables (last :: _)) => isDottedAt path last
    | _ => true

def addEntry (path : List String) (key : String) (item : Item)
    (entries : Entries) :
    Option Entries :=
  if path ≠ [] ∧ !isDottedAt path entries then none
  else
    changeAt true (fun table =>
      match find? key table with
      | none => some (table ++ [(key, item)])
      | some _ => none) path entries

mutual

def Item.toValue : Item → Toml
  | .value value => value
  | .table _ _ entries => .table (entryValues entries)
  | .tables tables => .array (tableValues tables).reverse

def entryValues : List (String × Item) → List (String × Toml)
  | [] => []
  | (key, item) :: rest => (key, item.toValue) :: entryValues rest

def tableValues : List (List (String × Item)) → List Toml
  | [] => []
  | entries :: rest => .table (entryValues entries) :: tableValues rest

end

def isBareChar (c : Char) : Bool := c.isAlphanum || c = '_' || c = '-'

def simpleKey (text : List Char) : Option (String × List Char) :=
  match text with
  | '"' :: rest => basicString (rest.length + 1) [] rest
  | '\'' :: rest => literalString rest
  | text =>
    match text.takeWhile isBareChar with
    | [] => none
    | key => some (String.ofList key, text.dropWhile isBareChar)

def nestLimit : Nat := 80

def keyPath : Nat → List Char → Option (List String × List Char)
  | 0, _ => none
  | fuel + 1, text => do
    let (key, rest) ← simpleKey (skipBlanks text)
    match skipBlanks rest with
    | '.' :: rest =>
      let (keys, rest) ← keyPath fuel rest
      return (key :: keys, rest)
    | rest => return ([key], rest)

def key? (text : List Char) : Option ((List String × String) × List Char) := do
  let (keys, rest) ← keyPath (nestLimit - 1) text
  return ((keys.dropLast, ← keys.getLast?), rest)

def skipSpace : Nat → List Char → List Char
  | fuel + 1, text =>
    match skipLineEnds text with
    | '#' :: rest =>
      match lineEnd? (rest.dropWhile isTextChar) with
      | some rest => skipSpace fuel rest
      | none => '#' :: rest
    | rest => rest
  | 0, text => text

def space (text : List Char) : List Char := skipSpace text.length text

mutual

/-- One value; `depth` is how many more arrays and tables may open. -/
def value : Nat → Nat → List Char → Option (Toml × List Char)
  | 0, _, _ => none
  | fuel + 1, depth, text =>
    match text with
    | '[' :: rest =>
      match depth with
      | 0 => none
      | depth + 1 =>
        match space rest with
        | ']' :: rest => some (.array [], rest)
        | rest => (arrayItems fuel depth rest).map fun (items, rest) =>
            (.array items, rest)
    | '\x7b' :: rest =>
      match depth with
      | 0 => none
      | depth + 1 =>
        match skipBlanks rest with
        | '\x7d' :: rest => some (.table [], rest)
        | rest =>
          (inlineEntries fuel depth [] rest).map fun (entries, rest) =>
            (.table (entryValues entries), rest)
    | text => scalar? text

def arrayItems : Nat → Nat → List Char → Option (List Toml × List Char)
  | 0, _, _ => none
  | fuel + 1, depth, text => do
    let (item, rest) ← value fuel depth text
    match space rest with
    | ']' :: rest => return ([item], rest)
    | ',' :: rest =>
      match space rest with
      | ']' :: rest => return ([item], rest)
      | rest =>
        let (items, rest) ← arrayItems fuel depth rest
        return (item :: items, rest)
    | _ => none

def inlineEntries : Nat → Nat → Entries → List Char →
    Option (Entries × List Char)
  | 0, _, _, _ => none
  | fuel + 1, depth, entries, text => do
    let ((path, key), rest) ← key? text
    match rest with
    | '=' :: rest =>
      let (item, rest) ← value fuel depth (skipBlanks rest)
      let entries ← addEntry path key (.value item) entries
      match skipBlanks rest with
      | ',' :: rest => inlineEntries fuel depth entries rest
      | '\x7d' :: rest => return (entries, rest)
      | _ => none
    | _ => none

end

structure Reading where
  root : Entries := []
  current : Entries := []
  path : List String := []
  key : Option String := none
  isArray : Bool := false

def Reading.place (reading : Reading) : Option Entries :=
  match reading.key with
  | none => some reading.current
  | some key =>
    changeAt false (fun table =>
      if reading.isArray then
        match find? key table with
        | some (.tables tables) =>
          some (put key (.tables (reading.current :: tables)) table)
        | _ => none
      else some (table ++ [(key, .table false false reading.current)]))
      reading.path reading.root

def Reading.openTable (reading : Reading) (path : List String) (key : String) :
    Option Reading := do
  let root ← reading.place
  let root ← changeAt false some path root
  let table ← lookAt path root
  match find? key table with
  | none => return { root, path, key := some key }
  -- a table that was only implied so far keeps its entries
  | some (.table true false entries) =>
    let root ← changeAt false (fun table => some (erase key table)) path root
    return { root, current := entries, path, key := some key }
  | some _ => none
where
  lookAt : List String → Entries → Option Entries
    | [], entries => some entries
    | key :: path, entries =>
      match find? key entries with
      | some (.table _ _ inner) => lookAt path inner
      | some (.tables (last :: _)) => lookAt path last
      | _ => none

def Reading.openArray (reading : Reading) (path : List String) (key : String) :
    Option Reading := do
  let root ← reading.place
  let root ← changeAt false (fun table =>
    match find? key table with
    | none => some (table ++ [(key, .tables [])])
    | some (.tables _) => some table
    | some _ => none) path root
  return { root, path, key := some key, isArray := true }

def lineRest (text : List Char) : Option (List Char) :=
  match skipComment (skipBlanks text) with
  | [] => some []
  | rest => lineEnd? rest

def header (isArray : Bool) (reading : Reading) (text : List Char) :
    Option (Reading × List Char) := do
  let ((path, key), rest) ← key? text
  match isArray, rest with
  | true, ']' :: ']' :: rest =>
    return (← reading.openArray path key, ← lineRest rest)
  | false, ']' :: rest => return (← reading.openTable path key, ← lineRest rest)
  | _, _ => none

def entryLine (reading : Reading) (text : List Char) :
    Option (Reading × List Char) := do
  let ((path, key), rest) ← key? text
  match rest with
  | '=' :: rest =>
    let (item, rest) ← value (text.length + 1) (nestLimit - 1) (skipBlanks rest)
    let rest ← lineRest rest
    let current ← addEntry path key (.value item) reading.current
    return ({ reading with current }, rest)
  | _ => none

def lines : Nat → Reading → List Char → Option Reading
  | 0, reading, _ => some reading
  | fuel + 1, reading, text =>
    match skipBlanks text with
    | [] => some reading
    | '[' :: '[' :: rest => do
      let (reading, rest) ← header true reading rest
      lines fuel reading rest
    | '[' :: rest => do
      let (reading, rest) ← header false reading rest
      lines fuel reading rest
    | '#' :: rest => do
      let rest ← lineRest ('#' :: rest)
      lines fuel reading rest
    | text =>
      match lineEnd? text with
      | some rest => lines fuel reading rest
      | none => do
        let (reading, rest) ← entryLine reading text
        lines fuel reading rest

def dropByteOrderMark : List Char → List Char
  | '\ufeff' :: rest => rest
  | text => text

def parse? (text : String) : Option (List (String × Toml)) := do
  let chars := dropByteOrderMark text.toList
  let reading ← lines (chars.length + 1) {} chars
  let root ← reading.place
  return entryValues root

end Signpost.Toml
