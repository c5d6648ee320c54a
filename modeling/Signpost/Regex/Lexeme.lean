import Signpost.Regex.Error
import Signpost.Regex.Syntax
import Signpost.Unicode.Class

/-!
# Lexemes of regular expressions

A lexeme is the longest stretch of the notation that can be read without
knowing which groups are open: a character, an escape, a whole bracketed class,
a quantifier, the head of a group.  `Lexeme.next` reads one and returns the rest
of the text.

Under the flag `x`, here called `verbose`, blanks and comments may stand
between the parts of most lexemes.
-/

namespace Signpost.Regex

abbrev Reader (α : Type) := List Char → Except Error (α × List Char)

/-! ## Blanks, comments and numbers -/

/--
Drops blanks and comments; `inComment` says that the text begins inside one.
-/
def dropTrivia (inComment : Bool) : List Char → List Char
  | [] => []
  | c :: rest =>
    if inComment then dropTrivia (c != '\n') rest
    else if Unicode.isWhiteSpace c then dropTrivia false rest
    else if c = '#' then dropTrivia true rest
    else c :: rest

def skip (verbose : Bool) (text : List Char) : List Char :=
  if verbose then dropTrivia false text else text

def gatherWith (verbose : Bool) (test : Char → Bool) :
    Nat → List Char → List Char × List Char
  | fuel + 1, c :: rest =>
    if test c then
      let (more, rest) := gatherWith verbose test fuel (skip verbose rest)
      (c :: more, rest)
    else ([], c :: rest)
  | _, text => ([], text)

def gather (verbose : Bool) (test : Char → Bool) (text : List Char) :
    List Char × List Char :=
  gatherWith verbose test text.length text

def decimalValue (digits : List Char) : Nat :=
  digits.foldl (fun value c => value * 10 + (c.toNat - 48)) 0

def countLimit : Nat := 4294967296

def decimal (verbose : Bool) (text : List Char) :
    Except Error Nat × List Char :=
  let (digits, rest) :=
    gather verbose Char.isDigit (text.dropWhile Unicode.isWhiteSpace)
  let rest := (gather verbose Unicode.isWhiteSpace rest).2
  let value := decimalValue digits
  if digits = [] then (.error .repetitionCountEmpty, rest)
  else if value < countLimit then (.ok value, rest)
  else (.error .decimalInvalid, rest)

def isHexDigit (c : Char) : Bool :=
  c.isDigit || ('a' ≤ c && c ≤ 'f') || ('A' ≤ c && c ≤ 'F')

def hexValue (digits : List Char) : Nat :=
  digits.foldl (fun value c => value * 16 + Unicode.Ranges.hexValue c) 0

def scalarValue (value : Nat) : Except Error Char :=
  if value.isValidChar then .ok (Char.ofNat value) else .error .escapeHexInvalid

/-! ## Escapes -/

inductive Primitive where
  | literal (literal : Literal)
  | dot
  | assertion (kind : Assertion)
  | letter (kind : LetterClass) (negated : Bool)
  | property (query : PropertyQuery) (negated : Bool)
  deriving DecidableEq, Repr

def hexDigits (verbose : Bool) : Nat → Reader (List Char)
  | 0, text => .ok ([], text)
  | _ + 1, [] => .error .escapeUnexpectedEnd
  | count + 1, c :: rest =>
    if isHexDigit c then do
      let (more, rest) ← hexDigits verbose count (skip verbose rest)
      return (c :: more, rest)
    else .error .escapeHexInvalidDigit

def hexEscape (verbose : Bool) (count : Nat) (text : List Char) :
    Except Error (Primitive × List Char) :=
  match skip verbose text with
  | [] => .error .escapeUnexpectedEnd
  | '{' :: rest =>
    match gather verbose isHexDigit (skip verbose rest) with
    | (_, []) => .error .escapeUnexpectedEnd
    | (digits, '}' :: rest) =>
      if digits = [] then .error .escapeHexEmpty
      else do
        let c ← scalarValue (hexValue digits)
        return (.literal ⟨c, false⟩, rest)
    | _ => .error .escapeHexInvalidDigit
  | text => do
    let (digits, rest) ← hexDigits verbose count text
    let c ← scalarValue (hexValue digits)
    -- two digits may be meant for a byte
    return (.literal ⟨c, count = 2⟩, rest)

def splitAtFirst (mark : List Char) : List Char → Option (List Char × List Char)
  | [] => none
  | c :: rest =>
    if mark.isPrefixOf (c :: rest) then some ([], (c :: rest).drop mark.length)
    else (splitAtFirst mark rest).map fun (before, after) =>
      (c :: before, after)

def propertyQuery (text : List Char) : PropertyQuery :=
  match splitAtFirst ['!', '='] text with
  | some (property, value) => .value property value
  | none =>
    match splitAtFirst [':'] text with
    | some (property, value) => .value property value
    | none =>
      match splitAtFirst ['='] text with
      | some (property, value) => .value property value
      | none => .name text

def propertyEscape (verbose negated : Bool) (text : List Char) :
    Except Error (Primitive × List Char) :=
  match skip verbose text with
  | [] => .error .escapeUnexpectedEnd
  | '{' :: rest =>
    match gather verbose (· != '}') (skip verbose rest) with
    | (name, _ :: rest) => .ok (.property (propertyQuery name) negated, rest)
    | (_, []) => .error .escapeUnexpectedEnd
  | '\\' :: _ => .error .unicodeClassInvalid
  | c :: rest => .ok (.property (.name [c]) negated, rest)

def isBoundaryNameChar (c : Char) : Bool := c.isAlpha || c = '-'

/--
What stands after `\b`.  A brace opens the name of a special boundary only if a
letter or hyphen follows; otherwise it is left for a counted repetition.
-/
def wordBoundary (verbose : Bool) :
    List Char → Except Error (Assertion × List Char)
  | '{' :: rest =>
    match skip verbose rest with
    | [] => .error .specialWordOrRepetitionUnexpectedEnd
    | c :: inside =>
      if isBoundaryNameChar c then
        match gather verbose isBoundaryNameChar (c :: inside) with
        | (name, '}' :: rest) =>
          match String.ofList name with
          | "start" => .ok (.wordStart, rest)
          | "end" => .ok (.wordEnd, rest)
          | "start-half" => .ok (.wordStartHalf, rest)
          | "end-half" => .ok (.wordEndHalf, rest)
          | _ => .error .specialWordBoundaryUnrecognized
        | _ => .error .specialWordBoundaryUnclosed
      else .ok (.wordBoundary, '{' :: rest)
  | text => .ok (.wordBoundary, text)

def isEscapable (c : Char) : Bool :=
  c.toNat < 128 && !c.isAlphanum && c != '<' && c != '>'

def escape (verbose : Bool) : List Char → Except Error (Primitive × List Char)
  | [] => .error .escapeUnexpectedEnd
  | c :: rest =>
    if c.isDigit then .error .unsupportedBackreference
    else if isEscapable c then .ok (.literal ⟨c, false⟩, rest)
    else
      match c with
      | 'x' => hexEscape verbose 2 rest
      | 'u' => hexEscape verbose 4 rest
      | 'U' => hexEscape verbose 8 rest
      | 'p' => propertyEscape verbose false rest
      | 'P' => propertyEscape verbose true rest
      | 'd' => .ok (.letter .digit false, rest)
      | 'D' => .ok (.letter .digit true, rest)
      | 's' => .ok (.letter .space false, rest)
      | 'S' => .ok (.letter .space true, rest)
      | 'w' => .ok (.letter .word false, rest)
      | 'W' => .ok (.letter .word true, rest)
      | 'a' => .ok (.literal ⟨'\x07', false⟩, rest)
      | 'f' => .ok (.literal ⟨'\x0c', false⟩, rest)
      | 't' => .ok (.literal ⟨'\t', false⟩, rest)
      | 'n' => .ok (.literal ⟨'\n', false⟩, rest)
      | 'r' => .ok (.literal ⟨'\r', false⟩, rest)
      | 'v' => .ok (.literal ⟨'\x0b', false⟩, rest)
      | 'A' => .ok (.assertion .startText, rest)
      | 'z' => .ok (.assertion .endText, rest)
      | 'b' => do
        let (kind, rest) ← wordBoundary verbose rest
        return (.assertion kind, rest)
      | 'B' => .ok (.assertion .notWordBoundary, rest)
      | '<' => .ok (.assertion .wordStart, rest)
      | '>' => .ok (.assertion .wordEnd, rest)
      | _ => .error .escapeUnrecognized

/-! ## Bracketed classes -/

def Primitive.toClassExpr : Primitive → Except Error ClassExpr
  | .literal written => .ok (.literal written)
  | .letter kind negated => .ok (.letter kind negated)
  | .property query negated => .ok (.property query negated)
  | _ => .error .classEscapeInvalid

def Primitive.toLiteral : Primitive → Except Error Literal
  | .literal written => .ok written
  | _ => .error .classRangeLiteral

def classPrimitive (verbose : Bool) :
    List Char → Except Error (Primitive × List Char)
  | [] => .error .classUnclosed
  | '\\' :: rest => escape verbose rest
  | c :: rest => .ok (.literal ⟨c, false⟩, rest)

def afterHyphen (verbose : Bool) (text : List Char) : Option Char :=
  if verbose then
    match text.dropWhile Unicode.isWhiteSpace with
    | '#' :: rest => (rest.dropWhile Unicode.isWhiteSpace).head?
    | rest => rest.head?
  else text.head?

def classItem (verbose : Bool) (text : List Char) :
    Except Error (ClassExpr × List Char) := do
  let (first, rest) ← classPrimitive verbose text
  match skip verbose rest with
  | [] => .error .classUnclosed
  | '-' :: rest =>
    let next := afterHyphen verbose rest
    -- before the closing bracket or another hyphen it makes no range
    if next = some ']' ∨ next = some '-' then
      let item ← first.toClassExpr
      return (item, '-' :: rest)
    else
      match skip verbose rest with
      | [] => .error .classUnclosed
      | rest =>
        let (last, rest) ← classPrimitive verbose rest
        let first ← first.toLiteral
        let last ← last.toLiteral
        if first.char ≤ last.char then return (.range first last, rest)
        else .error .classRangeInvalid
  | rest => do
    let item ← first.toClassExpr
    return (item, rest)

/--
Reads `[:name:]` or `[:^name:]` from behind its first bracket, if it stands
there.
-/
def posixClass (text : List Char) : Option (ClassExpr × List Char) :=
  match text with
  | ':' :: '^' :: rest => named true rest
  | ':' :: rest => named false rest
  | _ => none
where
  named (negated : Bool) (text : List Char) : Option (ClassExpr × List Char) :=
    match text.dropWhile (· != ':') with
    | ':' :: ']' :: rest =>
      (PosixClass.ofName? (text.takeWhile (· != ':'))).map fun kind =>
        (.posix kind negated, rest)
    | _ => none

/--
An open bracket: its negation, the operator that waits for its right side, and
the items read since, latest first.
-/
structure OpenClass where
  negated : Bool
  pending : Option (SetOp × ClassExpr) := none
  items : List ClassExpr := []
  deriving DecidableEq, Repr

def OpenClass.expr (bracket : OpenClass) : ClassExpr :=
  match bracket.pending with
  | none => .ofItems bracket.items
  | some (op, left) => .binary op left (.ofItems bracket.items)

def OpenClass.push (bracket : OpenClass) (item : ClassExpr) : OpenClass :=
  { bracket with items := item :: bracket.items }

def OpenClass.operator (bracket : OpenClass) (op : SetOp) : OpenClass :=
  { bracket with pending := some (op, bracket.expr), items := [] }

def leadingHyphens (verbose : Bool) : Nat → List Char →
    List ClassExpr × List Char
  | fuel + 1, '-' :: rest =>
    let (items, rest) := leadingHyphens verbose fuel (skip verbose rest)
    (items ++ [.literal ⟨'-', false⟩], rest)
  | _, text => ([], text)

def openItems (verbose negated : Bool) (text : List Char) :
    Except Error (OpenClass × List Char) :=
  let (hyphens, text) := leadingHyphens verbose text.length text
  match hyphens, text with
  | _, [] => .error .classUnclosed
  -- a bracket that comes first stands for itself
  | [], ']' :: rest =>
    match skip verbose rest with
    | [] => .error .classUnclosed
    | rest => .ok ({ negated, items := [.literal ⟨']', false⟩] }, rest)
  | _, _ => .ok ({ negated, items := hyphens }, text)

def openClass (verbose : Bool) (text : List Char) :
    Except Error (OpenClass × List Char) :=
  match skip verbose text with
  | '^' :: rest => openItems verbose true (skip verbose rest)
  | text => openItems verbose false text

/-- Reads up to the bracket that closes the outermost class. -/
def classBody (verbose : Bool) :
    Nat → OpenClass → List OpenClass → Reader (Bool × ClassExpr)
  | 0, _, _, _ => .error .classUnclosed
  | fuel + 1, current, outer, text =>
    match skip verbose text with
    | [] => .error .classUnclosed
    | '[' :: rest =>
      match posixClass rest with
      | some (item, rest) =>
          classBody verbose fuel (current.push item) outer rest
      | none => do
        let (inner, rest) ← openClass verbose rest
        classBody verbose fuel inner (current :: outer) rest
    | ']' :: rest =>
      match outer with
      | [] => .ok ((current.negated, current.expr), rest)
      | parent :: outer =>
        let item := .bracketed current.negated current.expr
        classBody verbose fuel (parent.push item) outer rest
    | '&' :: '&' :: rest =>
      classBody verbose fuel (current.operator .intersection) outer rest
    | '-' :: '-' :: rest =>
      classBody verbose fuel (current.operator .difference) outer rest
    | '~' :: '~' :: rest =>
      classBody verbose fuel (current.operator .symmetricDifference) outer rest
    | text => do
      let (item, rest) ← classItem verbose text
      classBody verbose fuel (current.push item) outer rest

def bracketedClass (verbose : Bool) : Reader (Bool × ClassExpr) :=
  fun text => do
  let (current, rest) ← openClass verbose text
  classBody verbose (text.length + 1) current [] rest

/-! ## Quantifiers, groups and lexemes -/

def greed : List Char → Bool × List Char
  | '?' :: rest => (false, rest)
  | text => (true, text)

def countedBounds (verbose : Bool) (text : List Char) :
    Except Error (Bounds × List Char) :=
  match skip verbose text with
  | [] => .error .repetitionCountUnclosed
  | text =>
    let (least, rest) := decimal verbose text
    match rest with
    | [] => .error .repetitionCountUnclosed
    | ',' :: rest =>
      match skip verbose rest with
      | [] => .error .repetitionCountUnclosed
      | '}' :: rest => do return (⟨← least, none⟩, '}' :: rest)
      | rest => do
        let least ← least
        let (most, rest) := decimal verbose rest
        return (⟨least, some (← most)⟩, rest)
    | rest => do
      let least ← least
      return (⟨least, some least⟩, rest)

def Bounds.isValid (bounds : Bounds) : Bool :=
  match bounds.most with
  | none => true
  | some most => bounds.least ≤ most

def counted (verbose : Bool) (text : List Char) :
    Except Error ((Bounds × Bool) × List Char) := do
  let (bounds, rest) ← countedBounds verbose text
  match rest with
  | '}' :: rest =>
    let (greedy, rest) := greed (skip verbose rest)
    if bounds.isValid then return ((bounds, greedy), rest)
    else .error .repetitionCountInvalid
  | _ => .error .repetitionCountUnclosed

def isGroupNameStart (c : Char) : Bool := c = '_' || Unicode.isAlphabetic c

def isGroupNameChar (c : Char) : Bool :=
  c = '_' || c = '.' || c = '[' || c = ']' || Unicode.isAlphanumeric c

def groupNameTail : Reader (List Char)
  | [] => .error .groupNameUnexpectedEnd
  | c :: rest =>
    if c = '>' then .ok ([], rest)
    else if isGroupNameChar c then do
      let (name, rest) ← groupNameTail rest
      return (c :: name, rest)
    else .error .groupNameInvalid

def groupName : Reader (List Char)
  | [] => .error .groupNameUnexpectedEnd
  | c :: rest =>
    if c = '>' then .error .groupNameEmpty
    else if isGroupNameStart c then do
      let (name, rest) ← groupNameTail rest
      return (c :: name, rest)
    else .error .groupNameInvalid

/--
Flags up to the `:` or `)` that ends them, which stays in the text.  `enabled`
turns off at the sign `-`, which may stand once and not at the end.
-/
def flagChanges (enabled afterMinus : Bool) (seen : FlagChanges) :
    Reader FlagChanges
  | [] => .error .flagUnexpectedEnd
  | c :: rest =>
    if c = ':' ∨ c = ')' then
      if afterMinus then .error .flagDanglingNegation
      else .ok (seen.reverse, c :: rest)
    else if c = '-' then
      if enabled then flagChanges false true seen rest
      else .error .flagRepeatedNegation
    else
      match Flag.ofChar? c with
      | none => .error .flagUnrecognized
      | some flag =>
        if seen.any (·.1 = flag) then .error .flagDuplicate
        else flagChanges enabled false ((flag, enabled) :: seen) rest

inductive Lexeme where
  | primitive (primitive : Primitive)
  | bracketed (negated : Bool) (inner : ClassExpr)
  | quantifier (bounds : Bounds) (greedy : Bool)
  | openCapture (name : Option (List Char))
  | openFlagged (changes : FlagChanges)
  | setFlags (changes : FlagChanges)
  | close
  | bar
  deriving DecidableEq, Repr

def groupHead (verbose : Bool) (text : List Char) :
    Except Error (Lexeme × List Char) :=
  match skip verbose text with
  | '?' :: '=' :: _ | '?' :: '!' :: _ | '?' :: '<' :: '=' :: _
  | '?' :: '<' :: '!' :: _ =>
    .error .unsupportedLookAround
  | '?' :: 'P' :: '<' :: rest | '?' :: '<' :: rest => do
    let (name, rest) ← groupName rest
    return (.openCapture (some name), rest)
  | ['?'] => .error .groupUnclosed
  | '?' :: rest => do
    match ← flagChanges true false [] rest with
    | ([], ')' :: _) => .error .repetitionMissing
    | (changes, ')' :: rest) => return (.setFlags changes, rest)
    | (changes, rest) => return (.openFlagged changes, rest.tail)
  | text => .ok (.openCapture none, text)

/--
Reads one lexeme.  `hasOperand` says whether a quantifier may stand here, which
is looked at before the quantifier itself is read.
-/
def Lexeme.next (verbose hasOperand : Bool) : Reader Lexeme
  | [] => .error .escapeUnexpectedEnd
  | '(' :: rest => groupHead verbose rest
  | ')' :: rest => .ok (.close, rest)
  | '|' :: rest => .ok (.bar, rest)
  | '[' :: rest => do
    let ((negated, inner), rest) ← bracketedClass verbose rest
    return (.bracketed negated inner, rest)
  | '?' :: rest => uncounted ⟨0, some 1⟩ rest
  | '*' :: rest => uncounted ⟨0, none⟩ rest
  | '+' :: rest => uncounted ⟨1, none⟩ rest
  | '{' :: rest =>
    if hasOperand then do
      let ((bounds, greedy), rest) ← counted verbose rest
      return (.quantifier bounds greedy, rest)
    else .error .repetitionMissing
  | '\\' :: rest => do
    let (item, rest) ← escape verbose rest
    return (.primitive item, rest)
  | '.' :: rest => .ok (.primitive .dot, rest)
  | '^' :: rest => .ok (.primitive (.assertion .startLine), rest)
  | '$' :: rest => .ok (.primitive (.assertion .endLine), rest)
  | c :: rest => .ok (.primitive (.literal ⟨c, false⟩), rest)
where
  uncounted (bounds : Bounds) (rest : List Char) :
    Except Error (Lexeme × List Char) :=
    if hasOperand then
      let (greedy, rest) := greed rest
      .ok (.quantifier bounds greedy, rest)
    else .error .repetitionMissing

end Signpost.Regex
