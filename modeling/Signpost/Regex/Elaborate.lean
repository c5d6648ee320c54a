import Signpost.Regex.CharProperty
import Signpost.Regex.Node

/-!
# From syntax to matching

Flags are resolved here: every character becomes a set, every assertion the
one meant at its place, every quantifier greedy or lazy.  Without the flag
`u` a class may hold ASCII only, and whatever could match outside of it is
refused.
-/

namespace Signpost.Regex

structure Settings where
  caseInsensitive : Bool := false
  multiLine : Bool := false
  dotMatchesNewline : Bool := false
  swapGreed : Bool := false
  unicode : Bool := true
  crlf : Bool := false
  deriving DecidableEq, Repr

def Settings.change (settings : Settings) : Flag × Bool → Settings
  | (.caseInsensitive, value) => { settings with caseInsensitive := value }
  | (.multiLine, value) => { settings with multiLine := value }
  | (.dotMatchesNewline, value) => { settings with dotMatchesNewline := value }
  | (.swapGreed, value) => { settings with swapGreed := value }
  | (.unicode, value) => { settings with unicode := value }
  | (.crlf, value) => { settings with crlf := value }
  | (.ignoreWhitespace, _) => settings

def Settings.apply (settings : Settings) (changes : FlagChanges) : Settings :=
  changes.foldl Settings.change settings

def Settings.fold (settings : Settings) (set : CharSet) : CharSet :=
  if settings.caseInsensitive then
    if settings.unicode then .folded set else .foldedAscii set
  else set

/--
The complement of a set that is negated, which without the flag `u` is refused.
-/
def Settings.negate (settings : Settings) (negated : Bool) (set : CharSet) :
    Except Error CharSet :=
  if negated then
    if settings.unicode then .ok (.compl set) else .error .invalidUtf8
  else .ok set

def Settings.checkByte (settings : Settings) (literal : Literal) :
    Except Error Unit :=
  -- without `u` such an escape is a byte, and beyond ASCII no character
  if !settings.unicode && literal.byte && 128 ≤ literal.char.toNat then
    .error .invalidUtf8
  else .ok ()

def Settings.classChar (settings : Settings) (literal : Literal) :
    Except Error Char := do
  settings.checkByte literal
  if !settings.unicode && 128 ≤
    literal.char.toNat then .error .unicodeNotAllowed
  else return literal.char

def Settings.letter (settings : Settings) (kind : LetterClass)
    (negated : Bool) :
    Except Error CharSet :=
  settings.negate negated (if settings.unicode then kind.unicodeSet
    else kind.asciiSet)

def Settings.property (settings : Settings) (query : PropertyQuery)
    (negated : Bool) :
    Except Error CharSet := do
  if settings.unicode then settings.negate negated (settings.fold (← query.set))
  else .error .unicodeNotAllowed

def SetOp.apply (op : SetOp) (left right : CharSet) : CharSet :=
  match op with
  | .intersection => .inter left right
  | .difference => .diff left right
  | .symmetricDifference => .symmDiff left right

def ClassExpr.elaborate (settings : Settings) : ClassExpr → Except Error CharSet
  | .empty => .ok .none
  | .literal written => do return .singleton (← settings.classChar written)
  | .range first last => do
    let first ← settings.classChar first
    let last ← settings.classChar last
    return .range first last
  | .posix kind negated => settings.negate negated (settings.fold kind.set)
  | .letter kind negated => settings.letter kind negated
  | .property query negated => settings.property query negated
  | .bracketed negated inner => do
    settings.negate negated (settings.fold (← inner.elaborate settings))
  | .union items item => do
    let items ← items.elaborate settings
    let item ← item.elaborate settings
    return .union items item
  | .binary op left right => do
    let left ← left.elaborate settings
    let right ← right.elaborate settings
    return op.apply (settings.fold left) (settings.fold right)

def Settings.dot (settings : Settings) : Except Error CharSet :=
  if !settings.unicode then .error .invalidUtf8
  else if settings.dotMatchesNewline then .ok .all
  else if settings.crlf then .ok (.compl (.ofChars ['\n', '\r']))
  else .ok (.compl (.singleton '\n'))

def Settings.look (settings : Settings) : Assertion → Look
  | .startText => .startText
  | .endText => .endText
  | .startLine =>
    if settings.multiLine then if settings.crlf then .startAnyLine
    else .startLine
    else .startText
  | .endLine =>
    if settings.multiLine then if settings.crlf then .endAnyLine else .endLine
    else .endText
  | .wordBoundary => .word .boundary settings.unicode
  | .notWordBoundary => .word .notBoundary settings.unicode
  | .wordStart => .word .start settings.unicode
  | .wordEnd => .word .stop settings.unicode
  | .wordStartHalf => .word .startHalf settings.unicode
  | .wordEndHalf => .word .stopHalf settings.unicode

/--
A repetition; one that is never made leaves nothing behind, groups included.
-/
def Node.repeated (body : Node) (bounds : Bounds) (greedy : Bool) : Node :=
  match bounds with
  | ⟨0, some 0⟩ => .empty
  | ⟨1, some 1⟩ => body
  | ⟨0, some 1⟩ => if greedy then .alt body .empty else .alt .empty body
  | ⟨least, most⟩ => .loop body least most greedy

/-- The expression with the flags in force behind it. -/
def Ast.elaborate (settings : Settings) : Ast → Except Error (Node × Settings)
  | .empty => .ok (.empty, settings)
  | .flags changes => .ok (.empty, settings.apply changes)
  | .literal written => do
    settings.checkByte written
    return (.one (settings.fold (.singleton written.char)), settings)
  | .dot => do return (.one (← settings.dot), settings)
  | .assertion kind => .ok (.look (settings.look kind), settings)
  | .letter kind negated =>
      do return (.one (← settings.letter kind negated), settings)
  | .property query negated =>
      do return (.one (← settings.property query negated), settings)
  | .bracketed negated inner => do
    let set ← settings.negate negated
        (settings.fold (← inner.elaborate settings))
    return (.one set, settings)
  | .repetition operand bounds greedy => do
    let (body, settings) ← operand.elaborate settings
    return (body.repeated bounds (greedy != settings.swapGreed), settings)
  | .group kind inner => do
    match kind with
    | .capture index _ =>
      let (body, _) ← inner.elaborate settings
      return (.group index body, settings)
    | .flagged changes =>
      let (body, _) ← inner.elaborate (settings.apply changes)
      return (body, settings)
  | .concat items item => do
    let (first, settings) ← items.elaborate settings
    let (second, settings) ← item.elaborate settings
    return (.seq first second, settings)
  | .alternation branches branch => do
    let (first, settings) ← branches.elaborate settings
    let (second, settings) ← branch.elaborate settings
    return (.alt first second, settings)

def Ast.groupNames : Ast → List (List Char × Nat)
  | .repetition operand _ _ => operand.groupNames
  | .group (.capture index (some name)) inner =>
      (name, index) :: inner.groupNames
  | .group _ inner => inner.groupNames
  | .concat first second | .alternation first second =>
      first.groupNames ++ second.groupNames
  | _ => []

end Signpost.Regex
