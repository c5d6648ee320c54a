import Signpost.Regex.Lexeme

/-!
# Reading regular expressions

The text is read from left to right, one lexeme at a time, against a stack of
open groups.  The first fault met stops the reading; groups left open are a
fault at the end, and too deep a nesting is one after that.
-/

namespace Signpost.Regex

structure Frame where
  items : List Ast := []
  branches : List Ast := []
  deriving DecidableEq, Repr

def Frame.push (frame : Frame) (item : Ast) : Frame :=
  { frame with items := item :: frame.items }

def Frame.bar (frame : Frame) : Frame :=
  { items := [], branches := Ast.ofItems frame.items :: frame.branches }

def Frame.close (frame : Frame) : Ast :=
  .ofBranches (Ast.ofItems frame.items :: frame.branches)

def Frame.hasOperand (frame : Frame) : Bool :=
  match frame.items with
  | [] | .empty :: _ | .flags _ :: _ => false
  | _ => true

/--
A group whose closing parenthesis is still to come, with what surrounds it.
-/
structure OpenGroup where
  kind : GroupKind
  outer : Frame
  outerVerbose : Bool
  deriving DecidableEq, Repr

structure ParseState where
  frame : Frame := {}
  groups : List OpenGroup := []
  verbose : Bool := false
  captures : Nat := 0
  names : List (List Char) := []
  deriving DecidableEq, Repr

namespace ParseState

def push (state : ParseState) (item : Ast) : ParseState :=
  { state with frame := state.frame.push item }

def openGroup (state : ParseState) (kind : GroupKind)
    (verbose : Bool) : ParseState :=
  { state with
    frame := {}
    groups := ⟨kind, state.frame, state.verbose⟩ :: state.groups
    verbose }

def openCapture (state : ParseState) (name : Option (List Char)) :
    Except Error ParseState :=
  let index := state.captures + 1
  let opened :=
    { state.openGroup (.capture index name) state.verbose with captures :=
      index }
  match name with
  | none => .ok opened
  | some name =>
    if name ∈ state.names then .error .groupNameDuplicate
    else .ok { opened with names := name :: state.names }

def closeGroup (state : ParseState) : Except Error ParseState :=
  match state.groups with
  | [] => .error .groupUnopened
  | ⟨kind, outer, verbose⟩ :: groups =>
    .ok { state with frame := outer.push (.group kind
      state.frame.close), groups, verbose }

def quantify (state : ParseState) (bounds : Bounds)
    (greedy : Bool) : ParseState :=
  match state.frame.items with
  | [] => state
  | item :: items =>
    { state with
      frame :=
        { state.frame with items := .repetition item bounds greedy :: items } }

end ParseState

def Primitive.toAst : Primitive → Ast
  | .literal written => .literal written
  | .dot => .dot
  | .assertion kind => .assertion kind
  | .letter kind negated => .letter kind negated
  | .property query negated => .property query negated

def ParseState.step (state : ParseState) : Lexeme → Except Error ParseState
  | .primitive item => .ok (state.push item.toAst)
  | .bracketed negated inner => .ok (state.push (.bracketed negated inner))
  | .quantifier bounds greedy => .ok (state.quantify bounds greedy)
  | .openCapture name => state.openCapture name
  | .openFlagged changes =>
    .ok (state.openGroup (.flagged changes)
      ((changes.value? .ignoreWhitespace).getD state.verbose))
  | .setFlags changes =>
    .ok { state.push (.flags changes) with
      verbose := (changes.value? .ignoreWhitespace).getD state.verbose }
  | .close => state.closeGroup
  | .bar => .ok { state with frame := state.frame.bar }

/--
Reads lexemes to the end of the text; every one of them takes a character at
least.
-/
def ParseState.run : Nat → ParseState → List Char → Except Error ParseState
  | 0, state, _ => .ok state
  | fuel + 1, state, text =>
    match skip state.verbose text with
    | [] => .ok state
    | text => do
      let (lexeme, rest) ← Lexeme.next state.verbose state.frame.hasOperand text
      let state ← state.step lexeme
      ParseState.run fuel state rest

def ParseState.finish (state : ParseState) : Except Error Ast :=
  match state.groups with
  | [] => .ok state.frame.close
  | _ => .error .groupUnclosed

def nestLimit : Nat := 250

def parse (text : List Char) : Except Error Ast := do
  let state ← ParseState.run (text.length + 1) {} text
  let ast ← state.finish
  if ast.depth ≤ nestLimit then return ast
  else .error (.nestLimitExceeded nestLimit)

end Signpost.Regex
