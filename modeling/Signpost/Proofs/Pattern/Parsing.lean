import Mathlib.Data.List.Nodup
import Signpost.Proofs.Pattern.Expression

/-!
# Reading the expression of a shape

The expression of a shape is read part by part.  Every part leaves one item
behind; the capture groups are numbered in the order in which they open.
-/

namespace Signpost

open Regex

/-! ## The items of a shape -/

def Constraint.ast {insensitive : Bool} (constraint : Constraint insensitive) :
    Ast :=
  match parse constraint.text with
  | .ok ast => ast
  | .error _ => .empty

theorem Constraint.parse_eq {insensitive : Bool}
    (constraint : Constraint insensitive) :
    parse constraint.text = .ok constraint.ast := by
  obtain ⟨ast, hparse, -⟩ := bind_eq_ok_iff.mp constraint.compiles
  rw [Constraint.ast, hparse]

namespace Shape

variable {insensitive : Bool}

def segmentAst : Ast :=
  .repetition (.bracketed true
    (.union (.literal ⟨'/', false⟩) (.literal ⟨'?', false⟩))) ⟨1, none⟩ true

def fillAst : Option (Constraint insensitive) → Ast
  | none => segmentAst
  | some constraint => constraint.ast

def optionalSlashAst : Ast :=
  .repetition (.literal ⟨'/', false⟩) ⟨0, some 1⟩ true

def wildcardAst : Ast :=
  .alternation optionalSlashAst
    (.concat (.literal ⟨'/', false⟩) (.repetition .dot ⟨0, none⟩ false))

def queryAst : Ast :=
  .repetition (.group (.flagged [])
    (.concat (.literal ⟨'?', false⟩) (.repetition .dot ⟨0, none⟩ true)))
    ⟨0, some 1⟩ true

/-- How many capture groups the expression has. -/
def captures : Shape insensitive → Nat
  | done => 0
  | plain _ next => next.captures
  | token _ _ next | wildcard next => next.captures + 1
  | optional inner next => inner.captures + next.captures + 1

/--
The items of the expression, when `before` groups have been opened before it.
-/
def asts (before : Nat) : Shape insensitive → List Ast
  | done => []
  | plain c next => .literal ⟨c.val, false⟩ :: next.asts before
  | token name constraint next =>
    .group (.capture (before + 1) (some name)) (fillAst constraint) ::
      next.asts (before + 1)
  | wildcard next =>
    .group (.capture (before + 1) none) wildcardAst :: next.asts (before + 1)
  | optional inner next =>
    .repetition (.group (.capture (before + 1) none)
        (Ast.ofItems (inner.asts (before + 1)).reverse)) ⟨0, some 1⟩ true ::
      next.asts (before + inner.captures + 1)

def names (shape : Shape insensitive) : List (List Char) :=
  shape.tokens.map Token.name

end Shape

/-! ## Reading heads and parts -/

namespace Regex

private theorem groupNameTail_eq {name text : List Char} (hname : '>' ∉ name)
    {result : List Char × List Char}
    (h : groupNameTail (name ++ '>' :: text) = .ok result) :
    result = (name, text) := by
  induction name generalizing result with
  | nil => exact (Except.ok.inj h).symm
  | cons c name ih =>
      have hc : c ≠ '>' := fun heq => hname (by simp [heq])
      rw [List.cons_append, groupNameTail, if_neg hc] at h
      split at h
      · obtain ⟨inner, hinner, hresult⟩ := bind_eq_ok_iff.mp h
        rw [ih (fun hmem => hname (by simp [hmem])) hinner] at hresult
        exact (Except.ok.inj hresult).symm
      · cases h

private theorem groupName_eq {name text : List Char} (hname : '>' ∉ name)
    {result : List Char × List Char}
    (h : groupName (name ++ '>' :: text) = .ok result) :
    result = (name, text) := by
  cases name with
  | nil => cases h
  | cons c name =>
      have hc : c ≠ '>' := fun heq => hname (by simp [heq])
      rw [List.cons_append, groupName, if_neg hc] at h
      split at h
      · obtain ⟨inner, hinner, hresult⟩ := bind_eq_ok_iff.mp h
        rw [groupNameTail_eq (fun hmem => hname (by simp [hmem])) hinner]
          at hresult
        exact (Except.ok.inj hresult).symm
      · cases h

def namedHead (name text : List Char) : List Char :=
  '(' :: '?' :: 'P' :: '<' :: (name ++ '>' :: text)

theorem next_namedHead {verbose hasOperand : Bool} {name text : List Char}
    (hname : '>' ∉ name) {result : Lexeme × List Char}
    (h : Lexeme.next verbose hasOperand (namedHead name text) = .ok result) :
    result = (.openCapture (some name), text) := by
  have hhead : (groupName (name ++ '>' :: text) >>= fun found =>
      .ok (.openCapture (some found.1), found.2)) = .ok result := by
    cases verbose <;> exact h
  obtain ⟨found, hfound, hresult⟩ := bind_eq_ok_iff.mp hhead
  cases groupName_eq hname hfound
  exact (Except.ok.inj hresult).symm

end Regex

namespace Regex.ParseState

variable {state : ParseState} (hverbose : state.verbose = false)

include hverbose

theorem readAll_step {after : ParseState} {c : Char} {text rest : List Char}
    {lexeme : Lexeme}
    (hnext : Lexeme.next false state.frame.hasOperand (c :: text) =
      .ok (lexeme, rest))
    (hstep : state.step lexeme = .ok after) :
    state.readAll (c :: text) = after.readAll rest := by
  rw [readAll_cons hverbose, hnext]
  change (state.step lexeme >>= fun state => state.readAll rest) = _
  rw [hstep]
  rfl

def opened (state : ParseState) (name : Option (List Char)) : ParseState :=
  { state.openGroup (.capture (state.captures + 1) name) state.verbose with
    captures := state.captures + 1
    names := name.toList ++ state.names }

omit hverbose in
theorem openCapture_eq {after : ParseState} {name : List Char}
    (h : state.openCapture (some name) = .ok after) :
    name ∉ state.names ∧ after = state.opened (some name) := by
  unfold openCapture at h
  dsimp only at h
  split at h
  · cases h
  · next hname => exact ⟨hname, (Except.ok.inj h).symm⟩

theorem readAll_open {text : List Char} (h : text.head? ≠ some '?') :
    state.readAll ('(' :: text) = (state.opened none).readAll text :=
  readAll_step hverbose (groupHead_of_head h) rfl

theorem readAll_openNamed {name text : List Char} (hname : '>' ∉ name)
    {result : ParseState}
    (h : state.readAll ('(' :: '?' :: 'P' :: '<' :: (name ++ '>' :: text)) =
      .ok result) :
    name ∉ state.names ∧ (state.opened (some name)).readAll text =
      .ok result := by
  rw [readAll_cons hverbose] at h
  obtain ⟨⟨lexeme, rest⟩, hnext, h⟩ := bind_eq_ok_iff.mp h
  cases next_namedHead hname hnext
  obtain ⟨after, hstep, hread⟩ := bind_eq_ok_iff.mp h
  obtain ⟨hfresh, rfl⟩ := openCapture_eq hstep
  exact ⟨hfresh, hread⟩

theorem readAll_optional {kind : GroupKind} {inner : Ast} {items : List Ast}
    (hitems : state.frame.items = .group kind inner :: items)
    {text : List Char} (h : text.head? ≠ some '?') :
    state.readAll ('?' :: text) =
      ParseState.readAll { state with
        frame := { state.frame with
          items := .repetition (.group kind inner) ⟨0, some 1⟩ true :: items } }
        text := by
  have hgreed : greed text = (true, text) := by
    cases text with
    | nil => rfl
    | cons c text =>
        have hc : c ≠ '?' := by simpa using h
        simp [greed, hc]
  have hnext : Lexeme.next false state.frame.hasOperand ('?' :: text) =
      .ok (.quantifier ⟨0, some 1⟩ true, text) := by
    simp [Lexeme.next, Lexeme.next.uncounted, Frame.hasOperand, hitems, hgreed]
  exact readAll_step hverbose hnext (by simp [step, quantify, hitems])

end Regex.ParseState

/-! ## Reading a shape -/

namespace Shape

open Template ParseState

variable {insensitive : Bool}

def enter (shape : Shape insensitive) (state : ParseState) : ParseState :=
  { state with
    frame := { state.frame with
      items := (shape.asts state.captures).reverse ++ state.frame.items }
    captures := state.captures + shape.captures
    names := shape.names.reverse ++ state.names }

theorem wildcardExpression_eq :
    wildcardExpression = ['(', '/', '?', '|', '/', '.', '*', '?', ')'] := rfl

theorem head?_expression (shape : Shape insensitive) {text : List Char}
    (h : text.head? ≠ some '?') :
    (shape.expression ++ text).head? ≠ some '?' := by
  cases shape with
  | done => exact h
  | plain c next =>
      have hc : c.val ≠ '?' := PlainChar.ne c.property (by decide)
      simpa [expression] using hc
  | token name constraint next =>
      intro heq
      rw [expression, tokenExpression_append] at heq
      cases heq
  | wildcard next => simp [expression, wildcardExpression_eq]
  | optional inner next => simp [expression]

def fillText (constraint : Option (Constraint insensitive)) : List Char :=
  (constraint.map Constraint.text).getD segmentExpression

theorem parse_fillText (constraint : Option (Constraint insensitive)) :
    parse (fillText constraint) = .ok (fillAst constraint) := by
  cases constraint with
  | none => rfl
  | some constraint => exact constraint.parse_eq

abbrev Formed (shape : Shape insensitive) : Prop :=
  ∀ token ∈ shape.tokens, token.WellFormed

section Formed

variable {name : List Char} {constraint : Option (Constraint insensitive)}
  {inner next : Shape insensitive}

theorem Formed.head (h : Formed (token name constraint next)) :
    (tokenOf name constraint).WellFormed :=
  h _ (List.mem_cons_self ..)

theorem Formed.tail (h : Formed (token name constraint next)) : Formed next :=
  fun token hmem => h token (List.mem_cons_of_mem _ hmem)

theorem Formed.inside (h : Formed (optional inner next)) : Formed inner :=
  fun token hmem => h token (List.mem_append_left _ hmem)

theorem Formed.after (h : Formed (optional inner next)) : Formed next :=
  fun token hmem => h token (List.mem_append_right _ hmem)

end Formed

theorem fillText_enclosed {name : List Char}
    {constraint : Option (Constraint insensitive)}
    (h : (tokenOf name constraint).WellFormed) :
    '(' ∉ fillText constraint ∧ ')' ∉ fillText constraint := by
  cases constraint with
  | none => exact segmentExpression_enclosed
  | some constraint =>
      have htext := h.constraint constraint.text rfl
      exact ⟨fun hmem => (by cases htext _ hmem),
        fun hmem => by cases htext _ hmem⟩

theorem isFlat_fillAst {name : List Char}
    {constraint : Option (Constraint insensitive)}
    (h : (tokenOf name constraint).WellFormed) :
      (fillAst constraint).isFlat := by
  obtain ⟨hopen, hclose⟩ := fillText_enclosed h
  exact isFlat_of_parse (parse_fillText constraint) hopen hclose

theorem readAll_token {name : List Char}
    {constraint : Option (Constraint insensitive)}
    (h : (tokenOf name constraint).WellFormed) {state : ParseState}
    (hverbose : state.verbose = false) {text : List Char} {result : ParseState}
    (hread : state.readAll (tokenExpression (tokenOf name constraint) ++ text) =
      .ok result) :
    name ∉ state.names ∧
      ParseState.readAll ((token name constraint done).enter state) text =
        .ok result := by
  have hname : '>' ∉ name := fun hmem => by cases h.name _ hmem
  rw [tokenExpression_append] at hread
  obtain ⟨hfresh, hread⟩ := readAll_openNamed hverbose hname hread
  obtain ⟨hopen, hclose⟩ := fillText_enclosed h
  have hclosing := @readAll_closing _ _ (parse_fillText constraint) hopen hclose
    (state.opened (some name)) (.capture (state.captures + 1) (some name))
    state.frame state.groups hverbose rfl (by rw [← hverbose]; rfl) text
  exact ⟨hfresh, hclosing.symm.trans hread⟩

theorem readAll_wildcard {state : ParseState} (hverbose : state.verbose = false)
    (text : List Char) : state.readAll (wildcardExpression ++ text) =
      ((wildcard done : Shape insensitive).enter state).readAll text := by
  have hparse : parse ['/', '?', '|', '/', '.', '*', '?'] = .ok wildcardAst :=
    rfl
  have hclosing := @readAll_closing _ _ hparse (by decide) (by decide)
    (state.opened none) (.capture (state.captures + 1) none) state.frame
    state.groups hverbose rfl (by rw [← hverbose]; rfl) text
  rw [wildcardExpression_eq]
  exact (readAll_open hverbose (by simp)).trans hclosing

theorem signs_special : signs ⊆ specialChars := by decide

/-! Entering a shape is entering its first part and then what is next. -/

theorem enter_plain (c : PlainChar) (next : Shape insensitive)
    (state : ParseState) : (plain c next).enter state =
      next.enter (state.push (.literal ⟨c.val, false⟩)) := by
  simp [enter, asts, captures, names, tokens, ParseState.push, Frame.push]

theorem enter_token (name : List Char)
    (constraint : Option (Constraint insensitive)) (next : Shape insensitive)
    (state : ParseState) : (token name constraint next).enter state =
      next.enter ((token name constraint done).enter state) := by
  simp [enter, asts, captures, names, tokens]
  omega

theorem enter_wildcard (next : Shape insensitive) (state : ParseState) :
    (wildcard next).enter state =
      next.enter ((wildcard done : Shape insensitive).enter state) := by
  simp [enter, asts, captures, names, tokens]
  omega

theorem enter_optional (inner next : Shape insensitive) (state : ParseState) :
    (optional inner next).enter state =
      next.enter ((optional inner done).enter state) := by
  simp [enter, asts, captures, names, tokens, Nat.add_assoc]
  omega

theorem readAll_closeOptional (inner : Shape insensitive) {state : ParseState}
    (hverbose : state.verbose = false) {text : List Char}
    (h : text.head? ≠ some '?') :
    (inner.enter (state.opened none)).readAll (')' :: '?' :: text) =
      ParseState.readAll ((optional inner done).enter state) text := by
  have hentered : (inner.enter (state.opened none)).verbose = false := hverbose
  let kind : GroupKind := .capture (state.captures + 1) none
  let closed : ParseState := { state with
    frame := state.frame.push
      (.group kind (Ast.ofItems (inner.asts (state.captures + 1)).reverse))
    captures := state.captures + 1 + inner.captures
    names := inner.names.reverse ++ state.names }
  have hclosed : (inner.enter (state.opened none)).closeGroup = .ok closed := by
    simp [closeGroup, enter, opened, openGroup, Frame.close, Ast.ofBranches,
      closed, kind]
  have hclosing : (inner.enter (state.opened none)).readAll
      (')' :: '?' :: text) = closed.readAll ('?' :: text) := by
    rw [readAll_close hentered, hclosed]
    rfl
  have hquestion := @readAll_optional closed hverbose kind _ _ rfl text h
  rw [hclosing, hquestion]
  congr 1
  simp [enter, asts, captures, Shape.names, tokens, closed, kind, Frame.push]
  omega

private theorem readAll_shape (shape : Shape insensitive) (h : shape.Formed) :
    ∀ {state text result},
    state.verbose = false → text.head? ≠ some '?' →
    state.readAll (shape.expression ++ text) = .ok result →
    state.names.Nodup →
    (shape.enter state).names.Nodup ∧
      (shape.enter state).readAll text = .ok result := by
  induction shape with
  | done => exact fun _ _ hread hnodup => ⟨hnodup, hread⟩
  | plain c next ih =>
      intro state text result hverbose hhead hread hnodup
      have hsign : c.val ∉ signs := fun hmem => c.property (signs_special hmem)
      rw [expression, List.cons_append,
        readAll_literal hverbose _ (next_literal hsign _)] at hread
      rw [enter_plain]
      exact ih h hverbose hhead hread hnodup
  | token name constraint next ih =>
      intro state text result hverbose hhead hread hnodup
      rw [expression, List.append_assoc] at hread
      obtain ⟨hfresh, hread⟩ :=
        readAll_token h.head hverbose hread
      rw [enter_token]
      exact ih h.tail hverbose hhead hread
        (by simpa [enter, names, tokens, tokenOf] using ⟨hfresh, hnodup⟩)
  | wildcard next ih =>
      intro state text result hverbose hhead hread hnodup
      rw [expression, List.append_assoc, readAll_wildcard hverbose] at hread
      rw [enter_wildcard]
      exact ih h hverbose hhead hread hnodup
  | optional inner next ihinner ihnext =>
      intro state text result hverbose hhead hread hnodup
      rw [expression] at hread
      simp only [List.cons_append, List.append_assoc] at hread
      rw [readAll_open hverbose (head?_expression inner (by simp))] at hread
      have hopened : (state.opened none).verbose = false := hverbose
      obtain ⟨hnodup, hread⟩ := ihinner h.inside hopened (by simp) hread hnodup
      rw [readAll_closeOptional inner hverbose (head?_expression next hhead)]
        at hread
      rw [enter_optional]
      refine ihnext h.after hverbose hhead hread ?_
      simpa [enter, opened, names, tokens] using hnodup

def items (stem : Shape insensitive) : List Ast :=
  .assertion .startLine :: stem.asts 0 ++
    [optionalSlashAst, queryAst, .assertion .endLine]

def querying : List Char := ['(', '?', ':', '\\', '?', '.', '*', ')', '?', '$']

theorem readAll_querying {state : ParseState}
    (hverbose : state.verbose = false) :
    state.readAll querying = .ok { state with
      frame := { state.frame with
        items := .assertion .endLine :: queryAst :: state.frame.items } } := by
  obtain ⟨⟨items, branches⟩, groups, verbose, before, names⟩ := state
  cases hverbose
  have hparse :
      parse ['\\', '?', '.', '*'] = .ok (.concat (.literal ⟨'?', false⟩)
      (.repetition .dot ⟨0, none⟩ true)) := rfl
  let outside : ParseState := ⟨⟨items, branches⟩, groups, false, before, names⟩
  let inside : ParseState := outside.openGroup (.flagged []) false
  have hopening : outside.readAll querying =
      inside.readAll (['\\', '?', '.', '*'] ++ [')', '?', '$']) :=
    readAll_step rfl rfl rfl
  have hclosing := @readAll_closing _ _ hparse (by decide) (by decide) inside
    (.flagged []) ⟨items, branches⟩ groups rfl rfl rfl ['?', '$']
  rw [hopening]
  refine hclosing.trans ?_
  refine (readAll_optional rfl rfl (by simp)).trans ?_
  refine (readAll_step rfl rfl rfl).trans ?_
  exact readAll_nil rfl

theorem readAll_ending {state : ParseState} (hverbose : state.verbose = false) :
    state.readAll ending = .ok { state with
      frame := { state.frame with
        items := .assertion .endLine :: queryAst :: optionalSlashAst ::
          state.frame.items } } := by
  obtain ⟨⟨items, branches⟩, groups, verbose, before, names⟩ := state
  cases hverbose
  refine (readAll_step rfl rfl rfl).trans ?_
  refine (readAll_step rfl rfl rfl).trans ?_
  exact readAll_querying rfl

theorem parse_anchored {stem : Shape insensitive} (h : stem.Formed) {ast : Ast}
    (hparse : parse ('^' :: (stem.expression ++ ending)) = .ok ast) :
    stem.names.Nodup ∧ ast = Ast.ofItems stem.items.reverse := by
  obtain ⟨state, hread, hrest⟩ := bind_eq_ok_iff.mp hparse
  obtain ⟨found, hfinish, hdepth⟩ := bind_eq_ok_iff.mp hrest
  have hfound : ast = found := by
    split at hdepth
    · exact (Except.ok.inj hdepth).symm
    · cases hdepth
  subst hfound
  let anchor : ParseState := ParseState.push {} (.assertion .startLine)
  have hstart : ParseState.readAll {} ('^' :: (stem.expression ++ ending)) =
      anchor.readAll (stem.expression ++ ending) := readAll_step rfl rfl rfl
  have hshape : anchor.readAll (stem.expression ++ ending) = .ok state :=
    hstart.symm.trans hread
  obtain ⟨hnodup, hshape⟩ := readAll_shape stem h rfl (by simp [ending]) hshape
    List.nodup_nil
  rw [readAll_ending rfl] at hshape
  cases hshape
  refine ⟨by simpa [enter, anchor, ParseState.push, List.nodup_reverse] using
    hnodup, ?_⟩
  cases hfinish
  simp [Frame.close, Ast.ofBranches, enter, anchor, ParseState.push, Frame.push,
    items]

end Shape

end Signpost
