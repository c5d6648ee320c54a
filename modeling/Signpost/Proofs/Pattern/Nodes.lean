import Signpost.Proofs.Pattern.Parsing
import Signpost.Proofs.Regex.Sequences

/-!
# What the expression of a shape elaborates to

Item by item the expression of a shape turns into nodes, with the settings as
they are at its beginning: a shape changes no flag.  The named groups are the
tokens, in the order in which they are written.
-/

namespace Signpost

open Regex

namespace Shape

variable {insensitive : Bool}

abbrev settings (insensitive : Bool) : Settings :=
  { caseInsensitive := insensitive }

def charNode (insensitive : Bool) (c : Char) : Node :=
  .one ((settings insensitive).fold (.singleton c))

def segmentSet (insensitive : Bool) : CharSet :=
  .compl ((settings insensitive).fold
    (.union (.singleton '/') (.singleton '?')))

def lineSet : CharSet := .compl (.singleton '\n')

def fillNode : Option (Constraint insensitive) → Node
  | none => .loop (.one (segmentSet insensitive)) 1 none true
  | some constraint => constraint.regex.node

def wildcardNode (insensitive : Bool) : Node :=
  .alt (.alt (charNode insensitive '/') .empty)
    (.seq (charNode insensitive '/') (.loop (.one lineSet) 0 none false))

def queryNode (insensitive : Bool) : Node :=
  .alt (.seq (charNode insensitive '?') (.loop (.one lineSet) 0 none true))
    .empty

def nodes (before : Nat) : Shape insensitive → List Node
  | done => []
  | plain c next => charNode insensitive c.val :: next.nodes before
  | token _ constraint next =>
    .group (before + 1) (fillNode constraint) :: next.nodes (before + 1)
  | wildcard next =>
    .group (before + 1) (wildcardNode insensitive) :: next.nodes (before + 1)
  | optional inner next =>
    .alt (.group (before + 1) (Node.ofItems (inner.nodes (before + 1)).reverse))
        .empty ::
      next.nodes (before + inner.captures + 1)

private theorem becomes_literal (c : Char) :
    Becomes (settings insensitive) (.literal ⟨c, false⟩)
      (charNode insensitive c) := rfl

theorem becomes_fill {name : List Char}
    {constraint : Option (Constraint insensitive)}
    (h : (tokenOf name constraint).WellFormed) :
    Becomes (settings insensitive) (fillAst constraint)
      (fillNode constraint) := by
  cases constraint with
  | none => rfl
  | some constraint =>
      have hflat : constraint.ast.isFlat := isFlat_fillAst h
      obtain ⟨ast, hparse, hrest⟩ := bind_eq_ok_iff.mp constraint.compiles
      obtain ⟨⟨node, after⟩, helaborate, hregex⟩ := bind_eq_ok_iff.mp hrest
      have hast : ast = constraint.ast := by
        rw [constraint.parse_eq] at hparse
        exact (Except.ok.inj hparse).symm
      subst hast
      obtain ⟨rfl, -⟩ := Ast.elaborate_of_isFlat hflat helaborate
      have hnode : constraint.regex.node = node := by
        dsimp only at hregex
        split at hregex
        · rw [← Except.ok.inj hregex]
        · cases hregex
      rw [fillNode, hnode]
      exact helaborate

theorem groupFree_fill {name : List Char}
    {constraint : Option (Constraint insensitive)}
    (h : (tokenOf name constraint).WellFormed) :
    (fillNode constraint).groupFree :=
  (Ast.elaborate_of_isFlat (isFlat_fillAst h) (becomes_fill h)).2

private theorem becomes_nodes (shape : Shape insensitive)
    (h : shape.Formed) : ∀ before,
    List.Forall₂ (Becomes (settings insensitive)) (shape.asts before)
      (shape.nodes before) := by
  induction shape with
  | done => exact fun _ => .nil
  | plain c next ih =>
      exact fun before => .cons (becomes_literal c.val) (ih h before)
  | token name constraint next ih =>
      intro before
      refine .cons (becomes_group _ _ (becomes_fill h.head)) ?_
      exact ih h.tail (before + 1)
  | wildcard next ih =>
      exact fun before =>
        .cons (becomes_group (before + 1) none rfl) (ih h (before + 1))
  | optional inner next ihinner ihnext =>
      intro before
      have hinner := ihinner h.inside (before + 1)
      refine .cons
        (becomes_optional rfl (becomes_group _ _ (becomes_ofItems ?_))) ?_
      · exact List.rel_reverse hinner
      · exact ihnext h.after _

def node (stem : Shape insensitive) : Node :=
  Node.ofItems (.look .startText :: stem.nodes 0 ++
    [.alt (charNode insensitive '/') .empty, queryNode insensitive,
      .look .endText]).reverse

theorem becomes_node {stem : Shape insensitive} (h : stem.Formed) :
    Becomes (settings insensitive) (Ast.ofItems stem.items.reverse)
      stem.node := by
  refine becomes_ofItems (List.rel_reverse (.cons rfl ?_))
  refine List.rel_append (becomes_nodes stem h 0) ?_
  exact .cons rfl (.cons rfl (.cons rfl .nil))

def namedGroups (before : Nat) : Shape insensitive → List (List Char × Nat)
  | done => []
  | plain _ next => next.namedGroups before
  | token name _ next => (name, before + 1) :: next.namedGroups (before + 1)
  | wildcard next => next.namedGroups (before + 1)
  | optional inner next =>
    inner.namedGroups (before + 1) ++
      next.namedGroups (before + inner.captures + 1)

theorem map_fst_namedGroups (shape : Shape insensitive) : ∀ before,
    (shape.namedGroups before).map Prod.fst = shape.names := by
  induction shape with
  | done => exact fun _ => rfl
  | plain c next ih => exact ih
  | token name constraint next ih =>
      exact fun before => congrArg (name :: ·) (ih (before + 1))
  | wildcard next ih => exact fun before => ih (before + 1)
  | optional inner next ihinner ihnext =>
      intro before
      rw [namedGroups, List.map_append, ihinner, ihnext, names, names, names,
        tokens, List.map_append]

private theorem groupNames_asts (shape : Shape insensitive)
    (h : shape.Formed) : ∀ before,
    (shape.asts before).flatMap Ast.groupNames = shape.namedGroups before := by
  induction shape with
  | done => exact fun _ => rfl
  | plain c next ih => exact ih h
  | token name constraint next ih =>
      intro before
      have hfill := Ast.groupNames_of_isFlat (isFlat_fillAst h.head)
      rw [asts, List.flatMap_cons, ih h.tail (before + 1),
        Ast.groupNames, hfill]
      rfl
  | wildcard next ih => exact fun before => ih h (before + 1)
  | optional inner next ihinner ihnext =>
      intro before
      have hinner := ihinner h.inside (before + 1)
      have hnext := ihnext h.after (before + inner.captures + 1)
      rw [asts, List.flatMap_cons, hnext, Ast.groupNames, Ast.groupNames,
        groupNames_ofItems, List.reverse_reverse, hinner]
      · rfl
      · simp

theorem groupNames_items {stem : Shape insensitive} (h : stem.Formed) :
    (Ast.ofItems stem.items.reverse).groupNames = stem.namedGroups 0 := by
  rw [groupNames_ofItems, List.reverse_reverse, items, List.cons_append,
    List.flatMap_cons, List.flatMap_append, groupNames_asts stem h]
  simp [Ast.groupNames, optionalSlashAst, queryAst]

theorem compile_eq {shape stem : Shape insensitive} (hstem : stem.Stem shape)
    (htokens : (Template.ofText shape.text).tokens = shape.tokens)
    {regex : Regex}
    (h : Regex.compile (Template.anchored shape.text) insensitive =
      .ok regex) :
    stem.names.Nodup ∧ regex.node = stem.node ∧
      regex.names = stem.namedGroups 0 := by
  have hformed : stem.Formed := by
    intro token hmem
    rw [← hstem.tokens_eq, ← htokens] at hmem
    exact Template.wellFormed_of_mem_tokens hmem
  rw [hstem.anchored_eq htokens] at h
  obtain ⟨ast, hparse, hrest⟩ := bind_eq_ok_iff.mp h
  obtain ⟨hnodup, rfl⟩ := parse_anchored hformed hparse
  rw [show (Ast.ofItems stem.items.reverse).elaborate
    { caseInsensitive := insensitive } = _ from becomes_node hformed] at hrest
  change (if _ then _ else _) = Except.ok regex at hrest
  split at hrest
  · rw [← Except.ok.inj hrest, groupNames_items hformed]
    exact ⟨hnodup, rfl, rfl⟩
  · cases hrest

end Shape

end Signpost
