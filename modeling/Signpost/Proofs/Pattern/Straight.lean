import Signpost.Proofs.Dispatch.Arity
import Signpost.Proofs.Pattern.Anchoring
import Signpost.Proofs.Pattern.Filling
import Signpost.Proofs.Pattern.Naming

/-!
# Straight patterns

A straight pattern has nothing but plain characters and tokens without a
constraint.  Its expression is never too deep, and too large only if the pattern
is very long.  With different names, what remains is that a name begins with a
digit: paths are built from such a pattern, but none but itself is ever matched.
-/

namespace Signpost

open Regex

/-! ## Depth and size -/

namespace Regex.Ast

private theorem depthFrom_concat_le (ast : Ast) :
    ast.depthFrom .concat ≤ ast.depth := by
  cases ast <;> simp [depthFrom, depth]

variable {items : List Ast} {bound : Nat}

private theorem depthFrom_ofItems_le (h : ∀ item ∈ items, item.depth ≤ bound) :
    (ofItems items).depthFrom .concat ≤ bound := by
  induction items with
  | nil => exact Nat.zero_le _
  | cons item earlier ih =>
      obtain ⟨hitem, hearlier⟩ := List.forall_mem_cons.mp h
      cases earlier with
      | nil => exact (depthFrom_concat_le item).trans hitem
      | cons previous earlier =>
          rw [ofItems, depthFrom, if_pos rfl]
          · exact Nat.max_le.mpr ⟨ih hearlier, hitem⟩
          · simp

private theorem depth_ofItems_le (h : ∀ item ∈ items, item.depth ≤ bound) :
    (ofItems items).depth ≤ bound + 1 := by
  cases items with
  | nil => exact Nat.zero_le _
  | cons item earlier =>
      obtain ⟨hitem, hearlier⟩ := List.forall_mem_cons.mp h
      cases earlier with
      | nil => exact Nat.le_succ_of_le hitem
      | cons previous earlier =>
          rw [ofItems, depth, depthFrom, if_neg (by simp)]
          · exact Nat.succ_le_succ
              (Nat.max_le.mpr ⟨depthFrom_ofItems_le hearlier, hitem⟩)
          · simp

end Regex.Ast

namespace Shape

variable {insensitive : Bool} {shape stem : Shape insensitive}

/-- Plain characters and tokens without a constraint. -/
def isStraight : Shape insensitive → Bool
  | done => true
  | plain _ next => next.isStraight
  | token _ constraint next => constraint.isNone && next.isStraight
  | wildcard _ | optional .. => false

private theorem depth_asts_le (h : shape.isStraight) : ∀ before,
    ∀ ast ∈ shape.asts before, ast.depth ≤ 4 := by
  induction shape with
  | done => simp [asts]
  | plain c next ih => exact fun before =>
      List.forall_mem_cons.mpr ⟨Nat.zero_le _, ih h before⟩
  | token name constraint next ih =>
      simp only [isStraight, Bool.and_eq_true, Option.isNone_iff_eq_none] at h
      obtain ⟨rfl, hnext⟩ := h
      have hsegment : segmentAst.depth + 1 ≤ 4 := by decide
      exact fun before => List.forall_mem_cons.mpr ⟨hsegment, ih hnext _⟩
  | wildcard next => cases h
  | optional inner next => cases h

theorem depth_items_le (h : stem.isStraight) :
    (Ast.ofItems stem.items.reverse).depth ≤ nestLimit := by
  refine (@Ast.depth_ofItems_le _ 4 fun item hitem => ?_).trans (by decide)
  rw [List.mem_reverse, items] at hitem
  simp only [List.cons_append, List.mem_cons, List.mem_append,
    List.not_mem_nil, or_false]
    at hitem
  rcases hitem with rfl | hitem | rfl | rfl | rfl
  · decide
  · exact depth_asts_le h 0 item hitem
  · decide
  · decide
  · decide

theorem size_ofItems_append_le (first later : List Node) :
    (Node.ofItems (first ++ later)).size ≤
      (Node.ofItems first).size + (Node.ofItems later).size := by
  induction first with
  | nil => exact Nat.le_add_left ..
  | cons node first ih =>
      by_cases hlater : later = []
      · rw [hlater, List.append_nil]
        exact Nat.le_add_right ..
      · by_cases hfirst : first = []
        · rw [hfirst, List.singleton_append, size_ofItems_cons node hlater]
          exact Nat.le_of_eq (Nat.add_comm ..)
        · rw [List.cons_append, size_ofItems_cons node (by simp [hfirst]),
            size_ofItems_cons node hfirst]
          omega

private theorem size_charNode_le (c : Char) :
    (charNode insensitive c).size ≤ 308 := by
  have hset (set : CharSet) (h : set.rangeBound ≤ 2) : set.size ≤ 308 := by
    rw [CharSet.size, stateSize]
    split <;> omega
  cases insensitive with
  | false => exact hset _ (Nat.le_succ 1)
  | true => exact hset _ (Nat.le_refl 2)

private theorem size_fillNode_le :
    (fillNode (none : Option (Constraint insensitive))).size ≤ 450 := by
  cases insensitive <;> decide

private theorem size_nodes_le (h : shape.isStraight)
    (hformed : shape.Formed) : ∀ before,
    (Node.ofItems (shape.nodes before).reverse).size ≤
      308 * shape.text.length + 32 := by
  induction shape with
  | done => exact fun _ => Nat.le_refl _
  | plain c next ih =>
      intro before
      have hchar := @size_charNode_le insensitive c.val
      have hnext := ih h hformed before
      rw [nodes, List.reverse_cons]
      refine (size_ofItems_append_le ..).trans ?_
      simp only [text, Node.ofItems, List.length_cons]
      omega
  | token name constraint next ih =>
      simp only [isStraight, Bool.and_eq_true, Option.isNone_iff_eq_none] at h
      obtain ⟨rfl, hstraight⟩ := h
      intro before
      -- the two characters at least of a token make room for its capture
      have hname : name ≠ [] := by
        rintro rfl
        cases hformed.head.starts
      have hlength := List.length_pos_iff.mpr hname
      have hfill := @size_fillNode_le insensitive
      have hnext := ih hstraight hformed.tail (before + 1)
      rw [nodes, List.reverse_cons]
      refine (size_ofItems_append_le ..).trans ?_
      simp only [text, tokenOf, Token.text, Option.map_none,
        Node.ofItems, Node.size, stateSize, List.length_append,
        List.length_cons]
      omega
  | wildcard next => cases h
  | optional inner next => cases h

def closingNodes (insensitive : Bool) : List Node :=
  [.look .endText, queryNode insensitive,
    .alt (charNode insensitive '/') .empty]

theorem size_node_le (h : stem.isStraight) (hformed : stem.Formed) :
    stem.node.size ≤ 308 * stem.text.length + 756 := by
  have hends : (Node.ofItems (closingNodes insensitive)).size +
      (Node.ofItems [.look .startText]).size ≤ 724 := by
    cases insensitive <;> decide
  have hnode : stem.node = Node.ofItems
      (closingNodes insensitive ++
        ((stem.nodes 0).reverse ++ [.look .startText])) := by
    simp [node, closingNodes]
  have hclosing := size_ofItems_append_le (closingNodes insensitive)
    ((stem.nodes 0).reverse ++ [.look .startText])
  have hopening :=
    size_ofItems_append_le (stem.nodes 0).reverse [.look .startText]
  have hnodes := size_nodes_le h hformed 0
  rw [hnode]
  omega

/-! ## Compiling a straight shape -/

theorem Stem.compile_straight (hstem : stem.Stem shape)
    (hstraight : stem.isStraight)
    (htokens : (Template.ofText shape.text).tokens = shape.tokens)
    (hnodup : shape.names.Nodup) :
    Regex.compile (Template.anchored shape.text) insensitive =
      if shape.names.any beginsWithDigit then .error .groupNameInvalid
      else if stem.node.size ≤ sizeLimit then
        .ok ⟨Template.anchored shape.text, stem.node, stem.namedGroups 0⟩
      else .error (.sizeLimitExceeded sizeLimit) := by
  rw [compile_stem hstem htokens hnodup, if_pos (depth_items_le hstraight)]

end Shape

namespace Segment

open Shape Template CompiledPattern

variable {insensitive caseSensitive : Bool} {segments : List Segment}
    {pattern : String}

private theorem isStraight_plains (chars : List SegmentChar)
    {next : Shape insensitive} :
    (plains next chars).isStraight = next.isStraight := by
  induction chars with
  | nil => rfl
  | cons c chars ih => exact ih

private theorem isStraight_before {segment : Segment}
    {next : Shape insensitive} :
    (segment.before next).isStraight = next.isStraight := by
  cases segment with
  | text chars _ => exact isStraight_plains chars
  | token name _ => rfl

abbrev straight (insensitive : Bool) (segments : List Segment) :
    Shape insensitive :=
  shape done segments

theorem isStraight_straight (segments : List Segment) :
    (straight insensitive segments).isStraight := by
  induction segments with
  | nil => rfl
  | cons segment segments ih => rw [straight, shape, isStraight_before, ih]

theorem text_straight (segments : List Segment) :
    (straight insensitive segments).text = segments.flatMap source := by
  rw [text_shape, Shape.text, List.append_nil]

theorem tokens_sources (segments : List Segment) :
    (ofText (segments.flatMap source)).tokens = defaults (names segments) := by
  have hscan := scan_sources segments (show Closes [] by simp [Closes])
  rwa [List.append_nil, show (scan .literal []).tokens = [] from rfl,
    List.append_nil] at hscan

theorem tokens_straight (segments : List Segment) :
    (ofText (straight insensitive segments).text).tokens =
      (straight insensitive segments).tokens := by
  rw [text_straight, tokens_sources, tokens_shape, Shape.tokens,
    List.append_nil]

theorem names_straight (segments : List Segment) :
    (straight insensitive segments).names = names segments := by
  rw [Shape.names, ← tokens_straight, text_straight, tokens_sources,
    defaults, List.map_map]
  exact List.map_id _

private theorem formed_straight (segments : List Segment) :
    (straight insensitive segments).Formed := by
  intro token htoken
  rw [← tokens_straight] at htoken
  exact wellFormed_of_mem_tokens htoken

private theorem stem_straight (segments : List Segment) :
    (straight insensitive segments).Stem (straight insensitive segments) := by
  obtain ⟨fillings, hinstance⟩ := @exists_instance_source insensitive segments
  apply Stem.whole
  rw [text_straight]
  exact hinstance.getLast?_ne

theorem tokenNames_eq (hpattern : pattern.toList = segments.flatMap source) :
    tokenNames pattern = (names segments).map String.ofList := by
  rw [tokenNames, hpattern, tokens_sources, defaults, List.map_map]
  rfl

theorem compile_sources (hnodup : (names segments).Nodup) :
    Regex.compile (anchored (segments.flatMap source)) insensitive =
      if (names segments).any beginsWithDigit then .error .groupNameInvalid
      else if (straight insensitive segments).node.size ≤ sizeLimit then
        .ok ⟨anchored (segments.flatMap source),
          (straight insensitive segments).node,
          (straight insensitive segments).namedGroups 0⟩
      else .error (.sizeLimitExceeded sizeLimit) := by
  have hnames :
      (straight insensitive segments).names.Nodup := by rwa [names_straight]
  have hcompile :=
    (stem_straight segments).compile_straight (isStraight_straight segments)
    (tokens_straight segments) hnames
  rwa [text_straight, names_straight] at hcompile

theorem compile_of_digit (hpattern : pattern.toList = segments.flatMap source)
    (hnodup : (names segments).Nodup)
    (hdigit : (names segments).any beginsWithDigit) :
    compile pattern caseSensitive = .error ⟨pattern, .groupNameInvalid⟩ := by
  simp only [CompiledPattern.compile, hpattern, compile_sources hnodup,
    if_pos hdigit]

private theorem compile_without_digit
    (hpattern : pattern.toList = segments.flatMap source)
    (hnodup : (names segments).Nodup)
    (hdigit : (names segments).any beginsWithDigit = false) :
    (∃ compiled, compile pattern caseSensitive = .ok compiled) ∨
      32768 < pattern.length ∧
        compile pattern caseSensitive =
          .error ⟨pattern, .sizeLimitExceeded sizeLimit⟩ := by
  have hregex := @compile_sources (!caseSensitive) _ hnodup
  rw [hdigit, if_neg Bool.false_ne_true] at hregex
  simp only [CompiledPattern.compile, hpattern, hregex]
  by_cases hsmall : (straight (!caseSensitive) segments).node.size ≤ sizeLimit
  · rw [if_pos hsmall]
    exact .inl ⟨_, rfl⟩
  · have hsize := size_node_le (@isStraight_straight (!caseSensitive) segments)
      (formed_straight segments)
    rw [text_straight, ← hpattern, String.length_toList] at hsize
    rw [if_neg hsmall]
    rw [sizeLimit] at hsmall
    exact .inr ⟨by omega, rfl⟩

private theorem matchPath_built {compiled : CompiledPattern}
    (hpattern : pattern.toList = segments.flatMap source)
    (hcompile : compile pattern caseSensitive = .ok compiled) {router : Router}
    (hrouter : router.Reachable) {values : List Json}
    (hlength : (names segments).length ≤ values.length)
    (hfillable : ∀ value ∈ values.take (names segments).length,
      Fillable value) :
    ∃ path, (Router.make pattern values).1 = some path ∧
      (router.matchPath pattern path caseSensitive).1 = true := by
  rw [← Bool.not_not caseSensitive] at hcompile
  obtain ⟨path, hbuild, hcaptures⟩ :=
    captures_built_segments hpattern hcompile hlength hfillable
  rw [Bool.not_not] at hcompile
  refine ⟨path, by rw [Router.make, hbuild], ?_⟩
  rw [(hrouter.coherent.matchPath pattern path caseSensitive).1, Router.values?]
  split
  · rfl
  · simp [hcompile, hcaptures]

/--
Segments with different names compile unless a name begins with a digit or the
pattern is very long, and then match the paths that are built from them.  With a
name that begins with a digit paths are built all the same, but not matched.
-/
theorem usable_unless_digit
    (hpattern : pattern.toList = segments.flatMap source)
    (hnodup : (tokenNames pattern).Nodup) (caseSensitive : Bool) :
    ((∃ name ∈ names segments, beginsWithDigit name) →
      compile pattern caseSensitive = .error ⟨pattern, .groupNameInvalid⟩ ∧
        (∀ values, (names segments).length ≤ values.length →
          ∃ path, (Router.make pattern values).1 = some path) ∧
        ∀ router, Router.Reachable router → ∀ path ≠ pattern,
          (router.matchPath pattern path caseSensitive).1 = false) ∧
    ((∀ name ∈ names segments, beginsWithDigit name = false) →
      ((∃ compiled, compile pattern caseSensitive = .ok compiled) ∨
        32768 < pattern.length ∧
          compile pattern caseSensitive =
            .error ⟨pattern, .sizeLimitExceeded sizeLimit⟩) ∧
      ∀ compiled, compile pattern caseSensitive = .ok compiled →
        ∀ router, Router.Reachable router →
          (∀ path error,
            .patternRejected error ∉
              (router.matchPath pattern path caseSensitive).2.2) ∧
          ∀ values, (names segments).length ≤ values.length →
            (∀ value ∈ values.take (names segments).length, Fillable value) →
            ∃ path, (Router.make pattern values).1 = some path ∧
              (router.matchPath pattern path caseSensitive).1 = true) := by
  rw [tokenNames_eq hpattern] at hnodup
  replace hnodup := hnodup.of_map
  refine ⟨fun hdigit => ?_,
    fun hdigit => ⟨?_, fun compiled hcompile router hrouter => ?_⟩⟩
  · have herror := @compile_of_digit caseSensitive _ _ hpattern hnodup
      (List.any_eq_true.mpr hdigit)
    refine ⟨herror, fun values hlength => ?_,
      fun router hrouter path hpath => ?_⟩
    · rw [Router.make_enough
        (by rwa [hpattern, tokens_sources, defaults, List.length_map])]
      exact ⟨_, rfl⟩
    · have hlone : pattern ≠ "*" := by
        rintro rfl
        exact star_not_mem_sources segments (hpattern ▸ by decide)
      rw [(hrouter.coherent.matchPath pattern path caseSensitive).1,
        Router.values?, if_neg (not_or.mpr ⟨hlone, hpath.symm⟩), herror]
      rfl
  · exact compile_without_digit hpattern hnodup
      (List.any_eq_false.mpr (by simpa using hdigit))
  · refine ⟨fun path error hrejected => ?_, fun values hlength hfillable =>
      matchPath_built hpattern hcompile hrouter hlength hfillable⟩
    -- only a rejection carries an error, and the pattern compiles
    rcases Router.matchPath_events hrejected with hevent |
      ⟨cause, -, herror⟩ | ⟨params, hevent⟩
    · cases hevent
    · rw [hcompile] at herror
      cases herror
    · cases hevent

def segmentNumber : Segment :=
  token ['1'] ⟨rfl, List.forall_mem_singleton.mpr rfl, fun _ h => nomatch h⟩

theorem usable_unless_digit_mixed :
    (∃ compiled, CompiledPattern.compile "/a/@_" false = .ok compiled ∧
      ∃ path, (Router.make "/a/@_" [.integer 7]).1 = some path ∧
        (Router.uncached.matchPath "/a/@_" path false).1 = true) ∧
    CompiledPattern.compile "/@_/@1" true =
      .error ⟨"/@_/@1", .groupNameInvalid⟩ ∧
      (Router.uncached.matchPath "/@_/@1" "/7/8" true).1 = false := by
  have hplain : "/a/@_".toList = [segmentA, segmentToken].flatMap source := rfl
  have hdigit :
      "/@_/@1".toList = [segmentToken, segmentNumber].flatMap source := rfl
  obtain ⟨-, husable⟩ := usable_unless_digit hplain (by decide) false
  obtain ⟨hcompile, hmatch⟩ := husable (by decide)
  obtain ⟨hunusable, -⟩ := usable_unless_digit hdigit (by decide) true
  obtain ⟨herror, -, hrefused⟩ := hunusable ⟨['1'], by decide, rfl⟩
  obtain ⟨compiled, hcompiled⟩ := hcompile.resolve_right fun hlong =>
    absurd hlong.1 (by decide)
  refine ⟨⟨compiled, hcompiled, ?_⟩, herror,
    hrefused _ .uncached "/7/8" (by decide)⟩
  have hfillable : ∀ value ∈ [Json.integer 7], Fillable value := by
    intro value hvalue
    rw [List.mem_singleton.mp hvalue]
    exact ⟨by decide, by decide, by decide⟩
  exact (hmatch compiled hcompiled _ .uncached).2 [.integer 7]
    (by decide) hfillable

/--
A path is built from a token that is named by a number, and never matched.
-/
theorem named_by_number :
    (∃ segments : List Segment, "/@1".toList = segments.flatMap source ∧
      segments.length = 1) ∧
      tokenNames "/@1" = ["1"] ∧
      CompiledPattern.compile "/@1" true = .error ⟨"/@1", .groupNameInvalid⟩ ∧
      CompiledPattern.compile "/@1" false = .error ⟨"/@1", .groupNameInvalid⟩ ∧
      Router.make "/@1" [.integer 7] = (some "/7", []) ∧
      Router.uncached.matchPath "/@1" "/7" true =
        (false, .uncached, [.patternRejected ⟨"/@1", .groupNameInvalid⟩]) :=
  ⟨⟨[segmentNumber], rfl, rfl⟩, rfl, rfl, rfl, rfl, rfl⟩

end Segment

end Signpost
