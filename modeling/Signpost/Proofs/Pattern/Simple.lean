import Signpost.Proofs.Pattern.Values
import Signpost.Proofs.Regex.Preference

/-!
# Simple patterns

A simple pattern has plain characters, tokens without a constraint and optional
groups, and at its end perhaps one wildcard.  A match goes first through the
simple part, which takes no question mark, and then through the few expressions
that end every pattern.
-/

namespace Signpost.Shape

open Regex Spot
open Segment (IsWild)

variable {insensitive : Bool}

/-! ## Simple shapes -/

/-- Plain characters, tokens without a constraint, and groups of these. -/
def isSimple : Shape insensitive → Bool
  | done => true
  | plain _ next => next.isSimple
  | token _ constraint next => constraint.isNone && next.isSimple
  | wildcard _ => false
  | optional inner next => inner.isSimple && next.isSimple

def ended (shape : Shape insensitive) : Bool → Shape insensitive
  | true => shape.append (wildcard done)
  | false => shape

@[simp] theorem isSimple_append (first second : Shape insensitive) :
    (first.append second).isSimple = (first.isSimple && second.isSimple) := by
  induction first with
  | done => rfl
  | plain c next ih => exact ih
  | token name constraint next ih => simp [append, isSimple, ih, Bool.and_assoc]
  | wildcard next ih => rfl
  | optional inner next _ ih => simp [append, isSimple, ih, Bool.and_assoc]

theorem nodes_append (first second : Shape insensitive) : ∀ before,
    (first.append second).nodes before =
      first.nodes before ++ second.nodes (before + first.captures) := by
  induction first with
  | done => exact fun _ => rfl
  | plain c next ih => simp [append, nodes, captures, ih]
  | token name constraint next ih =>
      intro before
      simp only [append, nodes, captures, ih, List.cons_append]
      rw [Nat.add_assoc, Nat.add_comm 1]
  | wildcard next ih =>
      intro before
      simp only [append, nodes, captures, ih, List.cons_append]
      rw [Nat.add_assoc, Nat.add_comm 1]
  | optional inner next _ ih =>
      intro before
      simp only [append, nodes, captures, ih, List.cons_append]
      rw [show before + inner.captures + 1 + next.captures =
        before + (inner.captures + next.captures + 1) by omega]

theorem namedGroups_append (first second : Shape insensitive) : ∀ before,
    (first.append second).namedGroups before =
      first.namedGroups before ++ second.namedGroups
        (before + first.captures) := by
  induction first with
  | done => exact fun _ => rfl
  | plain c next ih => simp [append, namedGroups, captures, ih]
  | token name constraint next ih =>
      intro before
      simp only [append, namedGroups, captures, ih, List.cons_append]
      rw [Nat.add_assoc, Nat.add_comm 1]
  | wildcard next ih =>
      intro before
      simp only [append, namedGroups, captures, ih]
      rw [Nat.add_assoc, Nat.add_comm 1]
  | optional inner next _ ih =>
      intro before
      simp only [append, namedGroups, captures, ih, List.append_assoc]
      rw [show before + inner.captures + 1 + next.captures =
        before + (inner.captures + next.captures + 1) by omega]

private theorem avoids_ofItems {c : Char} {nodes : List Node}
    (h : ∀ node ∈ nodes, node.avoids c) :
    (Node.ofItems nodes).avoids c := by
  induction nodes with
  | nil => rfl
  | cons node earlier ih =>
      obtain ⟨hnode, hearlier⟩ := List.forall_mem_cons.mp h
      cases earlier with
      | nil => exact hnode
      | cons previous earlier =>
          rw [Node.ofItems, Node.avoids, ih hearlier, hnode]
          · rfl
          · simp

private theorem not_stands_question {c : Char} (hc : c ∉ specialChars) :
    ¬ Stands insensitive c '?' := by
  rintro (heq | ⟨-, hmem⟩)
  · exact hc (heq ▸ by decide)
  · rw [show Unicode.CaseOrbit.companions '?' = [] from rfl] at hmem
    cases hmem

private theorem avoids_charNode {c : Char} (hc : c ∉ specialChars) :
    (charNode insensitive c).avoids '?' := by
  rw [charNode, Node.avoids, Bool.not_eq_true', ← Bool.not_eq_true,
    contains_fold]
  intro h
  refine @not_stands_question insensitive _ hc ?_
  simpa [Stands, contains_singleton] using h

theorem avoids_nodes (shape : Shape insensitive)
    (h : shape.isSimple) : ∀ before,
    ∀ node ∈ shape.nodes before, node.avoids '?' := by
  induction shape with
  | done => simp [nodes]
  | plain c next ih =>
      exact fun before =>
        List.forall_mem_cons.mpr ⟨avoids_charNode c.property, ih h before⟩
  | token name constraint next ih =>
      simp only [isSimple, Bool.and_eq_true, Option.isNone_iff_eq_none] at h
      obtain ⟨rfl, hnext⟩ := h
      refine fun before => List.forall_mem_cons.mpr ⟨?_, ih hnext _⟩
      rw [fillNode, Node.avoids, Node.avoids, Node.avoids, Bool.not_eq_true',
        ← Bool.not_eq_true, contains_segmentSet]
      exact fun hset => hset.2 rfl
  | wildcard next ih => cases h
  | optional inner next ihinner ihnext =>
      simp only [isSimple, Bool.and_eq_true] at h
      refine fun before => List.forall_mem_cons.mpr ⟨?_, ihnext h.2 _⟩
      have hinner :
          (Node.ofItems (inner.nodes (before + 1)).reverse).avoids '?' :=
        avoids_ofItems (by simpa using ihinner h.1 (before + 1))
      simp only [Node.avoids, hinner, Bool.and_true]

/-! ## The end of a pattern -/

def closing (insensitive : Bool) : List Node :=
  [.alt (charNode insensitive '/') .empty, queryNode insensitive,
    .look .endText]

def behind (insensitive : Bool) (index : Nat) : Bool → List Node
  | true => .group index (wildcardNode insensitive) :: closing insensitive
  | false => closing insensitive

theorem ways_closing {start stop : Spot} :
    Ways (closing insensitive) start stop ↔ ∃ slash query,
      (slash = [] ∨ slash = ['/']) ∧ IsQuery query ∧
        Takes start stop (slash ++ query) ∧ stop.rest = [] := by
  constructor
  · rintro ⟨second, hslash, third, hquery, _, ⟨hend, rfl⟩, rfl⟩
    obtain ⟨slash, hslash, htakes⟩ := way_slashNode.mp hslash
    obtain ⟨query, hquery, htakes'⟩ := way_queryNode.mp hquery
    refine ⟨slash, query, hslash, hquery,
      takes_append_iff.mpr ⟨_, htakes, htakes'⟩, ?_⟩
    simpa [Look.holds] using hend
  · rintro ⟨slash, query, hslash, hquery, htakes, hend⟩
    obtain ⟨second, hfirst, hsecond⟩ := takes_append_iff.mp htakes
    refine ⟨second, way_slashNode.mpr ⟨slash, hslash, hfirst⟩, stop,
      way_queryNode.mpr ⟨query, hquery, hsecond⟩, stop, ⟨?_, rfl⟩, rfl⟩
    simp [Look.holds, hend]

theorem way_wildcard {start stop : Spot} :
    (wildcardNode insensitive).Way start stop ↔
      ∃ wild, IsWild wild ∧ Takes start stop wild := by
  rw [way_wildcardNode]
  constructor
  · rintro (htakes | ⟨rest, hline, htakes⟩)
    · exact ⟨[], .inl rfl, htakes⟩
    · exact ⟨'/' :: rest, .inr ⟨rest, rfl, hline⟩, htakes⟩
  · rintro ⟨_, rfl | ⟨rest, rfl, hline⟩, htakes⟩
    · exact .inl htakes
    · exact .inr ⟨rest, hline, htakes⟩

/-- What stands before the end of a path that has been matched up to here. -/
def CanEnd (wild : Bool) (text : List Char) : Prop :=
  ∃ taken slash query, (taken = [] ∨ wild = true ∧ IsWild taken) ∧
    (slash = [] ∨ slash = ['/']) ∧ IsQuery query ∧
    text = taken ++ (slash ++ query)

theorem exists_ways_closing {start : Spot} :
    (∃ stop, Ways (closing insensitive) start stop) ↔ ∃ slash query,
      (slash = [] ∨ slash = ['/']) ∧ IsQuery query ∧
      start.rest = slash ++ query := by
  simp only [ways_closing]
  constructor
  · rintro ⟨stop, slash, query, hslash, hquery, htakes, hend⟩
    exact ⟨slash, query, hslash, hquery,
      by rw [htakes.ahead.rest, hend, List.append_nil]⟩
  · rintro ⟨slash, query, hslash, hquery, hrest⟩
    obtain ⟨stop, htakes, hend⟩ :=
      exists_takes (hrest.trans (List.append_nil _).symm)
    exact ⟨stop, slash, query, hslash, hquery, htakes, hend⟩

theorem exists_ways_behind {index : Nat} {wild : Bool} {start : Spot} :
    (∃ stop, Ways (behind insensitive index wild) start stop) ↔
      CanEnd wild start.rest := by
  cases wild with
  | false => simp [behind, exists_ways_closing, CanEnd]
  | true =>
      constructor
      · rintro ⟨stop, _, ⟨inner, hway, rfl⟩, hways⟩
        obtain ⟨taken, hwild, htakes⟩ := way_wildcard.mp hway
        obtain ⟨slash, query, hslash, hquery, hrest⟩ :=
          exists_ways_closing.mp ⟨stop, hways⟩
        exact ⟨taken, slash, query, .inr ⟨rfl, hwild⟩, hslash, hquery,
          htakes.ahead.rest.trans (congrArg _ hrest)⟩
      · rintro ⟨taken, slash, query, htaken, hslash, hquery, hrest⟩
        have hwild : IsWild taken := htaken.elim .inl And.right
        obtain ⟨inner, htakes, hinner⟩ := exists_takes hrest
        have hafter :
            (Spot.capture index start inner).rest = slash ++ query := hinner
        obtain ⟨stop, hways⟩ :=
          exists_ways_closing.mpr ⟨slash, query, hslash, hquery, hafter⟩
        exact ⟨stop, _, ⟨inner, way_wildcard.mpr ⟨taken, hwild, htakes⟩, rfl⟩,
          hways⟩

theorem eq_nil_of_append_isQuery {text query : List Char} (htext : '?' ∉ text)
    (h : IsQuery (text ++ query)) : text = [] := by
  cases text with
  | nil => rfl
  | cons c text =>
      rcases h with hnil | ⟨rest, hcons, -⟩
      · cases hnil
      · obtain ⟨rfl, -⟩ := List.cons_eq_cons.mp hcons
        exact absurd List.mem_cons_self htext

private theorem IsQuery.newline_not_mem {query : List Char}
    (h : IsQuery query) : '\n' ∉ query := by
  rcases h with rfl | ⟨rest, rfl, hline⟩
  · exact List.not_mem_nil
  · simp [hline]

private theorem eq_slash_of_append {text query slash query' : List Char}
    (htext : '?' ∉ text)
    (hslash : slash = [] ∨ slash = ['/']) (hquery' : IsQuery query')
    (heq : text ++ query = slash ++ query') : text = [] ∨ text = ['/'] := by
  rcases hslash with rfl | rfl
  · rw [List.nil_append] at heq
    rw [← heq] at hquery'
    exact .inl (eq_nil_of_append_isQuery htext hquery')
  · cases text with
    | nil => exact .inl rfl
    | cons c text =>
        obtain ⟨rfl, htail⟩ := List.cons_eq_cons.mp heq
        have hrest : '?' ∉ text :=
          fun hmem => htext (List.mem_cons_of_mem _ hmem)
        have hquery : IsQuery (text ++ query) :=
          (show text ++ query = query' from htail) ▸ hquery'
        rw [eq_nil_of_append_isQuery hrest hquery]
        exact .inr rfl

theorem canEnd_append_iff {wild : Bool} {text query : List Char}
    (htext : '?' ∉ text)
    (hquery : IsQuery query) : CanEnd wild (text ++ query) ↔
      text = [] ∨ text = ['/'] ∨ wild = true ∧ IsWild text := by
  constructor
  · rintro ⟨taken, slash, query', htaken, hslash, hquery', heq⟩
    have hnothing : taken = [] → text = [] ∨ text = ['/'] := by
      rintro rfl
      exact eq_slash_of_append htext hslash hquery' heq
    rcases htaken with hnil | ⟨hwild, hnil | ⟨rest, rfl, hline⟩⟩
    · exact (hnothing hnil).imp_right .inl
    · exact (hnothing hnil).imp_right .inl
    · cases text with
      | nil => exact .inl rfl
      | cons c text =>
          obtain ⟨rfl, htail⟩ := List.cons_eq_cons.mp heq
          have hlines : '\n' ∉ text ++ query := by
            rw [show text ++ query = rest ++ (slash ++ query') from htail]
            rcases hslash with rfl | rfl <;>
              simp [hline, hquery'.newline_not_mem]
          refine .inr (.inr ⟨hwild, .inr ⟨text, rfl, fun hmem => hlines ?_⟩⟩)
          exact List.mem_append_left _ hmem
  · rintro (rfl | rfl | ⟨hwild, htext⟩)
    · exact ⟨[], [], query, .inl rfl, .inl rfl, hquery, rfl⟩
    · exact ⟨[], ['/'], query, .inl rfl, .inr rfl, hquery, rfl⟩
    · exact ⟨text, [], query, .inr ⟨hwild, htext⟩, .inl rfl, hquery, rfl⟩

theorem groups_of_ways_closing {start stop : Spot}
    (h : Ways (closing insensitive) start stop) :
      stop.groups = start.groups := by
  obtain ⟨slash, query, -, -, htakes, -⟩ := ways_closing.mp h
  exact htakes.groups

theorem groups_of_ways_wild {index : Nat} {start stop : Spot}
    (h : Ways (behind insensitive index true) start stop) :
    ∃ length, stop.groups = (index, ⟨start.rest, length⟩) :: start.groups := by
  obtain ⟨_, ⟨inner, hway, rfl⟩, hways⟩ := h
  obtain ⟨taken, -, htakes⟩ := way_wildcard.mp hway
  refine ⟨inner.pos - start.pos, ?_⟩
  rw [groups_of_ways_closing hways, ← htakes.groups]
  rfl

theorem group?_of_ways_behind {index other : Nat} {wild : Bool}
    {start stop : Spot} (h : Ways (behind insensitive index wild) start stop)
    (hne : index ≠ other) :
    stop.group? other = start.group? other := by
  cases wild with
  | false => exact group?_of_groups (groups_of_ways_closing h) other
  | true =>
      obtain ⟨length, hgroups⟩ := groups_of_ways_wild h
      simp [Spot.group?, hgroups, hne]

/-! ## What a simple pattern compiles to -/

variable {shape : Shape insensitive} {wild : Bool} {compiled : CompiledPattern}

theorem text_ended (shape : Shape insensitive) (wild : Bool) :
    (shape.ended wild).text = shape.text ++ if wild then ['/', '*']
      else [] := by
  cases wild <;> simp [ended, text]

theorem tokens_ended (shape : Shape insensitive) (wild : Bool) :
    (shape.ended wild).tokens = shape.tokens := by
  cases wild <;> simp [ended, tokens]

theorem names_ended (shape : Shape insensitive) (wild : Bool) :
    (shape.ended wild).names = shape.names := by
  rw [names, tokens_ended, names]

private theorem star_not_mem_text (shape : Shape insensitive)
    (hsimple : shape.isSimple) (h : shape.Formed) : '*' ∉ shape.text := by
  induction shape with
  | done => exact List.not_mem_nil
  | plain c next ih =>
      have hc := PlainChar.ne c.property (show '*' ∈ specialChars by decide)
      simp [text, hc.symm, ih hsimple h]
  | token name constraint next ih =>
      simp only [isSimple, Bool.and_eq_true, Option.isNone_iff_eq_none]
        at hsimple
      obtain ⟨rfl, hnext⟩ := hsimple
      have hname : '*' ∉ name := fun hmem => by cases h.head.name _ hmem
      simp [text, tokenOf, Token.text, hname, ih hnext h.tail]
  | wildcard next ih => cases hsimple
  | optional inner next ihinner ihnext =>
      simp only [isSimple, Bool.and_eq_true] at hsimple
      simp [text, ihinner hsimple.1 h.inside, ihnext hsimple.2 h.after]

private theorem separators_ended (hsimple : shape.isSimple)
    (h : shape.Formed) (wild : Bool) :
    CompiledPattern.separators (shape.ended wild).text =
      if wild then some (shape.text.count '/' + 1) else none := by
  rw [text_ended, CompiledPattern.separators]
  cases wild with
  | false =>
      have hlast : shape.text.getLast? ≠ some '*' :=
        fun hlast => shape.star_not_mem_text hsimple h
          (List.mem_of_getLast? hlast)
      simp [hlast]
  | true => simp

theorem compiles_ended {pattern : String}
    (hpattern : pattern.toList = shape.text ++ if wild then ['/', '*'] else [])
    (htokens : (Template.ofText pattern.toList).tokens = shape.tokens)
    (hcompile : CompiledPattern.compile pattern (!insensitive) = .ok compiled) :
    (shape.ended wild).Compiles compiled := by
  rw [← text_ended] at hpattern
  refine ⟨by rw [← hpattern, htokens, tokens_ended], ?_⟩
  rw [← hpattern, String.ofList_toList]
  exact hcompile

theorem Compiles.captures_eq (h : (shape.ended wild).Compiles compiled)
    (hsimple : shape.isSimple) (path : String) : compiled.captures path =
      ((compiled.regex.search path.toList).map compiled.namedValues).map
        fun named =>
        { named
          splat := if wild then splatOf path.toList (shape.text.count '/' + 1)
            else none } := by
  have hformed : shape.Formed := by
    intro token hmem
    exact h.formed token (by rwa [tokens_ended])
  have hseparators : compiled.splatSeparators =
      if wild then some (shape.text.count '/' + 1) else none := by
    obtain ⟨regex, -, rfl⟩ := h.eq
    exact separators_ended hsimple hformed wild
  rw [CompiledPattern.captures, hseparators, Option.map_map]
  cases wild <;> rfl

private theorem choose_startText {α : Type} (pick : Spot → Option α)
    (text : List Char) :
    (Node.look .startText).choose pick { rest := text } =
      pick { rest := text } := by
  simp [Node.choose, Node.run, Look.holds]

theorem Stem.exists_ended {stem : Shape insensitive}
    (h : stem.Stem (shape.ended wild))
    (hsimple : shape.isSimple) : ∃ body : Shape insensitive, body.isSimple ∧
      stem = body.ended wild ∧ (wild = true → body = shape) := by
  generalize hended : shape.ended wild = whole at h
  cases h with
  | slashed =>
      cases wild with
      | false =>
          rw [ended] at hended
          rw [hended, isSimple_append, Bool.and_eq_true] at hsimple
          exact ⟨stem, hsimple.1, rfl, fun hwild => nomatch hwild⟩
      | true =>
          -- a pattern with a wildcard at its end does not end in a slash
          have htext := congrArg (fun whole => whole.text.getLast?) hended
          simp [ended, text, slash] at htext
  | whole =>
      subst hended
      exact ⟨shape, hsimple, rfl, fun _ => rfl⟩

theorem Compiles.exists_body (h : (shape.ended wild).Compiles compiled)
    (hsimple : shape.isSimple) : ∃ body : Shape insensitive,
      body.isSimple ∧ body.Formed ∧ (wild = true → body = shape) ∧
      (∀ text, compiled.regex.search text = chooseAlong (body.nodes 0)
        (chooseAlong (behind insensitive (body.captures + 1) wild) some)
        { rest := text }) ∧
      ∀ found, compiled.namedValues found =
        shape.named (body.held 0 found) := by
  obtain ⟨stem, hstem, hformed, hnode, hnamed⟩ := h.exists_stem
  obtain ⟨body, hbody, rfl, hsame⟩ := hstem.exists_ended hsimple
  have hnodes : (body.ended wild).nodes 0 ++ closing insensitive =
      body.nodes 0 ++ behind insensitive (body.captures + 1) wild := by
    cases wild with
    | false => rfl
    | true => simp [ended, nodes_append, nodes, behind]
  have hheld : ∀ found, (body.ended wild).held 0 found = body.held 0 found := by
    intro found
    cases wild with
    | false => rfl
    | true => simp [ended, held, namedGroups_append, namedGroups]
  refine ⟨body, hbody, fun token hmem => hformed token ?_,
    hsame, fun text => ?_, fun found => ?_⟩
  · cases wild with
    | false => exact hmem
    | true => simp [ended, hmem]
  · rw [Regex.search, hnode, node, search_ofItems node_anchored,
      List.cons_append, chooseAlong_cons, choose_startText]
    change chooseAlong ((body.ended wild).nodes 0 ++ closing insensitive)
      some _ = _
    rw [hnodes, chooseAlong_append]
  · rw [hnamed found, hheld, named, named, names_ended]

theorem a_plain : 'a' ∉ specialChars := by decide

theorem b_plain : 'b' ∉ specialChars := by decide

def single : Shape false := plain slash (plain ⟨'a', a_plain⟩ done)

def grouped : Shape false :=
  single.append (optional (plain slash (plain ⟨'b', b_plain⟩ done)) done)

end Signpost.Shape
