import Signpost.Proofs.Data.List
import Signpost.Proofs.Pattern.Matching

/-!
# What patterns mean

A compiled pattern matches the paths that its shape yields, with a query behind
them or none, and finds in them the values of a derivation.
-/

namespace Signpost.Shape

open Regex Spot

variable {insensitive : Bool}

theorem way_node {stem : Shape insensitive} {start stop : Spot} :
    stem.node.Way start stop ↔ start.before = none ∧ ∃ first second,
      Ways (stem.nodes 0) start first ∧
      (Node.alt (charNode insensitive '/') .empty).Way first second ∧
      (queryNode insensitive).Way second stop ∧ stop.rest = [] := by
  rw [node, way_ofItems, List.reverse_reverse, List.cons_append, Ways]
  simp only [ways_append, Ways]
  constructor
  · rintro ⟨_, ⟨hstart, rfl⟩, first, hways, second, hslash, third, hquery, _,
      ⟨hstop, rfl⟩, rfl⟩
    refine ⟨by simpa [Look.holds] using hstart, first, second, hways, hslash,
      hquery, by simpa [Look.holds] using hstop⟩
  · rintro ⟨hstart, first, second, hways, hslash, hquery, hstop⟩
    refine ⟨start, ⟨by simp [Look.holds, hstart], rfl⟩, first, hways, second,
      hslash, stop, hquery, stop, ⟨by simp [Look.holds, hstop], rfl⟩, rfl⟩

theorem way_slashNode {start stop : Spot} :
    (Node.alt (charNode insensitive '/') .empty).Way start stop ↔
      ∃ slash, (slash = [] ∨ slash = ['/']) ∧ Takes start stop slash := by
  constructor
  · rintro (hslash | hnothing)
    · obtain ⟨d, hd, htakes⟩ := way_charNode.mp hslash
      cases stands_slash.mp hd
      exact ⟨['/'], .inr rfl, htakes⟩
    · exact ⟨[], .inl rfl, takes_nil_iff.mpr hnothing⟩
  · rintro ⟨_, rfl | rfl, htakes⟩
    · exact .inr (takes_nil_iff.mp htakes)
    · exact .inl (way_charNode.mpr ⟨'/', stands_slash.mpr rfl, htakes⟩)

theorem way_queryNode {start stop : Spot} :
    (queryNode insensitive).Way start stop ↔
      ∃ query, IsQuery query ∧ Takes start stop query := by
  constructor
  · rintro (⟨middle, hquestion, hrest⟩ | hnothing)
    · obtain ⟨d, hd, hfirst⟩ := way_charNode.mp hquestion
      cases stands_question.mp hd
      obtain ⟨rest, -, hline, htakes⟩ := loop_one_iff.mp hrest
      obtain ⟨text, hstart, hfirst⟩ := takes_cons_iff.mp hfirst
      rw [takes_nil_iff.mp hfirst] at htakes
      refine ⟨'?' :: rest, .inr ⟨rest, rfl, fun hmem => ?_⟩, htakes.cons hstart⟩
      exact contains_lineSet.mp (hline _ hmem) rfl
    · exact ⟨[], .inl rfl, takes_nil_iff.mpr hnothing⟩
  · rintro ⟨_, rfl | ⟨rest, rfl, hline⟩, htakes⟩
    · exact .inr (takes_nil_iff.mp htakes)
    · obtain ⟨text, hstart, htakes⟩ := takes_cons_iff.mp htakes
      refine .inl ⟨start.advance '?' text, way_charNode.mpr ?_, ?_⟩
      · exact ⟨'?', stands_question.mpr rfl, (Takes.refl _).cons hstart⟩
      · refine loop_one_iff.mpr ⟨rest, Nat.zero_le _, fun c hc => ?_, htakes⟩
        exact contains_lineSet.mpr fun heq => hline (heq ▸ hc)

theorem node_anchored {stem : Shape insensitive} (start stop : Spot)
    (h : stem.node.Way start stop) : start.before = none :=
  (way_node.mp h).1

theorem Derives.append {first second : Shape insensitive}
    {before after : List Char} {values values' : List (Option (List Char))}
    (h : first.Derives before values) (h' : second.Derives after values') :
    (first.append second).Derives (before ++ after) (values ++ values') := by
  induction h with
  | done => exact h'
  | plain hd _ ih => exact .plain hd ih
  | token hfills _ ih =>
      rw [List.append_assoc, List.cons_append]
      exact .token hfills ih
  | nothing _ ih => exact .nothing ih
  | remainder hline _ ih =>
      rw [List.append_assoc]
      exact .remainder hline ih
  | kept hinner _ _ ih =>
      rw [List.append_assoc, List.append_assoc]
      exact .kept hinner ih
  | skipped _ ih =>
      rw [List.append_assoc]
      exact .skipped ih

private theorem derives_append_iff {first second : Shape insensitive}
    {word : List Char} {values : List (Option (List Char))} :
    (first.append second).Derives word values ↔ ∃ before after values' values'',
      word = before ++ after ∧ values = values' ++ values'' ∧
      first.Derives before values' ∧ second.Derives after values'' := by
  constructor
  · intro h
    induction first generalizing word values with
    | done => exact ⟨[], word, [], values, rfl, rfl, .done, h⟩
    | plain c next ih =>
        cases h with
        | plain hd hnext =>
            obtain ⟨before, after, values', values'', rfl,
                rfl, hfirst, hsecond⟩ :=
              ih hnext
            exact ⟨_, after, _, values'', rfl, rfl, .plain hd hfirst, hsecond⟩
    | token name constraint next ih =>
        cases h with
        | token hfills hnext =>
            obtain ⟨before, after, values', values'', rfl,
                rfl, hfirst, hsecond⟩ :=
              ih hnext
            exact ⟨_, after, _, values'', (List.append_assoc ..).symm, rfl,
              .token hfills hfirst, hsecond⟩
    | wildcard next ih =>
        cases h with
        | nothing hnext =>
            obtain ⟨before, after, values', values'', rfl,
                rfl, hfirst, hsecond⟩ :=
              ih hnext
            exact ⟨_, after, _, values'', rfl, rfl, .nothing hfirst, hsecond⟩
        | remainder hline hnext =>
            obtain ⟨before, after, values', values'', rfl,
                rfl, hfirst, hsecond⟩ :=
              ih hnext
            exact ⟨_, after, _, values'', (List.append_assoc ..).symm, rfl,
              .remainder hline hfirst, hsecond⟩
    | optional inner next _ ih =>
        cases h with
        | kept hinner hnext =>
            obtain ⟨before, after, values', values'', rfl,
                rfl, hfirst, hsecond⟩ :=
              ih hnext
            exact ⟨_, after, _, values'', (List.append_assoc ..).symm,
              (List.append_assoc ..).symm, .kept hinner hfirst, hsecond⟩
        | skipped hnext =>
            obtain ⟨before, after, values', values'', rfl,
                rfl, hfirst, hsecond⟩ :=
              ih hnext
            exact ⟨_, after, _, values'', rfl, (List.append_assoc ..).symm,
              .skipped hfirst, hsecond⟩
  · rintro ⟨before, after, values', values'', rfl, rfl, hfirst, hsecond⟩
    exact hfirst.append hsecond

theorem derives_slash_iff {stem : Shape insensitive} {word : List Char}
    {values : List (Option (List Char))} :
    (stem.append (plain slash done)).Derives word values ↔
      ∃ before, word = before ++ ['/'] ∧ stem.Derives before values := by
  have hslash : (plain slash done : Shape insensitive).Derives ['/'] [] :=
    .plain (stands_slash.mpr rfl) .done
  constructor
  · intro h
    obtain ⟨before, after, values', values'', rfl, rfl, hstem, hlast⟩ :=
      derives_append_iff.mp h
    cases hlast with
    | plain hd hdone =>
        cases hdone
        cases stands_slash.mp hd
        exact ⟨before, rfl, by simpa using hstem⟩
  · rintro ⟨before, rfl, hstem⟩
    simpa using hstem.append hslash

theorem Stem.yields_iff {stem shape : Shape insensitive} (h : stem.Stem shape)
    {body : List Char} {values : List (Option (List Char))} :
    shape.Yields body values ↔ ∃ word slash, body = word ++ slash ∧
      (slash = [] ∨ slash = ['/']) ∧ stem.Derives word values := by
  have hright : (∃ word slash, body = word ++ slash ∧
      (slash = [] ∨ slash = ['/']) ∧ stem.Derives word values) ↔
      stem.Derives body values ∨
        ∃ word, body = word ++ ['/'] ∧ stem.Derives word values := by
    constructor
    · rintro ⟨word, _, rfl, rfl | rfl, hstem⟩
      · exact .inl (by simpa using hstem)
      · exact .inr ⟨word, rfl, hstem⟩
    · rintro (hstem | ⟨word, rfl, hstem⟩)
      · exact ⟨body, [], by simp, .inl rfl, hstem⟩
      · exact ⟨word, ['/'], rfl, .inr rfl, hstem⟩
  rw [hright, Yields]
  cases h with
  | slashed =>
      have hlast : (stem.append (plain slash done)).text.getLast? =
          some '/' := by
        simp [text, slash]
      rw [if_pos hlast, derives_slash_iff, derives_slash_iff]
      constructor
      · rintro (hbody | ⟨before, hbefore, hstem⟩)
        · exact .inr hbody
        · rw [List.append_cancel_right hbefore]
          exact .inl hstem
      · rintro (hstem | hbody)
        · exact .inr ⟨body, rfl, hstem⟩
        · exact .inl hbody
  | whole hlast => rw [if_neg hlast]

/-- The values by name, decoded. -/
def named (shape : Shape insensitive) (values : List (Option (List Char))) :
    List (String × Param) :=
  List.zipWith (fun name value => (String.ofList name,
    value.map fun raw => String.ofList (decodeSegment raw))) shape.names values

private theorem namedValues_eq {shape : Shape insensitive}
    {compiled : CompiledPattern} (hnodup : shape.names.Nodup)
    (hnames : compiled.names = shape.names.map String.ofList)
    (hgroups : compiled.regex.names = shape.namedGroups 0) (found : Spot) :
    compiled.namedValues found = shape.named (shape.held 0 found) := by
  rw [← shape.map_fst_namedGroups 0] at hnodup hnames
  rw [CompiledPattern.namedValues, hnames, named, held,
    ← shape.map_fst_namedGroups 0, List.zipWith_map, List.zipWith_self,
    List.map_map, List.map_map]
  refine List.map_congr_left fun group hmem => ?_
  have hfind := find?_of_nodup hnodup hmem
  simp [Regex.group?, hgroups, hfind]

/-- What the shape of a compiled pattern says about it. -/
structure Compiles (shape : Shape insensitive) (compiled : CompiledPattern) :
    Prop where
  tokens : (Template.ofText shape.text).tokens = shape.tokens
  compile : CompiledPattern.compile (String.ofList shape.text) (!insensitive) =
    .ok compiled

variable {shape : Shape insensitive} {compiled : CompiledPattern}

theorem Compiles.formed (h : shape.Compiles compiled) : shape.Formed := by
  intro token hmem
  rw [← h.tokens] at hmem
  exact Template.wellFormed_of_mem_tokens hmem

theorem Compiles.eq (h : shape.Compiles compiled) : ∃ regex,
    Regex.compile (Template.anchored shape.text) insensitive = .ok regex ∧
      compiled =
        { source := String.ofList shape.text
          caseSensitive := !insensitive
          regex
          names := shape.names.map String.ofList
          splatSeparators := CompiledPattern.separators shape.text } := by
  have hcompile := h.compile
  simp only [CompiledPattern.compile, String.toList_ofList, Bool.not_not]
    at hcompile
  split at hcompile
  · cases hcompile
  · next regex hregex =>
      refine ⟨regex, hregex, ?_⟩
      rw [← Except.ok.inj hcompile, h.tokens, names, List.map_map]
      rfl

theorem Compiles.exists_stem (h : shape.Compiles compiled) :
    ∃ stem : Shape insensitive, stem.Stem shape ∧ stem.Formed ∧
      compiled.regex.node = stem.node ∧
      ∀ found, compiled.namedValues found =
        shape.named (stem.held 0 found) := by
  obtain ⟨stem, hstem⟩ := Shape.exists_stem h.formed
  obtain ⟨regex, hregex, heq⟩ := h.eq
  obtain ⟨hnodup, hnode, hgroups⟩ := compile_eq hstem h.tokens hregex
  have hnames : shape.names = stem.names := by
    rw [names, names, hstem.tokens_eq]
  refine ⟨stem, hstem, fun token hmem => h.formed token ?_, ?_, fun found => ?_⟩
  · rwa [hstem.tokens_eq]
  · rw [heq, hnode]
  · rw [namedValues_eq hnodup (by rw [heq, hnames]) (by rw [heq, hgroups])]
    rw [named, named, hnames]

theorem Compiles.yields_of_captures (h : shape.Compiles compiled)
    {path : String}
    {params : Params} (hcaptures : compiled.captures path = some params) :
    ∃ body query values, path.toList = body ++ query ∧ IsQuery query ∧
      shape.Yields body values ∧ params =
        { named := shape.named values
          splat := (CompiledPattern.separators shape.text).bind
            (splatOf path.toList) } := by
  obtain ⟨stem, hstem, hformed, hnode, hnamed⟩ := h.exists_stem
  obtain ⟨found, hfound, rfl⟩ := Option.map_eq_some_iff.mp hcaptures
  rw [Regex.search, hnode] at hfound
  have hway := Node.way_of_search node_anchored hfound
  obtain ⟨-, first, second, hways, hslash, hquery, hend⟩ := way_node.mp hway
  obtain ⟨word, values, hstemFound⟩ :=
    found_of_ways stem hformed (fun group hmem => by cases hmem) hways
  obtain ⟨slash, hslash, htakes⟩ := way_slashNode.mp hslash
  obtain ⟨query, hquery, htakes'⟩ := way_queryNode.mp hquery
  have hpath := ((hstemFound.ahead.trans htakes.ahead).trans htakes'.ahead).rest
  rw [hend, List.append_nil] at hpath
  refine ⟨word ++ slash, query, values, hpath, hquery, ?_, ?_⟩
  · exact hstem.yields_iff.mpr ⟨word, slash, rfl, hslash, hstemFound.derives⟩
  · have hgroups : found.groups = first.groups := by
      rw [htakes'.groups, htakes.groups]
    have hheld : stem.held 0 found = stem.held 0 first :=
      stem.held_congr fun index _ _ => group?_of_groups hgroups index
    obtain ⟨regex, -, heq⟩ := h.eq
    rw [hnamed found, hheld, hstemFound.values, heq]

/-- Every path that the shape yields is matched, whatever query follows it. -/
theorem Compiles.captures_of_yields (h : shape.Compiles compiled)
    {path : String} {body query : List Char}
    {values : List (Option (List Char))} (hpath : path.toList = body ++ query)
    (hquery : IsQuery query) (hyields : shape.Yields body values) :
    (compiled.captures path).isSome := by
  obtain ⟨stem, hstem, hformed, hnode, hnamed⟩ := h.exists_stem
  obtain ⟨word, slash, rfl, hslash, hderives⟩ := hstem.yields_iff.mp hyields
  rw [List.append_assoc] at hpath
  obtain ⟨first, hways, hfirst⟩ :=
    @canTake_of_derives _ _ _ _ hderives 0 { rest := path.toList } _ hpath
  obtain ⟨second, hsecond, -⟩ := exists_takes (hfirst.rest_eq hpath)
  have hrest := hsecond.ahead.rest_eq (hfirst.rest_eq hpath)
  obtain ⟨stop, hstop, hend⟩ :=
    exists_takes (hrest.trans (List.append_nil query).symm)
  rw [CompiledPattern.captures, Option.isSome_map, Regex.search, hnode,
    Node.search_isSome_iff node_anchored]
  refine ⟨stop, way_node.mpr ⟨rfl, first, second, hways, ?_, ?_, hend⟩⟩
  · exact way_slashNode.mpr ⟨slash, hslash, hsecond⟩
  · exact way_queryNode.mpr ⟨query, hquery, hstop⟩

/--
Where case counts, a pattern matches just the paths that are derived from it,
each with a query behind it or none.
-/
theorem captures_isSome_iff_yields {shape : Shape false} {pattern : String}
    {compiled : CompiledPattern} (hpattern : pattern.toList = shape.text)
    (htokens : (Template.ofText pattern.toList).tokens = shape.tokens)
    (hcompile : CompiledPattern.compile pattern true = .ok compiled)
    (path : String) :
    (compiled.captures path).isSome ↔ ∃ body query,
      path.toList = body ++ query ∧
      IsQuery query ∧ ∃ values, shape.Yields body values := by
  have h : shape.Compiles compiled := by
    refine ⟨by rw [← hpattern, htokens], ?_⟩
    rw [← hpattern, String.ofList_toList]
    exact hcompile
  constructor
  · intro hsome
    obtain ⟨params, hparams⟩ := Option.isSome_iff_exists.mp hsome
    obtain ⟨body, query, values, hpath, hquery, hyields, -⟩ :=
      h.yields_of_captures hparams
    exact ⟨body, query, hpath, hquery, values, hyields⟩
  · rintro ⟨body, query, hpath, hquery, values, hyields⟩
    exact h.captures_of_yields hpath hquery hyields

def digits : Constraint false where
  text := ['[', '0', '-', '9', ']', '+']
  regex :=
    { source := ['[', '0', '-', '9', ']', '+']
      node := .loop (.one (.range '0' '9')) 1 none true
      names := [] }
  compiles := rfl
  lookFree := rfl

def numbered : Shape false :=
  plain slash (plain ⟨'a', by decide⟩
    (optional (plain slash (token ['_'] (some digits) done)) done))

theorem captures_numbered : ∃ compiled,
    CompiledPattern.compile "/a(/@_:[0-9]+)" true = .ok compiled ∧
      ((compiled.captures "/a/7").isSome ↔ ∃ body query,
        "/a/7".toList = body ++ query ∧ IsQuery query ∧
          ∃ values, numbered.Yields body values) := by
  obtain ⟨compiled, hcompile⟩ : ∃ compiled,
      CompiledPattern.compile "/a(/@_:[0-9]+)" true = .ok compiled := ⟨_, rfl⟩
  exact ⟨compiled, hcompile,
    @captures_isSome_iff_yields numbered _ _ rfl rfl hcompile "/a/7"⟩

end Signpost.Shape
