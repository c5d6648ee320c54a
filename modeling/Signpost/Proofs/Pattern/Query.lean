import Signpost.Proofs.Pattern.Simple

/-!
# Queries

A query behind a path changes nothing about whether a simple pattern matches and
which values its tokens take.  The remainder is another matter: it is cut from
the path as it stands, the query included.
-/

namespace Signpost.Shape

open Regex Spot

variable {insensitive : Bool} {shape : Shape insensitive} {wild : Bool}
  {compiled : CompiledPattern}

private theorem held_extend {spot : Spot} (h : spot.Framed) (tail : List Char) :
    shape.held 0 (spot.extend tail) = shape.held 0 spot :=
  shape.held_congr fun index _ _ => h.group?_extend tail index

private theorem held_of_ways_behind {start stop : Spot}
    (h : Ways (behind insensitive (shape.captures + 1) wild) start stop) :
    shape.held 0 stop = shape.held 0 start := by
  refine shape.held_congr fun index _ hindex => group?_of_ways_behind h ?_
  omega

private theorem held_behind_extend {start : Spot} {query : List Char}
    (hframed : start.Framed)
    (hrest : '?' ∉ start.rest) (hquery : '\n' ∉ query) :
    let last := chooseAlong (behind insensitive (shape.captures + 1) wild) some
    (last (start.extend ('?' :: query))).map (shape.held 0) =
      (last start).map (shape.held 0) := by
  intro last
  have hends : (last (start.extend ('?' :: query))).isSome =
      (last start).isSome := by
    rw [Bool.eq_iff_iff, isSome_chooseAlong _ placed_some,
      isSome_chooseAlong _ placed_some]
    simp only [Option.isSome_some, and_true, exists_ways_behind]
    have hstart := @canEnd_append_iff wild _ [] hrest (.inl rfl)
    rw [List.append_nil] at hstart
    rw [hstart]
    exact canEnd_append_iff hrest (.inr ⟨query, rfl, hquery⟩)
  -- the query may change the way behind, but no group of a token
  have hheld : ∀ {spot found}, last spot = some found →
      shape.held 0 found = shape.held 0 spot := by
    intro spot found hfound
    obtain ⟨stop, hways, hstop⟩ := exists_of_chooseAlong hfound
    cases hstop
    exact held_of_ways_behind hways
  cases hlast : last start with
  | none =>
      rw [hlast, Option.isSome_none, Option.isSome_eq_false_iff,
        Option.isNone_iff_eq_none] at hends
      rw [hends]
  | some found =>
      rw [hlast, Option.isSome_some] at hends
      obtain ⟨found', hfound'⟩ := Option.isSome_iff_exists.mp hends
      rw [hfound', Option.map_some, Option.map_some, hheld hfound', hheld hlast,
        held_extend hframed]

private theorem Compiles.namedValues_query
    (h : (shape.ended wild).Compiles compiled)
    (hsimple : shape.isSimple) {path query : List Char} (hpath : '?' ∉ path)
    (hquery : '\n' ∉ query) :
    (compiled.regex.search (path ++ '?' :: query)).map compiled.namedValues =
      (compiled.regex.search path).map compiled.namedValues := by
  obtain ⟨body, hbody, hformed, -, hsearch, hnamed⟩ := h.exists_body hsimple
  have hvalues : compiled.namedValues = fun found =>
      shape.named (body.held 0 found) :=
    funext hnamed
  have hmap : ∀ found : Option Spot, found.map compiled.namedValues =
      (found.map (body.held 0)).map shape.named := by
    intro found
    rw [hvalues, Option.map_map]
    rfl
  let last := chooseAlong (behind insensitive (body.captures + 1) wild) some
  have hsame :
      ((chooseAlong (body.nodes 0) last { rest := path ++ '?' :: query }).map
        (body.held 0)) =
      (chooseAlong (body.nodes 0) last { rest := path }).map (body.held 0) :=
    calc (chooseAlong (body.nodes 0) last
      { rest := path ++ '?' :: query }).map (body.held 0)
      _ = chooseAlong (body.nodes 0) (fun spot => (last spot).map (body.held 0))
          (Spot.extend ('?' :: query) { rest := path }) := map_chooseAlong ..
      _ = chooseAlong (body.nodes 0) (fun spot =>
          (last (spot.extend ('?' :: query))).map (body.held 0)) { rest :=
            path } :=
        chooseAlong_extend (body.avoids_nodes hbody 0) _
      _ = chooseAlong (body.nodes 0) (fun spot => (last spot).map (body.held 0))
          { rest := path } := by
        refine chooseAlong_congr fun spot hways => ?_
        have hframed : spot.Framed := hways.framed fun _ h => nomatch h
        obtain ⟨used, hahead⟩ := hways.leads
        have hsplit : path = used ++ spot.rest := hahead.rest
        exact held_behind_extend hframed
          (fun hmem => hpath (hsplit ▸ List.mem_append_right _ hmem)) hquery
      _ = (chooseAlong (body.nodes 0) last { rest := path }).map
        (body.held 0) :=
        (map_chooseAlong ..).symm
  rw [hmap, hmap, hsearch, hsearch, hsame]

/--
A query does not change whether a simple pattern matches, nor the named values.
Without a wildcard it changes nothing.  With one, the remainder is what stands
behind as many slashes as the pattern has: the query follows the remainder of
the path or, where the path has too few slashes, may hold the others itself.
-/
theorem captures_query {shape : Shape insensitive} (hsimple : shape.isSimple)
    (wild : Bool) {pattern : String} {compiled : CompiledPattern}
    (hpattern : pattern.toList = shape.text ++ if wild then ['/', '*'] else [])
    (htokens : (Template.ofText pattern.toList).tokens = shape.tokens)
    (hcompile : CompiledPattern.compile pattern (!insensitive) = .ok compiled)
    {path query : String} (hpath : '?' ∉ path.toList)
    (hquery : '\n' ∉ query.toList) :
    let whole := path ++ "?" ++ query
    ((compiled.captures whole).isSome ↔ (compiled.captures path).isSome) ∧
    ∀ params params', compiled.captures path = some params →
      compiled.captures whole = some params' →
      params'.named = params.named ∧
      (wild = false → params' = params) ∧
      (wild = true →
        (∀ before rest, path.toList = before ++ '/' :: rest →
          before.count '/' = shape.text.count '/' →
          params.splat =
            (if rest = [] then none else some (String.ofList rest)) ∧
          params'.splat = some (String.ofList rest ++ "?" ++ query)) ∧
        (path.toList.count '/' ≤ shape.text.count '/' → params.splat = none ∧
          ∀ before rest, query.toList = before ++ '/' :: rest →
            path.toList.count '/' + before.count '/' = shape.text.count '/' →
            params'.splat = if rest = [] then none
              else some (String.ofList rest)) ∧
        (whole.toList.count '/' ≤ shape.text.count '/' →
          params'.splat = none)) := by
  intro whole
  have h := compiles_ended hpattern htokens hcompile
  have hwhole : whole.toList = path.toList ++ '?' :: query.toList := by
    simp [whole, String.toList_append]
  have hnamed := h.namedValues_query hsimple hpath hquery
  rw [h.captures_eq hsimple, h.captures_eq hsimple, hwhole, hnamed]
  -- the named values agree, so only the remainders are left to compare
  cases (compiled.regex.search path.toList).map compiled.namedValues with
  | none => exact ⟨by simp, fun _ _ hparams => nomatch hparams⟩
  | some named =>
      refine ⟨by simp, ?_⟩
      rintro _ _ ⟨⟩ ⟨⟩
      refine ⟨rfl, fun hwild => by simp [hwild], fun hwild => ?_⟩
      simp only [hwild, if_true]
      refine ⟨fun before rest hsplit hcount => ?_, fun hfew => ⟨?_, ?_⟩, ?_⟩
      · have hmore : path.toList ++ '?' :: query.toList =
            before ++ '/' :: (rest ++ '?' :: query.toList) := by simp [hsplit]
        have hremainder : String.ofList (rest ++ '?' :: query.toList) =
            String.ofList rest ++ "?" ++ query := by
          apply String.toList_injective
          simp [String.toList_append]
        rw [hmore, hsplit, splatOf_append hcount,
          splatOf_append hcount, hremainder]
        simp
      · exact splatOf_eq_none (by omega)
      · intro before rest hsplit hcount
        have hmore : path.toList ++ '?' :: query.toList =
            (path.toList ++ '?' :: before) ++ '/' :: rest := by simp [hsplit]
        rw [hmore]
        exact splatOf_append (by simp [hcount]) rest
      · exact fun hfew => splatOf_eq_none (by omega)

theorem captures_query_remainder : ∃ compiled,
    CompiledPattern.compile "/a/*" true = .ok compiled ∧
      ((compiled.captures "/a/b?x").isSome ↔
        (compiled.captures "/a/b").isSome) ∧
      ∀ params params', compiled.captures "/a/b" = some params →
        compiled.captures "/a/b?x" = some params' →
        params'.named = params.named ∧ params.splat = some "b" ∧
          params'.splat = some "b?x" := by
  obtain ⟨compiled, hcompile⟩ : ∃ compiled,
      CompiledPattern.compile "/a/*" true = .ok compiled := ⟨_, rfl⟩
  obtain ⟨hsome, hvalues⟩ :=
    @captures_query false single rfl true "/a/*" compiled rfl rfl
    hcompile "/a/b" "x" (by decide) (by decide)
  refine ⟨compiled, hcompile, hsome, fun params params' hparams hparams' => ?_⟩
  obtain ⟨hnamed, -, hsplat⟩ := hvalues params params' hparams hparams'
  obtain ⟨hpath, hwhole⟩ := (hsplat rfl).1 ['/', 'a'] ['b'] rfl rfl
  exact ⟨hnamed, hpath, hwhole⟩

theorem captures_query_differs :
    single.isSimple ∧ "/a/*".toList = single.text ++ ['/', '*'] ∧
      '?' ∉ "/a/b".toList ∧ '\n' ∉ "x".toList ∧
      ∃ compiled, CompiledPattern.compile "/a/*" true = .ok compiled ∧
        compiled.captures "/a/b" = some { splat := some "b" } ∧
        compiled.captures ("/a/b" ++ "?" ++ "x") =
          some { splat := some "b?x" } ∧
        compiled.captures ("/a/b" ++ "?" ++ "x") ≠ compiled.captures "/a/b" :=
  ⟨rfl, rfl, by decide, by decide, _, rfl, by decide +kernel, by decide +kernel,
    by decide +kernel⟩

end Signpost.Shape
