import Signpost.Proofs.Data.List
import Signpost.Proofs.Pattern.Guarding
import Signpost.Proofs.Pattern.Meaning
import Signpost.Proofs.Regex.Extension

/-!
# Matches of whole paths

The expression of a pattern is searched for between `^` and `$`.  These tie a
match to both ends of the path as long as the expression keeps to itself: where
no bar stands outside of its groups, what matches is the whole path, and all of
it but a query is matched by the expression alone.  A bar leaves `^` to the
first alternative and `$` to the last.
-/

namespace Signpost.Shape

open Regex Spot

variable {insensitive : Bool}

theorem parse_eq_ok_iff {text : List Char} {tree : Ast} :
    parse text = .ok tree ↔ ∃ state, ParseState.Reads {} text state ∧
      state.groups = [] ∧ tree = state.frame.close ∧
      tree.depth ≤ nestLimit := by
  constructor
  · intro h
    obtain ⟨state, hread, hrest⟩ := bind_eq_ok_iff.mp h
    obtain ⟨found, hfinish, hdepth⟩ := bind_eq_ok_iff.mp hrest
    unfold ParseState.finish at hfinish
    split at hfinish
    · next hgroups =>
        split at hdepth
        · next hdeep =>
            cases hfinish
            cases hdepth
            exact ⟨state, ParseState.reads_iff.mpr hread, hgroups, rfl, hdeep⟩
        · cases hdepth
    · cases hfinish
  · rintro ⟨state, hreads, hgroups, rfl, hdeep⟩
    have hread : ParseState.run (text.length + 1) {} text = .ok state :=
      hreads.readAll_eq
    have hfinish : state.finish = .ok state.frame.close := by
      rw [ParseState.finish, hgroups]
    rw [parse, hread]
    change (state.finish >>= _) = _
    rw [hfinish]
    exact if_pos hdeep

private theorem parse_between {text : List Char} {tree whole : Ast}
    (hguarded : ParseState.Guarded text) (htree : parse text = .ok tree)
    (hbar : tree.hasBar = false)
    (hwhole : parse ('^' :: (text ++ querying)) = .ok whole) :
    ∃ items, tree = Ast.ofItems items ∧ (∀ item ∈ items, item.isScoped) ∧
      whole = Ast.ofItems (.assertion .endLine :: queryAst ::
        (items ++ [.assertion .startLine])) := by
  obtain ⟨state, hreads, hgroups, rfl, -⟩ := parse_eq_ok_iff.mp htree
  obtain ⟨final, hfinal, -, rfl, -⟩ := parse_eq_ok_iff.mp hwhole
  obtain ⟨hbranches, hclose⟩ := Frame.close_of_hasBar hbar
  obtain ⟨houtside, hitems⟩ := hreads.scoped hguarded rfl fun item hitem =>
    nomatch hitem
  obtain ⟨⟨items, branches⟩, groups, verbose, captures, names⟩ := state
  cases hgroups
  cases hbranches
  refine ⟨items, hclose, hitems, ?_⟩
  have hstart : ParseState.readAll {} ('^' :: (text ++ querying)) =
      (ParseState.onto [.assertion .startLine] {}).readAll (text ++ querying) :=
    ParseState.readAll_step rfl rfl rfl
  have hend := ParseState.reads_iff.mpr (@readAll_querying
    (ParseState.onto [.assertion .startLine]
      ⟨⟨items, []⟩, [], verbose, captures, names⟩)
    houtside)
  have hspliced := hreads.onto (.inl rfl) hguarded rfl rfl rfl hend
  have hsame :=
    hspliced.readAll_eq.symm.trans (hstart.symm.trans hfinal.readAll_eq)
  cases hsame
  rfl

theorem size_ofItems_cons (node : Node) {earlier : List Node}
    (h : earlier ≠ []) :
    (Node.ofItems (node :: earlier)).size =
      (Node.ofItems earlier).size + node.size := by
  rw [Node.ofItems, Node.size]
  exact h

private theorem size_ofItems_append (nodes : List Node) (kind : Look) :
    (Node.ofItems nodes).size ≤
      (Node.ofItems (nodes ++ [.look kind])).size := by
  induction nodes with
  | nil => exact Nat.le_refl _
  | cons node earlier ih =>
      have hlong :=
        size_ofItems_cons node (show earlier ++ [.look kind] ≠ [] by simp)
      rw [List.cons_append, hlong]
      cases earlier with
      | nil => exact Nat.le_add_left ..
      | cons previous earlier =>
          rw [size_ofItems_cons node (by simp)]
          exact Nat.add_le_add_right ih _

theorem compile_between {text : List Char} {tree : Ast} {regex : Regex}
    (hguarded : ParseState.Guarded text) (htree : parse text = .ok tree)
    (hbar : tree.hasBar = false)
    (hregex : Regex.compile ('^' :: (text ++ querying)) insensitive =
      .ok regex) :
    ∃ nodes body, Regex.compile text insensitive = .ok body ∧
      body.node = Node.ofItems nodes ∧ regex.node = Node.ofItems
        (.look .endText :: queryNode insensitive ::
          (nodes ++ [.look .startText])) := by
  obtain ⟨whole, hwhole, hrest⟩ := bind_eq_ok_iff.mp hregex
  obtain ⟨⟨node, after⟩, helaborate, hsize⟩ := bind_eq_ok_iff.mp hrest
  obtain ⟨items, rfl, hitems, rfl⟩ := parse_between hguarded htree hbar hwhole
  have hall : ∀ item ∈ Ast.assertion .endLine :: queryAst ::
      (items ++ [.assertion .startLine]), item.isScoped := by
    simp only [List.forall_mem_cons, List.forall_mem_append, List.not_mem_nil]
    exact ⟨rfl, rfl, hitems, rfl, fun _ h => h.elim⟩
  obtain ⟨_, hnodes, rfl⟩ := exists_becomes hall helaborate
  cases hnodes with
  | cons hend hnodes =>
  cases hnodes with
  | cons hquery hnodes =>
  -- the items become nodes one by one, the anchors at both ends
  obtain ⟨nodes, first, hinner, hstart, rfl⟩ := exists_of_forall₂_concat hnodes
  cases hend
  cases hstart
  cases hquery
  dsimp only at hsize
  split at hsize
  · next hsmall =>
      cases hsize
      have hbody :
          (Ast.ofItems items).elaborate { caseInsensitive := insensitive } =
          .ok (Node.ofItems nodes, _) := becomes_ofItems hinner
      have hfits : (Node.ofItems nodes).size ≤ sizeLimit := by
        rw [size_ofItems_cons _ (by simp), size_ofItems_cons _ (by simp)]
          at hsmall
        have hle := size_ofItems_append nodes .startText
        exact Nat.le_trans hle (Nat.le_trans (Nat.le_add_right ..)
          (Nat.le_trans (Nat.le_add_right ..) hsmall))
      refine ⟨nodes, ⟨text, Node.ofItems nodes, (Ast.ofItems items).groupNames⟩,
        ?_, rfl, rfl⟩
      rw [Regex.compile, htree]
      change ((Ast.ofItems items).elaborate
        { caseInsensitive := insensitive } >>= _) = _
      rw [hbody]
      exact if_pos hfits
  · cases hsize

theorem way_between {nodes : List Node} {start stop : Spot} :
    (Node.ofItems (.look .endText :: queryNode insensitive ::
        (nodes ++ [.look .startText]))).Way start stop ↔
      start.before = none ∧ stop.rest = [] ∧ ∃ middle query,
        (Node.ofItems nodes).Way start middle ∧ IsQuery query ∧
        Takes middle stop query := by
  rw [way_ofItems, List.reverse_cons, List.reverse_cons, List.reverse_append]
  simp only [List.reverse_singleton, ways_append, ways_singleton, ← way_ofItems,
    way_queryNode]
  constructor
  · rintro ⟨_, ⟨middle, ⟨_, ⟨hstart, rfl⟩, hnodes⟩, query, hquery, htakes⟩,
      hend, rfl⟩
    exact ⟨by simpa [Look.holds] using hstart, by simpa [Look.holds]
      using hend, middle,
      query, hnodes, hquery, htakes⟩
  · rintro ⟨hstart, hend, middle, query, hnodes, hquery, htakes⟩
    exact ⟨stop,
      ⟨middle, ⟨start, ⟨by simp [Look.holds, hstart], rfl⟩, hnodes⟩, query,
        hquery, htakes⟩, by simp [Look.holds, hend], rfl⟩

theorem matchesWhole_of_way {node : Node} {path taken query : List Char}
    {stop : Spot} (h : node.Way { rest := path } stop)
    (hahead : Ahead { rest := path } stop taken)
    (hquery : IsQuery query) (hstop : stop.rest = query) :
      node.matchesWhole taken := by
  have hpath : path = taken ++ query := by rw [← hstop]; exact hahead.rest
  rcases hquery with rfl | ⟨more, rfl, -⟩
  · rw [List.append_nil] at hpath
    subst hpath
    exact Node.matchesWhole_iff.mpr ⟨stop, h, hahead⟩
  · subst hpath
    have hstart : Same { rest := taken ++ '?' :: more }
        (Spot.extend ('?' :: more) { rest := taken }) := ⟨rfl, rfl, rfl⟩
    obtain ⟨stop', h', hsame⟩ :=
      node.way_shortens more h hstart (by simp [hstop])
    have hend : stop'.rest = [] := by
      have hrest := hsame.rest
      rw [hstop] at hrest
      exact List.append_left_eq_self.mp hrest.symm
    refine Node.matchesWhole_iff.mpr ⟨stop', h', ⟨by simp [hend], ?_, ?_⟩⟩
    · exact hsame.pos.symm.trans hahead.pos
    · exact hsame.before.symm.trans hahead.before

theorem compile_eq_ok {pattern : String} {caseSensitive : Bool}
    {compiled : CompiledPattern}
    (h : CompiledPattern.compile pattern caseSensitive = .ok compiled) :
    Regex.compile (Template.anchored pattern.toList) (!caseSensitive) =
      .ok compiled.regex := by
  unfold CompiledPattern.compile at h
  dsimp only at h
  split at h
  · cases h
  · next hregex =>
      cases h
      exact hregex

/--
If no bar stands outside of the groups of a pattern's expression, a match covers
the whole path, and the expression alone takes all of it but a query.
-/
theorem captures_whole {pattern : String} {caseSensitive : Bool}
    {compiled : CompiledPattern} {tree : Ast}
    (hcompile : CompiledPattern.compile pattern caseSensitive = .ok compiled)
    (htree : parse (Template.synthesize pattern.toList) = .ok tree)
    (hbar : tree.hasBar = false) :
    ∃ body, Regex.compile (Template.synthesize pattern.toList)
      (!caseSensitive) = .ok body ∧
      ∀ path params, compiled.captures path = some params →
        ∃ found ∈ compiled.regex.node.run { rest := path.toList },
          compiled.regex.search path.toList = some found ∧ found.rest = [] ∧
          ∃ taken query, path.toList = taken ++ query ∧
            body.node.matchesWhole taken ∧
            IsQuery query := by
  obtain ⟨nodes, body, hbody, hnodes, hnode⟩ :=
    compile_between (Template.guarded_synthesize _) htree hbar
      (compile_eq_ok hcompile)
  refine ⟨body, hbody, fun path params hcaptures => ?_⟩
  obtain ⟨found, hfound, -⟩ := Option.map_eq_some_iff.mp hcaptures
  have hanchor : ∀ start stop, compiled.regex.node.Way start stop →
      start.before = none := by
    intro start stop h
    rw [hnode] at h
    exact (way_between.mp h).1
  have hmem : found ∈ compiled.regex.node.run { rest := path.toList } := by
    rw [Regex.search, Node.search_of_anchored hanchor] at hfound
    exact List.mem_of_mem_head? hfound
  have hway := (Node.run_realizes _ _).sound found hmem
  rw [hnode] at hway
  obtain ⟨-, hend, middle, query, hmiddle, hquery, htakes⟩ :=
    way_between.mp hway
  rw [← hnodes] at hmiddle
  obtain ⟨taken, hahead⟩ := body.node.way_moves.leads hmiddle
  have hrest : middle.rest = query := by
    rw [htakes.ahead.rest, hend, List.append_nil]
  refine ⟨found, hmem, hfound, hend, taken, query, ?_, ?_, hquery⟩
  · rw [← hrest]
    exact hahead.rest
  · exact matchesWhole_of_way hmiddle hahead hquery hrest

theorem captures_whole_flagged : ∃ compiled tree,
    CompiledPattern.compile "/(?i:a|b)" true = .ok compiled ∧
      parse (Template.synthesize "/(?i:a|b)".toList) = .ok tree ∧
      tree.hasBar = false ∧
      compiled.captures "/B/?x" = some {} ∧
      ∃ body, Regex.compile (Template.synthesize "/(?i:a|b)".toList) false =
        .ok body ∧
        ∃ taken query, "/B/?x".toList = taken ++ query ∧
          body.node.matchesWhole taken ∧
          IsQuery query := by
  obtain ⟨compiled, tree, hcompile, htree, hbar, hcaptures⟩ : ∃ compiled tree,
      CompiledPattern.compile "/(?i:a|b)" true = .ok compiled ∧
        parse (Template.synthesize "/(?i:a|b)".toList) = .ok tree ∧
        tree.hasBar = false ∧
        compiled.captures "/B/?x" = some {} :=
    ⟨_, _, rfl, rfl, rfl, by decide +kernel⟩
  obtain ⟨body, hbody, hwhole⟩ := captures_whole hcompile htree hbar
  obtain ⟨_, -, -, -, hsplit⟩ := hwhole "/B/?x" _ hcaptures
  exact ⟨compiled, tree, hcompile, htree, hbar, hcaptures, body, hbody, hsplit⟩

/--
A bar leaves the end of the path to its last branch: `/a` is enough for the
first one.
-/
theorem captures_prefix : ∃ compiled body,
    CompiledPattern.compile "/a|/b" true = .ok compiled ∧
      Regex.compile (Template.synthesize "/a|/b".toList) false = .ok body ∧
      compiled.captures "/axyz" = some {} ∧
      (compiled.regex.search "/axyz".toList).map Spot.rest = some "xyz".toList ∧
      ¬ ∃ taken query, "/axyz".toList = taken ++ query ∧
        body.node.matchesWhole taken ∧
        IsQuery query := by
  refine ⟨_, _, rfl, rfl, by decide +kernel, by decide +kernel, ?_⟩
  rintro ⟨taken, query, hpath, hwhole, rfl | ⟨more, rfl, -⟩⟩
  · rw [List.append_nil] at hpath
    subst hpath
    revert hwhole
    decide +kernel
  · have hmem : '?' ∈ "/axyz".toList := by simp [hpath]
    revert hmem
    decide

end Signpost.Shape
