import Signpost.Proofs.Data.List
import Signpost.Proofs.Pattern.Simple

/-!
# What a wildcard at the end leaves

The remainder of a path is found by counting slashes, as many as the pattern
has.  Groups that are left out of a match take their slashes with them: then the
count goes on into what stands behind the part that the pattern matched, and as
many of its slashes as are missing are skipped with the text before them.
-/

namespace Signpost

open Regex Spot
open Segment (IsWild)

/--
What stands before the last group of a match.  In a pattern that ends in a
wildcard, this is the part of the path that the pattern before it has matched.
-/
def CompiledPattern.beforeWildcard? (compiled : CompiledPattern)
    (path : String) :
    Option String :=
  (compiled.regex.search path.toList).bind fun found =>
    (found.groups.find? fun group =>
      group.1 = compiled.regex.groupCount - 1).map
      fun group =>
        String.ofList
          (path.toList.take (path.toList.length - group.2.source.length))

theorem exists_of_splatOf {path : List Char} {count : Nat} {rest : String}
    (h : splatOf path (count + 1) = some rest) :
    ∃ before, path = before ++ '/' :: rest.toList ∧
      before.count '/' = count := by
  by_cases hfew : path.count '/' < count + 1
  · rw [splatOf_eq_none hfew] at h
    cases h
  · obtain ⟨before, more, rfl, hcount⟩ :=
      @exists_split_count _ _ path '/' count (by omega)
    rw [splatOf_append hcount] at h
    split at h
    · cases h
    · cases h
      exact ⟨before, by simp, hcount⟩

namespace Shape

variable {insensitive : Bool}

theorem Derives.count_slash_le {shape : Shape insensitive} {word values}
    (h : shape.Derives word values) (hsimple : shape.isSimple) :
    word.count '/' ≤ shape.text.count '/' := by
  induction h with
  | done => exact Nat.le_refl _
  | @plain c d next word values hd _ ih =>
      have hnext := ih hsimple
      have hslash : d = '/' → c.val = '/' := by
        rintro rfl
        rcases hd with heq | ⟨-, hmem⟩
        · exact heq.symm
        · rw [show Unicode.CaseOrbit.companions '/' = [] from rfl] at hmem
          cases hmem
      simp only [text, List.count_cons, beq_iff_eq]
      split
      · next heq =>
          rw [if_pos (hslash heq)]
          omega
      · omega
  | @token name constraint filling next word values hfills _ ih =>
      simp only [isSimple, Bool.and_eq_true, Option.isNone_iff_eq_none]
        at hsimple
      obtain ⟨rfl, hnext⟩ := hsimple
      have hcount := ih hnext
      have hfilling := List.count_eq_zero_of_not_mem hfills.2.1
      simp only [text, List.count_append]
      omega
  | nothing _ _ => cases hsimple
  | remainder _ _ _ => cases hsimple
  | kept _ _ ihinner ihnext =>
      simp only [isSimple, Bool.and_eq_true] at hsimple
      have hinner := ihinner hsimple.1
      have hnext := ihnext hsimple.2
      simp [text]
      omega
  | skipped _ ih =>
      simp only [isSimple, Bool.and_eq_true] at hsimple
      have hnext := ih hsimple.2
      simp [text]
      omega

theorem highestGroup_ofItems_le {nodes : List Node} {bound : Nat}
    (h : ∀ node ∈ nodes, node.highestGroup ≤ bound) :
    (Node.ofItems nodes).highestGroup ≤ bound := by
  induction nodes with
  | nil => exact Nat.zero_le _
  | cons node earlier ih =>
      obtain ⟨hnode, hearlier⟩ := List.forall_mem_cons.mp h
      cases earlier with
      | nil => exact hnode
      | cons previous earlier =>
          rw [Node.ofItems, Node.highestGroup]
          · exact Nat.max_le.mpr ⟨ih hearlier, hnode⟩
          · simp

private theorem le_highestGroup_ofItems {nodes : List Node}
    {node : Node} (h : node ∈ nodes) :
    node.highestGroup ≤ (Node.ofItems nodes).highestGroup := by
  induction nodes with
  | nil => cases h
  | cons first earlier ih =>
      cases earlier with
      | nil =>
          rw [List.mem_singleton.mp h]
          exact Nat.le_refl _
      | cons previous earlier =>
          rw [Node.ofItems, Node.highestGroup]
          · rcases List.mem_cons.mp h with rfl | h
            · exact Nat.le_max_right ..
            · exact Nat.le_trans (ih h) (Nat.le_max_left ..)
          · simp

private theorem highestGroup_nodes_le (shape : Shape insensitive)
    (h : shape.isSimple) :
    ∀ before, ∀ node ∈ shape.nodes before, node.highestGroup ≤
      before + shape.captures := by
  induction shape with
  | done => simp [nodes]
  | plain c next ih =>
      exact fun before => List.forall_mem_cons.mpr ⟨Nat.zero_le _, ih h before⟩
  | token name constraint next ih =>
      simp only [isSimple, Bool.and_eq_true, Option.isNone_iff_eq_none] at h
      obtain ⟨rfl, hnext⟩ := h
      refine fun before => List.forall_mem_cons.mpr ⟨?_, fun node hnode => ?_⟩
      · simp only [fillNode, Node.highestGroup, captures]
        omega
      · have hle := ih hnext (before + 1) node hnode
        simp only [captures]
        omega
  | wildcard next ih => cases h
  | optional inner next ihinner ihnext =>
      simp only [isSimple, Bool.and_eq_true] at h
      refine fun before => List.forall_mem_cons.mpr ⟨?_, fun node hnode => ?_⟩
      · have hinner :=
          @highestGroup_ofItems_le (inner.nodes (before + 1)).reverse
          (before + 1 + inner.captures)
          (by simpa using ihinner h.1 (before + 1))
        simp only [Node.highestGroup, captures]
        omega
      · have hle := ihnext h.2 _ node hnode
        simp only [captures]
        omega

variable {shape : Shape insensitive} {compiled : CompiledPattern}

private theorem Compiles.groupCount_eq
    (h : (shape.ended true).Compiles compiled)
    (hsimple : shape.isSimple) : compiled.regex.groupCount =
      shape.captures + 2 := by
  obtain ⟨stem, hstem, -, hnode, -⟩ := h.exists_stem
  obtain ⟨body, -, rfl, hsame⟩ := hstem.exists_ended hsimple
  obtain rfl := hsame rfl
  have hnodes : (body.ended true).nodes 0 =
      body.nodes 0 ++
        [.group (body.captures + 1) (wildcardNode insensitive)] := by
    simp [ended, nodes_append, nodes]
  have hhighest : (body.ended true).node.highestGroup = body.captures + 1 := by
    apply Nat.le_antisymm
    · refine highestGroup_ofItems_le fun node hmem => ?_
      rw [List.mem_reverse, hnodes] at hmem
      simp only [List.mem_append, List.mem_cons, List.not_mem_nil, or_false]
        at hmem
      rcases hmem with (rfl | hmem | rfl) | rfl | rfl | rfl
      · exact Nat.zero_le _
      · have hle := body.highestGroup_nodes_le hsimple 0 node hmem
        omega
      · exact Nat.le_refl _
      · exact Nat.zero_le _
      · exact Nat.zero_le _
      · exact Nat.zero_le _
    · refine @le_highestGroup_ofItems _
        (.group (body.captures + 1) (wildcardNode insensitive)) ?_
      simp [hnodes]
  rw [Regex.groupCount, hnode, hhighest]

structure Consumed (shape : Shape insensitive) (compiled : CompiledPattern)
    (path : String) (pre tail : List Char) : Prop where
  before : compiled.beforeWildcard? path = some (String.ofList pre)
  path_eq : path.toList = pre ++ tail
  derives : ∃ values, shape.Derives pre values
  wild : IsWild tail

theorem Compiles.exists_consumed (h : (shape.ended true).Compiles compiled)
    (hsimple : shape.isSimple) {path : String} (hpath : '?' ∉ path.toList)
    {params : Params} (hcaptures : compiled.captures path = some params) :
    ∃ pre tail, Consumed shape compiled path pre tail := by
  have hcount := h.groupCount_eq hsimple
  obtain ⟨body, -, hformed, hsame, hsearch, -⟩ := h.exists_body hsimple
  obtain rfl := hsame rfl
  obtain ⟨found, hfound, -⟩ := Option.map_eq_some_iff.mp hcaptures
  have hfound' := hfound
  rw [hsearch] at hfound'
  obtain ⟨middle, hways, hlast⟩ := exists_of_chooseAlong hfound'
  obtain ⟨stop, hbehind, hstop⟩ := exists_of_chooseAlong hlast
  cases hstop
  obtain ⟨pre, values, hpre⟩ :=
    found_of_ways body hformed (fun group hmem => by cases hmem) hways
  have hsplit : path.toList = pre ++ middle.rest := hpre.ahead.rest
  obtain ⟨length, hgroups⟩ := groups_of_ways_wild hbehind
  refine ⟨pre, middle.rest, ?_, hsplit, ⟨values, hpre.derives⟩, ?_⟩
  · have htake :
        path.toList.take (path.toList.length - middle.rest.length) = pre := by
      rw [hsplit, List.length_append, Nat.add_sub_cancel, List.take_left']
      rfl
    simp only [CompiledPattern.beforeWildcard?, hfound, hcount,
      Option.bind_some, hgroups]
    simp [htake]
  · have hrest : '?' ∉ middle.rest := fun hmem =>
      hpath (hsplit ▸ List.mem_append_right _ hmem)
    have hend := exists_ways_behind.mp ⟨found, hbehind⟩
    have hiff := @canEnd_append_iff true _ [] hrest (.inl rfl)
    rw [List.append_nil] at hiff
    rcases hiff.mp hend with hnil | hslash | ⟨-, hwild⟩
    · exact .inl hnil
    · exact .inr ⟨[], hslash, List.not_mem_nil⟩
    · exact hwild

/--
The remainder holds all that stands behind the part that was matched, and
nothing of that part.
-/
def Complete (path pre : String) (splat : Option String) : Prop :=
  (path = pre ∨ path = pre ++ "/") ∧ splat = none ∨
    ∃ rest, rest ≠ "" ∧ path = pre ++ "/" ++ rest ∧ splat = some rest

private theorem complete_iff {pre tail : List Char} {count : Nat}
    (hwild : IsWild tail) (hle : pre.count '/' ≤ count) :
    Complete (String.ofList (pre ++ tail)) (String.ofList pre)
        (splatOf (pre ++ tail) (count + 1)) ↔
      tail = [] ∨ tail = ['/'] ∨ pre.count '/' = count := by
  have hslash : String.ofList pre ++ "/" = String.ofList (pre ++ ['/']) := by
    rw [String.ofList_append]
  rcases hwild with rfl | ⟨rest, rfl, -⟩
  · refine iff_of_true (.inl ⟨.inl (by simp), ?_⟩) (.inl rfl)
    exact splatOf_eq_none (by simpa using Nat.lt_succ_of_le hle)
  -- a slash alone leaves no remainder, however many slashes are missing
  · by_cases hrest : rest = []
    · subst hrest
      refine iff_of_true (.inl ⟨.inr hslash.symm, ?_⟩) (.inr (.inl rfl))
      by_cases hcount : pre.count '/' = count
      · rw [splatOf_append hcount, if_pos rfl]
      · exact splatOf_eq_none (by simp; omega)
    · constructor
      · rintro (⟨hpath, -⟩ | ⟨more, -, hpath, hsplat⟩)
        · have hnil : rest = [] := by
            rcases hpath with hpath | hpath
            · have hlist := congrArg String.toList hpath
              simp at hlist
            · have hlist := congrArg String.toList hpath
              simpa [String.toList_append] using hlist
          exact absurd hnil hrest
        · obtain ⟨before, hsplit, hcount⟩ := exists_of_splatOf hsplat
          have hlist := congrArg String.toList hpath
          have hboth : pre ++ '/' :: rest = pre ++ '/' :: more.toList := by
            simpa [String.toList_append] using hlist
          rw [hboth] at hsplit
          rw [List.append_cancel_right hsplit]
          exact .inr (.inr hcount)
      · rintro (hnil | hslash | hcount)
        · cases hnil
        · cases hslash
          exact absurd rfl hrest
        · refine .inr ⟨String.ofList rest, ?_, ?_, ?_⟩
          · exact fun hnil => hrest (String.ofList_eq_empty_iff.mp hnil)
          · rw [hslash, ← String.ofList_append]
            simp
          · rw [splatOf_append hcount, if_neg hrest]

/--
The remainder behind a wildcard is complete just where no slash of the pattern
is missing in the part that it matched, or nothing but a slash stands behind
this part.  It is always what stands behind as many slashes of the path as the
pattern has.
-/
theorem wildcard_remainder {shape : Shape insensitive}
    (hsimple : shape.isSimple) {pattern : String} {compiled : CompiledPattern}
    (hpattern : pattern.toList = shape.text ++ ['/', '*'])
    (htokens : (Template.ofText pattern.toList).tokens = shape.tokens)
    (hcompile : CompiledPattern.compile pattern (!insensitive) = .ok compiled)
    {path : String} (hpath : '?' ∉ path.toList) {params : Params}
    (hcaptures : compiled.captures path = some params) :
    ∃ pre, compiled.beforeWildcard? path = some pre ∧
      (∃ values, shape.Derives pre.toList values) ∧
      (path = pre ∨ ∃ rest, path = pre ++ "/" ++ rest) ∧
      pre.toList.count '/' ≤ shape.text.count '/' ∧
      (Complete path pre params.splat ↔ path = pre ∨ path = pre ++ "/" ∨
        pre.toList.count '/' = shape.text.count '/') ∧
      (∀ before rest, path.toList = before ++ '/' :: rest →
        before.count '/' = shape.text.count '/' →
        params.splat = if rest = [] then none else some (String.ofList rest)) ∧
      (path.toList.count '/' ≤ shape.text.count '/' → params.splat = none) := by
  have h : (shape.ended true).Compiles compiled :=
    compiles_ended hpattern htokens hcompile
  obtain ⟨pre, tail, hconsumed⟩ := h.exists_consumed hsimple hpath hcaptures
  have hsplat :
      params.splat = splatOf path.toList (shape.text.count '/' + 1) := by
    rw [h.captures_eq hsimple] at hcaptures
    obtain ⟨named, -, rfl⟩ := Option.map_eq_some_iff.mp hcaptures
    rfl
  obtain ⟨values, hderives⟩ := hconsumed.derives
  have hle := hderives.count_slash_le hsimple
  have hwhole : path = String.ofList (pre ++ tail) := by
    rw [← hconsumed.path_eq, String.ofList_toList]
  refine ⟨String.ofList pre, hconsumed.before,
    ⟨values, by simpa using hderives⟩, ?_, by simpa using hle, ?_, ?_, ?_⟩
  · rcases hconsumed.wild with rfl | ⟨rest, rfl, -⟩
    · exact .inl (by simpa using hwhole)
    · refine .inr ⟨String.ofList rest, String.toList_injective ?_⟩
      simp [hconsumed.path_eq, String.toList_append]
  · have hiff := complete_iff hconsumed.wild hle
    have hpre : String.ofList (pre ++ tail) = String.ofList pre ↔
        tail = [] := by
      simp [← String.toList_inj]
    have hslash : String.ofList (pre ++ tail) = String.ofList pre ++ "/" ↔
        tail = ['/'] := by
      simp [← String.toList_inj, String.toList_append]
    rw [hsplat, hconsumed.path_eq, hwhole, hiff, String.toList_ofList,
      hpre, hslash]
  · intro before rest hsplit hcount
    rw [hsplat, hsplit, splatOf_append hcount]
  · intro hfew
    rw [hsplat]
    exact splatOf_eq_none (by omega)

theorem wildcard_remainder_grouped : ∃ compiled,
    CompiledPattern.compile "/a(/b)/*" true = .ok compiled ∧
      compiled.captures "/a/b/x" = some { splat := some "x" } ∧
      ∃ pre, compiled.beforeWildcard? "/a/b/x" = some pre ∧
        (Complete "/a/b/x" pre (some "x") ↔ "/a/b/x" = pre ∨
          "/a/b/x" = pre ++ "/" ∨
          pre.toList.count '/' = 2) := by
  obtain ⟨compiled, hcompile, hcaptures⟩ : ∃ compiled,
      CompiledPattern.compile "/a(/b)/*" true = .ok compiled ∧
        compiled.captures "/a/b/x" = some { splat := some "x" } :=
    ⟨_, rfl, by decide +kernel⟩
  obtain ⟨pre, hbefore, -, -, -, hcomplete, -⟩ :=
    @wildcard_remainder false grouped rfl
    "/a(/b)/*" compiled rfl rfl hcompile "/a/b/x" (by decide) _ hcaptures
  exact ⟨compiled, hcompile, hcaptures, pre, hbefore, hcomplete⟩

/--
The group is left out, and with the slash of the group the text `x` is lost.
-/
theorem wildcard_remainder_incomplete : grouped.isSimple ∧
    "/a(/b)/*".toList = grouped.text ++ ['/', '*'] ∧ ∃ compiled,
      CompiledPattern.compile "/a(/b)/*" true = .ok compiled ∧
        compiled.captures "/a/x/y" = some { splat := some "y" } ∧
        compiled.beforeWildcard? "/a/x/y" = some "/a" ∧
        ¬ Complete "/a/x/y" "/a" (some "y") := by
  refine ⟨rfl, rfl, _, rfl, by decide +kernel, by decide +kernel, ?_⟩
  rintro (⟨-, hnone⟩ | ⟨rest, -, hpath, hsplat⟩)
  · cases hnone
  · cases hsplat
    exact absurd hpath (by decide)

end Shape

end Signpost
