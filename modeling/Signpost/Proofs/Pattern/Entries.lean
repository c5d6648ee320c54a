import Signpost.Proofs.Pattern.Repeats

/-!
# Values by name

The value of a token is looked up by its name, so tokens of one name have one
value, and it makes no difference that a lookup finds the first entry of a name
where an object keeps the last.  The key of the remainder is no name.
-/

namespace Signpost

namespace Params

variable {params : Params} {name : String}

/-- Entries of one name agree, and none has the key of the remainder. -/
structure Consistent (params : Params) : Prop where
  agree : ∀ entry ∈ params.named, params.get? entry.1 = entry.2
  unstarred : "*" ∉ params.named.map Prod.fst

theorem values_eq (params : Params) :
    params.values = params.named.map Prod.snd ++
      params.splat.toList.map some := by
  obtain ⟨named, splat⟩ := params
  cases splat <;> rfl

theorem size_eq (params : Params) : params.size = params.values.length := by
  obtain ⟨named, splat⟩ := params
  cases splat <;> simp [size, values]

theorem mem_keys_iff {key : String} : key ∈ params.keys ↔
    key ∈ params.named.map Prod.fst ∨ key = "*" ∧ params.splat.isSome := by
  obtain ⟨named, splat⟩ := params
  cases splat <;> simp [keys]

theorem exists_sorted_members (params : Params) : ∃ members,
    params.toJson = .object members ∧ Json.Sorted members ∧
      ∀ key, key ∈ members.map Prod.fst ↔ key ∈ params.keys := by
  obtain ⟨members, heq, hsorted, hkeys⟩ :=
    Json.exists_sorted_ofMembers
      (params.keys.zip (params.values.map Json.optional))
  refine ⟨members, (toJson_eq params).trans heq, hsorted, fun key => ?_⟩
  have hlength :
      params.keys.length ≤ (params.values.map Json.optional).length := by
    rw [List.length_map, length_keys]
  rw [hkeys, List.map_fst_zip hlength]

namespace Consistent

theorem member?_name (h : params.Consistent)
    (hname : name ∈ params.named.map Prod.fst) :
    params.toJson.member? name = some (Json.optional (params.get? name)) := by
  obtain ⟨entry, hentry, rfl⟩ := List.mem_map.mp hname
  rw [h.agree entry hentry, toJson]
  refine Json.member?_ofMembers_of_forall
    (List.mem_append_left _ (List.mem_map.mpr ⟨entry, hentry, rfl⟩))
      fun member hmember hkey => ?_
  rcases List.mem_append.mp hmember with hmember | hmember
  · obtain ⟨other, hother, rfl⟩ := List.mem_map.mp hmember
    have hsame : other.1 = entry.1 := hkey
    rw [← h.agree entry hentry, ← hsame, h.agree other hother]
  · -- the remainder would need a token whose name is a star
    have hstar : member.1 = "*" := by
      cases hsplat : params.splat with
      | none => simp [hsplat] at hmember
      | some rest => simp_all
    exact absurd (hstar ▸ hkey ▸ hname) h.unstarred

private theorem member?_star (h : params.Consistent) :
    params.toJson.member? "*" = params.splat.map .string := by
  have hnamed :
      "*" ∉ (params.named.map fun entry => (entry.1, Json.optional entry.2)).map
      Prod.fst := by
    rw [List.map_map]
    exact h.unstarred
  rw [toJson]
  cases params.splat with
  | none => exact Json.member?_ofMembers_eq_none (by rwa [List.append_nil])
  | some rest =>
      refine Json.member?_ofMembers_of_forall
        (List.mem_append_right _ (by simp))
        fun member hmember hkey => ?_
      rcases List.mem_append.mp hmember with hmember | hmember
      · exact absurd (hkey ▸ List.mem_map_of_mem hmember) hnamed
      · rw [List.mem_singleton.mp hmember]

end Consistent

end Params

namespace CompiledPattern

variable {pattern path : String} {caseSensitive : Bool}
    {compiled : CompiledPattern}
  {params : Params}

theorem map_fst_named (hcompile : compile pattern caseSensitive = .ok compiled)
    (hcaptures : compiled.captures path = some params) :
    params.named.map Prod.fst = tokenNames pattern :=
  (named_of_captures hcaptures).1.trans (names_of_compile hcompile).1

private theorem consistent_of_captures
    (hcompile : compile pattern caseSensitive = .ok compiled)
    (hcaptures : compiled.captures path = some params) : params.Consistent := by
  refine ⟨fun entry hentry => ?_, ?_⟩
  · obtain ⟨found, -, rfl⟩ := Option.map_eq_some_iff.mp hcaptures
    have hfound := find?_of_forall hentry fun other hother hsame => by
      obtain ⟨name, -, rfl⟩ := List.mem_map.mp hentry
      obtain ⟨_, -, rfl⟩ := List.mem_map.mp hother
      -- a value depends on nothing but the name that it is looked up by
      cases hsame
      rfl
    rw [Params.get?, hfound, Option.bind_some]
  · rw [map_fst_named hcompile hcaptures]
    exact star_not_mem_tokenNames pattern

/--
What a match takes from a path has an entry for each token, in order, and the
remainder behind them.  As an object it has each name as a key with the value
that the name has among the entries, and the remainder under `*`.
-/
theorem entries_of_captures
    (hcompile : compile pattern caseSensitive = .ok compiled)
    (hcaptures : compiled.captures path = some params) :
    params.named.map Prod.fst = tokenNames pattern ∧
      params.values = params.named.map Prod.snd ++
        params.splat.toList.map some ∧
      params.size = params.values.length ∧
      (∃ members, params.toJson = .object members ∧ Json.Sorted members ∧
        ∀ key, key ∈ members.map Prod.fst ↔
          key ∈ tokenNames pattern ∨ key = "*" ∧ params.splat.isSome) ∧
      (∀ name ∈ tokenNames pattern,
        params.toJson.member? name = some (Json.optional (params.get? name))) ∧
      (∀ entry ∈ params.named, params.get? entry.1 = entry.2) ∧
      "*" ∉ tokenNames pattern ∧ params.toJson.member? "*" =
        params.splat.map .string := by
  have hnamed := map_fst_named hcompile hcaptures
  have hconsistent := consistent_of_captures hcompile hcaptures
  obtain ⟨members, hjson, hsorted, hkeys⟩ := params.exists_sorted_members
  refine ⟨hnamed, params.values_eq, params.size_eq,
    ⟨members, hjson, hsorted, fun key => ?_⟩,
    fun name hname => hconsistent.member?_name (hnamed ▸ hname),
    hconsistent.agree, star_not_mem_tokenNames pattern,
    hconsistent.member?_star⟩
  rw [hkeys, Params.mem_keys_iff, hnamed]

theorem entries_of_captures_repeated : ∃ compiled params,
    compile "[@a@a]/@b(/@c)/*" false = .ok compiled ∧
      compiled.captures "(/x/y/z" = some params ∧
      params.named.map Prod.fst = ["a", "a", "b", "c"] ∧ params.size = 5 ∧
      params.toJson.member? "a" = some .null ∧
      params.toJson.member? "c" = some (.string "y") ∧
      params.toJson.member? "*" = some (.string "z") ∧
      ∃ members, params.toJson = .object members ∧ Json.Sorted members ∧
        members.map Prod.fst = ["*", "a", "b", "c"] := by
  obtain ⟨compiled, params, hcompile, hcaptures, hjson, ha, hc, hsplat⟩ :
      ∃ compiled params, compile "[@a@a]/@b(/@c)/*" false = .ok compiled ∧
        compiled.captures "(/x/y/z" = some params ∧
        params.toJson =
          .object [("*", .string "z"), ("a", .null), ("b", .string "x"),
          ("c", .string "y")] ∧
        params.get? "a" = none ∧ params.get? "c" = some "y" ∧
        params.splat = some "z" :=
    ⟨_, _, rfl, rfl, rfl, rfl, rfl, rfl⟩
  have hnames : tokenNames "[@a@a]/@b(/@c)/*" = ["a", "a", "b", "c"] := rfl
  obtain ⟨hnamed, hvalues, hsize, ⟨members, hmembers, hsorted, -⟩,
      hmember, -, -, hstar⟩ :=
    entries_of_captures hcompile hcaptures
  rw [hnames] at hnamed hmember
  refine ⟨compiled, params, hcompile, hcaptures, hnamed, ?_, ?_, ?_,
    ?_, members, hmembers, hsorted, ?_⟩
  · have hcount :
        params.named.length = 4 := by simpa using congrArg List.length hnamed
    rw [hsize, hvalues, hsplat, List.length_append, List.length_map, hcount]
    rfl
  · rw [hmember "a" (by simp), ha]
    rfl
  · rw [hmember "c" (by simp), hc]
    rfl
  · rw [hstar, hsplat]
    rfl
  · cases hmembers.symm.trans hjson
    rfl

end CompiledPattern

end Signpost
