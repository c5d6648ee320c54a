import Signpost.Proofs.Pattern.ClosingStar

/-!
# Where a count of slashes ends

A count of one slash or more ends behind the shortest beginning of the path that
has so many, and a character begins there.  A count of none does not end where
it should, before the first character: it ends behind the first byte of the
path, or nowhere if that is a slash.
-/

namespace Signpost

open Utf8

variable {path before other : List Char} {count start : Nat}

/-- The shortest beginning of a path with so many slashes. -/
structure IsShortest (path : List Char) (count : Nat)
    (before : List Char) : Prop where
  begins : before <+: path
  slashes : before.count '/' = count
  shortest : ∀ other, other <+: path → other.count '/' = count →
    before.length ≤ other.length

theorem isShortest_append (h : before.count '/' = count) (rest : List Char) :
    IsShortest (before ++ '/' :: rest) (count + 1) (before ++ ['/']) := by
  refine ⟨⟨rest, by simp⟩, by simp [h], fun other hother hcount => ?_⟩
  by_contra hshorter
  have hlength : other.length ≤ before.length := by
    simp only [List.length_append, List.length_singleton] at hshorter
    omega
  have hbegins : other <+: before :=
    List.prefix_of_prefix_length_le hother (List.prefix_append ..) hlength
  have hle := hbegins.sublist.count_le '/'
  omega

theorem IsShortest.unique (h : IsShortest path count before)
    (hother : IsShortest path count other) :
    before = other := by
  have hle := h.shortest other hother.begins hother.slashes
  have hge := hother.shortest before h.begins h.slashes
  exact (List.prefix_of_prefix_length_le h.begins hother.begins
    hle).eq_of_length
    (Nat.le_antisymm hle hge)

theorem isShortest_nil (path : List Char) : IsShortest path 0 [] :=
  ⟨List.nil_prefix, rfl, fun _ _ _ => Nat.zero_le _⟩

theorem exists_split_of_prefix (hbegins : other <+: path)
    (hcount : other.count '/' = count + 1) :
    ∃ before rest, path = before ++ '/' :: rest ∧ before.count '/' = count := by
  have hle := hbegins.sublist.count_le '/'
  exact exists_split_count (by omega)

theorem isShortest_succ_iff :
    IsShortest path (count + 1) before ↔ ∃ front rest,
      path = front ++ '/' :: rest ∧
      front.count '/' = count ∧ before = front ++ ['/'] := by
  constructor
  · intro h
    obtain ⟨front, rest, rfl, hcount⟩ :=
      exists_split_of_prefix h.begins h.slashes
    exact ⟨front, rest, rfl, hcount, h.unique (isShortest_append hcount rest)⟩
  · rintro ⟨front, rest, rfl, hcount, rfl⟩
    exact isShortest_append hcount rest

theorem splatStart_succ_eq_some_iff :
    splatStart path (count + 1) = some start ↔
      ∃ before, IsShortest path (count + 1) before ∧ start = width before := by
  constructor
  · intro h
    by_cases hfew : path.count '/' < count + 1
    · rw [splatStart_eq_none hfew] at h
      cases h
    · obtain ⟨front, rest, rfl, hcount⟩ :=
        @exists_split_count _ _ path '/' count (by omega)
      rw [splatStart_append hcount] at h
      exact ⟨_, isShortest_append hcount rest, (Option.some.inj h).symm⟩
  · rintro ⟨before, hshortest, rfl⟩
    obtain ⟨front, rest, rfl, hcount, rfl⟩ := isShortest_succ_iff.mp hshortest
    exact splatStart_append hcount rest

private theorem splatStart_zero_eq_some_iff :
    splatStart path 0 = some start ↔ start = 1 ∧ ∃ c rest,
      path = c :: rest ∧ c ≠ '/' := by
  cases path with
  | nil => simp [splatStart, afterSeparators]
  | cons c rest =>
      rw [splatStart_zero_cons]
      by_cases hc : c = '/'
      · simp [hc]
      · simp [hc, eq_comm]

private theorem countEnds_iff_isShortest {rest : List Char}
    (hpath : path = before ++ rest) :
    CountEnds (count + 1) before ↔ IsShortest path (count + 1) before := by
  subst hpath
  constructor
  · rintro ⟨hcount⟩
    rw [List.append_assoc]
    exact isShortest_append hcount rest
  · intro h
    obtain ⟨front, more, -, hcount, rfl⟩ := isShortest_succ_iff.mp h
    exact .slash hcount

private theorem splatOf_succ_eq_some_iff {rest : String} :
    splatOf path (count + 1) = some rest ↔
      rest ≠ "" ∧ ∃ before, IsShortest path (count + 1) before ∧
        path = before ++ rest.toList := by
  rw [splatOf_eq_some_iff]
  exact and_congr_right fun _ => exists_congr fun before =>
    and_congr_left fun hpath => countEnds_iff_isShortest hpath

/--
A count of one slash or more ends behind the shortest beginning of the path that
has so many, which ends in a slash, so that a character begins there; it ends
nowhere only if there is none.  A pattern that ends in a star takes all that
stands behind it.  A count of none ends behind the first byte, unless that is a
slash.
-/
theorem splatStart_shortest (path : String) (count : Nat) :
    (0 < count →
      (∀ start, splatStart path.toList count = some start ↔
        ∃ before, IsShortest path.toList count before ∧ start = width before) ∧
      ((splatStart path.toList count).isSome ↔
        ∃ before, before <+: path.toList ∧ before.count '/' = count) ∧
      ∀ before, IsShortest path.toList count before →
        before.getLast? = some '/' ∧
        ∃ rest, path.toList = before ++ rest ∧
          dropBytes? (width before) path.toList = some rest) ∧
    (∀ start, splatStart path.toList 0 = some start ↔
      start = 1 ∧ ∃ c rest, path.toList = c :: rest ∧ c ≠ '/') ∧
    ∀ (pattern : String) (caseSensitive : Bool) (compiled : CompiledPattern)
      (params : Params),
      pattern.toList.getLast? = some '*' → pattern.toList.count '/' = count →
      CompiledPattern.compile pattern caseSensitive = .ok compiled →
      compiled.captures path = some params →
        (0 < count → ∀ rest, params.splat = some rest ↔ rest ≠ "" ∧
          ∃ before, IsShortest path.toList count before ∧
            path.toList = before ++ rest.toList) ∧
        (count = 0 → ∀ rest, params.splat = some rest ↔ rest ≠ "" ∧
          ∃ c, c.toNat < 128 ∧ c ≠ '/' ∧ path.toList = c :: rest.toList) := by
  refine ⟨?_, fun start => splatStart_zero_eq_some_iff, ?_⟩
  · intro hpos
    obtain ⟨count, rfl⟩ := Nat.exists_eq_succ_of_ne_zero (Nat.ne_of_gt hpos)
    refine ⟨fun start => splatStart_succ_eq_some_iff, ⟨?_, ?_⟩, ?_⟩
    · intro hsome
      obtain ⟨start, hstart⟩ := Option.isSome_iff_exists.mp hsome
      obtain ⟨before, hshortest, -⟩ := splatStart_succ_eq_some_iff.mp hstart
      exact ⟨before, hshortest.begins, hshortest.slashes⟩
    · rintro ⟨before, hbegins, hcount⟩
      obtain ⟨front, rest, hpath, hfront⟩ :=
        exists_split_of_prefix hbegins hcount
      rw [hpath, splatStart_append hfront]
      rfl
    · intro before hshortest
      obtain ⟨front, rest, hpath, -, rfl⟩ := isShortest_succ_iff.mp hshortest
      refine ⟨by simp, rest, by simp [hpath], ?_⟩
      rw [hpath, dropBytes?_slash]
  · intro pattern caseSensitive compiled params hstar hcount hcompile hcaptures
    have hsplat := CompiledPattern.splat_of_star hstar hcompile hcaptures
    rw [hsplat, hcount]
    constructor
    · intro hpos rest
      obtain ⟨count, rfl⟩ := Nat.exists_eq_succ_of_ne_zero (Nat.ne_of_gt hpos)
      exact splatOf_succ_eq_some_iff
    · rintro rfl rest
      exact splatOf_zero_eq_some_iff

theorem splatStart_shortest_wide :
    ∃ compiled params, CompiledPattern.compile "é/@x/*" true = .ok compiled ∧
      compiled.captures "é/b/c/" = some params ∧
      IsShortest "é/b/c/".toList 2 "é/b/".toList ∧
      splatStart "é/b/c/".toList 2 = some 5 ∧
      params.splat = some "c/" := by
  obtain ⟨compiled, params, hcompile, hcaptures⟩ : ∃ compiled params,
      CompiledPattern.compile "é/@x/*" true = .ok compiled ∧
        compiled.captures "é/b/c/" = some params := ⟨_, _, rfl, rfl⟩
  have hshortest : IsShortest "é/b/c/".toList 2 "é/b/".toList :=
    @isShortest_append "é/b".toList 1 rfl "c/".toList
  obtain ⟨hpositive, -, hpattern⟩ := splatStart_shortest "é/b/c/" 2
  obtain ⟨hstart, -, -⟩ := hpositive (by decide)
  obtain ⟨hsplat, -⟩ :=
    hpattern "é/@x/*" true compiled params rfl rfl hcompile hcaptures
  exact ⟨compiled, params, hcompile, hcaptures, hshortest,
    (hstart 5).mpr ⟨_, hshortest, rfl⟩,
    (hsplat (by decide) "c/").mpr ⟨by decide, _, hshortest, rfl⟩⟩

/--
Without a slash to count, the remainder should be the whole path, but its first
byte is left out; that byte need not be a character.
-/
theorem splatStart_zero_skips :
    IsShortest "abc".toList 0 [] ∧
      ¬ (∀ start, splatStart "abc".toList 0 = some start ↔
        ∃ before, IsShortest "abc".toList 0 before ∧ start = width before) ∧
      splatStart "/abc".toList 0 = none ∧
      splatStart "éa".toList 0 = some 1 ∧ dropBytes? 1 "éa".toList = none ∧
      ∃ compiled params, CompiledPattern.compile ".*" true = .ok compiled ∧
        compiled.captures "abc" = some params ∧ params.splat = some "bc" := by
  refine ⟨isShortest_nil _, fun h => ?_, by decide, by decide,
    by decide, _, _, rfl, rfl, rfl⟩
  have hnone := (h 0).mpr ⟨[], isShortest_nil _, rfl⟩
  cases hnone

end Signpost
