import Signpost.Proofs.Config.Validation

/-!
# The faults of a configuration, route by route

The check of a configuration goes through its routes once and remembers the
patterns that it has met.  What it reports is the same as if every route were
checked by itself, against the routes in front of it: nothing is left out,
nothing comes twice, and a route can only add to the faults of those that repeat
its pattern.
-/

namespace Signpost.DispatchConfig

variable {config : DispatchConfig} {seen : List String} {index : Nat}
  {route : RouteConfig} {before routes : List RouteConfig}
  {error : ValidationError}

def Repeats (config : DispatchConfig) (index : Nat) (pattern : String) : Prop :=
  ∃ earlier ∈ config.routes.take index, earlier.pattern = pattern

instance (config : DispatchConfig) (index : Nat) (pattern : String) :
    Decidable (config.Repeats index pattern) :=
  inferInstanceAs
    (Decidable (∃ earlier ∈ config.routes.take index,
      earlier.pattern = pattern))

def patternFaultAt (config : DispatchConfig) (index : Nat) (pattern : String) :
    Option ValidationError :=
  if pattern = "" then some (.emptyPattern index)
  else if config.Repeats index pattern then some
    (.duplicatePattern index pattern)
  else
    match CompiledPattern.compile pattern config.caseSensitive with
    | .ok _ => none
    | .error error => some (.invalidPattern index error)

def faultsAt (config : DispatchConfig) (index : Nat) (route : RouteConfig) :
    List ValidationError :=
  (config.patternFaultAt index route.pattern).toList ++
    if (Target.parse? route.handler).isSome then []
    else [.invalidHandler index route.handler]

/-- The errors that name the route at an index, in the order of the report. -/
def reported (config : DispatchConfig) (index : Nat) : List ValidationError :=
  config.validate.filter fun error => error.index? = some index

private theorem patternFault_eq {pattern : String}
    (hseen : pattern ∈ seen ↔ config.Repeats index pattern) :
    patternFault config.caseSensitive seen index pattern =
      config.patternFaultAt index pattern := by
  unfold patternFault patternFaultAt
  cases CompiledPattern.compile pattern config.caseSensitive with
  | error message => simp only [List.contains_iff_mem, hseen]
  | ok compiled => simp only [List.contains_iff_mem, hseen]

private theorem handlerFault_toList (index : Nat) (handler : String) :
    (handlerFault index handler).toList =
      if (Target.parse? handler).isSome then []
      else [.invalidHandler index handler] := by
  unfold handlerFault
  cases Target.parse? handler <;> simp

private theorem repeats_length {pattern : String}
    (hroutes : config.routes = before ++ routes) :
    config.Repeats before.length pattern ↔ pattern ∈
      before.map RouteConfig.pattern := by
  simp [Repeats, hroutes]

private theorem routeFaults_eq (hroutes : config.routes = before ++ routes)
    (hseen : ∀ pattern, pattern ∈ seen ↔ pattern ∈
      before.map RouteConfig.pattern) :
    routeFaults config.caseSensitive seen before.length routes =
      (routes.zipIdx before.length).flatMap fun entry =>
        config.faultsAt entry.2 entry.1 := by
  induction routes generalizing before seen with
  | nil => rfl
  | cons route rest ih =>
      have hpattern :
          patternFault config.caseSensitive seen before.length route.pattern =
          config.patternFaultAt before.length route.pattern := by
        apply patternFault_eq
        rw [hseen, repeats_length hroutes]
      have hrest := @ih (route.pattern :: seen) (before ++ [route])
        (by simp [hroutes])
        (by simp [hseen, or_comm])
      rw [List.length_append, List.length_singleton] at hrest
      rw [routeFaults, hpattern, handlerFault_toList, hrest, List.zipIdx_cons,
        List.flatMap_cons, faultsAt]

theorem validate_eq (config : DispatchConfig) :
    config.validate =
      (config.routes.zipIdx.flatMap fun entry =>
        config.faultsAt entry.2 entry.1) ++
        if (LogFilter.parse? config.observability.logLevel).isSome then []
        else [.invalidLogLevel config.observability.logLevel] := by
  have hroutes := @routeFaults_eq config [] [] config.routes rfl (by simp)
  rw [List.length_nil] at hroutes
  rw [validate, hroutes]
  unfold levelFault
  cases LogFilter.parse? config.observability.logLevel <;> simp

private theorem index?_of_patternFaultAt {pattern : String}
    (h : config.patternFaultAt index pattern = some error) :
      error.index? = some index := by
  unfold patternFaultAt at h
  split_ifs at h
  · obtain rfl := Option.some.inj h
    rfl
  · obtain rfl := Option.some.inj h
    rfl
  · cases hcompile : CompiledPattern.compile pattern config.caseSensitive with
    | ok compiled => simp [hcompile] at h
    | error cause =>
        simp only [hcompile, Option.some.injEq] at h
        subst h
        rfl

theorem index?_of_mem_faultsAt (h : error ∈ config.faultsAt index route) :
    error.index? = some index := by
  unfold faultsAt at h
  rcases List.mem_append.mp h with hpattern | hhandler
  · exact index?_of_patternFaultAt (Option.mem_toList.mp hpattern)
  · split_ifs at hhandler
    · simp at hhandler
    · rw [List.mem_singleton.mp hhandler]
      rfl

private theorem filter_faultsAt (config : DispatchConfig) (place : Nat)
    (route : RouteConfig) :
    (config.faultsAt place route).filter
      (fun error => error.index? = some index) =
      if place = index then config.faultsAt place route else [] := by
  split_ifs with hplace
  · subst hplace
    apply List.filter_eq_self.mpr
    intro error herror
    simp [index?_of_mem_faultsAt herror]
  · apply List.filter_eq_nil_iff.mpr
    intro error herror
    simp [index?_of_mem_faultsAt herror, hplace]

private theorem flatMap_zipIdx_faultsAt {start : Nat}
    (h : routes[index]? = some route) :
    (routes.zipIdx start).flatMap (fun entry =>
        if entry.2 = start + index then config.faultsAt entry.2 entry.1
        else []) =
      config.faultsAt (start + index) route := by
  induction routes generalizing start index with
  | nil => simp at h
  | cons first rest ih =>
      rw [List.zipIdx_cons, List.flatMap_cons]
      cases index with
      | zero =>
          obtain rfl := Option.some.inj h
          have hrest : (rest.zipIdx (start + 1)).flatMap (fun entry =>
              if entry.2 = start + 0 then config.faultsAt entry.2 entry.1
              else []) = [] := by
            apply List.flatMap_eq_nil_iff.mpr
            intro entry hentry
            have hlater := (List.mem_zipIdx hentry).1
            apply if_neg
            omega
          rw [hrest]
          simp
      | succ index =>
          have hlater := @ih index (start + 1) h
          have hindex : start + 1 + index = start + (index + 1) := by omega
          rw [hindex] at hlater
          rw [hlater]
          simp

theorem reported_eq (h : config.routes[index]? = some route) :
    config.reported index = config.faultsAt index route := by
  have hlevel (level : String) :
      (if (LogFilter.parse? level).isSome then []
        else [.invalidLogLevel level]).filter
        (fun error : ValidationError => error.index? = some index) = [] := by
    split_ifs <;> simp [ValidationError.index?]
  have hroute := @flatMap_zipIdx_faultsAt config index route config.routes 0 h
  rw [Nat.zero_add] at hroute
  rw [reported, validate_eq, List.filter_append, hlevel, List.append_nil,
    List.filter_flatMap]
  simp only [filter_faultsAt, hroute]

/--
A configuration is reported valid just if its patterns are not empty, are
distinct and compile, its handler texts name targets, and its log level is a
filter.  Else the report goes through the routes in their order, with at most
one fault of the pattern and one of the handler text for each, and the log level
is its end.  What it says of a route does not depend on the others, unless they
stand in front of it with the same pattern.
-/
theorem validate_route_by_route (config : DispatchConfig) :
    (config.validate = [] ↔
      (∀ route ∈ config.routes, route.pattern ≠ "") ∧
      (config.routes.map RouteConfig.pattern).Nodup ∧
      (∀ route ∈ config.routes, ∃ compiled,
        CompiledPattern.compile route.pattern config.caseSensitive =
          .ok compiled) ∧
      (∀ route ∈ config.routes, ∃ target,
        Target.parse? route.handler = some target) ∧
      ∃ filter, LogFilter.parse? config.observability.logLevel = some filter) ∧
    config.validate =
      (config.routes.zipIdx.flatMap fun entry =>
        config.faultsAt entry.2 entry.1) ++
        (if (LogFilter.parse? config.observability.logLevel).isSome then []
        else [.invalidLogLevel config.observability.logLevel]) ∧
    ∀ (other : DispatchConfig) (index : Nat) (route : RouteConfig),
      other.caseSensitive = config.caseSensitive →
      other.routes[index]? = some route → config.routes[index]? = some route →
      (other.Repeats index route.pattern ↔ config.Repeats index route.pattern) →
        other.reported index = config.reported index := by
  refine ⟨?_, config.validate_eq,
    fun other index route hcase hother hroute hrepeats => ?_⟩
  · rw [validate_eq_nil_iff]
    constructor
    · rintro ⟨h, hlevel⟩
      exact ⟨h.nonempty, h.distinct, h.compiles, h.targets, hlevel⟩
    · rintro ⟨hnonempty, hdistinct, hcompiles, htargets, hlevel⟩
      exact ⟨⟨hnonempty, by simp, hdistinct, hcompiles, htargets⟩, hlevel⟩
  · rw [reported_eq hother, reported_eq hroute, faultsAt,
      faultsAt, patternFaultAt, patternFaultAt, hcase]
    simp only [hrepeats]

theorem validate_route_by_route_mended :
    let config : DispatchConfig :=
      { observability := { logLevel := "route_dispatch=loud" }
        routes := [⟨"", "Home::index"⟩, ⟨"/a", "Home"⟩, ⟨"/a", "Home"⟩,
          ⟨"/@id:[0-9", "Home::id"⟩] }
    let mended : DispatchConfig :=
      { routes := [⟨"/", "Home::index"⟩, ⟨"/a", "Home::a"⟩, ⟨"/a", "Home"⟩] }
    config.validate =
      [.emptyPattern 0, .invalidHandler 1 "Home", .duplicatePattern 2 "/a",
        .invalidHandler 2 "Home",
        .invalidPattern 3 ⟨"/@id:[0-9", .classUnclosed⟩,
        .invalidLogLevel "route_dispatch=loud"] ∧
      mended.validate = [.duplicatePattern 2 "/a", .invalidHandler 2 "Home"] ∧
      mended.reported 2 = config.reported 2 := by
  intro config mended
  refine ⟨by decide +kernel, by decide +kernel, ?_⟩
  exact (validate_route_by_route config).2.2 mended 2 ⟨"/a", "Home"⟩ rfl rfl rfl
    (by decide)

end Signpost.DispatchConfig
