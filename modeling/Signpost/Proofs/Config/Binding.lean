import Signpost.Proofs.Config.Validation
import Signpost.Proofs.Dispatch.Firing

/-!
# Configurations as they are dispatched

A valid configuration loses nothing on its way to a dispatcher: its routes
become the routes of the table in the order of the file, each with the target
that its handler text names, and a run fires the first of them that matches the
path.
-/

namespace Signpost

private theorem Dispatcher.set_of_absent {dispatcher : Dispatcher}
    {pattern : String}
    (h : pattern ∉ dispatcher.table.patterns) (handler : Handler) :
    dispatcher.set pattern handler =
      ({ dispatcher with table :=
        ⟨dispatcher.table.routes ++ [⟨pattern, handler⟩]⟩ }, []) := by
  rw [Dispatcher.set, RouteTable.insert_of_absent h]
  rfl

def RouteConfig.bound? (route : RouteConfig) : Option Route :=
  (Target.parse? route.handler).map fun target =>
    ⟨route.pattern, .method target⟩

theorem RouteConfig.bound?_eq {route : RouteConfig} {target : Target}
    (h : Target.parse? route.handler = some target) :
    route.bound? = some ⟨route.pattern, .method target⟩ := by
  rw [bound?, h, Option.map_some]

namespace DispatchConfig

variable {config : DispatchConfig} {routes : List RouteConfig}

def table (config : DispatchConfig) : RouteTable :=
  ⟨config.routes.filterMap RouteConfig.bound?⟩

private theorem bindRoutes_of_fresh {dispatcher : Dispatcher}
    (htargets : ∀ route ∈ routes, ∃ target,
      Target.parse? route.handler = some target)
    (hfresh :
      (dispatcher.table.patterns ++ routes.map RouteConfig.pattern).Nodup) :
    bindRoutes dispatcher routes =
      (routes.length,
        { dispatcher with
          table :=
            ⟨dispatcher.table.routes ++ routes.filterMap RouteConfig.bound?⟩ },
        []) := by
  induction routes generalizing dispatcher with
  | nil => simp [bindRoutes]
  | cons route rest ih =>
      obtain ⟨⟨target, htarget⟩, hrest⟩ := List.forall_mem_cons.mp htargets
      have habsent : route.pattern ∉ dispatcher.table.patterns := fun hmem =>
        (List.nodup_append.mp hfresh).2.2 _ hmem _ List.mem_cons_self rfl
      have hset := Dispatcher.set_of_absent habsent (.method target)
      -- with this pattern in the table, those behind are still fresh
      have hlater :=
        @ih (dispatcher.set route.pattern (.method target)).1 hrest (by
        rw [hset]
        simpa [RouteTable.patterns] using hfresh)
      rw [hset] at hlater
      simp [bindRoutes, htarget, hset, hlater, RouteConfig.bound?_eq htarget]

theorem bind_of_empty
    (h : SoundRoutes config.caseSensitive [] config.routes)
    {dispatcher : Dispatcher} (hempty : dispatcher.table.routes = []) :
    config.bind dispatcher =
      (config.routes.length,
        { dispatcher with caseSensitive := config.caseSensitive, table :=
          config.table },
        []) := by
  rw [bind, bindRoutes_of_fresh h.targets]
  · simp [hempty, table]
  · simpa [hempty, RouteTable.patterns] using h.distinct

theorem dispatcher_eq (h : SoundRoutes config.caseSensitive [] config.routes)
    (cache : PatternCache) (path : String) :
    (config.dispatcher cache path).1 =
      { router := config.router cache, path, caseSensitive :=
        config.caseSensitive
        table := config.table } := by
  rw [dispatcher, bind_of_empty h rfl]

theorem map_pattern_bound (routes : List RouteConfig) :
    (routes.filterMap RouteConfig.bound?).map Route.pattern =
      (routes.filter fun route => (Target.parse? route.handler).isSome).map
        RouteConfig.pattern := by
  induction routes with
  | nil => rfl
  | cons route rest ih =>
      cases htarget : Target.parse? route.handler with
      | none => simp [RouteConfig.bound?, htarget, ih]
      | some target => simp [RouteConfig.bound?, htarget, ih]

theorem map_pattern_bound_of_targets
    (h : ∀ route ∈ routes, ∃ target, Target.parse? route.handler =
      some target) :
    (routes.filterMap RouteConfig.bound?).map Route.pattern =
      routes.map RouteConfig.pattern := by
  rw [map_pattern_bound, List.filter_eq_self.mpr]
  intro route hroute
  exact Option.isSome_iff_exists.mpr (h route hroute)

theorem table_patterns (h : SoundRoutes config.caseSensitive [] config.routes) :
    config.table.patterns = config.routes.map RouteConfig.pattern :=
  map_pattern_bound_of_targets h.targets

theorem table_split {before after : List RouteConfig} {route : RouteConfig}
    {target : Target} (h : SoundRoutes config.caseSensitive [] config.routes)
    (hroutes : config.routes = before ++ route :: after)
    (htarget : Target.parse? route.handler = some target) :
    ∃ earlier later, config.table.HasAt route.pattern earlier
      (.method target) later ∧
      earlier.map Route.pattern = before.map RouteConfig.pattern := by
  have hmem (other : RouteConfig) (hother : other ∈ before) :
      other ∈ config.routes := by
    rw [hroutes]
    exact List.mem_append_left _ hother
  have hpatterns := map_pattern_bound_of_targets fun other hother =>
    h.targets other (hmem other hother)
  refine ⟨before.filterMap RouteConfig.bound?,
    after.filterMap RouteConfig.bound?, ⟨?_, ?_⟩, hpatterns⟩
  · rw [table, hroutes, List.filterMap_append,
      List.filterMap_cons_some (RouteConfig.bound?_eq htarget)]
  · intro other hother hsame
    have hearlier : other.pattern ∈ before.map RouteConfig.pattern := by
      rw [← hpatterns]
      exact List.mem_map_of_mem hother
    have hdistinct := h.distinct
    rw [hroutes, List.map_append, List.nodup_append] at hdistinct
    exact hdistinct.2.2 _ hearlier _ List.mem_cons_self hsame

/--
The dispatcher has the routes of the configuration and dispatches them as they
stand there.
-/
structure DispatchedBy (config : DispatchConfig)
    (dispatcher : Dispatcher) : Prop where
  patterns : dispatcher.table.patterns = config.routes.map RouteConfig.pattern
  targets : ∀ route ∈ config.routes, ∃ target,
    dispatcher.table.get? route.pattern = some (.method target) ∧
      target.className ++ "::" ++ target.method = route.handler
  caseSensitive : dispatcher.caseSensitive = config.caseSensitive
  not_rejected : ∀ error, .patternRejected error ∉ dispatcher.run.2.2
  fired : dispatcher.firedRoute? =
    (config.routes.find? fun route => dispatcher.accepts route.pattern).map
      RouteConfig.pattern
  fires : ∀ route,
    config.routes.find? (fun route => dispatcher.accepts route.pattern) =
      some route →
      ∃ target, target.className ++ "::" ++ target.method = route.handler ∧
        dispatcher.Fires ⟨route.pattern, .method target⟩
          (dispatcher.argsFor route.pattern)

theorem fires_of_find? (h : SoundRoutes config.caseSensitive [] config.routes)
    {dispatcher : Dispatcher} (hcoherent : dispatcher.router.Coherent)
    (htable : dispatcher.table = config.table) {route : RouteConfig}
    {target : Target}
    (hfind :
      config.routes.find? (fun route => dispatcher.accepts route.pattern) =
      some route)
    (htarget : Target.parse? route.handler = some target) :
    dispatcher.Fires ⟨route.pattern, .method target⟩
      (dispatcher.argsFor route.pattern) := by
  obtain ⟨haccepts, before, after, hroutes, hbefore⟩ :=
    List.find?_eq_some_iff_append.mp hfind
  obtain ⟨earlier, later, hsplit, hpatterns⟩ := table_split h hroutes htarget
  refine Dispatcher.fires_of_split hcoherent
    (htable ▸ hsplit.routes_eq) ?_ haccepts
  have hearlier : ∀ pattern ∈ earlier.map Route.pattern,
      dispatcher.accepts pattern = false := by
    rw [hpatterns]
    simpa using hbefore
  exact fun other hother => hearlier _ (List.mem_map_of_mem hother)

theorem dispatchedBy_of_table
    (h : SoundRoutes config.caseSensitive [] config.routes)
    {dispatcher : Dispatcher} (hcoherent : dispatcher.router.Coherent)
    (htable : dispatcher.table = config.table)
    (hcase : dispatcher.caseSensitive = config.caseSensitive) :
    config.DispatchedBy dispatcher := by
  refine ⟨?_, ?_, hcase, ?_, ?_, ?_⟩
  · rw [htable, table_patterns h]
  · intro route hroute
    obtain ⟨before, after, hroutes⟩ := List.append_of_mem hroute
    obtain ⟨target, htarget⟩ := h.targets route hroute
    obtain ⟨_, _, hsplit, -⟩ := table_split h hroutes htarget
    rw [htable]
    exact ⟨target, hsplit.get?, Target.text_of_parse? htarget⟩
  · intro error hrejected
    obtain ⟨route, hroute, herror⟩ := Dispatcher.compile_of_rejected hrejected
    have hpattern : route.pattern ∈ config.routes.map RouteConfig.pattern := by
      rw [← table_patterns h, ← htable]
      exact List.mem_map_of_mem hroute
    obtain ⟨configured, hconfigured, hsame⟩ := List.mem_map.mp hpattern
    obtain ⟨compiled, hcompile⟩ := h.compiles configured hconfigured
    rw [hsame, ← hcase, herror] at hcompile
    nomatch hcompile
  · rw [Dispatcher.firedRoute?_eq hcoherent, htable,
      table_patterns h, List.find?_map]
    rfl
  · intro route hfind
    obtain ⟨target, htarget⟩ :=
      h.targets route (List.mem_of_find?_eq_some hfind)
    exact ⟨target, Target.text_of_parse? htarget,
      fires_of_find? h hcoherent htable hfind htarget⟩

theorem router_coherent (config : DispatchConfig) {cache : PatternCache}
    (h : (Router.withCache cache).Reachable) :
      (config.router cache).Coherent := by
  rw [router]
  split
  · exact h.coherent
  · exact Router.Reachable.uncached.coherent

/--
A configuration without faults is dispatched as it is written, by a dispatcher
that it is bound to, and by the one made for a path.
-/
theorem bound_as_written (h : config.validate = []) :
    (∀ dispatcher : Dispatcher, dispatcher.table.routes = [] →
      dispatcher.router.Reachable →
        (config.bind dispatcher).1 = config.routes.length ∧
          config.DispatchedBy (config.bind dispatcher).2.1) ∧
    ∀ (cache : PatternCache) (path : String) (classes : Registry),
      (Router.withCache cache).Reachable →
        (config.dispatcher cache path).1.path = path ∧
          config.DispatchedBy
            { (config.dispatcher cache path).1 with classes } := by
  have hsound := sound_of_validate h
  constructor
  · intro dispatcher hempty hrouter
    rw [bind_of_empty hsound hempty]
    exact ⟨rfl, dispatchedBy_of_table hsound hrouter.coherent rfl rfl⟩
  · intro cache path classes hcache
    rw [dispatcher_eq hsound]
    exact ⟨rfl, dispatchedBy_of_table hsound
      (config.router_coherent hcache) rfl rfl⟩

theorem bound_as_written_fallback :
    let config : DispatchConfig :=
      { caseSensitive := true
        routes := [⟨"/a/@id", "\\App\\A::show"⟩, ⟨"*", "B::any"⟩] }
    let dispatcher := (config.dispatcher {} "/b").1
    config.validate = [] ∧ (Router.withCache {}).Reachable ∧
      (config.bind { path := "/a/7" }).1 = 2 ∧
      config.DispatchedBy (config.bind { path := "/a/7" }).2.1 ∧
      config.DispatchedBy { dispatcher with classes := {} } ∧
      Dispatcher.firedRoute? { dispatcher with classes := {} } = some "*" := by
  intro config dispatcher
  have hvalid : config.validate = [] := by decide +kernel
  obtain ⟨hbind, hdispatcher⟩ := bound_as_written hvalid
  obtain ⟨hcount, hbound⟩ := hbind { path := "/a/7" } rfl .withCache
  obtain ⟨-, hbuilt⟩ := hdispatcher {} "/b" {} .withCache
  refine ⟨hvalid, .withCache, hcount, hbound, hbuilt, hbuilt.fired.trans ?_⟩
  decide +kernel

end DispatchConfig

end Signpost
