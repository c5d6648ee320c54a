import Signpost.Proofs.Dispatch.FirstMatch
import Signpost.Proofs.Dispatch.Ordering

/-!
# The route that a run fires

The events of a run name the route whose handler was called, and the patterns
that were rejected on the way to it.  The route is the first in the table whose
pattern matches the path, and no pattern is rejected but those that do not
compile.
-/

namespace Signpost

def Event.firedRoute? : Event → Option String
  | .routeDispatched _ route _ | .handlerFailed _ route _ => some route
  | _ => none

def Event.ofCall (path pattern : String) (args : Args) :
    Except HandlerError Json → Event
  | .ok _ => .routeDispatched path pattern args.size
  | .error error => .handlerFailed path pattern error.message

theorem Event.firedRoute?_ofCall (path pattern : String) (args : Args)
    (answer : Except HandlerError Json) :
    (Event.ofCall path pattern args answer).firedRoute? = some pattern := by
  cases answer <;> rfl

namespace Router

variable {router : Router} {pattern path : String} {caseSensitive : Bool}
    {event : Event}

theorem compile_events
    (h : event ∈ (router.compile pattern caseSensitive).2.2) :
    event = .patternCompiled pattern caseSensitive := by
  obtain ⟨_ | cache, params⟩ := router
  · exact absurd h List.not_mem_nil
  · simp only [compile, PatternCache.getOrCompile] at h
    split at h
    · exact absurd h List.not_mem_nil
    · split at h
      · exact absurd h List.not_mem_nil
      · exact List.mem_singleton.mp h

private theorem compile_eq_error {error : PatternError}
    (h : (router.compile pattern caseSensitive).1 = .error error) :
    CompiledPattern.compile pattern caseSensitive = .error error := by
  obtain ⟨_ | cache, params⟩ := router
  · simp only [compile] at h
    cases hcompile : CompiledPattern.compile pattern caseSensitive with
    | error cause =>
        rw [hcompile] at h
        exact congrArg Except.error (Except.error.inj h)
    | ok compiled =>
        rw [hcompile] at h
        cases h
  · simp only [compile, PatternCache.getOrCompile] at h
    split at h
    · cases h
    · split at h
      · rename_i hcompile
        rw [hcompile]
        exact congrArg Except.error (Except.error.inj h)
      · cases h

theorem matchPath_events
    (h : event ∈ (router.matchPath pattern path caseSensitive).2.2) :
    event = .patternCompiled pattern caseSensitive ∨
      (∃ error, event = .patternRejected error ∧
        CompiledPattern.compile pattern caseSensitive = .error error) ∨
      ∃ params, event = .patternMatched pattern path params := by
  simp only [matchPath] at h
  split at h
  · exact absurd h List.not_mem_nil
  · split at h
    · rename_i error hcompile
      rcases List.mem_append.mp h with hcompiled | hrejected
      · exact .inl (compile_events hcompiled)
      · exact .inr
          (.inl ⟨error, List.mem_singleton.mp hrejected,
            compile_eq_error hcompile⟩)
    · split at h
      · exact .inl (compile_events h)
      · rcases List.mem_append.mp h with hcompiled | hmatched
        · exact .inl (compile_events hcompiled)
        · exact .inr (.inr ⟨_, List.mem_singleton.mp hmatched⟩)

theorem firedRoute?_of_mem_matchPath
    (h : event ∈ (router.matchPath pattern path caseSensitive).2.2) :
    event.firedRoute? = none := by
  rcases matchPath_events h with rfl | ⟨error, rfl, -⟩ | ⟨params, rfl⟩ <;> rfl

end Router

namespace Dispatcher

variable {dispatcher : Dispatcher} {router : Router} {path : String}
  {caseSensitive : Bool} {routes : List Route}

theorem mem_firstMatch_events {event : Event}
    (h : event ∈ (firstMatch path caseSensitive router routes).2.2) :
    ∃ route ∈ routes, ∃ router : Router,
      event ∈ (router.matchPath route.pattern path caseSensitive).2.2 := by
  induction routes generalizing router with
  | nil => nomatch h
  | cons route rest ih =>
      simp only [firstMatch] at h
      split at h
      · exact ⟨route, List.mem_cons_self, router, h⟩
      · rcases List.mem_append.mp h with hfirst | hlater
        · exact ⟨route, List.mem_cons_self, router, hfirst⟩
        · obtain ⟨other, hother, hevent⟩ := ih hlater
          exact ⟨other, List.mem_cons_of_mem _ hother, hevent⟩

def search (dispatcher : Dispatcher) :
    Option RouteMatch × Router × List Event :=
  firstMatch dispatcher.path dispatcher.caseSensitive dispatcher.router
    dispatcher.table.routes

def lastEvent (dispatcher : Dispatcher) :
    Option RouteMatch × Router × List Event → Event
  | (none, _, _) => .noRouteMatched dispatcher.path dispatcher.table.size
  | (some hit, found, _) =>
    .ofCall dispatcher.path hit.route.pattern
      (Args.ofValues found.params.values)
      (hit.invoke dispatcher.classes found.params).1

private theorem firedRoute?_lastEvent (dispatcher : Dispatcher)
    (search : Option RouteMatch × Router × List Event) :
    (dispatcher.lastEvent search).firedRoute? =
      search.1.map (·.route.pattern) := by
  obtain ⟨_ | hit, found, events⟩ := search
  · rfl
  · exact Event.firedRoute?_ofCall _ _ _ _

theorem run_events (dispatcher : Dispatcher) :
    dispatcher.run.2.2 =
      dispatcher.search.2.2 ++ [dispatcher.lastEvent dispatcher.search] := by
  dsimp only [run]
  rw [← search]
  generalize dispatcher.search = search
  obtain ⟨_ | ⟨before, route, after⟩, found, events⟩ := search
  · rfl
  · simp only [lastEvent, RouteMatch.invoke, Router.takeParams]
    generalize route.handler.invoke dispatcher.classes
      (Args.ofValues found.params.values) = outcome
    obtain ⟨_ | _, handler, classes⟩ := outcome <;> rfl

def firedRoute? (dispatcher : Dispatcher) : Option String :=
  dispatcher.run.2.2.findSome? Event.firedRoute?

theorem compile_of_rejected {error : PatternError}
    (h : .patternRejected error ∈ dispatcher.run.2.2) :
    ∃ route ∈ dispatcher.table.routes,
      CompiledPattern.compile route.pattern dispatcher.caseSensitive =
        .error error := by
  rw [run_events] at h
  rcases List.mem_append.mp h with hsearch | hend
  · obtain ⟨route, hroute, router, hevent⟩ := mem_firstMatch_events hsearch
    rcases Router.matchPath_events hevent with hsame |
      ⟨cause, hsame, hcompile⟩ | ⟨_, hsame⟩
    · nomatch hsame
    · obtain rfl := Event.patternRejected.inj hsame
      exact ⟨route, hroute, hcompile⟩
    · nomatch hsame
  · have hlast : ∀ search, .patternRejected error ≠
        dispatcher.lastEvent search := by
      rintro ⟨_ | hit, found, events⟩
      · exact fun hsame => nomatch hsame
      · rw [lastEvent]
        cases (hit.invoke dispatcher.classes found.params).1 <;>
          exact fun hsame => nomatch hsame
    exact absurd (List.mem_singleton.mp hend) (hlast _)

theorem firedRoute?_eq_search (dispatcher : Dispatcher) :
    dispatcher.firedRoute? = dispatcher.search.1.map (·.route.pattern) := by
  have hsearch : dispatcher.search.2.2.findSome? Event.firedRoute? = none := by
    rw [List.findSome?_eq_none_iff]
    intro event hevent
    obtain ⟨_, -, _, hmatch⟩ := mem_firstMatch_events hevent
    exact Router.firedRoute?_of_mem_matchPath hmatch
  -- no event of the search names a route, so the last event decides
  rw [firedRoute?, run_events, List.findSome?_append, hsearch,
    ← firedRoute?_lastEvent]
  cases h : (dispatcher.lastEvent dispatcher.search).firedRoute? <;> simp [h]

def accepts (dispatcher : Dispatcher) (pattern : String) : Bool :=
  (dispatcher.router.matchPath pattern dispatcher.path
    dispatcher.caseSensitive).1

def argsFor (dispatcher : Dispatcher) (pattern : String) : Args :=
  Args.ofValues (dispatcher.router.matchPath pattern dispatcher.path
    dispatcher.caseSensitive).2.1.params.values

/--
The next run calls the handler of a route, and the answer of the handler is its
own.
-/
structure Fires (dispatcher : Dispatcher) (route : Route)
    (args : Args) : Prop where
  fired : dispatcher.firedRoute? = some route.pattern
  reported : dispatcher.run.2.2.getLast? =
    some (.ofCall dispatcher.path route.pattern args
      (route.handler.invoke dispatcher.classes args).1)
  succeeds :
    dispatcher.run.1 = (route.handler.invoke dispatcher.classes args).1.isOk
  result : dispatcher.run.2.1.result =
    (route.handler.invoke dispatcher.classes args).1.toOption.or
      dispatcher.result
  handler : dispatcher.run.2.1.table.get? route.pattern =
    some (route.handler.invoke dispatcher.classes args).2.1
  classes : dispatcher.run.2.1.classes =
    (route.handler.invoke dispatcher.classes args).2.2

theorem valuesFor?_eq_some_iff {pattern : String} {params : Params} :
    dispatcher.valuesFor? pattern = some params ↔
      dispatcher.accepts pattern = true ∧
        (dispatcher.router.matchPath pattern dispatcher.path
          dispatcher.caseSensitive).2.1.params = params := by
  simp [valuesFor?, accepts]

theorem valuesFor?_eq_none_iff {pattern : String} :
    dispatcher.valuesFor? pattern = none ↔
      dispatcher.accepts pattern = false := by
  simp [valuesFor?, accepts]

/-- The first route whose pattern matches the path is fired. -/
theorem fires_of_split (h : dispatcher.router.Coherent)
    {before after : List Route}
    {route : Route} (hroutes : dispatcher.table.routes =
      before ++ route :: after)
    (hbefore : ∀ earlier ∈ before, dispatcher.accepts earlier.pattern = false)
    (hroute : dispatcher.accepts route.pattern = true) :
    dispatcher.Fires route (dispatcher.argsFor route.pattern) := by
  have hfirst : RouteMatch.IsFirst ⟨before, route, after⟩ dispatcher.valuesFor?
      dispatcher.table.routes _ :=
    ⟨hroutes, fun earlier hearlier =>
      valuesFor?_eq_none_iff.mpr (hbefore earlier hearlier),
      valuesFor?_eq_some_iff.mpr ⟨hroute, rfl⟩⟩
  have hvalues := hfirst
  rw [valuesFor?_eq h] at hvalues
  obtain ⟨found, events, -, hparams, hfound⟩ := firstMatch_of_isFirst hvalues h
  have hsearch : dispatcher.search =
      (some ⟨before, route, after⟩, found, events) := by
    rw [search, hroutes]
    exact hfound after
  obtain ⟨_, _, -, hrun, -⟩ := run_of_isFirst h hfirst
  have hanswer := answer?_of_isFirst hfirst
  rw [RouteMatch.invoke] at hanswer
  refine ⟨?_, ?_, ?_, ?_, ?_, ?_⟩
  · rw [firedRoute?_eq_search, hsearch]
    rfl
  · rw [run_events, hsearch, List.getLast?_concat, lastEvent, hparams]
    rfl
  · rw [hrun, hanswer, argsFor]
    cases (route.handler.invoke dispatcher.classes _).1 <;> rfl
  · rw [hrun]
    simp only [outcome, hanswer, argsFor]
  · have hearlier : ∀ earlier ∈ before, earlier.pattern ≠ route.pattern := by
      intro earlier hmem hsame
      have hnot := hbefore earlier hmem
      rw [hsame, hroute] at hnot
      cases hnot
    rw [hrun, outcome, RouteMatch.tableAfter]
    exact RouteTable.HasAt.get? ⟨rfl, hearlier⟩
  · rw [hrun]
    rfl

theorem firedRoute?_eq (h : dispatcher.router.Coherent) :
    dispatcher.firedRoute? = dispatcher.table.patterns.find?
      dispatcher.accepts := by
  rcases RouteMatch.isFirst_or_none dispatcher.valuesFor?
    dispatcher.table.routes with
    hnone | ⟨⟨before, route, after⟩, params, hfirst⟩
  · have hpatterns :
        dispatcher.table.patterns.find? dispatcher.accepts = none := by
      simpa [RouteTable.patterns, valuesFor?_eq_none_iff] using hnone
    rw [valuesFor?_eq h] at hnone
    rw [firedRoute?_eq_search, search, (firstMatch_of_none h hnone).1,
      hpatterns]
    rfl
  · have hbefore (earlier : Route) (hmem : earlier ∈ before) :
        dispatcher.accepts earlier.pattern = false :=
      valuesFor?_eq_none_iff.mp (hfirst.earlier earlier hmem)
    have hroute := (valuesFor?_eq_some_iff.mp hfirst.found).1
    have hpatterns :
        (before.map Route.pattern).find? dispatcher.accepts = none := by
      simpa using hbefore
    rw [(fires_of_split h hfirst.routes_eq hbefore hroute).fired,
      RouteTable.patterns, hfirst.routes_eq, List.map_append,
      List.find?_append, hpatterns]
    simp [hroute]

end Dispatcher

end Signpost
