import Signpost.Proofs.Dispatch.Calling
import Signpost.Proofs.Dispatch.Firing
import Signpost.Proofs.Dispatch.Runs
import Signpost.Proofs.Router.Reporting

/-!
# The log of a run

The events of a run are those of the matches that it tries, in the order of the
table, and one at the end that tells its outcome.  Patterns of a table are
distinct, so that no match changes what the next ones report, and what is
reported can be told from the cache as it was before the run.
-/

namespace Signpost

def Event.endsRun (event : Event) : Bool :=
  event.message ∈ ["Route dispatched", "Route handler could not be invoked",
    "No route matched"]

namespace RouteMatch.IsFirst

variable {values : String → Option Params} {routes : List Route}
    {hit other : RouteMatch}
  {params others : Params}

theorem not_all_none (h : hit.IsFirst values routes params) :
    ¬ ∀ route ∈ routes, values route.pattern = none := by
  intro hnone
  have hroute := hnone hit.route (by simp [h.routes_eq])
  rw [h.found] at hroute
  cases hroute

theorem findSome?_eq (h : hit.IsFirst values routes params) :
    routes.findSome? (fun route => (values route.pattern).map (Prod.mk route)) =
      some (hit.route, params) := by
  rw [h.routes_eq, List.findSome?_append,
    List.findSome?_eq_none_iff.mpr fun route hroute => by
      rw [h.earlier route hroute, Option.map_none],
    Option.none_or, List.findSome?_cons, h.found]
  rfl

theorem unique (h : hit.IsFirst values routes params)
    (hother : other.IsFirst values routes others) :
      hit.route = other.route ∧ params = others :=
  Prod.mk.inj (Option.some.inj (h.findSome?_eq.symm.trans hother.findSome?_eq))

end RouteMatch.IsFirst

namespace Dispatcher

def scannedFrom (values : String → Option Params) : List Route → List Route
  | [] => []
  | route :: rest =>
    if (values route.pattern).isSome then [route]
    else route :: scannedFrom values rest

/-- The routes that the next run tries. -/
def scanned (dispatcher : Dispatcher) : List Route :=
  scannedFrom dispatcher.valuesFor? dispatcher.table.routes

variable {dispatcher : Dispatcher} {router : Router} {path : String}
    {caseSensitive : Bool}
  {values : String → Option Params} {routes : List Route}

theorem scannedFrom_sublist (values : String → Option Params)
    (routes : List Route) :
    (scannedFrom values routes).Sublist routes := by
  induction routes with
  | nil => exact List.Sublist.refl _
  | cons route rest ih =>
      rw [scannedFrom]
      split
      · exact (List.nil_sublist rest).cons_cons route
      · exact ih.cons_cons route

private theorem firstMatch_report (h : router.Coherent)
    (hdistinct : (routes.map Route.pattern).Nodup) :
    (firstMatch path caseSensitive router routes).2.2 =
      (scannedFrom (Router.values? · path caseSensitive) routes).flatMap
        fun route =>
        router.report route.pattern path caseSensitive := by
  induction routes generalizing router with
  | nil => rfl
  | cons route rest ih =>
      obtain ⟨hanswer, -, hcoherent⟩ :=
        h.matchPath route.pattern path caseSensitive
      have hevents := h.matchPath_report route.pattern path caseSensitive
      obtain ⟨hroute, hrest⟩ := List.nodup_cons.mp hdistinct
      simp only [firstMatch, scannedFrom, hanswer, hevents]
      split
      · simp
      · dsimp only
        rw [ih hcoherent hrest, List.flatMap_cons]
        -- the first pattern is in no later route: their reports stay
        refine congrArg (_ ++ ·) (List.flatMap_congr fun later hlater => ?_)
        apply router.report_matchPath_of_ne
        rintro hsame
        exact hroute (hsame ▸ List.mem_map_of_mem
          ((scannedFrom_sublist _ _).subset hlater))

def notes (dispatcher : Dispatcher) (route : Route) : List Event :=
  dispatcher.router.report route.pattern dispatcher.path
    dispatcher.caseSensitive

theorem search_report (h : dispatcher.Sound)
    (hdistinct : dispatcher.table.patterns.Nodup) :
    dispatcher.search.2.2 = dispatcher.scanned.flatMap dispatcher.notes := by
  rw [scanned, valuesFor?_eq h.router]
  exact firstMatch_report h.router hdistinct

theorem level_of_search {event : Event} (h : event ∈ dispatcher.search.2.2) :
    event.endsRun = false ∧ event.level =
      if event.message = "Route pattern rejected" then .warn else .trace := by
  obtain ⟨route, -, router, hevent⟩ := mem_firstMatch_events h
  rcases Router.matchPath_events hevent with rfl |
    ⟨error, rfl, -⟩ | ⟨params, rfl⟩ <;>
    exact ⟨by simp [Event.endsRun, Event.message],
      by simp [Event.message, Event.level]⟩

/-- How a run can end, and the event that tells so. -/
inductive Ends (dispatcher : Dispatcher) : Bool → Event → Prop
  | dispatched {hit : RouteMatch} {params : Params} {value : Json} :
      hit.IsFirst dispatcher.valuesFor? dispatcher.table.routes params →
      (hit.invoke dispatcher.classes params).1 = .ok value →
      Ends dispatcher true
        (.routeDispatched dispatcher.path hit.route.pattern
          params.values.length)
  | failed {hit : RouteMatch} {params : Params} {error : HandlerError} :
      hit.IsFirst dispatcher.valuesFor? dispatcher.table.routes params →
      (hit.invoke dispatcher.classes params).1 = .error error →
      Ends dispatcher false
        (.handlerFailed dispatcher.path hit.route.pattern error.message)
  | unmatched :
      (∀ route ∈ dispatcher.table.routes,
        dispatcher.valuesFor? route.pattern = none) →
      Ends dispatcher false
        (.noRouteMatched dispatcher.path dispatcher.table.routes.length)

theorem Sound.ends (h : dispatcher.Sound) :
    dispatcher.Ends dispatcher.run.1
      (dispatcher.lastEvent dispatcher.search) := by
  rw [h.run_result.1]
  rcases RouteMatch.isFirst_or_none dispatcher.valuesFor?
    dispatcher.table.routes with
    hnone | ⟨hit, params, hfirst⟩
  · have hvalues := hnone
    rw [valuesFor?_eq h.router] at hvalues
    have hsearch : dispatcher.search.1 = none :=
      (firstMatch_of_none h.router hvalues).1
    obtain ⟨found, hfound⟩ : ∃ found, dispatcher.search = (none, found) :=
      ⟨_, Prod.ext hsearch rfl⟩
    rw [hfound, answer?_of_none hnone]
    exact .unmatched hnone
  · have hvalues := hfirst
    rw [valuesFor?_eq h.router] at hvalues
    obtain ⟨found, events, -, hparams, hfound⟩ :=
      firstMatch_of_isFirst hvalues h.router
    have hsearch : dispatcher.search = (some hit, found, events) := by
      rw [search, hfirst.routes_eq]
      exact hfound hit.after
    rw [hsearch, answer?_of_isFirst hfirst, lastEvent, hparams]
    cases hanswer : (hit.invoke dispatcher.classes params).1 with
    | ok value =>
        rw [Event.ofCall, Args.size, Args.values_ofValues]
        exact .dispatched hfirst hanswer
    | error error => exact .failed hfirst hanswer

theorem Ends.message {ran : Bool} {last : Event}
    (h : dispatcher.Ends ran last) :
    (last.message = "Route dispatched" ↔ ran = true) ∧
    (last.message = "Route handler could not be invoked" ↔
      ∃ (hit : RouteMatch) (params : Params) (error : HandlerError),
        hit.IsFirst dispatcher.valuesFor? dispatcher.table.routes params ∧
          (hit.invoke dispatcher.classes params).1 = .error error) ∧
    (last.message = "No route matched" ↔
      ∀ route ∈ dispatcher.table.routes,
        dispatcher.valuesFor? route.pattern = none) := by
  cases h with
  | dispatched hfirst hok =>
      refine ⟨iff_of_true rfl rfl, iff_of_false (by simp [Event.message]) ?_,
        iff_of_false (by simp [Event.message]) hfirst.not_all_none⟩
      rintro ⟨other, params, error, hother, herror⟩
      obtain ⟨hroute, rfl⟩ := hfirst.unique hother
      rw [RouteMatch.invoke, ← hroute] at herror
      cases hok.symm.trans herror
  | failed hfirst herror =>
      exact ⟨iff_of_false (by simp [Event.message]) Bool.false_ne_true,
        iff_of_true rfl ⟨_, _, _, hfirst, herror⟩,
        iff_of_false (by simp [Event.message]) hfirst.not_all_none⟩
  | unmatched hnone =>
      refine ⟨iff_of_false (by simp [Event.message]) Bool.false_ne_true,
        iff_of_false (by simp [Event.message]) ?_, iff_of_true rfl hnone⟩
      rintro ⟨hit, params, error, hfirst, -⟩
      exact hfirst.not_all_none hnone

theorem Ends.level {ran : Bool} {last : Event} (h : dispatcher.Ends ran last) :
    last.endsRun ∧ last.level =
      if last.message = "Route handler could not be invoked" then .warn
      else .debug := by
  cases h <;> exact ⟨by simp [Event.endsRun, Event.message],
    by simp [Event.message, Event.level]⟩

private theorem Sound.distinct_performAll (h : dispatcher.Sound)
    (hdistinct : dispatcher.table.patterns.Nodup) (actions : List Action) :
    (dispatcher.performAll actions).table.patterns.Nodup := by
  induction actions generalizing dispatcher with
  | nil => exact hdistinct
  | cons action actions ih =>
      refine ih (h.perform action) ?_
      cases action with
      | set pattern handler =>
          change (dispatcher.table.insert pattern handler).2.patterns.Nodup
          rw [RouteTable.patterns_insert]
          split
          · exact hdistinct
          · next habsent =>
              rw [← List.concat_eq_append]
              exact hdistinct.concat habsent
      | remove pattern =>
          change (dispatcher.table.remove pattern).2.patterns.Nodup
          rw [RouteTable.patterns_remove]
          exact hdistinct.erase pattern
      | run =>
          change dispatcher.run.2.1.table.patterns.Nodup
          rw [h.run.2.patterns]
          exact hdistinct
      | _ => exact hdistinct

/--
Whatever was done before, the events of a run are the notes on the routes tried,
in the order of the table, and one event that tells how the run ended.  Each
pattern tried that is neither `*` nor the path is rejected once if it does not
compile, and noted once as compiled if it does, the router has a cache and the
cache did not hold it before the run.
-/
theorem log_of_run {router : Router} (hrouter : router.Reachable)
    (path : String) (actions : List Action) :
    let dispatcher := performAll { router, path } actions
    ∃ earlier last, dispatcher.run.2.2 = earlier ++ [last] ∧
      last.endsRun = true ∧ (∀ event ∈ earlier, event.endsRun = false) ∧
      dispatcher.Ends dispatcher.run.1 last ∧
      (last.message = "Route dispatched" ↔ dispatcher.run.1 = true) ∧
      (last.message = "Route handler could not be invoked" ↔
        ∃ (hit : RouteMatch) (params : Params) (error : HandlerError),
          hit.IsFirst dispatcher.valuesFor? dispatcher.table.routes params ∧
            (hit.invoke dispatcher.classes params).1 = .error error) ∧
      (last.message = "No route matched" ↔
        ∀ route ∈ dispatcher.table.routes,
          dispatcher.valuesFor? route.pattern = none) ∧
      last.level =
        (if last.message = "Route handler could not be invoked" then .warn
          else .debug) ∧
      earlier = dispatcher.scanned.flatMap dispatcher.notes ∧
      (dispatcher.scanned.map Route.pattern).Nodup ∧
      (earlier.filter (·.message = "Route pattern rejected") =
        dispatcher.scanned.filterMap fun route =>
          Router.rejection? route.pattern dispatcher.path
            dispatcher.caseSensitive) ∧
      (earlier.filter (·.message = "Compiled route pattern") =
        dispatcher.scanned.filterMap fun route => dispatcher.router.compilation?
          route.pattern dispatcher.path dispatcher.caseSensitive) ∧
      ∀ event ∈ earlier, event.level =
        if event.message = "Route pattern rejected" then .warn else .trace := by
  intro dispatcher
  have hnew : Sound { router, path } := sound_new hrouter path
  have hsound : dispatcher.Sound := hnew.performAll actions
  have hdistinct : dispatcher.table.patterns.Nodup :=
    hnew.distinct_performAll List.nodup_nil actions
  -- the search is reported route by route; the last event is what the run adds
  have hreport := search_report hsound hdistinct
  obtain ⟨hdispatched, hfailed, hunmatched⟩ := hsound.ends.message
  refine ⟨_, _, run_events dispatcher, hsound.ends.level.1,
    fun event hevent => (level_of_search hevent).1, hsound.ends,
    hdispatched, hfailed, hunmatched, hsound.ends.level.2, hreport, ?_, ?_, ?_,
    fun event hevent => (level_of_search hevent).2⟩
  · exact hdistinct.sublist ((scannedFrom_sublist _ _).map _)
  · rw [hreport, List.filter_flatMap, List.filterMap_eq_flatMap_toList]
    simp only [notes, Router.filter_report_rejected]
  · rw [hreport, List.filter_flatMap, List.filterMap_eq_flatMap_toList]
    simp only [notes, Router.filter_report_compiled]

theorem log_of_run_again :
    (Router.withCache {}).Reachable ∧ ∃ earlier last,
      (performAll { router := .withCache {}, path := "/a" }
        [.set "(" (.closure .counter), .set "/@x" (.closure .counter),
          .run]).run.2.2 =
          earlier ++ [last] ∧
      last.message = "Route dispatched" ∧
      (earlier.filter (·.message = "Route pattern rejected")).length = 1 ∧
      earlier.filter (·.message = "Compiled route pattern") = [] := by
  obtain ⟨earlier, last, hevents, -, -, -, hdispatched, -, -, -, -, -,
      hrejected, hcompiled, -⟩ :=
    log_of_run .withCache "/a"
      [.set "(" (.closure .counter), .set "/@x" (.closure .counter), .run]
  refine ⟨.withCache, earlier, last, hevents, hdispatched.mpr rfl, ?_, ?_⟩
  · rw [hrejected]
    rfl
  · rw [hcompiled]
    rfl

end Dispatcher

end Signpost
