import Signpost.Config.Basic
import Signpost.Proofs.Dispatch.Runs
import Signpost.Proofs.Router.Sharing

/-!
# Services

A service is a pool of routers with dispatchers that match through them, so that
dispatchers share caches with routers and with one another.  Requests to routers
and to dispatchers come in any order.  The answers do not tell whether any of
the routers had a cache.
-/

namespace Signpost

/-! ## Dispatchers without their cache -/

namespace Dispatcher

def detached (dispatcher : Dispatcher) : Dispatcher :=
  { dispatcher with router := dispatcher.router.detached }

/--
What is done with a dispatcher does not depend on the cache of its router.
-/
def Indifferent {α : Type} (action : Dispatcher → α × Dispatcher) : Prop :=
  ∀ dispatcher : Dispatcher, dispatcher.router.Coherent →
    (action dispatcher).1 = (action dispatcher.detached).1 ∧
      (action dispatcher).2.detached = (action dispatcher.detached).2 ∧
      (action dispatcher).2.router.Coherent

private theorem indifferent_firstMatch (path : String) (caseSensitive : Bool)
    (routes : List Route) :
    Router.Indifferent id
      (fun router => firstMatch path caseSensitive router routes) := by
  induction routes with
  | nil => exact fun router h => ⟨rfl, rfl, h⟩
  | cons route rest ih =>
      intro router h
      obtain ⟨hfound, hafter, hcoherent⟩ :=
        Router.indifferent_matchPath route.pattern path caseSensitive router h
      simp only [id_eq] at hfound
      simp only [firstMatch, ← hfound]
      split
      · exact ⟨rfl, hafter, hcoherent⟩
      · obtain ⟨hlater, hfinal, hrest⟩ := ih _ hcoherent
        rw [← hafter]
        simp only [id_eq] at hlater
        exact ⟨by simp only [hlater], hfinal, hrest⟩

private theorem indifferent_run :
    Indifferent fun dispatcher => (dispatcher.run.1, dispatcher.run.2.1) := by
  intro dispatcher h
  obtain ⟨hhit, hafter, hcoherent⟩ := indifferent_firstMatch dispatcher.path
    dispatcher.caseSensitive dispatcher.table.routes dispatcher.router h
  simp only [id_eq] at hhit hafter hcoherent
  dsimp only [run, detached]
  rw [← hhit, ← hafter]
  generalize firstMatch dispatcher.path dispatcher.caseSensitive
    dispatcher.router dispatcher.table.routes = search at hcoherent
  obtain ⟨_ | ⟨before, route, after⟩, router, events⟩ := search
  · exact ⟨rfl, rfl, hcoherent⟩
  · simp only [Router.takeParams, Router.detached]
    generalize route.handler.invoke dispatcher.classes
      (Args.ofValues router.params.values) =
      outcome
    obtain ⟨_ | _, handler, classes⟩ := outcome <;>
      exact ⟨rfl, rfl, hcoherent.takeParams⟩

def acknowledge (dispatcher : Dispatcher) : Action → Bool
  | .run => dispatcher.run.1
  | .remove pattern => (dispatcher.remove pattern).1
  | _ => true

theorem indifferent_perform (action : Action) :
    Indifferent fun dispatcher =>
      (dispatcher.acknowledge action, dispatcher.perform action) := by
  cases action with
  | run => exact indifferent_run
  | compileElsewhere pattern caseSensitive =>
      intro dispatcher h
      obtain ⟨-, hafter, hcoherent⟩ :=
        Router.indifferent_compile pattern caseSensitive dispatcher.router h
      refine ⟨rfl, ?_, hcoherent⟩
      simp only [perform, detached, hafter]
  | clearCache =>
      exact fun dispatcher _ =>
        ⟨rfl, rfl, dispatcher.router.coherent_clearCache⟩
  | _ => exact fun dispatcher h => ⟨rfl, rfl, h⟩

end Dispatcher

namespace DispatchConfig

theorem bindRoutes_router (dispatcher : Dispatcher) (router : Router)
    (routes : List RouteConfig) :
    bindRoutes { dispatcher with router } routes =
      ((bindRoutes dispatcher routes).1,
        { (bindRoutes dispatcher routes).2.1 with router },
        (bindRoutes dispatcher routes).2.2) := by
  induction routes generalizing dispatcher with
  | nil => rfl
  | cons route rest ih =>
      simp only [bindRoutes]
      cases Target.parse? route.handler with
      | none => simp only [ih]
      | some target =>
          have hrest := ih (dispatcher.set route.pattern (.method target)).1
          simp only [Dispatcher.set] at hrest ⊢
          rw [hrest]

theorem bindRoutes_keeps (dispatcher : Dispatcher) (routes : List RouteConfig) :
    (bindRoutes dispatcher routes).2.1.router = dispatcher.router :=
  congrArg (·.2.1.router)
    (bindRoutes_router dispatcher dispatcher.router routes)

theorem indifferent_bind (config : DispatchConfig) :
    Dispatcher.Indifferent fun dispatcher =>
      ((config.bind dispatcher).1, (config.bind dispatcher).2.1) := by
  intro dispatcher h
  have hbare :=
    bindRoutes_router { dispatcher with caseSensitive := config.caseSensitive }
    dispatcher.router.detached config.routes
  have hrouter := bindRoutes_keeps
    { dispatcher with caseSensitive := config.caseSensitive } config.routes
  refine ⟨(congrArg (·.1) hbare).symm, ?_, hrouter ▸ h⟩
  refine Eq.trans ?_ (congrArg (·.2.1) hbare).symm
  simp only [bind, Dispatcher.detached, hrouter]

/-- But for its cache, a configured dispatcher does not depend on having one. -/
theorem dispatcher_detached (config : DispatchConfig)
    (cache other : PatternCache) (path : String) :
    (config.dispatcher cache path).1.detached =
      ({ config with cachePatterns := false }.dispatcher other
        path).1.detached := by
  have hrouter : (config.router cache).detached = Router.uncached.detached := by
    rw [router]
    split <;> rfl
  have hplain : { config with cachePatterns := false }.router other =
    .uncached := rfl
  have hbound := bindRoutes_router
    { router := .uncached, path, caseSensitive := config.caseSensitive }
    (config.router cache) config.routes
  have hkept := bindRoutes_keeps
    { router := .uncached, path, caseSensitive := config.caseSensitive }
      config.routes
  dsimp only at hbound hkept
  simp only [dispatcher, bind, hplain, hbound, hkept, hrouter,
    Dispatcher.detached]

end DispatchConfig

/-! ## Services -/

/--
Routers, and dispatchers with the numbers of their routers, which the pool
holds.
-/
structure Service where
  pool : RouterPool := {}
  dispatchers : List (Nat × Dispatcher) := []

inductive ServiceRequest where
  | router (request : RouterRequest)
  /-- A dispatcher that matches through a copy of a router. -/
  | openDispatcher (router : Nat) (path : String)
  /--
  A configured dispatcher, on the common cache unless the configuration wants
  none.
  -/
  | openConfigured (config : DispatchConfig) (path : String)
  | bind (dispatcher : Nat) (config : DispatchConfig)
  | act (dispatcher : Nat) (action : Dispatcher.Action)

inductive ServiceAnswer where
  | router (answer : RouterAnswer)
  | opened (number : Nat)
  | bound (routes : Nat) (dispatcher : Dispatcher)
  | acted (succeeded : Bool) (dispatcher : Dispatcher)
  | unknown

namespace ServiceRequest

/-- The request that opens no cache. -/
def uncached : ServiceRequest → ServiceRequest
  | .router request => .router request.uncached
  | .openConfigured config path =>
      .openConfigured { config with cachePatterns := false } path
  | request => request

def view : ServiceRequest → ServiceAnswer → ServiceAnswer
  | .router request, .router answer => .router (request.view answer)
  | _, answer => answer

end ServiceRequest

namespace Service

variable {service : Service}

def addDispatcher (service : Service) (seat : Nat) (dispatcher : Dispatcher) :
    ServiceAnswer × Service :=
  (.opened service.dispatchers.length,
    { service with dispatchers := service.dispatchers ++
      [(seat, dispatcher.detached)] })

def use {α : Type} (service : Service) (number : Nat)
    (action : Dispatcher → α × Dispatcher) :
      Option (α × Dispatcher) × Service :=
  match service.dispatchers[number]? with
  | none => (none, service)
  | some (seat, dispatcher) =>
    match service.pool.router? seat with
    | none => (none, service)
    | some router =>
      let (answer, dispatcher) := action { dispatcher with router }
      (some (answer, dispatcher.detached),
        { pool := service.pool.store seat dispatcher.router
          dispatchers :=
            service.dispatchers.set number (seat, dispatcher.detached) })

def answer (service : Service) : ServiceRequest → ServiceAnswer × Service
  | .router request =>
    let (answer, pool, _) := service.pool.answer request
    (.router answer, { service with pool })
  | .openDispatcher number path =>
    match service.pool.router? number with
    | none => (.unknown, service)
    | some router =>
      let seat := service.pool.seats.length
      let (_, pool, _) := service.pool.answer (.copy number)
      { service with pool }.addDispatcher seat { router, path }
  | .openConfigured config path =>
    let seat := service.pool.seats.length
    let (_, pool, _) :=
      service.pool.answer (if config.cachePatterns then .openCommon
        else .openUncached)
    let cache := ((pool.router? seat).bind Router.cache).getD {}
    { service with pool }.addDispatcher seat (config.dispatcher cache path).1
  | .bind number config =>
    let (answer, service) := service.use number fun dispatcher =>
      let (routes, dispatcher, _) := config.bind dispatcher
      (routes, dispatcher)
    match answer with
    | none => (.unknown, service)
    | some (routes, dispatcher) => (.bound routes dispatcher, service)
  | .act number action =>
    let (answer, service) := service.use number fun dispatcher =>
      (dispatcher.acknowledge action, dispatcher.perform action)
    match answer with
    | none => (.unknown, service)
    | some (succeeded, dispatcher) => (.acted succeeded dispatcher, service)

def answers (service : Service) : List ServiceRequest → List ServiceAnswer
  | [] => []
  | request :: requests =>
    request.view (service.answer request).1 :: answers
      (service.answer request).2 requests

def after (service : Service) (requests : List ServiceRequest) : Service :=
  requests.foldl (fun service request => (service.answer request).2) service

def bare (service : Service) : Service :=
  { service with pool := service.pool.bare }

@[simp]
theorem bare_pool (service : Service) : service.bare.pool = service.pool.bare :=
  rfl

theorem use_of_router {α : Type} {number seat : Nat} {dispatcher : Dispatcher}
    {router : Router} (hentry : service.dispatchers[number]? =
      some (seat, dispatcher))
    (hrouter : service.pool.router? seat = some router)
    (action : Dispatcher → α × Dispatcher) :
    let outcome := action { dispatcher with router }
    service.use number action =
      (some (outcome.1, outcome.2.detached),
        { pool := service.pool.store seat outcome.2.router
          dispatchers :=
            service.dispatchers.set number (seat, outcome.2.detached) }) := by
  simp only [use, hentry, hrouter]

theorem use_bare (h : service.pool.Coherent) {α : Type}
    {action : Dispatcher → α × Dispatcher}
    (haction : Dispatcher.Indifferent action) (number : Nat) :
    (service.use number action).1 = (service.bare.use number action).1 ∧
      (service.use number action).2.bare = (service.bare.use number action).2 ∧
      (service.use number action).2.pool.Coherent := by
  cases hentry : service.dispatchers[number]? with
  | none =>
      simpa [use, bare, hentry] using h
  | some entry =>
      obtain ⟨seat, dispatcher⟩ := entry
      cases hrouter : service.pool.router? seat with
      | none =>
          simp only [use, bare, RouterPool.router?_bare, hentry, hrouter]
          exact ⟨rfl, rfl, h⟩
      | some router =>
          obtain ⟨hanswer, hafter, hcoherent⟩ :=
            haction { dispatcher with router } (h.router? hrouter)
          have hdetached : service.bare.pool.router? seat =
              some router.detached := by
            simp [bare, hrouter]
          have hbare :=
            @use_of_router service.bare α number seat dispatcher _ hentry
            hdetached action
          rw [use_of_router hentry hrouter, hbare]
          simp only [Dispatcher.detached] at hanswer hafter
          dsimp only
          rw [hanswer, ← hafter]
          refine ⟨rfl, ?_, h.store hcoherent seat⟩
          simp only [bare, RouterPool.store_bare]
          rfl

theorem addDispatcher_bare {pool plain : RouterPool}
    {dispatcher other : Dispatcher} (hpool : pool.bare = plain)
    (hdetached : dispatcher.detached = other.detached) (seat : Nat) :
    ({ service with pool }.addDispatcher seat dispatcher).2.bare =
      ({ service with pool := plain }.addDispatcher seat other).2 := by
  simp only [addDispatcher, bare, hpool, hdetached]

private theorem answer_bare (h : service.pool.Coherent)
    (request : ServiceRequest) :
    request.view (service.answer request).1 =
        request.uncached.view (service.bare.answer request.uncached).1 ∧
      (service.answer request).2.bare =
        (service.bare.answer request.uncached).2 ∧
      (service.answer request).2.pool.Coherent := by
  cases request with
  | router request =>
      obtain ⟨hanswer, hpool, hcoherent⟩ := h.answer request
      refine ⟨?_, congrArg (Service.mk · service.dispatchers) hpool, hcoherent⟩
      exact congrArg ServiceAnswer.router
        (hanswer.trans (request.view_uncached _).symm)
  | openDispatcher number path =>
      obtain ⟨-, hpool, hcoherent⟩ := h.answer (.copy number)
      simp only [answer, ServiceRequest.uncached, bare_pool,
        RouterPool.router?_bare, RouterPool.bare_size]
      cases service.pool.router? number with
      | none => exact ⟨rfl, rfl, h⟩
      | some router =>
          refine ⟨rfl, ?_, hcoherent⟩
          exact addDispatcher_bare hpool rfl _
  | openConfigured config path =>
      obtain ⟨-, hpool, hcoherent⟩ :=
        h.answer (if config.cachePatterns then .openCommon else .openUncached)
      -- with or without a cache, what is opened is a router without one
      have hopen : RouterRequest.uncached
          (if config.cachePatterns then .openCommon else .openUncached) =
            .openUncached := by
        cases config.cachePatterns <;> rfl
      rw [hopen] at hpool
      refine ⟨rfl, ?_, hcoherent⟩
      simp only [answer, ServiceRequest.uncached, bare_pool,
        RouterPool.bare_size]
      exact addDispatcher_bare hpool (config.dispatcher_detached _ _ path) _
  | bind number config =>
      obtain ⟨hanswer, hafter, hcoherent⟩ :=
        use_bare h config.indifferent_bind number
      simp only [answer, ServiceRequest.uncached, ServiceRequest.view,
        ← hanswer, ← hafter]
      cases (service.use number fun dispatcher =>
        ((config.bind dispatcher).1, (config.bind dispatcher).2.1)).1 <;>
        exact ⟨rfl, rfl, hcoherent⟩
  | act number action =>
      obtain ⟨hanswer, hafter, hcoherent⟩ :=
        use_bare h (Dispatcher.indifferent_perform action) number
      simp only [answer, ServiceRequest.uncached, ServiceRequest.view,
        ← hanswer, ← hafter]
      cases (service.use number fun dispatcher =>
        (dispatcher.acknowledge action, dispatcher.perform action)).1 <;>
        exact ⟨rfl, rfl, hcoherent⟩

private theorem answers_bare (h : service.pool.Coherent)
    (requests : List ServiceRequest) :
    service.answers requests = service.bare.answers
      (requests.map ServiceRequest.uncached) ∧
      (service.after requests).bare =
        service.bare.after (requests.map ServiceRequest.uncached) := by
  induction requests generalizing service with
  | nil => exact ⟨rfl, rfl⟩
  | cons request requests ih =>
      obtain ⟨hanswer, hafter, hcoherent⟩ := answer_bare h request
      obtain ⟨hanswers, hlast⟩ := ih hcoherent
      rw [hafter] at hanswers hlast
      refine ⟨?_, hlast⟩
      rw [List.map_cons, answers, answers, hanswer, hanswers]

/--
Whatever is asked of routers and dispatchers, in whatever order and through
whatever caches, it is answered as if no router had a cache.
-/
theorem answers_uncached (requests : List ServiceRequest) :
    answers {} requests = answers {} (requests.map ServiceRequest.uncached) ∧
      ∀ seat ∈ (after {} (requests.map ServiceRequest.uncached)).pool.seats,
        seat.cache = none := by
  obtain ⟨hanswers, hafter⟩ :=
    @answers_bare {} RouterPool.coherent_empty requests
  refine ⟨hanswers, fun seat hseat => ?_⟩
  have hbare : ({} : Service).bare = {} := rfl
  rw [← hbare, ← hafter] at hseat
  obtain ⟨full, -, rfl⟩ := List.mem_map.mp hseat
  rfl

end Service

end Signpost
