import Signpost.Router.Pool
import Signpost.Proofs.Router.Coherence

/-!
# Sharing a cache changes no answer

A pool is compared with the pool of the same routers without any cache.  As long
as the caches are coherent, a request and the request that opens no cache are
answered alike, but for what is asked about the caches themselves, and the two
pools stay alike.
-/

namespace Signpost

namespace Router

def detached (router : Router) : Router := { params := router.params }

@[simp]
theorem detached_params (router : Router) :
    router.detached.params = router.params := rfl

@[simp]
theorem detached_cache (router : Router) : router.detached.cache = none := rfl

theorem coherent_detached (router : Router) : router.detached.Coherent :=
  fun _ hcache => nomatch hcache

theorem eq_detached {router : Router} (h : router.cache = none) :
    router = router.detached := by
  obtain ⟨cache, params⟩ := router
  cases h
  rfl

private theorem matchPath_detached (router : Router) (pattern path : String)
    (caseSensitive : Bool) :
    (router.detached.matchPath pattern path caseSensitive).2.1.cache =
      none := by
  simp only [matchPath, compile, detached]
  split
  · rfl
  · cases CompiledPattern.compile pattern caseSensitive with
    | error error => rfl
    | ok compiled =>
        simp only [Except.map]
        cases compiled.captures path <;> rfl

/--
What is done with a router does not depend on its cache: what is seen of the
answer, and the values that the router is left with, are those without a cache.
-/
def Indifferent {α β : Type} (view : α → β)
    (action : Router → α × Router × List Event) :
    Prop :=
  ∀ router : Router, router.Coherent →
    view (action router).1 = view (action router.detached).1 ∧
      (action router).2.1.detached = (action router.detached).2.1 ∧
      (action router).2.1.Coherent

theorem compiled_cases {result plain : Except PatternError Compilation}
    (h : result.map Compilation.compiled = plain.map Compilation.compiled) :
    (∃ error, result = .error error ∧ plain = .error error) ∨
      ∃ first second : Compilation, result = .ok first ∧ plain = .ok second ∧
        first.compiled = second.compiled := by
  cases result <;> cases plain <;> simp_all [Except.map]

theorem indifferent_compile (pattern : String) (caseSensitive : Bool) :
    Indifferent (Except.map Compilation.compiled)
      (fun router => router.compile pattern caseSensitive) := by
  intro router h
  obtain ⟨hresult, hcoherent, hparams⟩ := h.compile pattern caseSensitive
  obtain ⟨hbare, -, -⟩ := router.coherent_detached.compile pattern caseSensitive
  refine ⟨hresult.trans hbare.symm, ?_, hcoherent⟩
  rw [detached, hparams]
  rfl

theorem indifferent_matchPath (pattern path : String) (caseSensitive : Bool) :
    Indifferent id
      (fun router => router.matchPath pattern path caseSensitive) := by
  intro router h
  obtain ⟨hfound, hparams, hcoherent⟩ := h.matchPath pattern path caseSensitive
  obtain ⟨hbare, hvalues, -⟩ :=
    router.coherent_detached.matchPath pattern path caseSensitive
  refine ⟨hfound.trans hbare.symm, ?_, hcoherent⟩
  rw [eq_detached (router.matchPath_detached pattern path caseSensitive),
    detached, hparams, ← hvalues]
  rfl

end Router

def RouterRequest.uncached : RouterRequest → RouterRequest
  | .openOwn | .openCommon => .openUncached
  | request => request

/-- The answer without what it says of caches and of their entries. -/
def RouterRequest.view : RouterRequest → RouterAnswer → RouterAnswer
  | .same .., .flag _ | .cacheClear _, .flag _ => .flag true
  | .cacheSize _, .size _ => .size none
  | .cacheIsEmpty _, .empty _ => .empty none
  | _, answer => answer

theorem RouterRequest.view_uncached (request : RouterRequest)
    (answer : RouterAnswer) :
    request.uncached.view answer = request.view answer := by
  cases request <;> cases answer <;> rfl

namespace RouterPool

variable {α β : Type} {view : α → β} {pool : RouterPool} {number : Nat}

def Coherent (pool : RouterPool) : Prop := ∀ cache ∈ pool.caches, cache.Coherent

def bare (pool : RouterPool) : RouterPool :=
  { seats := pool.seats.map fun seat => { params := seat.params } }

structure Alike (view : α → β) (outcome plain : α × RouterPool × List Event) :
    Prop where
  answer : view outcome.1 = view plain.1
  pool : outcome.2.1.bare = plain.2.1
  coherent : outcome.2.1.Coherent

theorem coherent_empty : ({} : RouterPool).Coherent :=
  fun _ hcache => nomatch hcache

theorem Coherent.router? (h : pool.Coherent) {router : Router}
    (hrouter : pool.router? number = some router) : router.Coherent := by
  simp only [RouterPool.router?, cacheOf?, Option.map_eq_some_iff] at hrouter
  obtain ⟨seat, -, rfl⟩ := hrouter
  intro cache hcache
  obtain ⟨place, -, hplace⟩ := Option.bind_eq_some_iff.mp hcache
  exact h cache (List.mem_of_getElem? hplace)

theorem Coherent.addCache (h : pool.Coherent) : pool.addCache.2.Coherent := by
  intro cache hcache
  rcases List.mem_append.mp hcache with hold | hnew
  · exact h cache hold
  · rw [List.mem_singleton.mp hnew]
    exact PatternCache.coherent_empty

theorem Coherent.store (h : pool.Coherent) {router : Router}
    (hrouter : router.Coherent)
    (number : Nat) : (pool.store number router).Coherent := by
  intro cache hcache
  rw [RouterPool.store] at hcache
  split at hcache
  · exact h cache hcache
  · simp only [storeCache] at hcache
    split at hcache
    · rename_i hkept
      rcases List.mem_or_eq_of_mem_set hcache with hold | rfl
      · exact h cache hold
      · exact hrouter cache hkept
    · exact h cache hcache

@[simp]
theorem router?_bare (pool : RouterPool) (number : Nat) :
    pool.bare.router? number = (pool.router? number).map Router.detached := by
  simp only [router?, bare, List.getElem?_map, Option.map_map]
  rfl

@[simp]
theorem bare_size (pool : RouterPool) :
    pool.bare.seats.length = pool.seats.length :=
  List.length_map _

@[simp]
theorem storeCache_seats (pool : RouterPool) (number : Option Nat)
    (cache : Option PatternCache) :
      (pool.storeCache number cache).seats = pool.seats := by
  cases number <;> cases cache <;> rfl

@[simp]
theorem storeCache_none (pool : RouterPool) (number : Option Nat) :
    pool.storeCache number none = pool := by
  cases number <;> rfl

theorem store_bare (pool : RouterPool) (number : Nat) (router : Router) :
    (pool.store number router).bare =
      pool.bare.store number router.detached := by
  simp only [store, bare, List.getElem?_map]
  cases pool.seats[number]? with
  | none => rfl
  | some seat => simp

theorem Coherent.addSeat (h : pool.Coherent) (seat : Seat)
    {view : RouterAnswer → β} :
    Alike view ((pool.addSeat seat).1, (pool.addSeat seat).2, [])
      ((pool.bare.addSeat { params := seat.params }).1,
        (pool.bare.addSeat { params := seat.params }).2, []) :=
  ⟨by simp [RouterPool.addSeat, bare], by simp [RouterPool.addSeat, bare], h⟩

theorem Coherent.use (h : pool.Coherent) {view : RouterAnswer → β}
    {action : Router → RouterAnswer × Router × List Event}
    (haction : Router.Indifferent view action) (number : Nat) :
    Alike view (pool.use number action) (pool.bare.use number action) := by
  simp only [RouterPool.use, router?_bare]
  cases hrouter : pool.router? number with
  | none => exact ⟨rfl, rfl, h⟩
  | some router =>
      obtain ⟨hanswer, hafter, hcoherent⟩ := haction router (h.router? hrouter)
      refine ⟨hanswer, ?_, h.store hcoherent number⟩
      rw [store_bare, hafter]
      rfl

theorem Coherent.compileWith (h : pool.Coherent) (number : Nat)
    (pattern : String) (caseSensitive : Bool) :
    Alike (Option.map (Except.map Compilation.compiled))
      (pool.compileWith number pattern caseSensitive)
      (pool.bare.compileWith number pattern caseSensitive) := by
  simp only [RouterPool.compileWith, router?_bare]
  cases hrouter : pool.router? number with
  | none => exact ⟨rfl, rfl, h⟩
  | some router =>
      obtain ⟨hresult, hafter, hcoherent⟩ :=
        Router.indifferent_compile pattern caseSensitive router
          (h.router? hrouter)
      refine ⟨congrArg some hresult, ?_, h.store hcoherent number⟩
      rw [store_bare, hafter]
      rfl

theorem lookup_cases {found plain : Option (Except PatternError Compilation)}
    (h : found.map (Except.map Compilation.compiled) =
      plain.map (Except.map Compilation.compiled)) :
    (found = none ∧ plain = none) ∨
      (∃ error, found = some (.error error) ∧ plain = some (.error error)) ∨
      ∃ first second : Compilation, found = some (.ok first) ∧
        plain = some (.ok second) := by
  cases found <;> cases plain <;>
    simp only [Option.map_none, Option.map_some] at h
  case none.none => exact .inl ⟨rfl, rfl⟩
  case none.some => cases h
  case some.none => cases h
  case some.some result plain =>
    obtain ⟨error, rfl, rfl⟩ | ⟨first, second, rfl, rfl, -⟩ :=
      Router.compiled_cases (Option.some.inj h)
    · exact .inr (.inl ⟨error, rfl, rfl⟩)
    · exact .inr (.inr ⟨first, second, rfl, rfl⟩)

theorem Coherent.same (h : pool.Coherent) (number other : Nat)
    (pattern : String) (caseSensitive otherCase : Bool) :
    let request :=
      RouterRequest.same number other pattern caseSensitive otherCase
    Alike request.view (pool.answer request) (pool.bare.answer request) := by
  intro request
  obtain ⟨hfirst, hafter, hcoherent⟩ :=
    h.compileWith number pattern caseSensitive
  simp only [request, RouterPool.answer, ← hafter]
  obtain ⟨hnone, hplain⟩ | ⟨error, hfull, hplain⟩ |
      ⟨first, plain, hfull, hplain⟩ :=
    lookup_cases hfirst
  · rw [hnone, hplain]
    exact ⟨rfl, rfl, hcoherent⟩
  · rw [hfull, hplain]
    exact ⟨rfl, rfl, hcoherent⟩
  · obtain ⟨hsecond, hlast, hfinal⟩ :=
      hcoherent.compileWith other pattern otherCase
    rw [hfull, hplain]
    dsimp only
    rw [← hlast]
    obtain ⟨hnone, hbare⟩ | ⟨error, hresult, hbare⟩ |
        ⟨second, later, hresult, hbare⟩ :=
      lookup_cases hsecond
    · rw [hnone, hbare]
      exact ⟨rfl, rfl, hfinal⟩
    · rw [hresult, hbare]
      exact ⟨rfl, rfl, hfinal⟩
    · rw [hresult, hbare]
      exact ⟨rfl, rfl, hfinal⟩

/-- A request is answered as it is without caches, which stay coherent. -/
theorem Coherent.answer (h : pool.Coherent) (request : RouterRequest) :
    Alike request.view (pool.answer request)
      (pool.bare.answer request.uncached) := by
  cases request <;> simp only [RouterPool.answer, RouterRequest.uncached]
  case openOwn => exact h.addCache.addSeat { cache := some pool.addCache.1 }
  case openCommon =>
      split
      · exact h.addSeat _
      · have hadded :
            Coherent { pool.addCache.2 with common := some pool.addCache.1 } :=
          h.addCache
        exact hadded.addSeat { cache := some pool.addCache.1 }
  case openUncached => exact h.addSeat {}
  case copy number =>
      simp only [bare, List.getElem?_map]
      cases pool.seats[number]? with
      | none => exact ⟨rfl, rfl, h⟩
      | some seat => exact h.addSeat seat
  case matchPath number pattern path caseSensitive =>
      refine h.use (fun router hrouter => ?_) number
      obtain ⟨hfound, hafter, hcoherent⟩ :=
        Router.indifferent_matchPath pattern path caseSensitive router hrouter
      have hvalues := congrArg Router.params hafter
      simp only [id_eq, Router.detached_params] at hfound hvalues
      exact ⟨by simp only [RouterRequest.view, hfound, hvalues],
        hafter, hcoherent⟩
  case accepts number pattern path =>
      refine h.use (fun router hrouter => ?_) number
      obtain ⟨hfound, hafter, hcoherent⟩ :=
        Router.indifferent_matchPath pattern path false router hrouter
      exact ⟨congrArg RouterAnswer.flag hfound, hafter, hcoherent⟩
  case params number =>
      exact h.use (fun router hrouter => ⟨rfl, rfl, hrouter⟩) number
  case takeParams number =>
      exact h.use (fun router hrouter => ⟨rfl, rfl, hrouter.takeParams⟩) number
  case compile number pattern caseSensitive =>
      refine h.use (fun router hrouter => ?_) number
      obtain ⟨hresult, hafter, hcoherent⟩ :=
        Router.indifferent_compile pattern caseSensitive router hrouter
      obtain ⟨error, hfull, hbare⟩ | ⟨first, second, hfull, hbare, heq⟩ :=
        Router.compiled_cases hresult
      · rw [hfull, hbare]
        exact ⟨rfl, hafter, hcoherent⟩
      · rw [hfull, hbare]
        exact ⟨congrArg RouterAnswer.compiled heq, hafter, hcoherent⟩
  case make number pattern values =>
      exact h.use (fun router hrouter => ⟨rfl, rfl, hrouter⟩) number
  case same number other pattern caseSensitive otherCase =>
      exact h.same number other pattern caseSensitive otherCase
  case cacheSize number =>
      exact h.use (fun router hrouter => ⟨rfl, rfl, hrouter⟩) number
  case cacheIsEmpty number =>
      exact h.use (fun router hrouter => ⟨rfl, rfl, hrouter⟩) number
  case cacheClear number =>
      exact h.use (fun router _ => ⟨rfl, rfl, router.coherent_clearCache⟩)
        number

end RouterPool

end Signpost
