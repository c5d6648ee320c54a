import Signpost.Proofs.Router.Sharing

/-!
# What requests do to a pool

A request opens a router, or uses one and leaves it changed, or looks up through
two, one after the other.  The routers that a pool has keep the numbers of their
caches, and a cache with the number is always there.
-/

namespace Signpost

namespace Router

theorem compile_cache (router : Router) (pattern : String)
    (caseSensitive : Bool) :
    (router.compile pattern caseSensitive).2.1.cache =
      router.cache.map fun cache =>
        (cache.getOrCompile pattern caseSensitive).2.1 := by
  cases hcache : router.cache with
  | none => simp [compile, hcache]
  | some cache => simp [compile, hcache]

theorem matchPath_cache (router : Router) (pattern path : String)
    (caseSensitive : Bool) :
    (router.matchPath pattern path caseSensitive).2.1.cache =
      if pattern = "*" ∨ pattern = path then router.cache
      else (router.compile pattern caseSensitive).2.1.cache := by
  have hempty :
      (compile { router with params := {} } pattern caseSensitive).2.1.cache =
      (router.compile pattern caseSensitive).2.1.cache := by
    rw [compile_cache, compile_cache]
  rw [← hempty, matchPath]
  split
  · rfl
  · dsimp only
    cases (compile { router with params := {} } pattern caseSensitive).1 with
    | error error => rfl
    | ok compilation =>
        dsimp only
        cases compilation.compiled.captures path <;> rfl

end Router

namespace RouterPool

variable {pool : RouterPool} {number router : Nat}

def after (pool : RouterPool) (requests : List RouterRequest) : RouterPool :=
  requests.foldl (fun pool request => (pool.answer request).2.1) pool

def cacheNumber? (pool : RouterPool) (router : Nat) : Option Nat :=
  pool.seats[router]?.bind Seat.cache

def params? (pool : RouterPool) (router : Nat) : Option Params :=
  pool.seats[router]?.map Seat.params

def cacheAt (pool : RouterPool) (number : Nat) : PatternCache :=
  pool.caches[number]?.getD {}

structure Linked (pool : RouterPool) : Prop where
  seats : ∀ seat ∈ pool.seats, ∀ number, seat.cache = some number →
    number < pool.caches.length
  common : ∀ number, pool.common = some number → number < pool.caches.length

theorem after_append (pool : RouterPool) (earlier later : List RouterRequest) :
    pool.after (earlier ++ later) = (pool.after earlier).after later := by
  simp [after]

theorem Linked.lt_of_cacheNumber? (h : pool.Linked)
    (hnumber : pool.cacheNumber? router = some number) :
      number < pool.caches.length := by
  obtain ⟨seat, hseat, hcache⟩ := Option.bind_eq_some_iff.mp hnumber
  exact h.seats seat (List.mem_of_getElem? hseat) number hcache

theorem Linked.router?_eq (h : pool.Linked) (router : Nat) :
    pool.router? router = (pool.params? router).map fun params =>
      ⟨(pool.cacheNumber? router).map pool.cacheAt, params⟩ := by
  simp only [RouterPool.router?, params?, cacheNumber?]
  cases hseat : pool.seats[router]? with
  | none => simp
  | some seat =>
      cases hcache : seat.cache with
      | none => simp [cacheOf?, hcache]
      | some number =>
          have hlt := h.seats seat (List.mem_of_getElem? hseat) number hcache
          simp [cacheOf?, cacheAt, hcache, hlt]

/-! ## Routers in use -/

def update (pool : RouterPool) (number : Nat) (change : Router → Router) :
    RouterPool :=
  match pool.router? number with
  | none => pool
  | some router => pool.store number (change router)

variable {change : Router → Router}

theorem use_eq_update (pool : RouterPool) (number : Nat)
    (action : Router → RouterAnswer × Router × List Event) :
    (pool.use number action).2.1 = pool.update number fun router =>
      (action router).2.1 := by
  simp only [use, update]
  cases pool.router? number <;> rfl

private theorem storeCache_length (pool : RouterPool) (number : Option Nat)
    (cache : Option PatternCache) :
    (pool.storeCache number cache).caches.length = pool.caches.length := by
  cases number <;> cases cache <;> simp [storeCache]

private theorem storeCache_common (pool : RouterPool) (number : Option Nat)
    (cache : Option PatternCache) :
      (pool.storeCache number cache).common = pool.common := by
  cases number <;> cases cache <;> rfl

/-- What stays as it is when a router is used. -/
structure Frame (pool after : RouterPool) : Prop where
  seats : after.seats.length = pool.seats.length
  caches : after.caches.length = pool.caches.length
  common : after.common = pool.common
  cacheNumber? : ∀ router, after.cacheNumber? router = pool.cacheNumber? router

theorem Frame.refl (pool : RouterPool) : Frame pool pool :=
  ⟨rfl, rfl, rfl, fun _ => rfl⟩

theorem Frame.trans {first second : RouterPool} (h : Frame pool first)
    (hnext : Frame first second) : Frame pool second :=
  ⟨hnext.seats.trans h.seats, hnext.caches.trans h.caches,
    hnext.common.trans h.common, fun router =>
      (hnext.cacheNumber? router).trans (h.cacheNumber? router)⟩

private theorem store_frame (pool : RouterPool) (number : Nat)
    (router : Router) :
    Frame pool (pool.store number router) := by
  simp only [store]
  cases hseat : pool.seats[number]? with
  | none => exact .refl pool
  | some seat =>
      refine ⟨by simp, by simp [storeCache_length],
        by simp [storeCache_common], ?_⟩
      intro other
      simp only [cacheNumber?, storeCache_seats, List.getElem?_set]
      split
      · next heq =>
          subst heq
          split <;> simp_all
      · rfl

theorem update_frame (pool : RouterPool) (number : Nat)
    (change : Router → Router) :
    Frame pool (pool.update number change) := by
  rw [update]
  split
  · exact .refl pool
  · exact pool.store_frame number _

theorem Linked.of_frame (h : pool.Linked) {after : RouterPool}
    (hframe : Frame pool after) :
    after.Linked := by
  refine ⟨fun seat hseat number hcache => ?_, fun number hcommon => ?_⟩
  · obtain ⟨router, hrouter⟩ := List.mem_iff_getElem?.mp hseat
    have hnumber : after.cacheNumber? router = some number := by
      simp [cacheNumber?, hrouter, hcache]
    rw [hframe.cacheNumber?] at hnumber
    rw [hframe.caches]
    exact h.lt_of_cacheNumber? hnumber
  · rw [hframe.caches]
    exact h.common number (hframe.common ▸ hcommon)

theorem update_params? (pool : RouterPool) (number : Nat)
    (change : Router → Router) (router : Nat) :
    (pool.update number change).params? router =
      if router = number then (pool.router? number).map fun router =>
        (change router).params
      else pool.params? router := by
  by_cases heq : router = number
  · subst heq
    cases hseat : pool.seats[router]? with
    | none => simp [update, RouterPool.router?, params?, hseat]
    | some seat =>
        have hlt : router < pool.seats.length :=
          (List.getElem?_eq_some_iff.mp hseat).1
        simp [update, RouterPool.router?, store, params?, hlt]
  · cases hseat : pool.seats[number]? with
    | none => simp [update, RouterPool.router?, hseat, heq]
    | some seat =>
        simp [update, RouterPool.router?, store, params?,
          hseat, heq, Ne.symm heq]

theorem Linked.update_cacheAt (h : pool.Linked)
    {effect : PatternCache → PatternCache}
    (heffect : ∀ router, (change router).cache = router.cache.map effect)
    (router number : Nat) :
    (pool.update router change).cacheAt number =
      if pool.cacheNumber? router = some number then effect
        (pool.cacheAt number)
      else pool.cacheAt number := by
  rw [update, h.router?_eq]
  cases hseat : pool.seats[router]? with
  | none => simp [params?, cacheNumber?, hseat]
  | some seat =>
      cases hcache : seat.cache with
      | none =>
          simp [params?, cacheNumber?, store, hseat, hcache, heffect, cacheAt]
      | some place =>
          have hlt := h.seats seat (List.mem_of_getElem? hseat) place hcache
          by_cases heq : place = number
          · subst heq
            simp [params?, cacheNumber?, store, storeCache, hseat,
              hcache, heffect, cacheAt, hlt]
          · simp [params?, cacheNumber?, store, storeCache, hseat,
              hcache, heffect, cacheAt, heq]

/-! ## Requests -/

theorem answer_matchPath (pool : RouterPool) (number : Nat)
    (pattern path : String) (caseSensitive : Bool) :
    (pool.answer (.matchPath number pattern path caseSensitive)).2.1 =
      pool.update number fun router =>
        (router.matchPath pattern path caseSensitive).2.1 :=
  pool.use_eq_update number _

theorem answer_accepts (pool : RouterPool) (number : Nat)
    (pattern path : String) :
    (pool.answer (.accepts number pattern path)).2 =
      (pool.answer (.matchPath number pattern path false)).2 := by
  simp only [answer, use]
  cases pool.router? number <;> rfl

theorem answer_compile (pool : RouterPool) (number : Nat) (pattern : String)
    (caseSensitive : Bool) :
    (pool.answer (.compile number pattern caseSensitive)).2.1 =
      pool.update number fun router =>
        (router.compile pattern caseSensitive).2.1 := by
  simp only [answer, use_eq_update]
  congr 1
  funext router
  cases (router.compile pattern caseSensitive).1 <;> rfl

theorem answer_cacheClear (pool : RouterPool) (number : Nat) :
    (pool.answer (.cacheClear number)).2.1 =
      pool.update number Router.clearCache :=
  pool.use_eq_update number _

theorem compileWith_fst (pool : RouterPool) (number : Nat) (pattern : String)
    (caseSensitive : Bool) :
    (pool.compileWith number pattern caseSensitive).1 =
      (pool.router? number).map fun router =>
        (router.compile pattern caseSensitive).1 := by
  rw [compileWith]
  cases pool.router? number <;> rfl

theorem compileWith_pool (pool : RouterPool) (number : Nat) (pattern : String)
    (caseSensitive : Bool) :
    (pool.compileWith number pattern caseSensitive).2.1 =
      (pool.answer (.compile number pattern caseSensitive)).2.1 := by
  rw [answer_compile, update, compileWith]
  cases pool.router? number <;> rfl

theorem answer_same (pool : RouterPool) (router other : Nat) (pattern : String)
    (caseSensitive otherCase : Bool) :
    (pool.answer (.same router other pattern caseSensitive otherCase)).2.1 =
      match (pool.compileWith router pattern caseSensitive).1 with
      | some (.ok _) =>
          ((pool.answer (.compile router pattern caseSensitive)).2.1.answer
          (.compile other pattern otherCase)).2.1
      | _ => (pool.answer (.compile router pattern caseSensitive)).2.1 := by
  rw [← compileWith_pool, ← compileWith_pool, answer]
  rcases pool.compileWith router pattern caseSensitive with
    ⟨_ | error | compilation, first, events⟩
  · rfl
  · rfl
  · dsimp only
    rcases first.compileWith other pattern
      otherCase with ⟨_ | error | other, second, more⟩ <;>
      rfl

def opened? (pool : RouterPool) : RouterRequest → Option Seat
  | .openOwn => some { cache := some pool.caches.length }
  | .openCommon => some { cache := some (pool.common.getD pool.caches.length) }
  | .openUncached => some {}
  | .copy router => pool.seats[router]?
  | _ => none

/-- What becomes of a pool when a router is opened. -/
structure Opening (pool : RouterPool) (seat : Seat)
    (after : RouterPool) : Prop where
  seats : after.seats = pool.seats ++ [seat]
  cacheAt : ∀ number, after.cacheAt number = pool.cacheAt number
  linked : pool.Linked → after.Linked

theorem cacheAt_addCache (pool : RouterPool) (number : Nat) :
    pool.addCache.2.cacheAt number = pool.cacheAt number := by
  rcases Nat.lt_trichotomy number pool.caches.length with hlt | heq | hgt
  · simp [cacheAt, addCache, List.getElem?_append_left hlt]
  · simp [cacheAt, addCache, heq]
  · have hnone : pool.caches[number]? = none :=
      List.getElem?_eq_none (Nat.le_of_lt hgt)
    have hnone' : pool.addCache.2.caches[number]? = none := by
      apply List.getElem?_eq_none
      simp only [addCache, List.length_append, List.length_singleton]
      omega
    rw [cacheAt, cacheAt, hnone, hnone']

theorem Linked.addCache (h : pool.Linked) : pool.addCache.2.Linked := by
  refine ⟨fun seat hseat number hcache => ?_, fun number hcommon => ?_⟩
  · have hlt := h.seats seat hseat number hcache
    simp only [RouterPool.addCache, List.length_append, List.length_singleton]
    omega
  · have hlt := h.common number hcommon
    simp only [RouterPool.addCache, List.length_append, List.length_singleton]
    omega

theorem Linked.addSeat (h : pool.Linked) {seat : Seat}
    (hseat : ∀ number, seat.cache = some number → number < pool.caches.length) :
    (pool.addSeat seat).2.Linked := by
  refine ⟨fun other hother => ?_, h.common⟩
  rcases List.mem_append.mp hother with hold | hnew
  · exact h.seats other hold
  · rw [List.mem_singleton.mp hnew]
    exact hseat

theorem answer_opening {request : RouterRequest} {seat : Seat}
    (hopened : pool.opened? request = some seat) :
    Opening pool seat (pool.answer request).2.1 := by
  cases request <;> simp only [opened?, Option.some.injEq, reduceCtorEq]
    at hopened
  case openOwn =>
    subst hopened
    refine ⟨rfl, pool.cacheAt_addCache, fun h => h.addCache.addSeat ?_⟩
    simp [addCache]
  case openCommon =>
    subst hopened
    cases hcommon : pool.common with
    | some number =>
        simp only [answer, hcommon]
        refine ⟨rfl, fun _ => rfl, fun h => h.addSeat ?_⟩
        simpa using h.common number hcommon
    | none =>
        simp only [answer, hcommon]
        refine ⟨rfl, pool.cacheAt_addCache, fun h => ?_⟩
        have hlinked :
            Linked { pool.addCache.2 with common := some pool.addCache.1 } :=
          ⟨h.addCache.seats, by simp [addCache]⟩
        apply hlinked.addSeat
        simp [addCache]
  case openUncached =>
    subst hopened
    exact ⟨rfl, fun _ => rfl, fun h => h.addSeat (by simp)⟩
  case copy router =>
    simp only [answer, hopened]
    exact ⟨rfl, fun _ => rfl,
      fun h => h.addSeat (h.seats seat (List.mem_of_getElem? hopened))⟩

theorem answer_frame {request : RouterRequest}
    (hopened : pool.opened? request = none) :
    Frame pool (pool.answer request).2.1 := by
  cases request <;> simp only [opened?, reduceCtorEq] at hopened
  case copy router =>
    simp only [answer, hopened]
    exact .refl pool
  case same router other pattern caseSensitive otherCase =>
    rw [answer_same]
    have hfirst :
        Frame pool
          (pool.answer (.compile router pattern caseSensitive)).2.1 := by
      rw [answer_compile]
      exact pool.update_frame _ _
    split
    · rw [answer_compile]
      exact hfirst.trans (update_frame _ _ _)
    · exact hfirst
  all_goals
    simp only [answer, use_eq_update]
    exact pool.update_frame _ _

theorem Linked.answer (h : pool.Linked) (request : RouterRequest) :
    (pool.answer request).2.1.Linked := by
  cases hopened : pool.opened? request with
  | none => exact h.of_frame (answer_frame hopened)
  | some seat => exact (answer_opening hopened).linked h

theorem answer_cacheNumber? (hlt : router < pool.seats.length)
    (request : RouterRequest) :
    router < (pool.answer request).2.1.seats.length ∧
      (pool.answer request).2.1.cacheNumber? router =
        pool.cacheNumber? router := by
  cases hopened : pool.opened? request with
  | none =>
      have hframe := answer_frame hopened
      exact ⟨hframe.seats ▸ hlt, hframe.cacheNumber? router⟩
  | some seat =>
      have hseats := (answer_opening hopened).seats
      constructor
      · simp [hseats]
        omega
      · simp [cacheNumber?, hseats, List.getElem?_append_left hlt]

theorem linked_empty : ({} : RouterPool).Linked :=
  ⟨by simp, by simp⟩

theorem Linked.after (h : pool.Linked) (requests : List RouterRequest) :
    (pool.after requests).Linked := by
  induction requests generalizing pool with
  | nil => exact h
  | cons request requests ih => exact ih (h.answer request)

theorem after_cacheNumber? (hlt : router < pool.seats.length)
    (requests : List RouterRequest) :
    router < (pool.after requests).seats.length ∧
      (pool.after requests).cacheNumber? router = pool.cacheNumber? router := by
  induction requests generalizing pool with
  | nil => exact ⟨hlt, rfl⟩
  | cons request requests ih =>
      obtain ⟨hnext, hnumber⟩ := answer_cacheNumber? hlt request
      obtain ⟨hlast, hkept⟩ := ih hnext
      exact ⟨hlast, hkept.trans hnumber⟩

theorem Coherent.after (h : pool.Coherent) (requests : List RouterRequest) :
    (pool.after requests).Coherent := by
  induction requests generalizing pool with
  | nil => exact h
  | cons request requests ih => exact ih (h.answer request).coherent

end RouterPool

end Signpost
