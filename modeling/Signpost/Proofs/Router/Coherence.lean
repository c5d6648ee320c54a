import Signpost.Router.Basic

/-!
# Coherent caches

Every entry of a cache is what its pattern compiles to.  Compiling through such
a cache gives what compiling gives without one, so that a router answers in the
same way whatever its cache holds.
-/

namespace Signpost

variable {pattern path : String} {caseSensitive : Bool}

def CacheEntry.Coherent (entry : CacheEntry) : Prop :=
  CompiledPattern.compile entry.pattern entry.caseSensitive = .ok entry.compiled

def PatternCache.Coherent (cache : PatternCache) : Prop :=
  ∀ entry ∈ cache.entries, entry.Coherent

namespace PatternCache

variable {cache : PatternCache}

theorem coherent_empty : ({} : PatternCache).Coherent := by
  intro entry hentry
  cases hentry

theorem coherent_clear (cache : PatternCache) : cache.clear.Coherent := by
  intro entry hentry
  cases hentry

theorem Coherent.insert (h : cache.Coherent) {compiled : CompiledPattern}
    (hcompile : CompiledPattern.compile pattern caseSensitive = .ok compiled) :
    (cache.insert pattern caseSensitive compiled).Coherent := by
  intro entry hentry
  rcases List.mem_append.mp hentry with hold | hnew
  · exact h entry hold
  · rw [List.mem_singleton.mp hnew]
    exact hcompile

theorem Coherent.compile_of_find? (h : cache.Coherent) {entry : CacheEntry}
    (hfind : cache.find? pattern caseSensitive = some entry) :
    CompiledPattern.compile pattern caseSensitive = .ok entry.compiled := by
  have hkey := List.find?_some hfind
  simp only [decide_eq_true_eq] at hkey
  obtain ⟨rfl, rfl⟩ := hkey
  exact h entry (List.mem_of_find?_eq_some hfind)

/-- What a coherent cache answers with is what the pattern compiles to. -/
theorem Coherent.getOrCompile (h : cache.Coherent) (pattern : String)
    (caseSensitive : Bool) :
    (cache.getOrCompile pattern caseSensitive).1.map Compilation.compiled =
        CompiledPattern.compile pattern caseSensitive ∧
      (cache.getOrCompile pattern caseSensitive).2.1.Coherent := by
  rw [PatternCache.getOrCompile]
  cases hfind : cache.find? pattern caseSensitive with
  | some entry => exact ⟨(h.compile_of_find? hfind).symm, h⟩
  | none =>
      cases hcompile : CompiledPattern.compile pattern caseSensitive with
      | error error => exact ⟨rfl, h⟩
      | ok compiled => exact ⟨rfl, h.insert hcompile⟩

end PatternCache

namespace Router

def Coherent (router : Router) : Prop :=
  ∀ cache, router.cache = some cache → cache.Coherent

def clearCache (router : Router) : Router :=
  { router with cache := router.cache.map PatternCache.clear }

/--
Routers as they come about: new ones, those that take over the cache of another,
and those that they become by use.
-/
inductive Reachable : Router → Prop
  | withCache : Reachable (.withCache {})
  | uncached : Reachable .uncached
  | sharing {router} : Reachable router → Reachable { cache := router.cache }
  | compile {router} (pattern : String) (caseSensitive : Bool) :
      Reachable router → Reachable (router.compile pattern caseSensitive).2.1
  | matchPath {router} (pattern path : String) (caseSensitive : Bool) :
      Reachable router →
      Reachable (router.matchPath pattern path caseSensitive).2.1
  | takeParams {router} : Reachable router → Reachable router.takeParams.2
  | clearCache {router} : Reachable router → Reachable router.clearCache

variable {router : Router}

theorem Coherent.of_cache_eq {other : Router} (h : router.Coherent)
    (heq : other.cache = router.cache) : other.Coherent :=
  fun cache hcache => h cache (heq ▸ hcache)

theorem Coherent.compile (h : router.Coherent) (pattern : String)
    (caseSensitive : Bool) :
    (router.compile pattern caseSensitive).1.map Compilation.compiled =
        CompiledPattern.compile pattern caseSensitive ∧
      (router.compile pattern caseSensitive).2.1.Coherent ∧
      (router.compile pattern caseSensitive).2.1.params = router.params := by
  rw [Router.compile]
  cases hcache : router.cache with
  | none =>
      refine ⟨?_, h, rfl⟩
      cases CompiledPattern.compile pattern caseSensitive <;> rfl
  | some cache =>
      obtain ⟨hresult, hcoherent⟩ :=
        (h cache hcache).getOrCompile pattern caseSensitive
      refine ⟨hresult, fun other hother => ?_, rfl⟩
      cases hother
      exact hcoherent

/-- The values that a pattern takes from a path, no cache being asked. -/
def values? (pattern path : String) (caseSensitive : Bool) : Option Params :=
  if pattern = "*" ∨ pattern = path then some {}
  else
    match CompiledPattern.compile pattern caseSensitive with
    | .error _ => none
    | .ok compiled => compiled.captures path

theorem Coherent.matchPath (h : router.Coherent) (pattern path : String)
    (caseSensitive : Bool) :
    (router.matchPath pattern path caseSensitive).1 =
        (values? pattern path caseSensitive).isSome ∧
      (router.matchPath pattern path caseSensitive).2.1.params =
        (values? pattern path caseSensitive).getD {} ∧
      (router.matchPath pattern path caseSensitive).2.1.Coherent := by
  rw [Router.matchPath, values?]
  have hempty : Coherent { router with params := {} } := h.of_cache_eq rfl
  by_cases hplain : pattern = "*" ∨ pattern = path
  · rw [if_pos hplain, if_pos hplain]
    exact ⟨rfl, rfl, hempty⟩
  · rw [if_neg hplain, if_neg hplain]
    obtain ⟨hresult, hcoherent, hparams⟩ := hempty.compile pattern caseSensitive
    rw [← hresult]
    cases hcompile : (Router.compile { router with params := {} } pattern
      caseSensitive).1 with
    | error error =>
        simp only [hcompile, Except.map]
        exact ⟨rfl, hparams, hcoherent⟩
    | ok compilation =>
        simp only [hcompile, Except.map]
        cases compilation.compiled.captures path with
        | none => exact ⟨rfl, hparams, hcoherent⟩
        | some params => exact ⟨rfl, rfl, hcoherent.of_cache_eq rfl⟩

theorem Coherent.takeParams (h : router.Coherent) :
    router.takeParams.2.Coherent :=
  h.of_cache_eq rfl

theorem coherent_clearCache (router : Router) : router.clearCache.Coherent := by
  intro cache hcache
  obtain ⟨old, -, rfl⟩ := Option.map_eq_some_iff.mp hcache
  exact old.coherent_clear

theorem Reachable.coherent (h : Reachable router) : router.Coherent := by
  induction h with
  | withCache =>
      intro cache hcache
      cases hcache
      exact PatternCache.coherent_empty
  | uncached => exact fun cache hcache => nomatch hcache
  | sharing _ ih => exact ih.of_cache_eq rfl
  | compile pattern caseSensitive _ ih =>
      exact (ih.compile pattern caseSensitive).2.1
  | matchPath pattern path caseSensitive _ ih =>
      exact (ih.matchPath pattern path caseSensitive).2.2
  | takeParams _ ih => exact ih.takeParams
  | @clearCache router _ _ => exact router.coherent_clearCache

end Router

end Signpost
