import Signpost.Proofs.Router.Requests

/-!
# What a match reports

The events of a match can be told from the pattern, the path and what the cache
holds: a pattern that does not compile is rejected, and one that the cache does
not hold yet is compiled, unless the pattern is `*` or the path itself.  A match
adds nothing to the cache but its own pattern, so that it leaves the reports of
others.
-/

namespace Signpost

variable {pattern other path : String} {caseSensitive : Bool}

theorem CompiledPattern.pattern_of_compile {error : PatternError}
    (h : compile pattern caseSensitive = .error error) :
      error.pattern = pattern := by
  rw [compile] at h
  split at h
  · rw [← Except.error.inj h]
  · cases h

theorem PatternCache.find?_getOrCompile_of_ne (cache : PatternCache)
    (hne : other ≠ pattern) (caseSensitive otherCase : Bool) :
    (cache.getOrCompile pattern caseSensitive).2.1.find? other otherCase =
      cache.find? other otherCase := by
  rw [getOrCompile]
  cases cache.find? pattern caseSensitive with
  | some entry => rfl
  | none =>
      cases CompiledPattern.compile pattern caseSensitive with
      | error error => rfl
      | ok compiled => simp [insert, find?, List.find?_append, Ne.symm hne]

theorem PatternCache.Coherent.getOrCompile_report {cache : PatternCache}
    (h : cache.Coherent) (pattern : String) (caseSensitive : Bool) :
    (cache.getOrCompile pattern caseSensitive).2.2 =
      match CompiledPattern.compile pattern caseSensitive with
      | .error _ => []
      | .ok _ =>
        if (cache.find? pattern caseSensitive).isNone then
          [.patternCompiled pattern caseSensitive]
        else [] := by
  rw [PatternCache.getOrCompile]
  cases hfind : cache.find? pattern caseSensitive with
  | some entry =>
      rw [h.compile_of_find? hfind]
      rfl
  | none => cases CompiledPattern.compile pattern caseSensitive <;> rfl

namespace Router

def lacks (router : Router) (pattern : String) (caseSensitive : Bool) : Bool :=
  router.cache.any fun cache => (cache.find? pattern caseSensitive).isNone

def rejection? (pattern path : String) (caseSensitive : Bool) : Option Event :=
  if pattern = "*" ∨ pattern = path then none
  else
    match CompiledPattern.compile pattern caseSensitive with
    | .error error => some (.patternRejected ⟨pattern, error.cause⟩)
    | .ok _ => none

/-- The note that the pattern has been compiled and is kept from now on. -/
def compilation? (router : Router) (pattern path : String)
    (caseSensitive : Bool) :
    Option Event :=
  if pattern = "*" ∨ pattern = path then none
  else
    match CompiledPattern.compile pattern caseSensitive with
    | .error _ => none
    | .ok _ =>
      if router.lacks pattern caseSensitive then some
        (.patternCompiled pattern caseSensitive)
      else none

def matching? (pattern path : String) (caseSensitive : Bool) : Option Event :=
  if pattern = "*" ∨ pattern = path then none
  else
    match CompiledPattern.compile pattern caseSensitive with
    | .error _ => none
    | .ok compiled =>
      (compiled.captures path).map fun params =>
        .patternMatched pattern path params.size

def report (router : Router) (pattern path : String)
    (caseSensitive : Bool) : List Event :=
  (rejection? pattern path caseSensitive).toList ++
    (router.compilation? pattern path caseSensitive).toList ++
      (matching? pattern path caseSensitive).toList

variable {router : Router}

private theorem lacks_matchPath_of_ne (router : Router)
    (hne : other ≠ pattern) (path : String) (caseSensitive : Bool) :
    (router.matchPath pattern path caseSensitive).2.1.lacks
      other caseSensitive =
      router.lacks other caseSensitive := by
  rw [lacks, matchPath_cache]
  split
  · rfl
  · rw [compile_cache, Option.any_map]
    simp only [PatternCache.find?_getOrCompile_of_ne _ hne]
    rfl

theorem report_matchPath_of_ne (router : Router) (hne : other ≠ pattern)
    (path : String) (caseSensitive : Bool) :
    (router.matchPath pattern path caseSensitive).2.1.report
      other path caseSensitive =
      router.report other path caseSensitive := by
  rw [report, report, compilation?, compilation?,
    lacks_matchPath_of_ne router hne]

private theorem Coherent.compile_report (h : router.Coherent) (pattern : String)
    (caseSensitive : Bool) :
    (router.compile pattern caseSensitive).2.2 =
      match CompiledPattern.compile pattern caseSensitive with
      | .error _ => []
      | .ok _ =>
        if router.lacks pattern
          caseSensitive then [.patternCompiled pattern caseSensitive]
        else [] := by
  rw [Router.compile, lacks]
  cases hcache : router.cache with
  | none => cases CompiledPattern.compile pattern caseSensitive <;> rfl
  | some cache =>
      exact (h cache hcache).getOrCompile_report pattern caseSensitive

theorem Coherent.matchPath_report (h : router.Coherent) (pattern path : String)
    (caseSensitive : Bool) :
    (router.matchPath pattern path caseSensitive).2.2 =
      router.report pattern path caseSensitive := by
  rw [Router.matchPath, report, rejection?, compilation?, matching?]
  have hempty : Coherent { router with params := {} } := h.of_cache_eq rfl
  by_cases hplain : pattern = "*" ∨ pattern = path
  · simp only [if_pos hplain]
    rfl
  · simp only [if_neg hplain]
    have hevents := hempty.compile_report pattern caseSensitive
    obtain ⟨hresult, -, -⟩ := hempty.compile pattern caseSensitive
    have hlacks : lacks { router with params := {} } pattern caseSensitive =
        router.lacks pattern caseSensitive := rfl
    cases hcompile : (Router.compile { router with params := {} } pattern
      caseSensitive).1 with
    | error error =>
        have hplain : CompiledPattern.compile pattern caseSensitive =
            .error error := by
          rw [← hresult, hcompile]
          rfl
        simp only [hplain] at hevents ⊢
        rw [hevents, ← CompiledPattern.pattern_of_compile hplain]
        rfl
    | ok compilation =>
        have hplain : CompiledPattern.compile pattern caseSensitive =
            .ok compilation.compiled := by
          rw [← hresult, hcompile]
          rfl
        simp only [hplain, hlacks] at hevents ⊢
        cases compilation.compiled.captures path with
        | none => by_cases hnew : router.lacks pattern caseSensitive <;>
            simp [hevents, hnew]
        | some params =>
            by_cases hnew : router.lacks pattern caseSensitive <;>
              simp [hevents, hnew]

theorem message_of_rejection {event : Event}
    (h : event ∈ (rejection? pattern path caseSensitive).toList) :
    event.message = "Route pattern rejected" := by
  rw [Option.mem_toList, rejection?] at h
  split at h
  · cases h
  · split at h
    · cases h
      rfl
    · cases h

theorem message_of_compilation {event : Event}
    (h : event ∈ (router.compilation? pattern path caseSensitive).toList) :
    event.message = "Compiled route pattern" := by
  rw [Option.mem_toList, compilation?] at h
  split at h
  · cases h
  · split at h
    · cases h
    · split at h
      · cases h
        rfl
      · cases h

theorem message_of_matching {event : Event}
    (h : event ∈ (matching? pattern path caseSensitive).toList) :
    event.message = "Pattern matched" := by
  rw [Option.mem_toList, matching?] at h
  split at h
  · cases h
  · split at h
    · cases h
    · obtain ⟨params, -, rfl⟩ := Option.map_eq_some_iff.mp h
      rfl

theorem filter_of_message {events : List Event} {text : String}
    (h : ∀ event ∈ events, event.message = text) (wanted : String) :
    events.filter (·.message = wanted) = if text = wanted then events
      else [] := by
  split
  · next heq => exact List.filter_eq_self.mpr fun event
        hevent => by simp [h event hevent, heq]
  · next hne => exact List.filter_eq_nil_iff.mpr fun event
        hevent => by simp [h event hevent, hne]

theorem filter_report_rejected (router : Router) (pattern path : String)
    (caseSensitive : Bool) :
    (router.report pattern path caseSensitive).filter
        (·.message = "Route pattern rejected") =
      (rejection? pattern path caseSensitive).toList := by
  rw [report, List.filter_append, List.filter_append,
    filter_of_message fun _ => message_of_rejection,
    filter_of_message fun _ => message_of_compilation,
    filter_of_message fun _ => message_of_matching]
  simp

theorem filter_report_compiled (router : Router) (pattern path : String)
    (caseSensitive : Bool) :
    (router.report pattern path caseSensitive).filter
        (·.message = "Compiled route pattern") =
      (router.compilation? pattern path caseSensitive).toList := by
  rw [report, List.filter_append, List.filter_append,
    filter_of_message fun _ => message_of_rejection,
    filter_of_message fun _ => message_of_compilation,
    filter_of_message fun _ => message_of_matching]
  simp

end Router

end Signpost
