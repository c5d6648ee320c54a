import Mathlib.Data.List.Nodup
import Signpost.Config.Load
import Signpost.Proofs.Dispatch.Targets

/-!
# Valid configurations

A configuration without faults has distinct patterns that compile, and handler
texts that name a class and a method.
-/

namespace Signpost

namespace DispatchConfig

variable {config : DispatchConfig} {caseSensitive : Bool} {seen : List String}
  {index : Nat} {routes : List RouteConfig}

private theorem patternFault_eq_none_iff {pattern : String} :
    patternFault caseSensitive seen index pattern = none ↔
      pattern ≠ "" ∧ pattern ∉ seen ∧
        ∃ compiled, CompiledPattern.compile pattern caseSensitive =
          .ok compiled := by
  rw [patternFault]
  by_cases hempty : pattern = ""
  · simp [hempty]
  · by_cases hseen : pattern ∈ seen
    · simp [hempty, hseen]
    · cases hcompile : CompiledPattern.compile pattern caseSensitive <;>
        simp [hempty, hseen]

private theorem handlerFault_eq_none_iff {handler : String} :
    handlerFault index handler = none ↔ ∃ target,
      Target.parse? handler = some target := by
  rw [handlerFault]
  cases hparse : Target.parse? handler <;> simp

/--
What the checks of the routes come to, given the patterns of earlier routes.
-/
structure SoundRoutes (caseSensitive : Bool) (seen : List String)
    (routes : List RouteConfig) : Prop where
  nonempty : ∀ route ∈ routes, route.pattern ≠ ""
  unseen : ∀ route ∈ routes, route.pattern ∉ seen
  distinct : (routes.map RouteConfig.pattern).Nodup
  compiles : ∀ route ∈ routes,
    ∃ compiled, CompiledPattern.compile route.pattern caseSensitive =
      .ok compiled
  targets : ∀ route ∈ routes, ∃ target,
    Target.parse? route.handler = some target

private theorem routeFaults_eq_nil_iff :
    routeFaults caseSensitive seen index routes = [] ↔
      SoundRoutes caseSensitive seen routes := by
  induction routes generalizing seen index with
  | nil =>
      refine iff_of_true rfl ⟨?_, ?_, List.nodup_nil, ?_, ?_⟩ <;> simp
  | cons route rest ih =>
      simp only [routeFaults, List.append_eq_nil_iff, Option.toList_eq_nil_iff,
        patternFault_eq_none_iff, handlerFault_eq_none_iff, ih]
      constructor
      · rintro ⟨⟨⟨hnonempty, hunseen, hcompiles⟩, htarget⟩, hrest⟩
        have hlater : ∀ other ∈ rest, other.pattern ≠ route.pattern ∧
            other.pattern ∉ seen := by
          simpa using hrest.unseen
        refine ⟨?_, ?_, ?_, ?_, ?_⟩
        · exact List.forall_mem_cons.mpr ⟨hnonempty, hrest.nonempty⟩
        · exact List.forall_mem_cons.mpr
            ⟨hunseen, fun other hother => (hlater other hother).2⟩
        · rw [List.map_cons, List.nodup_cons, List.mem_map]
          refine ⟨?_, hrest.distinct⟩
          rintro ⟨other, hother, hsame⟩
          exact (hlater other hother).1 hsame
        · exact List.forall_mem_cons.mpr ⟨hcompiles, hrest.compiles⟩
        · exact List.forall_mem_cons.mpr ⟨htarget, hrest.targets⟩
      · intro h
        obtain ⟨hnonempty, hnonemptyRest⟩ := List.forall_mem_cons.mp h.nonempty
        obtain ⟨hunseen, hunseenRest⟩ := List.forall_mem_cons.mp h.unseen
        obtain ⟨hfirst, hdistinct⟩ := List.nodup_cons.mp h.distinct
        obtain ⟨hcompiles, hcompilesRest⟩ := List.forall_mem_cons.mp h.compiles
        obtain ⟨htarget, htargetRest⟩ := List.forall_mem_cons.mp h.targets
        refine ⟨⟨⟨hnonempty, hunseen, hcompiles⟩, htarget⟩,
          hnonemptyRest, fun other hother hmem => ?_, hdistinct,
          hcompilesRest, htargetRest⟩
        rcases List.mem_cons.mp hmem with hsame | hseen
        · exact hfirst (List.mem_map.mpr ⟨other, hother, hsame⟩)
        · exact hunseenRest other hother hseen

theorem validate_eq_nil_iff :
    config.validate = [] ↔
      SoundRoutes config.caseSensitive [] config.routes ∧
        ∃ filter, LogFilter.parse? config.observability.logLevel =
          some filter := by
  rw [validate, List.append_eq_nil_iff, routeFaults_eq_nil_iff]
  unfold levelFault
  cases LogFilter.parse? config.observability.logLevel <;> simp

theorem sound_of_validate (h : config.validate = []) :
    SoundRoutes config.caseSensitive [] config.routes :=
  (validate_eq_nil_iff.mp h).1

private theorem validate_of_parse {text : String}
    (h : parse text = .ok config) :
    config.validate = [] := by
  unfold parse at h
  split at h
  · nomatch h
  · split at h
    · nomatch h
    · split at h
      · rename_i hvalid
        obtain rfl := Except.ok.inj h
        exact hvalid
      · nomatch h

/-- What is loaded is valid. -/
theorem validate_of_load {file : Option (List UInt8)}
    (h : (load file).1 = .ok config) :
    config.validate = [] := by
  unfold load at h
  split at h
  · nomatch h
  · split at h
    · nomatch h
    · split at h
      · nomatch h
      · rename_i hparse
        obtain rfl := Except.ok.inj h
        exact validate_of_parse hparse

end DispatchConfig

end Signpost
