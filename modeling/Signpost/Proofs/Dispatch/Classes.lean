import Mathlib.Data.List.Nodup
import Signpost.Dispatch.Handler

/-!
# Classes through a call

A call of a method counts an instance and changes nothing else: the names of
the classes stay, and so does what their methods answer.
-/

namespace Signpost

namespace Registry

variable {registry : Registry}

def keys (registry : Registry) : List String := registry.classes.map Prod.fst

/-- No name stands for two classes. -/
def Distinct (registry : Registry) : Prop := registry.keys.Nodup

def methods (registry : Registry) :
    List (String × (Nat → String → Args → Option (Except HandlerError Json))) :=
  registry.classes.map fun entry => (entry.1, entry.2.respond)

private theorem find?_eq_none_iff {name : String} :
    registry.find? name = none ↔ normalize name ∉ registry.keys := by
  rw [find?, Option.map_eq_none_iff, List.find?_eq_none, keys, List.mem_map]
  constructor
  · rintro h ⟨entry, hentry, hkey⟩
    exact h entry hentry (decide_eq_true hkey)
  · intro h entry hentry hkey
    exact h ⟨entry, hentry, of_decide_eq_true hkey⟩

theorem contains_iff {name : String} :
    registry.contains name = true ↔ normalize name ∈ registry.keys := by
  rw [contains, Option.isSome_iff_ne_none, Ne, find?_eq_none_iff, not_not]

private theorem mem_of_find? {name : String} {controller : ControllerClass}
    (h : registry.find? name = some controller) :
    (normalize name, controller) ∈ registry.classes := by
  obtain ⟨entry, hfind, rfl⟩ := Option.map_eq_some_iff.mp h
  have hkey := List.find?_some hfind
  rw [decide_eq_true_eq] at hkey
  rw [← hkey]
  exact List.mem_of_find?_eq_some hfind

private theorem Distinct.eq_of_find? (h : registry.Distinct) {name : String}
    {controller : ControllerClass}
    (hfind : registry.find? name = some controller)
    {entry : String × ControllerClass} (hentry : entry ∈ registry.classes)
    (hkey : entry.1 = normalize name) : entry.2 = controller :=
  congrArg Prod.snd
    (List.inj_on_of_nodup_map h hentry (mem_of_find? hfind) hkey)

private theorem keys_register (registry : Registry) (name : String)
    (controller : ControllerClass) :
    (registry.register name controller).keys =
      if registry.contains name then registry.keys
      else registry.keys ++ [normalize name] := by
  rw [register]
  split
  · rw [keys, keys, List.map_map]
    refine List.map_congr_left fun entry _ => ?_
    by_cases hkey : entry.1 = normalize name
    · simp [hkey]
    · simp [hkey]
  · rw [keys, List.map_append]
    rfl

theorem Distinct.register (h : registry.Distinct) (name : String)
    (controller : ControllerClass) :
      (registry.register name controller).Distinct := by
  rw [Distinct, keys_register]
  split
  · exact h
  · rename_i hcontains
    refine List.nodup_append.mpr ⟨h, List.nodup_singleton _, ?_⟩
    rintro key hkey _ hname rfl
    rw [List.mem_singleton] at hname
    exact hcontains (contains_iff.mpr (hname ▸ hkey))

theorem Distinct.remove (h : registry.Distinct) (name : String) :
    (registry.remove name).2.Distinct :=
  List.Nodup.sublist (List.filter_sublist.map Prod.fst) h

/-- A class comes back as it was, but for the number of its instances. -/
theorem Distinct.methods_register (h : registry.Distinct) {name : String}
    {controller : ControllerClass}
    (hfind : registry.find? name = some controller) (built : Nat) :
    (registry.register name { controller with built }).methods =
      registry.methods := by
  have hcontains : registry.contains name = true := by
    rw [contains, hfind]
    rfl
  rw [Registry.register, if_pos hcontains, methods, methods, List.map_map]
  refine List.map_congr_left fun entry hentry => ?_
  by_cases hkey : entry.1 = normalize name
  · simp [hkey, h.eq_of_find? hfind hentry hkey]
  · simp [hkey]

theorem Distinct.invoke (h : registry.Distinct) (className method : String)
    (args : Args) :
    (registry.invoke className method args).2.Distinct ∧
      (registry.invoke className method args).2.methods = registry.methods := by
  rw [Registry.invoke, instantiate]
  cases hfind : registry.find? className with
  | none => exact ⟨h, rfl⟩
  | some controller => exact ⟨h.register _ _, h.methods_register hfind _⟩

end Registry

namespace Handler

theorem invoke_frame (handler : Handler) {classes : Registry}
    (h : classes.Distinct) (args : Args) :
    (handler.invoke classes args).2.1.target? = handler.target? ∧
      (handler.invoke classes args).2.2.Distinct ∧
      (handler.invoke classes args).2.2.methods = classes.methods := by
  cases handler with
  | closure body => exact ⟨rfl, h, rfl⟩
  | method target => exact ⟨rfl, h.invoke target.className target.method args⟩

end Handler

end Signpost
