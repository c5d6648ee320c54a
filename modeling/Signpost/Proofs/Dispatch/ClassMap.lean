import Mathlib.Data.Finmap
import Mathlib.Data.Finset.Sort
import Mathlib.Data.String.Basic
import Signpost.Proofs.Dispatch.Classes

/-!
# The registry as a map

Backslashes in front of a name do not count, whatever is asked of a registry
under it.  A request comes to the same as one to a plain map under the name
without them; the name as it was given is seen only where an error quotes it.
-/

namespace Signpost

inductive RegistryRequest where
  | register (name : String) (controller : ControllerClass)
  | remove (name : String)
  | contains (name : String)
  | instantiate (name : String)
  | invoke (name method : String) (args : Args)

inductive RegistryAnswer where
  | registered
  | known (found : Bool)
  | built (instance? : Option (Nat × ControllerClass))
  | called (answer : Except HandlerError Json)

/-- What a request comes to, with no word yet on the name it was made under. -/
inductive RegistryOutcome where
  | registered
  | known (found : Bool)
  | built (instance? : Option (Nat × ControllerClass))
  | unknownClass
  | unknownMethod (method : String)
  | called (answer : Except HandlerError Json)

namespace RegistryRequest

def name : RegistryRequest → String
  | register name _ | remove name | contains name | instantiate name
  | invoke name _ _ => name

def keyed : RegistryRequest → RegistryRequest
  | register name controller => register (Registry.normalize name) controller
  | remove name => remove (Registry.normalize name)
  | contains name => contains (Registry.normalize name)
  | instantiate name => instantiate (Registry.normalize name)
  | invoke name method args => invoke (Registry.normalize name) method args

/--
The answer to a request; where the class or the method is missing, it quotes the
name.
-/
def report (request : RegistryRequest) : RegistryOutcome → RegistryAnswer
  | .registered => .registered
  | .known found => .known found
  | .built instance? => .built instance?
  | .unknownClass => .called (.error (.unknownClass request.name))
  | .unknownMethod method =>
      .called (.error (.unknownMethod request.name method))
  | .called answer => .called answer

end RegistryRequest

namespace Registry

def answer (registry : Registry) : RegistryRequest → RegistryAnswer × Registry
  | .register name controller =>
      (.registered, registry.register name controller)
  | .remove name => (.known (registry.remove name).1, (registry.remove name).2)
  | .contains name => (.known (registry.contains name), registry)
  | .instantiate name =>
      (.built (registry.instantiate name).1, (registry.instantiate name).2)
  | .invoke name method args =>
    (.called (registry.invoke name method args).1,
      (registry.invoke name method args).2)

def answers (registry : Registry) : List RegistryRequest → List RegistryAnswer
  | [] => []
  | request :: requests =>
    (registry.answer request).1 :: answers (registry.answer request).2 requests

def after (requests : List RegistryRequest) : Registry :=
  requests.foldl (fun registry request => (registry.answer request).2) {}

end Registry

abbrev ClassMap := Finmap fun _ : String => ControllerClass

def ControllerClass.counted (controller : ControllerClass) : ControllerClass :=
  { controller with built := controller.built + 1 }

namespace ClassMap

def answer (map : ClassMap) : RegistryRequest → RegistryOutcome × ClassMap
  | .register name controller => (.registered, map.insert name controller)
  | .remove name => (.known (map.lookup name).isSome, map.erase name)
  | .contains name => (.known (map.lookup name).isSome, map)
  | .instantiate name =>
    match map.lookup name with
    | none => (.built none, map)
    | some controller =>
      (.built (some (controller.built + 1, controller)),
        map.insert name controller.counted)
  | .invoke name method args =>
    match map.lookup name with
    | none => (.unknownClass, map)
    | some controller =>
      let outcome : RegistryOutcome :=
        match controller.respond (controller.built + 1) method args with
        | none => .unknownMethod method
        | some answer => .called answer
      (outcome, map.insert name controller.counted)

def outcomes (map : ClassMap) : List RegistryRequest → List RegistryOutcome
  | [] => []
  | request :: requests => (map.answer request).1 :: outcomes
      (map.answer request).2 requests

def after (requests : List RegistryRequest) : ClassMap :=
  requests.foldl (fun map request => (map.answer request).2) ∅

theorem length_outcomes (map : ClassMap) (requests : List RegistryRequest) :
    (map.outcomes requests).length = requests.length := by
  induction requests generalizing map with
  | nil => rfl
  | cons request requests ih =>
      rw [outcomes, List.length_cons, ih, List.length_cons]

end ClassMap

namespace Registry

variable {registry : Registry} {name key : String}
    {controller : ControllerClass}

def lookup (registry : Registry) (key : String) : Option ControllerClass :=
  (registry.classes.find? fun entry => entry.1 = key).map Prod.snd

theorem find?_eq_lookup (registry : Registry) (name : String) :
    registry.find? name = registry.lookup (normalize name) := rfl

theorem lookup_isSome_iff : (registry.lookup key).isSome ↔
    key ∈ registry.keys := by
  simp [lookup, keys]

theorem lookup_register (registry : Registry) (name : String)
    (controller : ControllerClass) (key : String) :
    (registry.register name controller).lookup key =
      if key = normalize name then some controller
      else registry.lookup key := by
  unfold register
  by_cases hcontains : registry.contains name = true
  · rw [if_pos hcontains, lookup, List.find?_map]
    -- the entries keep their names, so what is found stands where it stood
    have hname :
        (fun entry : String × ControllerClass => decide (entry.1 = key)) ∘
        (fun entry => if entry.1 = normalize name
          then (normalize name, controller) else entry) =
        fun entry => decide (entry.1 = key) := by
      funext entry
      by_cases hentry : entry.1 = normalize name <;> simp [hentry]
    rw [hname]
    by_cases hkey : key = normalize name
    · rw [contains, find?_eq_lookup, ← hkey, lookup, Option.isSome_map]
        at hcontains
      obtain ⟨entry, hfind⟩ := Option.isSome_iff_exists.mp hcontains
      have hentry : entry.1 = key := by simpa using List.find?_some hfind
      rw [hfind, if_pos hkey]
      simp [hentry, hkey]
    · rw [if_neg hkey, lookup, Option.map_map]
      cases hfind : registry.classes.find? fun entry => entry.1 = key with
      | none => rfl
      | some entry =>
          have hentry : entry.1 = key := by simpa using List.find?_some hfind
          simp [hentry, hkey]
  · rw [if_neg hcontains, lookup, List.find?_append]
    rw [contains, Bool.not_eq_true, Option.isSome_eq_false_iff,
      Option.isNone_iff_eq_none, find?_eq_lookup, lookup,
      Option.map_eq_none_iff] at hcontains
    by_cases hkey : key = normalize name
    · simp [hkey, hcontains]
    · simp [lookup, hkey, Ne.symm hkey]

theorem lookup_remove (registry : Registry) (name key : String) :
    (registry.remove name).2.lookup key =
      if key = normalize name then none else registry.lookup key := by
  unfold remove lookup
  rw [List.find?_filter]
  by_cases hkey : key = normalize name
  · simp [hkey]
  · rw [if_neg hkey]
    congr 2
    funext entry
    by_cases hentry : entry.1 = key <;> simp [hentry, hkey]

def toMap (registry : Registry) : ClassMap :=
  (registry.classes.map fun entry => (⟨entry.1, entry.2⟩ : Sigma _)).toFinmap

theorem lookup_toMap (registry : Registry) (key : String) :
    registry.toMap.lookup key = registry.lookup key := by
  unfold toMap lookup
  rw [Finmap.dlookup_list_toFinmap]
  induction registry.classes with
  | nil => rfl
  | cons entry rest ih =>
      by_cases hkey : entry.1 = key
      · subst hkey
        simp
      · simp [hkey, Ne.symm hkey, ih]

theorem toMap_register (registry : Registry) (name : String)
    (controller : ControllerClass) :
    (registry.register name controller).toMap =
      registry.toMap.insert (normalize name) controller := by
  apply Finmap.ext_lookup
  intro key
  rw [lookup_toMap, lookup_register]
  by_cases hkey : key = normalize name
  · rw [if_pos hkey, hkey, Finmap.lookup_insert]
  · rw [if_neg hkey, Finmap.lookup_insert_of_ne _ hkey, lookup_toMap]

private theorem toMap_remove (registry : Registry) (name : String) :
    (registry.remove name).2.toMap = registry.toMap.erase (normalize name) := by
  apply Finmap.ext_lookup
  intro key
  rw [lookup_toMap, lookup_remove]
  by_cases hkey : key = normalize name
  · rw [if_pos hkey, hkey, Finmap.lookup_erase]
  · rw [if_neg hkey, Finmap.lookup_erase_ne hkey, lookup_toMap]

theorem contains_eq (registry : Registry) (name : String) :
    registry.contains name =
      (registry.toMap.lookup (normalize name)).isSome := by
  rw [lookup_toMap, contains, find?_eq_lookup]

theorem answer_eq (registry : Registry) (request : RegistryRequest) :
    (registry.answer request).1 = request.report
      (registry.toMap.answer request.keyed).1 ∧
      (registry.answer request).2.toMap =
        (registry.toMap.answer request.keyed).2 := by
  cases request with
  | register name controller =>
      exact ⟨rfl, registry.toMap_register name controller⟩
  | remove name =>
      refine ⟨?_, registry.toMap_remove name⟩
      simp [answer, remove, contains_eq, RegistryRequest.keyed,
        RegistryRequest.report, ClassMap.answer]
  | contains name =>
      refine ⟨?_, rfl⟩
      simp [answer, contains_eq, RegistryRequest.keyed,
        RegistryRequest.report, ClassMap.answer]
  | instantiate name =>
      simp only [answer, instantiate, RegistryRequest.keyed,
        ClassMap.answer, lookup_toMap, ← find?_eq_lookup]
      cases registry.find? name with
      | none => exact ⟨rfl, rfl⟩
      | some controller => exact ⟨rfl, registry.toMap_register name _⟩
  | invoke name method args =>
      simp only [answer, invoke, instantiate, RegistryRequest.keyed,
        ClassMap.answer, lookup_toMap, ← find?_eq_lookup]
      cases registry.find? name with
      | none => exact ⟨rfl, rfl⟩
      | some controller =>
          refine ⟨?_, registry.toMap_register name _⟩
          dsimp only
          cases controller.respond (controller.built + 1) method args <;> rfl

theorem Distinct.answer (h : registry.Distinct) (request : RegistryRequest) :
    (registry.answer request).2.Distinct := by
  cases request with
  | register name controller => exact h.register name controller
  | remove name => exact h.remove name
  | contains name => exact h
  | instantiate name =>
      simp only [Registry.answer, instantiate]
      cases registry.find? name with
      | none => exact h
      | some controller => exact h.register name _
  | invoke name method args => exact (h.invoke name method args).1

theorem keys_toMap (registry : Registry) :
    registry.toMap.keys = registry.keys.toFinset := by
  ext key
  rw [Finmap.mem_keys, ← Finmap.lookup_isSome, lookup_toMap, lookup_isSome_iff,
    List.mem_toFinset]

theorem Distinct.size_eq (h : registry.Distinct) :
    registry.size = registry.toMap.keys.card := by
  rw [keys_toMap, List.toFinset_card_of_nodup h]
  simp [size, keys]

theorem Distinct.names_eq (h : registry.Distinct) :
    registry.names = registry.toMap.keys.sort (· ≤ ·) := by
  have hperm : registry.names.Perm registry.keys := List.mergeSort_perm _ _
  have hsame : registry.names.toFinset = registry.toMap.keys := by
    rw [keys_toMap]
    exact List.toFinset_eq_of_perm _ _ hperm
  have hsorted : registry.names.Pairwise (· ≤ ·) :=
    List.pairwise_mergeSort' (· ≤ ·) _
  rw [← hsame]
  exact ((List.toFinset_sort (· ≤ ·) (hperm.nodup_iff.mpr h)).mpr hsorted).symm

private theorem toMap_foldl (registry : Registry)
    (requests : List RegistryRequest) :
    (requests.foldl (fun registry request => (registry.answer request).2)
      registry).toMap =
      (requests.map RegistryRequest.keyed).foldl
        (fun map request => (ClassMap.answer map request).2)
          registry.toMap := by
  induction requests generalizing registry with
  | nil => rfl
  | cons request requests ih =>
      rw [List.foldl_cons, ih, (registry.answer_eq request).2]
      rfl

theorem toMap_after (requests : List RegistryRequest) :
    (after requests).toMap = ClassMap.after
      (requests.map RegistryRequest.keyed) :=
  toMap_foldl {} requests

theorem answers_eq (registry : Registry) (requests : List RegistryRequest) :
    registry.answers requests =
      List.zipWith RegistryRequest.report requests
        (registry.toMap.outcomes (requests.map RegistryRequest.keyed)) := by
  induction requests generalizing registry with
  | nil => rfl
  | cons request requests ih =>
      obtain ⟨hanswer, hmap⟩ := registry.answer_eq request
      rw [answers, hanswer, ih, hmap]
      rfl

theorem after_concat (requests : List RegistryRequest)
    (request : RegistryRequest) :
    after (requests ++ [request]) = ((after requests).answer request).2 := by
  rw [after, List.foldl_append]
  rfl

theorem distinct_after (requests : List RegistryRequest) :
    (after requests).Distinct := by
  induction requests using List.reverseRecOn with
  | nil => exact List.nodup_nil
  | append_singleton requests request ih =>
      rw [after_concat]
      exact ih.answer request

theorem size_after (requests : List RegistryRequest) :
    (after requests).size =
      (ClassMap.after (requests.map RegistryRequest.keyed)).keys.card := by
  rw [(distinct_after requests).size_eq, toMap_after]

theorem names_after (requests : List RegistryRequest) :
    (after requests).names =
      (ClassMap.after (requests.map RegistryRequest.keyed)).keys.sort
        (· ≤ ·) := by
  rw [(distinct_after requests).names_eq, toMap_after]

end Registry

end Signpost
