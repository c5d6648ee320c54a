import Mathlib.Data.List.Induction
import Signpost.Dispatch.Stock
import Signpost.Proofs.Dispatch.ClassMap
import Signpost.Proofs.Dispatch.Ordering

/-!
# Instances of classes

Which class stands under a name, and how many instances of it have been built,
can be read off the requests that were made: the class is the one registered
last, if it has not been removed since, and every request for an instance since
then has built one.  What a call answers depends on nothing else, so that no
instance knows of the calls of others.
-/

namespace Signpost

namespace RegistryRequest

def changed? : RegistryRequest → Option String
  | register name _ | remove name => some (Registry.normalize name)
  | contains _ | instantiate _ | invoke _ _ _ => none

def asked? : RegistryRequest → Option String
  | instantiate name | invoke name _ _ => some (Registry.normalize name)
  | register _ _ | remove _ | contains _ => none

/-- The request with a call cut down to the instance that it asks for. -/
def bare : RegistryRequest → RegistryRequest
  | invoke name _ _ => instantiate name
  | request => request

end RegistryRequest

namespace Registry

/--
The class came with the latest registration under the name, was not removed
since, and was asked for a number of instances since.
-/
def Stands (requests : List RegistryRequest) (key : String)
    (controller : ControllerClass) (asked : Nat) : Prop :=
  ∃ earlier name later, requests = earlier ++
    .register name controller :: later ∧
    normalize name = key ∧ (∀ request ∈ later, request.changed? ≠ some key) ∧
    later.countP (fun request => request.asked? = some key) = asked

variable {requests : List RegistryRequest} {request : RegistryRequest}
    {key : String}
  {controller : ControllerClass} {asked : Nat}

theorem not_stands_nil : ¬ Stands [] key controller asked := by
  rintro ⟨earlier, name, later, hsplit, -⟩
  simp at hsplit

/--
A request for the name itself decides alone; any other leaves the class there.
-/
theorem stands_concat :
    Stands (requests ++ [request]) key controller asked ↔
      (∃ name, request = .register name controller ∧
        normalize name = key ∧ asked = 0) ∨
        request.changed? ≠ some key ∧ ∃ before,
          Stands requests key controller before ∧
          asked = before + if request.asked? = some key then 1 else 0 := by
  constructor
  · rintro ⟨earlier, name, later, hsplit, hname, hlater, hasked⟩
    rcases concat_eq_split_iff.mp hsplit with
      ⟨-, hlast, rfl⟩ | ⟨later, rfl, hrequests⟩
    · exact .inl ⟨name, hlast.symm, hname, hasked.symm⟩
    · simp only [List.mem_append, List.mem_singleton] at hlater
      refine .inr ⟨hlater _ (.inr rfl), _,
        ⟨earlier, name, later, hrequests, hname, ?_, rfl⟩, ?_⟩
      · exact fun other hother => hlater other (.inl hother)
      · rw [← hasked]
        simp [List.countP_append, List.countP_cons]
  · rintro (⟨name, rfl, hname, rfl⟩ | ⟨hrequest, before, hbefore, rfl⟩)
    · exact ⟨requests, name, [], rfl, hname, by simp, rfl⟩
    · obtain ⟨earlier, name, later, rfl, hname, hlater, rfl⟩ := hbefore
      refine ⟨earlier, name, later ++ [request], by simp, hname,
        fun other hother => ?_, ?_⟩
      · rcases List.mem_append.mp hother with hold | hnew
        · exact hlater other hold
        · rwa [List.mem_singleton.mp hnew]
      · simp [List.countP_append, List.countP_cons]

theorem lookup_instantiate (registry : Registry) (name key : String) :
    (registry.instantiate name).2.lookup key =
      if normalize name = key then (registry.lookup key).map
        ControllerClass.counted
      else registry.lookup key := by
  unfold instantiate
  by_cases hkey : normalize name = key
  · rw [if_pos hkey]
    have hfind : registry.find? name =
        registry.lookup key := by rw [find?_eq_lookup, hkey]
    rw [← hfind]
    cases hcase : registry.find? name with
    | none => exact hfind.symm.trans hcase
    | some controller => simp [lookup_register, hkey, ControllerClass.counted]
  · rw [if_neg hkey]
    cases registry.find? name with
    | none => rfl
    | some controller => simp [lookup_register, Ne.symm hkey]

theorem invoke_snd (registry : Registry) (name method : String) (args : Args) :
    (registry.invoke name method args).2 = (registry.instantiate name).2 := by
  unfold invoke
  rcases registry.instantiate name with ⟨_ | _, _⟩ <;> rfl

private theorem lookup_answer_of_unchanged (registry : Registry)
    (h : request.changed? ≠ some key) :
    (registry.answer request).2.lookup key =
      if request.asked? = some key then (registry.lookup key).map
        ControllerClass.counted
      else registry.lookup key := by
  cases request with
  | register name controller =>
      have hkey : key ≠
          normalize name := by simpa [RegistryRequest.changed?, eq_comm] using h
      simp [answer, RegistryRequest.asked?, lookup_register, hkey]
  | remove name =>
      have hkey : key ≠
          normalize name := by simpa [RegistryRequest.changed?, eq_comm] using h
      simp [answer, RegistryRequest.asked?, lookup_remove, hkey]
  | contains name => simp [answer, RegistryRequest.asked?]
  | instantiate name =>
      simp [answer, RegistryRequest.asked?, lookup_instantiate]
  | invoke name method args =>
      simp [answer, RegistryRequest.asked?, invoke_snd, lookup_instantiate]

theorem lookup_after_iff {found : ControllerClass} :
    (after requests).lookup key = some found ↔
      ∃ origin asked, Stands requests key origin asked ∧
        found = { origin with built := origin.built + asked } := by
  -- a history grows at its end, where the last request decides or leaves the
  -- rest to those before
  induction requests using List.reverseRecOn generalizing found with
  | nil => simp [after, lookup, not_stands_nil]
  | append_singleton requests request ih =>
      simp only [after_concat, stands_concat]
      by_cases hchanged : request.changed? = some key
      · cases request with
        | register name controller =>
            have hkey : normalize name =
                key := by simpa [RegistryRequest.changed?] using hchanged
            simp [answer, lookup_register, hkey,
              RegistryRequest.changed?, eq_comm]
        | remove name =>
            have hkey : normalize name =
                key := by simpa [RegistryRequest.changed?] using hchanged
            simp [answer, lookup_remove, hkey, RegistryRequest.changed?]
        | contains name => simp [RegistryRequest.changed?] at hchanged
        | instantiate name => simp [RegistryRequest.changed?] at hchanged
        | invoke name method args => simp [RegistryRequest.changed?] at hchanged
      · have hother : ∀ origin asked, ¬ ∃ name, request =
            .register name origin ∧
            normalize name = key ∧ asked = 0 := by
          rintro origin asked ⟨name, rfl, hname, -⟩
          exact hchanged (by simp [RegistryRequest.changed?, hname])
        simp only [lookup_answer_of_unchanged _ hchanged, hother,
          false_or, hchanged, ne_eq, not_false_eq_true, true_and]
        by_cases hasked : request.asked? = some key
        · simp only [if_pos hasked, Option.map_eq_some_iff, ih]
          constructor
          · rintro ⟨_, ⟨origin, before, hstands, rfl⟩, rfl⟩
            exact ⟨origin, before + 1, ⟨before, hstands, rfl⟩, rfl⟩
          · rintro ⟨origin, _, ⟨before, hstands, rfl⟩, rfl⟩
            exact ⟨_, ⟨origin, before, hstands, rfl⟩, rfl⟩
        · simp only [if_neg hasked, ih, Nat.add_zero]
          constructor
          · rintro ⟨origin, asked, hstands, hfound⟩
            exact ⟨origin, asked, ⟨asked, hstands, rfl⟩, hfound⟩
          · rintro ⟨origin, _, ⟨_, hstands, rfl⟩, hfound⟩
            exact ⟨origin, _, hstands, hfound⟩

private theorem find?_after_of_stands {name : String}
    (h : Stands requests (normalize name) controller asked) :
    (after requests).find? name =
      some { controller with built := controller.built + asked } := by
  rw [find?_eq_lookup]
  exact lookup_after_iff.mpr ⟨controller, asked, h, rfl⟩

theorem find?_after_of_not_stands {name : String}
    (h : ∀ controller asked,
      ¬ Stands requests (normalize name) controller asked) :
    (after requests).find? name = none := by
  rw [find?_eq_lookup]
  apply Option.eq_none_iff_forall_ne_some.mpr
  intro found hfound
  obtain ⟨origin, asked, hstands, -⟩ := lookup_after_iff.mp hfound
  exact h origin asked hstands

private theorem invoke_eq (registry : Registry) (name method : String)
    (args : Args) :
    (registry.invoke name method args).1 =
      match registry.find? name with
      | none => .error (.unknownClass name)
      | some controller =>
        (controller.respond (controller.built + 1) method args).getD
          (.error (.unknownMethod name method)) := by
  unfold invoke instantiate
  cases registry.find? name <;> rfl

theorem after_map_bare (requests : List RegistryRequest) :
    after (requests.map RegistryRequest.bare) = after requests := by
  induction requests using List.reverseRecOn with
  | nil => rfl
  | append_singleton requests request ih =>
      rw [List.map_append, List.map_singleton, after_concat, after_concat, ih]
      cases request with
      | invoke name method args => exact (invoke_snd _ name method args).symm
      | register name controller => rfl
      | remove name => rfl
      | contains name => rfl
      | instantiate name => rfl

private theorem builds_one {name : String}
    (h : Stands requests (normalize name) controller asked) :
    ∃ next : Registry,
      (after requests).instantiate name =
        (some (controller.built + asked + 1,
          { controller with built := controller.built + asked }), next) ∧
      (∀ method args, (after requests).invoke name method args =
        ((controller.respond (controller.built + asked + 1) method args).getD
          (.error (.unknownMethod name method)), next)) ∧
      ∀ other, next.find? other =
        if normalize name = normalize other then
          some { controller with built := controller.built + asked + 1 }
        else (after requests).find? other := by
  have hfind := find?_after_of_stands h
  refine ⟨((after requests).instantiate name).2, ?_, fun method args => ?_,
    fun other => ?_⟩
  · apply Prod.ext
    · simp [instantiate, hfind]
    · rfl
  · apply Prod.ext
    · simp [invoke_eq, hfind]
    · apply invoke_snd
  · rw [find?_eq_lookup, lookup_instantiate, find?_eq_lookup]
    by_cases hother : normalize name = normalize other
    · rw [if_pos hother, if_pos hother, ← hother, ← find?_eq_lookup, hfind]
      rfl
    · rw [if_neg hother, if_neg hother]

private theorem builds_none {name : String}
    (h : ∀ controller asked,
      ¬ Stands requests (normalize name) controller asked) :
    (after requests).instantiate name = (none, after requests) ∧
      ∀ method args, (after requests).invoke name method args =
        (.error (.unknownClass name), after requests) := by
  have hfind := find?_after_of_not_stands h
  constructor
  · simp [instantiate, hfind]
  · intro method args
    simp [invoke, instantiate, hfind]

/--
A registry is a map of classes under their names without backslashes in front:
other backslashes show in nothing but the names that errors quote.  A class that
stands builds one instance for each request, whether it has the method or not,
and what was called of those before it leaves no trace.
-/
theorem answers_as_map (requests : List RegistryRequest) :
    let registry := after requests
    let keyed := requests.map RegistryRequest.keyed
    let map := ClassMap.after keyed
    answers {} requests =
        List.zipWith RegistryRequest.report requests
          (ClassMap.outcomes ∅ keyed) ∧
      registry.size = map.keys.card ∧
      registry.names = map.keys.sort (· ≤ ·) ∧
      (∀ others : List RegistryRequest,
        others.map RegistryRequest.keyed = keyed →
        (∃ outcomes : List RegistryOutcome, outcomes.length = requests.length ∧
          answers {} requests =
            List.zipWith RegistryRequest.report requests outcomes ∧
          answers {} others =
            List.zipWith RegistryRequest.report others outcomes) ∧
        (after others).size = registry.size ∧
        (after others).names = registry.names) ∧
      (∀ name origin asked, Stands requests (normalize name) origin asked →
        ∃ next : Registry,
          registry.instantiate name =
            (some (origin.built + asked + 1,
              { origin with built := origin.built + asked }), next) ∧
          (∀ method args, registry.invoke name method args =
            ((origin.respond (origin.built + asked + 1) method args).getD
              (.error (.unknownMethod name method)), next)) ∧
          ∀ other, next.find? other =
            if normalize name = normalize other then
              some { origin with built := origin.built + asked + 1 }
            else registry.find? other) ∧
      (∀ name,
        (∀ origin asked, ¬ Stands requests (normalize name) origin asked) →
        registry.instantiate name = (none, registry) ∧
        ∀ method args,
          registry.invoke name method args =
            (.error (.unknownClass name), registry)) ∧
      after (requests.map RegistryRequest.bare) = registry := by
  intro registry keyed map
  have hsize : registry.size = map.keys.card := size_after requests
  have hnames : registry.names = map.keys.sort (· ≤ ·) := names_after requests
  refine ⟨answers_eq {} requests, hsize, hnames, fun others hothers => ?_,
    fun name origin asked hstands => builds_one hstands, fun name hnone =>
      builds_none hnone,
    after_map_bare requests⟩
  have hanswers := answers_eq {} others
  have hsize' := size_after others
  have hnames' := names_after others
  rw [hothers] at hanswers hsize' hnames'
  refine ⟨⟨ClassMap.outcomes ∅ keyed, ?_, answers_eq {} requests, hanswers⟩,
    hsize'.trans hsize.symm, hnames'.trans hnames.symm⟩
  rw [ClassMap.length_outcomes, List.length_map]

theorem answers_as_map_counter :
    let requests : List RegistryRequest :=
      [.register "\\App\\A" .counter, .invoke "App\\A" "calls" (.spread []),
        .invoke "\\\\App\\A" "nope" (.spread [])]
    let others : List RegistryRequest :=
      [.register "App\\A" .counter, .invoke "\\App\\A" "calls" (.spread []),
        .invoke "App\\A" "nope" (.spread [])]
    others.map RegistryRequest.keyed = requests.map RegistryRequest.keyed ∧
      (after others).names = (after requests).names ∧
      Stands requests (normalize "\\App\\A") .counter 2 ∧
      ((after requests).invoke "\\App\\A" "built" (.spread [])).1 =
        .ok (.ofNat 3) ∧
      (∀ controller asked,
        ¬ Stands requests (normalize "\\App") controller asked) ∧
      ((after requests).invoke "\\App" "built" (.spread [])).1 =
        .error (.unknownClass "\\App") := by
  intro requests others
  have hothers : others.map RegistryRequest.keyed =
      requests.map RegistryRequest.keyed := rfl
  have hstands : Stands requests (normalize "\\App\\A") .counter 2 :=
    ⟨[], "\\App\\A", requests.tail, rfl, rfl, by decide, by decide⟩
  have hnone : ∀ controller asked,
      ¬ Stands requests (normalize "\\App") controller asked := by
    rintro controller asked ⟨earlier, name, later, hsplit, hname, -⟩
    have hmem : RegistryRequest.register name controller ∈
        requests := by simp [hsplit]
    obtain ⟨rfl, -⟩ : name = "\\App\\A" ∧ controller =
        .counter := by simpa [requests] using hmem
    exact absurd hname (by decide)
  obtain ⟨-, -, -, hsame, hbuilt, hunknown, -⟩ := answers_as_map requests
  obtain ⟨next, -, hinvoke, -⟩ := hbuilt "\\App\\A" .counter 2 hstands
  refine ⟨hothers, (hsame others hothers).2.2, hstands, ?_, hnone, ?_⟩
  · rw [hinvoke]
    rfl
  · rw [(hunknown "\\App" hnone).2]

end Registry

end Signpost
