import Mathlib.Data.List.Induction
import Mathlib.Data.List.Nodup
import Mathlib.Data.String.Basic
import Signpost.Json.Value
import Signpost.Proofs.Data.List

/-!
# Members of an object

An object keeps its members in the order of their keys, each key once.  None of
the members listed gives way as long as their keys differ; of those with one key
the last one listed is found.
-/

namespace Signpost.Json

variable {key : String} {value : Json} {members : List (String × Json)}

private theorem insertMember_perm (hfresh : key ∉ members.map Prod.fst) :
    (insertMember key value members).Perm ((key, value) :: members) := by
  induction members with
  | nil => exact .refl _
  | cons member rest ih =>
      simp only [List.map_cons, List.mem_cons, not_or] at hfresh
      obtain ⟨hother, hrest⟩ := hfresh
      rw [insertMember, if_neg hother]
      split
      · exact .refl _
      · exact ((ih hrest).cons member).trans (.swap _ _ rest)

private theorem foldl_insertMember_perm (members : List (String × Json)) :
    ∀ sorted : List (String × Json), ((members ++ sorted).map Prod.fst).Nodup →
    (members.foldl (fun sorted member => insertMember member.1 member.2 sorted)
      sorted).Perm
      (members ++ sorted) := by
  induction members with
  | nil => exact fun sorted _ => .refl sorted
  | cons member members ih =>
      intro sorted hkeys
      have hmiddle :
          (member :: members ++ sorted).Perm (members ++ member :: sorted) :=
        List.perm_middle.symm
      have hnext := (hmiddle.map Prod.fst).nodup_iff.mp hkeys
      have hfresh : member.1 ∉ sorted.map Prod.fst := by
        rw [List.cons_append, List.map_cons, List.nodup_cons, List.map_append]
          at hkeys
        exact fun hmem => hkeys.1 (List.mem_append_right _ hmem)
      have hinsert : (members ++ insertMember member.1 member.2 sorted).Perm
          (members ++ member :: sorted) :=
            (insertMember_perm hfresh).append_left members
      rw [List.foldl_cons]
      exact (ih _ ((hinsert.map Prod.fst).nodup_iff.mpr hnext)).trans
        (hinsert.trans hmiddle.symm)

theorem exists_perm_ofMembers (hkeys : (members.map Prod.fst).Nodup) :
    ∃ sorted, ofMembers members = .object sorted ∧ sorted.Perm members :=
  ⟨_, rfl,
    by simpa using foldl_insertMember_perm members [] (by simpa using hkeys)⟩

theorem mem_keys_insertMember {wanted : String} :
    wanted ∈ (insertMember key value members).map Prod.fst ↔
      wanted = key ∨ wanted ∈ members.map Prod.fst := by
  induction members with
  | nil => simp [insertMember]
  | cons member rest ih =>
      rw [insertMember]
      split_ifs with hless hsame
      · simp
      · simp [hsame]
      · rw [List.map_cons, List.mem_cons, ih, List.map_cons, List.mem_cons]
        exact or_left_comm

/-- The keys of the members, in increasing order and therefore each once. -/
def Sorted (members : List (String × Json)) : Prop :=
  (members.map Prod.fst).Pairwise (· < ·)

theorem Sorted.insertMember (h : Sorted members) :
    Sorted (insertMember key value members) := by
  induction members with
  | nil => simp [Sorted, Json.insertMember]
  | cons member rest ih =>
      obtain ⟨hfirst, hrest⟩ := List.pairwise_cons.mp h
      rw [Json.insertMember]
      split_ifs with hless hsame
      · refine List.pairwise_cons.mpr ⟨fun wanted hmem => ?_, h⟩
        rcases List.mem_cons.mp hmem with rfl | hmem
        · exact hless
        · exact hless.trans (hfirst wanted hmem)
      · exact List.pairwise_cons.mpr ⟨hsame ▸ hfirst, hrest⟩
      · refine List.pairwise_cons.mpr ⟨fun wanted hmem => ?_, ih hrest⟩
        rcases mem_keys_insertMember.mp hmem with rfl | hmem
        · exact lt_of_le_of_ne (not_lt.mp hless) (Ne.symm hsame)
        · exact hfirst wanted hmem

theorem ofMembers_append (members : List (String × Json)) : ∃ sorted,
    ofMembers members = .object sorted ∧
      ofMembers (members ++ [(key, value)]) =
        .object (insertMember key value sorted) :=
  ⟨_, rfl, by simp [ofMembers]⟩

theorem exists_sorted_ofMembers (members : List (String × Json)) : ∃ sorted,
    ofMembers members = .object sorted ∧ Sorted sorted ∧
      ∀ key, key ∈ sorted.map Prod.fst ↔ key ∈ members.map Prod.fst := by
  induction members using List.reverseRecOn with
  | nil => exact ⟨[], rfl, List.Pairwise.nil, fun key => Iff.rfl⟩
  | append_singleton members member ih =>
      obtain ⟨sorted, heq, hsorted, hkeys⟩ := ih
      obtain ⟨sorted', heq', hlast⟩ :=
        @ofMembers_append member.1 member.2 members
      obtain rfl : sorted = sorted' := Json.object.inj (heq.symm.trans heq')
      refine ⟨_, hlast, hsorted.insertMember, fun key => ?_⟩
      rw [mem_keys_insertMember, hkeys, List.map_append,
        List.mem_append, List.map_singleton, List.mem_singleton]
      exact or_comm

/-- A listing is the object of its members in the order of their keys. -/
theorem ofMembers_of_perm {sorted : List (String × Json)}
    (hsorted : Sorted sorted)
    (hperm : sorted.Perm members) : ofMembers members = .object sorted := by
  have hkeys : (sorted.map Prod.fst).Nodup := hsorted.imp fun h => ne_of_lt h
  obtain ⟨other, heq, hother⟩ :=
    exists_perm_ofMembers ((hperm.map Prod.fst).nodup_iff.mp hkeys)
  obtain ⟨other', heq', hsorted', -⟩ := exists_sorted_ofMembers members
  obtain rfl : other = other' := Json.object.inj (heq.symm.trans heq')
  rw [heq, (hother.trans hperm.symm).eq_of_pairwise _
    (List.pairwise_map.mp hsorted')
    (List.pairwise_map.mp hsorted)]
  exact fun _ _ _ _ hless hgreater => absurd hless hgreater.asymm

private theorem find?_insertMember {wanted : String} :
    (insertMember key value members).find? (fun member => member.1 = wanted) =
      if key = wanted then some (key, value)
      else members.find? fun member => member.1 = wanted := by
  induction members with
  | nil => by_cases h : key = wanted <;> simp [insertMember, h]
  | cons member rest ih =>
      rw [insertMember]
      by_cases hless : key < member.1
      · rw [if_pos hless]
        by_cases h : key = wanted <;> simp [h]
      rw [if_neg hless]
      by_cases hsame : key = member.1
      · by_cases h : key = wanted <;> simp [h, ← hsame]
      · rw [if_neg hsame, List.find?_cons, ih]
        by_cases h : key = wanted
        · simp [← h, Ne.symm hsame]
        · simp [h, List.find?_cons]

theorem member?_ofMembers (key : String) (members : List (String × Json)) :
    (ofMembers members).member? key =
      (members.reverse.find? fun member => member.1 = key).map Prod.snd := by
  induction members using List.reverseRecOn with
  | nil => rfl
  | append_singleton members member ih =>
      obtain ⟨sorted, heq, hlast⟩ := @ofMembers_append member.1 member.2 members
      rw [heq, member?] at ih
      rw [hlast, member?, find?_insertMember, List.reverse_append,
        List.reverse_singleton, List.singleton_append, List.find?_cons]
      by_cases h : member.1 = key
      · simp [h]
      · simp [h, ih]

theorem member?_ofMembers_of_forall (hmem : (key, value) ∈ members)
    (hall : ∀ member ∈ members, member.1 = key → member.2 = value) :
    (ofMembers members).member? key = some value := by
  rw [member?_ofMembers, find?_of_forall (List.mem_reverse.mpr hmem)
    fun member hmember =>
    hall member (List.mem_reverse.mp hmember)]
  rfl

theorem member?_ofMembers_eq_none (h : key ∉ members.map Prod.fst) :
    (ofMembers members).member? key = none := by
  rw [member?_ofMembers, Option.map_eq_none_iff, List.find?_eq_none]
  intro member hmem hkey
  exact h
    (List.mem_map.mpr ⟨member, List.mem_reverse.mp hmem, by simpa using hkey⟩)

end Signpost.Json
