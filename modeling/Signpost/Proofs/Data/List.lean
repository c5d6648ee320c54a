import Mathlib.Data.List.Forall2
import Mathlib.Data.List.Nodup
import Mathlib.Data.List.TakeWhile

/-!
# Lists taken apart

Facts about lists of any kind: where they can be split, what a scan takes from
them, and which entry is found under a key.
-/

namespace Signpost

variable {α β γ κ : Type*}

theorem concat_eq_split_iff {all earlier later : List α} {last middle : α} :
    all ++ [last] = earlier ++ middle :: later ↔
      earlier = all ∧ middle = last ∧ later = [] ∨
        ∃ between, later = between ++ [last] ∧
          all = earlier ++ middle :: between := by
  constructor
  · intro h
    rcases List.eq_nil_or_concat later with rfl | ⟨between, other, rfl⟩
    · obtain ⟨rfl, hlast⟩ := List.append_inj' h rfl
      exact .inl ⟨rfl, (List.cons.inj hlast).1.symm, rfl⟩
    · rw [List.concat_eq_append, ← List.cons_append, ← List.append_assoc] at h
      obtain ⟨rfl, hlast⟩ := List.append_inj' h rfl
      obtain ⟨rfl, -⟩ := List.cons.inj hlast
      exact .inr ⟨between, List.concat_eq_append .., rfl⟩
  · rintro (⟨rfl, rfl, rfl⟩ | ⟨between, rfl, rfl⟩)
    · rfl
    · simp

theorem exists_split_count [DecidableEq α] {list : List α}
    {sign : α} {count : Nat} (h : count < list.count sign) :
    ∃ before rest, list = before ++ sign :: rest ∧
      before.count sign = count := by
  induction list generalizing count with
  | nil => cases h
  | cons c list ih =>
      by_cases hc : c = sign
      · subst hc
        cases count with
        | zero => exact ⟨[], list, rfl, rfl⟩
        | succ count =>
            rw [List.count_cons_self] at h
            obtain ⟨before, rest, rfl, hcount⟩ := @ih count (by omega)
            exact ⟨c :: before, rest, rfl, by simp [hcount]⟩
      · rw [List.count_cons_of_ne hc] at h
        obtain ⟨before, rest, rfl, hcount⟩ := ih h
        exact ⟨c :: before, rest, rfl,
          by simp [List.count_cons_of_ne hc, hcount]⟩

theorem getLast?_of_append {before after : List α} {c : α}
    (h : (before ++ after).getLast? = some c)
    (hbefore : before.getLast? ≠ some c) : after.getLast? = some c := by
  rw [List.getLast?_append] at h
  cases hafter : after.getLast? with
  | none => simp [hafter, hbefore] at h
  | some d => simpa [hafter] using h

theorem exists_of_forall₂_concat {R : α → β → Prop} {xs : List α} {x : α}
    {ys : List β} (h : List.Forall₂ R (xs ++ [x]) ys) :
    ∃ front y, List.Forall₂ R xs front ∧ R x y ∧ ys = front ++ [y] := by
  have hreverse := List.forall₂_reverse_iff.mpr h
  rw [List.reverse_concat] at hreverse
  obtain ⟨y, back, hx, hback, heq⟩ := List.forall₂_cons_left_iff.mp hreverse
  refine ⟨back.reverse, y, ?_, hx, ?_⟩
  · rw [← List.forall₂_reverse_iff, List.reverse_reverse]
    exact hback
  · rw [← List.reverse_cons, ← heq, List.reverse_reverse]

theorem suffix_of_cons_suffix {c : α} {rest list : List α}
    (h : c :: rest <:+ list) : rest <:+ list :=
  (List.suffix_cons c rest).trans h

theorem suffix_of_not_mem {sign : α} {place before rest : List α}
    (hnot : sign ∉ before) (hplace : sign :: place <:+ before ++ rest) :
    sign :: place <:+ rest := by
  induction before with
  | nil => exact hplace
  | cons c before ih =>
      simp only [List.mem_cons, not_or] at hnot
      rcases List.suffix_cons_iff.mp hplace with heq | hlater
      · exact absurd (List.cons_eq_cons.mp heq).1 hnot.1
      · exact ih hnot.2 hlater

variable {test : α → Bool} {list rest : List α} {c : α}

theorem takeWhile_of_head (h : ∀ c, rest.head? = some c → test c = false) :
    rest.takeWhile test = [] := by
  cases rest with
  | nil => rfl
  | cons c rest => simp [h c rfl]

theorem head_dropWhile (h : (list.dropWhile test).head? = some c) :
    test c = false := by
  have hnot := List.head?_dropWhile_not test list
  simpa [h] using hnot

theorem dropWhile_of_takeWhile {before : List α}
    (h : (before ++ list).takeWhile test = before) :
    (before ++ list).dropWhile test = list := by
  have happend := @List.takeWhile_append_dropWhile _ test (before ++ list)
  rw [h] at happend
  exact List.append_cancel_left happend

theorem dropWhile_append (h : list.dropWhile test = c :: rest)
    (behind : List α) :
    (list ++ behind).dropWhile test = c :: (rest ++ behind) := by
  rw [List.dropWhile_append, h]
  rfl

theorem takeWhile_append (h : list.dropWhile test = c :: rest)
    (behind : List α) :
    (list ++ behind).takeWhile test = list.takeWhile test := by
  induction list with
  | nil => cases h
  | cons d list ih =>
      cases htest : test d with
      | false => simp [htest]
      | true => simpa [htest] using ih (by simpa [htest] using h)

theorem find?_of_forall [DecidableEq κ] {entries : List (κ × α)} {entry : κ × α}
    (hmem : entry ∈ entries)
    (hall : ∀ other ∈ entries, other.1 = entry.1 → other.2 = entry.2) :
    entries.find? (fun other => other.1 = entry.1) = some entry := by
  have hsome : (entries.find? fun other => other.1 = entry.1).isSome := by
    rw [List.find?_isSome]
    exact ⟨entry, hmem, by simp⟩
  obtain ⟨other, hother⟩ := Option.isSome_iff_exists.mp hsome
  have hkey : other.1 = entry.1 := by simpa using List.find?_some hother
  rw [hother,
    Prod.ext hkey (hall other (List.mem_of_find?_eq_some hother) hkey)]

theorem find?_of_nodup [DecidableEq κ] {entries : List (κ × α)} {entry : κ × α}
    (h : (entries.map Prod.fst).Nodup) (hmem : entry ∈ entries) :
    entries.find? (fun other => other.1 = entry.1) = some entry :=
  find?_of_forall hmem fun _ hother hkey =>
    congrArg Prod.snd (List.inj_on_of_nodup_map h hother hmem hkey)

theorem zipWith_append_left (f : α → β → γ) {first : List α} {second : List β}
    (more : List α) (h : second.length ≤ first.length) :
    List.zipWith f (first ++ more) second = List.zipWith f first second := by
  rw [List.zipWith_eq_zipWith_take_min, List.length_append,
    Nat.min_eq_right (by omega), List.take_append_of_le_length h]
  rw [@List.zipWith_eq_zipWith_take_min _ _ _ f first, Nat.min_eq_right h]

theorem intercalate_modifyHead_cons (c : α) (rest : List α)
    {pieces : List (List α)} (h : pieces ≠ []) :
    rest.intercalate (pieces.modifyHead (List.cons c)) =
      c :: rest.intercalate pieces := by
  obtain ⟨piece, pieces, rfl⟩ := List.exists_cons_of_ne_nil h
  cases pieces with
  | nil => rfl
  | cons next pieces =>
      rw [List.modifyHead_cons, List.intercalate_cons_cons,
        List.intercalate_cons_cons]
      rfl

end Signpost
