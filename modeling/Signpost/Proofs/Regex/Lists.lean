import Signpost.Proofs.Regex.Ways

/-!
# Lists of ends

A search from a spot answers with a list.  It realizes a relation when the list
holds nothing but spots that the relation leads to, and for each of these one
at the same place: of two ways to one place, one is enough.
-/

namespace Signpost.Regex

@[simp] theorem Places.has_zero (pos : Nat) : Places.has 0 pos = false :=
  Nat.zero_testBit pos

@[simp] theorem Places.has_add (places : Places) (pos pos' : Nat) :
    (places.add pos).has pos' = (places.has pos' || decide (pos = pos')) := by
  simp [Places.has, Places.add, Nat.testBit_or, Nat.one_shiftLeft,
    Nat.testBit_two_pow]

/-- The list holds ends only, and for every end one at its place. -/
structure Lists (spots : List Spot) (P : Spot → Prop) : Prop where
  sound : ∀ spot ∈ spots, P spot
  complete : ∀ spot, P spot → ∃ found ∈ spots, found.pos = spot.pos

def Realizes (search : Spot → List Spot) (R : Spot → Spot → Prop) : Prop :=
  ∀ start, Lists (search start) (R start)

private theorem mem_of_mem_distinctFrom {spot : Spot} {spots : List Spot} :
    ∀ {seen}, spot ∈ distinctFrom seen spots → spot ∈ spots := by
  induction spots with
  | nil => simp [distinctFrom]
  | cons head tail ih =>
      intro seen h
      rw [distinctFrom] at h
      split at h
      · exact List.mem_cons_of_mem _ (ih h)
      · rcases List.mem_cons.mp h with rfl | h
        · exact List.mem_cons_self
        · exact List.mem_cons_of_mem _ (ih h)

private theorem exists_mem_distinctFrom {spot : Spot} {spots : List Spot}
    (hspot : spot ∈ spots) : ∀ seen, seen.has spot.pos = true ∨
      ∃ found ∈ distinctFrom seen spots, found.pos = spot.pos := by
  induction spots with
  | nil => cases hspot
  | cons head tail ih =>
      intro seen
      rw [distinctFrom]
      rcases List.mem_cons.mp hspot with rfl | htail
      · by_cases hseen : seen.has spot.pos = true
        · exact .inl hseen
        · exact .inr ⟨spot, by simp [hseen], rfl⟩
      · by_cases hhead : seen.has head.pos = true
        · simpa [hhead] using ih htail seen
        · rcases ih htail (seen.add head.pos) with h | ⟨found, hfound, hpos⟩
          · rcases Bool.or_eq_true_iff.mp (Places.has_add .. ▸ h) with h | h
            · exact .inl h
            · exact .inr ⟨head, by simp [hhead], of_decide_eq_true h⟩
          · exact .inr ⟨found, by simp [hhead, hfound], hpos⟩

namespace Lists

variable {spots more : List Spot} {P Q : Spot → Prop}

theorem distinct (h : Lists spots P) : Lists (distinct spots) P := by
  unfold Regex.distinct
  split
  · exact h
  · exact h
  · refine ⟨fun spot hspot => h.sound spot (mem_of_mem_distinctFrom hspot), ?_⟩
    intro spot hspot
    obtain ⟨found, hfound, hpos⟩ := h.complete spot hspot
    rcases exists_mem_distinctFrom hfound 0 with hseen | ⟨other, hother, hpos'⟩
    · simp at hseen
    · exact ⟨other, hother, hpos'.trans hpos⟩

theorem append (h : Lists spots P) (h' : Lists more Q) :
    Lists (spots ++ more) fun spot => P spot ∨ Q spot where
  sound spot hspot :=
    (List.mem_append.mp hspot).imp (h.sound spot) (h'.sound spot)
  complete := by
    rintro spot (hP | hQ)
    · obtain ⟨found, hfound, hpos⟩ := h.complete spot hP
      exact ⟨found, List.mem_append_left _ hfound, hpos⟩
    · obtain ⟨found, hfound, hpos⟩ := h'.complete spot hQ
      exact ⟨found, List.mem_append_right _ hfound, hpos⟩

theorem imp (h : Lists spots P) (hPQ : ∀ spot, P spot ↔ Q spot) :
    Lists spots Q where
  sound spot hspot := (hPQ spot).mp (h.sound spot hspot)
  complete spot hspot := h.complete spot ((hPQ spot).mpr hspot)

theorem singleton (spot : Spot) : Lists [spot] (· = spot) where
  sound found hfound := List.mem_singleton.mp hfound
  complete found hfound := ⟨spot, List.mem_singleton_self spot, by rw [hfound]⟩

theorem andThen {start : Spot} {search : Spot → List Spot}
    {R : Spot → Spot → Prop} (h : Lists spots P)
    (hleads : ∀ spot, P spot → start.Leads spot) (hR : Moves R)
    (hsearch : Realizes search R) :
    Lists (Regex.andThen spots search) fun stop =>
      ∃ middle, P middle ∧ R middle stop := by
  refine Lists.distinct ⟨?_, ?_⟩
  · intro stop hstop
    obtain ⟨middle, hmiddle, hstop⟩ := List.mem_flatMap.mp hstop
    exact ⟨middle, h.sound middle hmiddle, (hsearch middle).sound stop hstop⟩
  · rintro stop ⟨middle, hmiddle, hstop⟩
    obtain ⟨found, hfound, hpos⟩ := h.complete middle hmiddle
    have hsame : middle.Same found :=
      (hleads middle hmiddle).same hpos.symm (hleads found (h.sound _ hfound))
    obtain ⟨stop', hstop', hsame'⟩ := hR.same hsame hstop
    obtain ⟨last, hlast, hpos'⟩ := (hsearch found).complete stop' hstop'
    exact ⟨last, List.mem_flatMap.mpr ⟨found, hfound, hlast⟩,
      hpos'.trans hsame'.pos.symm⟩

end Lists

end Signpost.Regex
