import Signpost.Proofs.Regex.Loops

/-!
# Loops with an upper bound

A loop that may be made so many times keeps the places visited before each
round apart.  Rounds are counted down, so that a place visited before a later
round does not hide it from an earlier one, which may go further from there.
-/

namespace Signpost.Regex

variable {search : Spot → List Spot} {R : Spot → Spot → Prop}

def Within (R : Spot → Spot → Prop) (count : Nat) (start stop : Spot) : Prop :=
  ∃ used ≤ count, Rounds R used start stop

theorem Within.refl (count : Nat) (spot : Spot) : Within R count spot spot :=
  ⟨0, Nat.zero_le count, .done spot⟩

theorem within_succ_iff {count : Nat} {start stop : Spot} :
    Within R (count + 1) start stop ↔
      stop = start ∨ ∃ next, R start next ∧ Within R count next stop := by
  constructor
  · rintro ⟨used, hused, hrounds⟩
    cases used with
    | zero => exact .inl (Rounds.zero_iff.mp hrounds)
    | succ used =>
        obtain ⟨next, hstep, hrounds⟩ := Rounds.succ_iff.mp hrounds
        exact .inr ⟨next, hstep, used, Nat.le_of_succ_le_succ hused, hrounds⟩
  · rintro (rfl | ⟨next, hstep, used, hused, hrounds⟩)
    · exact .refl _ _
    · exact ⟨used + 1, Nat.succ_le_succ hused, .more hstep hrounds⟩

/--
A spot is put out for all that the rounds still to be made reach from the
places seen before each round.
-/
def Covered (R : Spot → Spot → Prop) (start : Spot) :
    Nat → List Places → List Spot → Prop
  | 0, _, _ => True
  | count + 1, seen, out =>
    (∀ middle stop, start.Leads middle →
      (seen.headD 0).has middle.pos = true → Within R count middle stop →
      ∃ found ∈ out, found.pos = stop.pos) ∧
    Covered R start count seen.tail out

theorem covered_nil (start : Spot) (count : Nat) (out : List Spot) :
    Covered R start count [] out := by
  induction count with
  | zero => trivial
  | succ count ih =>
      refine ⟨?_, ih⟩
      intro middle stop _ hseen
      simp at hseen

theorem Covered.mono {start : Spot} {out out' : List Spot}
    (hout : ∀ spot ∈ out, spot ∈ out') {count : Nat} :
    ∀ {seen}, Covered R start count seen out →
      Covered R start count seen out' := by
  induction count with
  | zero => exact fun _ => trivial
  | succ count ih =>
      intro seen h
      refine ⟨?_, ih h.2⟩
      intro middle stop hleads hseen hwithin
      obtain ⟨found, hfound, hpos⟩ := h.1 middle stop hleads hseen hwithin
      exact ⟨found, hout found hfound, hpos⟩

structure SearchesUpTo (R : Spot → Spot → Prop) (start : Spot) (count : Nat)
    (P : Spot → Prop) (before after : List Places × List Spot) : Prop where
  kept : ∀ spot ∈ before.2, spot ∈ after.2
  sound : ∀ spot ∈ after.2, spot ∈ before.2 ∨ P spot
  covered : Covered R start count after.1 after.2

theorem visitUpTo_succ (greedy : Bool) (count : Nat) (spot : Spot)
    (state : List Places × List Spot) :
    visitUpTo search greedy (count + 1) spot state =
      let last := (search spot).foldl
        (fun reached next =>
          if reached.1.has next.pos then reached
          else
            let below := visitUpTo search greedy count next reached.2
            (reached.1.add next.pos, below))
        (state.1.headD 0, state.1.tail,
          if !greedy then spot :: state.2 else state.2)
      (last.1 :: last.2.1, if greedy then spot :: last.2.2 else last.2.2) := by
  cases greedy <;> rfl

theorem Covered.mark (hR : Moves R) {start next : Spot}
    {count : Nat} {places : Places}
    {before after : List Places × List Spot} (hleads : start.Leads next)
    (hcovered : Covered R start (count + 1) (places :: before.1) before.2)
    (hnext : SearchesUpTo R start count (Within R count next) before after)
    (hfound : ∀ stop, Within R count next stop →
      ∃ found ∈ after.2, found.pos = stop.pos) :
    Covered R start (count + 1) (places.add next.pos :: after.1) after.2 := by
  refine ⟨?_, hnext.covered⟩
  intro middle stop hmiddle hmarked hwithin
  rcases Bool.or_eq_true_iff.mp (Places.has_add .. ▸ hmarked) with hold | heq
  · obtain ⟨found, hmem, hpos⟩ := hcovered.1 middle stop hmiddle hold hwithin
    exact ⟨found, hnext.kept found hmem, hpos⟩
  · have hsame := hleads.same (of_decide_eq_true heq) hmiddle
    obtain ⟨used, hused, hrounds⟩ := hwithin
    obtain ⟨stop', hrounds', hstop⟩ :=
      (Rounds.moves hR used).same hsame.symm hrounds
    obtain ⟨found, hmem, hpos⟩ := hfound stop' ⟨used, hused, hrounds'⟩
    exact ⟨found, hmem, hpos.trans hstop.pos.symm⟩

private theorem foldl_searchesUpTo (hR : Moves R)
    {start spot : Spot} {count : Nat} (hspot : start.Leads spot)
    (below : Spot → List Places × List Spot → List Places × List Spot)
    (hbelow : ∀ next state, start.Leads next →
      Covered R start count state.1 state.2 →
      SearchesUpTo R start count (Within R count next) state
          (below next state) ∧
        ∀ stop, Within R count next stop →
          ∃ found ∈ (below next state).2, found.pos = stop.pos) :
    ∀ (nexts : List Spot) (state : Places × List Places × List Spot),
      (∀ next ∈ nexts, R spot next) →
      Covered R start (count + 1) (state.1 :: state.2.1) state.2.2 →
      let last := nexts.foldl
        (fun reached next =>
          if reached.1.has next.pos then reached
          else (reached.1.add next.pos, below next reached.2)) state
      SearchesUpTo R start (count + 1)
          (fun stop => ∃ next, R spot next ∧ Within R count next stop)
          (state.1 :: state.2.1, state.2.2) (last.1 :: last.2.1, last.2.2) ∧
        (∀ pos, state.1.has pos = true → last.1.has pos = true) ∧
        ∀ next ∈ nexts, last.1.has next.pos = true := by
  intro nexts
  induction nexts with
  | nil =>
      intro state _ hcovered
      exact ⟨⟨fun _ h => h, fun _ h => .inl h, hcovered⟩, fun _ h => h,
        by simp⟩
  | cons next nexts ih =>
      intro state hsteps hcovered
      have hstep := hsteps next List.mem_cons_self
      have hrest : ∀ other ∈ nexts, R spot other := fun other h =>
        hsteps other (List.mem_cons_of_mem _ h)
      rw [List.foldl_cons]
      -- a marked place has been searched with as many rounds left
      by_cases hseen : state.1.has next.pos = true
      · rw [if_pos hseen]
        obtain ⟨hsearches, hmarks, hall⟩ := ih state hrest hcovered
        refine ⟨hsearches, hmarks, ?_⟩
        intro other hother
        rcases List.mem_cons.mp hother with rfl | hother
        · exact hmarks _ hseen
        · exact hall other hother
      · rw [if_neg hseen]
        have hleads := hspot.trans (hR.leads hstep)
        obtain ⟨hnext, hfound⟩ := hbelow next state.2 hleads hcovered.2
        have hcovered' := hcovered.mark hR hleads hnext hfound
        obtain ⟨hsearches, hmarks, hall⟩ :=
          ih (state.1.add next.pos, below next state.2) hrest hcovered'
        refine ⟨⟨?_, ?_, hsearches.covered⟩, ?_, ?_⟩
        · exact fun found h => hsearches.kept found (hnext.kept found h)
        · intro found hmem
          rcases hsearches.sound found hmem with hmem | hnew
          · exact (hnext.sound found hmem).imp_right
              fun hwithin => ⟨next, hstep, hwithin⟩
          · exact .inr hnew
        · exact fun pos hpos => hmarks pos (by simp [hpos])
        · intro other hother
          rcases List.mem_cons.mp hother with rfl | hother
          · exact hmarks _ (by simp)
          · exact hall other hother

theorem mem_put (condition : Bool) (spot : Spot) (out : List Spot) :
    (∀ found ∈ out, found ∈ if condition then spot :: out else out) ∧
      ∀ found ∈ (if condition then spot :: out else out),
        found ∈ out ∨ found = spot := by
  cases condition with
  | false => exact ⟨fun _ h => h, fun _ h => .inl h⟩
  | true =>
      exact ⟨fun _ h => List.mem_cons_of_mem _ h,
        fun _ h => (List.mem_cons.mp h).symm⟩

private theorem visitUpTo_searches (hR : Moves R) (hsearch : Realizes search R)
    (greedy : Bool) (start : Spot) (count : Nat) : ∀ (spot : Spot)
      (state : List Places × List Spot),
      start.Leads spot → Covered R start count state.1 state.2 →
      SearchesUpTo R start count (Within R count spot) state
          (visitUpTo search greedy count spot state) ∧
        ∀ stop, Within R count spot stop →
          ∃ found ∈ (visitUpTo search greedy count spot state).2,
            found.pos = stop.pos := by
  induction count with
  | zero =>
      intro spot state _ _
      refine ⟨⟨fun _ h => List.mem_cons_of_mem _ h, ?_, trivial⟩, ?_⟩
      · intro found hfound
        rcases List.mem_cons.mp hfound with rfl | hfound
        · exact .inr (.refl 0 found)
        · exact .inl hfound
      · rintro stop ⟨used, hused, hrounds⟩
        obtain rfl := Nat.le_zero.mp hused
        rw [Rounds.zero_iff.mp hrounds]
        exact ⟨spot, List.mem_cons_self, rfl⟩
  | succ count ih =>
      intro spot state hspot hcovered
      have hfirst := mem_put (!greedy) spot state.2
      have hcovered' := Covered.mono hfirst.1 hcovered
      obtain ⟨hsearches, -, hall⟩ := foldl_searchesUpTo hR hspot
        (visitUpTo search greedy count)
        ih (search spot)
        (state.1.headD 0, state.1.tail,
          if !greedy then spot :: state.2 else state.2)
        (hsearch spot).sound hcovered'
      rw [visitUpTo_succ]
      have hlast := mem_put greedy spot
      refine ⟨⟨?_, ?_, Covered.mono (hlast _).1 hsearches.covered⟩, ?_⟩
      · intro found hfound
        exact (hlast _).1 _ (hsearches.kept _ (hfirst.1 _ hfound))
      · intro found hfound
        rcases (hlast _).2 found hfound with hfound | rfl
        · rcases hsearches.sound found hfound with hfound | hnew
          · rcases hfirst.2 found hfound with hfound | rfl
            · exact .inl hfound
            · exact .inr (.refl _ _)
          · exact .inr (within_succ_iff.mpr (.inr hnew))
        · exact .inr (.refl _ _)
      · intro stop hwithin
        rcases within_succ_iff.mp hwithin with rfl | ⟨next, hstep, hwithin⟩
        · refine ⟨stop, ?_, rfl⟩
          cases greedy
          · exact hsearches.kept stop List.mem_cons_self
          · exact List.mem_cons_self
        -- the search lists one spot for each place, not each of the spots
        · obtain ⟨other, hother, hpos⟩ := (hsearch spot).complete next hstep
          have hseen := hall other hother
          rw [hpos] at hseen
          obtain ⟨found, hfound, hpos⟩ := hsearches.covered.1 next stop
            (hspot.trans (hR.leads hstep)) hseen hwithin
          exact ⟨found, (hlast _).1 found hfound, hpos⟩

theorem Lists.upTo (hR : Moves R) (hsearch : Realizes search R)
    (greedy : Bool) (count : Nat) (spot : Spot) :
    Lists (upTo search greedy count spot) (Within R count spot) := by
  obtain ⟨hsearches, hall⟩ := visitUpTo_searches hR hsearch greedy spot count
    spot ([], []) (.refl spot) (covered_nil spot count [])
  refine Lists.distinct ⟨?_, ?_⟩
  · intro found hfound
    rcases hsearches.sound found (List.mem_reverse.mp hfound) with h | h
    · cases h
    · exact h
  · intro stop hwithin
    obtain ⟨found, hfound, hpos⟩ := hall stop hwithin
    exact ⟨found, List.mem_reverse.mpr hfound, hpos⟩

end Signpost.Regex
