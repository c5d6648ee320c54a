import Signpost.Proofs.Regex.Lists

/-!
# Loops

Rounds of a loop are searched depth first, with the places visited kept in a
set.  The search realizes the relation of any number of rounds: a place that has
been visited is settled, which is to say that all that rounds reach from it has
been visited as well.
-/

namespace Signpost.Regex

/-! ## Rounds of a loop -/

section Loops

variable {search : Spot → List Spot} {R : Spot → Spot → Prop}

theorem Lists.exactly (start : Spot) (hR : Moves R)
    (hsearch : Realizes search R) (count : Nat) :
    ∀ {spots P}, Lists spots P → (∀ spot, P spot → start.Leads spot) →
      Lists (Regex.exactly search count spots) fun stop =>
        ∃ middle, P middle ∧ Rounds R count middle stop := by
  induction count with
  | zero =>
      intro spots P h _
      rw [Regex.exactly]
      exact h.imp fun spot => by simp
  | succ count ih =>
      intro spots P h hleads
      cases spots with
      | nil =>
          refine ⟨by simp [Regex.exactly], ?_⟩
          rintro stop ⟨middle, hmiddle, -⟩
          obtain ⟨_, hfound, -⟩ := h.complete middle hmiddle
          cases hfound
      | cons head tail =>
          have hround := h.andThen hleads hR hsearch
          have hleads' : ∀ spot, (∃ middle, P middle ∧ R middle spot) →
              start.Leads spot := by
            rintro spot ⟨middle, hmiddle, hstep⟩
            exact (hleads middle hmiddle).trans (hR.leads hstep)
          change Lists (Regex.exactly search count
            (Regex.andThen (head :: tail) search)) _
          refine (ih hround hleads').imp fun stop => ?_
          constructor
          · rintro ⟨next, ⟨middle, hmiddle, hstep⟩, hrounds⟩
            exact ⟨middle, hmiddle, .more hstep hrounds⟩
          · rintro ⟨middle, hmiddle, hrounds⟩
            obtain ⟨next, hstep, hrounds⟩ := Rounds.succ_iff.mp hrounds
            exact ⟨next, ⟨middle, hmiddle, hstep⟩, hrounds⟩

def Reaches (R : Spot → Spot → Prop) (start stop : Spot) : Prop :=
  ∃ count, Rounds R count start stop

theorem Reaches.refl (spot : Spot) : Reaches R spot spot := ⟨0, .done spot⟩

theorem Reaches.head {start middle stop : Spot} (h : R start middle) :
    Reaches R middle stop → Reaches R start stop
  | ⟨count, hrounds⟩ => ⟨count + 1, .more h hrounds⟩

theorem Reaches.trans {start middle stop : Spot} :
    Reaches R start middle → Reaches R middle stop → Reaches R start stop
  | ⟨first, hfirst⟩, ⟨second, hsecond⟩ =>
    ⟨first + second, Rounds.add_iff.mpr ⟨middle, hfirst, hsecond⟩⟩

theorem Reaches.leads (hR : Moves R) {start stop : Spot} :
    Reaches R start stop → start.Leads stop
  | ⟨count, hrounds⟩ => (Rounds.moves hR count).leads hrounds

theorem Reaches.same (hR : Moves R) {start start' stop : Spot}
    (hsame : start.Same start') : Reaches R start stop →
      ∃ stop', Reaches R start' stop' ∧ stop.Same stop'
  | ⟨count, hrounds⟩ => by
      obtain ⟨stop', hrounds', hstop⟩ :=
        (Rounds.moves hR count).same hsame hrounds
      exact ⟨stop', ⟨count, hrounds'⟩, hstop⟩

/-! ## Depth-first search -/

/--
What a part of the search may do to the places seen and the spots put out:
nothing is taken back, every new spot is among those wanted, and every place
seen anew has a new spot.
-/
structure Progress (P : Spot → Prop) (before after : Places × List Spot) :
    Prop where
  seen : ∀ pos, before.1.has pos = true → after.1.has pos = true
  kept : ∀ spot ∈ before.2, spot ∈ after.2
  sound : ∀ spot ∈ after.2, spot ∈ before.2 ∨ P spot
  fresh : ∀ pos, after.1.has pos = true → before.1.has pos = true ∨
    ∃ spot ∈ after.2, P spot ∧ spot.pos = pos

namespace Progress

variable {P Q : Spot → Prop} {before between after : Places × List Spot}

theorem refl : Progress P before before :=
  ⟨fun _ h => h, fun _ h => h, fun _ h => .inl h, fun _ h => .inl h⟩

theorem trans (h : Progress P before between) (h' : Progress P between after) :
    Progress P before after where
  seen pos hpos := h'.seen pos (h.seen pos hpos)
  kept spot hspot := h'.kept spot (h.kept spot hspot)
  sound spot hspot := (h'.sound spot hspot).elim (h.sound spot) .inr
  fresh pos hpos := by
    rcases h'.fresh pos hpos with hpos | hnew
    · rcases h.fresh pos hpos with hpos | ⟨spot, hspot, hP, heq⟩
      · exact .inl hpos
      · exact .inr ⟨spot, h'.kept spot hspot, hP, heq⟩
    · exact .inr hnew

theorem imp (h : Progress P before after) (hPQ : ∀ spot, P spot → Q spot) :
    Progress Q before after where
  seen := h.seen
  kept := h.kept
  sound spot hspot := (h.sound spot hspot).imp_right (hPQ spot)
  fresh pos hpos := (h.fresh pos hpos).imp_right
    fun ⟨spot, hspot, hP, heq⟩ => ⟨spot, hspot, hPQ spot hP, heq⟩

theorem push {spot : Spot} (hP : P spot) :
    Progress P before (before.1, spot :: before.2) where
  seen _ hpos := hpos
  kept _ hspot := List.mem_cons_of_mem _ hspot
  sound _ hfound :=
    (List.mem_cons.mp hfound).elim (fun h => .inr (h ▸ hP)) .inl
  fresh _ hpos := .inl hpos

theorem pushIf {spot : Spot} (hP : P spot) (condition : Bool) :
    Progress P before
      (before.1, if condition then spot :: before.2 else before.2) := by
  cases condition
  · exact refl
  · exact push hP

theorem ofMarked {spot : Spot} (hP : P spot) (hmem : spot ∈ after.2)
    (h : Progress P (before.1.add spot.pos, before.2) after) :
    Progress P before after where
  seen pos hpos := h.seen pos (by simp [hpos])
  kept := h.kept
  sound := h.sound
  fresh pos hpos := by
    rcases h.fresh pos hpos with hseen | hnew
    · rcases Bool.or_eq_true_iff.mp (Places.has_add .. ▸ hseen) with hseen | heq
      · exact .inl hseen
      · exact .inr ⟨spot, hmem, hP, of_decide_eq_true heq⟩
    · exact .inr hnew

end Progress

/--
From every place seen beyond the spot, all that rounds reach has been seen.
-/
def Settled (R : Spot → Spot → Prop) (spot : Spot) (seen : Places) : Prop :=
  ∀ middle stop, spot.Leads middle → spot.pos < middle.pos →
    seen.has middle.pos = true → Reaches R middle stop →
    seen.has stop.pos = true

theorem settled_zero (spot : Spot) : Settled R spot 0 := by
  intro middle stop _ _ hseen
  simp at hseen

theorem Settled.mark {start spot : Spot} {seen : Places}
    (h : Settled R start seen) (hleads : start.Leads spot) :
    Settled R spot (seen.add spot.pos) := by
  intro middle stop hmiddle hlt hseen hreach
  have hseen' : seen.has middle.pos = true := by
    simpa [Nat.ne_of_lt hlt] using hseen
  have hpos := hleads.pos_le
  have hstop := h middle stop (hleads.trans hmiddle) (by omega) hseen' hreach
  simp [hstop]

private theorem Settled.progress (hR : Moves R) {spot next : Spot}
    {before after : Places × List Spot} (h : Settled R spot before.1)
    (hleads : spot.Leads next)
    (hprogress : Progress (Reaches R next) before after)
    (hcover : ∀ stop, Reaches R next stop → after.1.has stop.pos = true) :
    Settled R spot after.1 := by
  intro middle stop hmiddle hlt hseen hreach
  rcases hprogress.fresh middle.pos hseen with hold | ⟨found, -, hfound, hpos⟩
  · exact hprogress.seen _ (h middle stop hmiddle hlt hold hreach)
  · have hsame : middle.Same found :=
      hmiddle.same hpos.symm (hleads.trans (hfound.leads hR))
    obtain ⟨stop', hreach', hstop⟩ := hreach.same hR hsame
    rw [hstop.pos]
    exact hcover stop' (hfound.trans hreach')

/-- The search below one spot, and what is known once it is done. -/
def Explores (R : Spot → Spot → Prop) (spot : Spot)
    (before after : Places × List Spot) : Prop :=
  Progress (Reaches R spot) before after ∧ spot ∈ after.2 ∧
    ∀ stop, Reaches R spot stop → after.1.has stop.pos = true

theorem Explores.next (hR : Moves R) {spot next : Spot}
    {before after : Places × List Spot} (hstep : R spot next)
    (hsettled : Settled R spot before.1)
    (h : Explores R next (before.1.add next.pos, before.2) after) :
    Progress (Reaches R next) before after ∧ Settled R spot after.1 ∧
      after.1.has next.pos = true := by
  obtain ⟨hprogress, hmem, hcover⟩ := h
  have hprogress' := Progress.ofMarked (.refl next) hmem hprogress
  exact ⟨hprogress', hsettled.progress hR (hR.leads hstep) hprogress' hcover,
    hcover next (.refl next)⟩

theorem Settled.covers (hR : Moves R) (hsearch : Realizes search R)
    {spot : Spot} {seen : Places} (hsettled : Settled R spot seen)
    (hspot : seen.has spot.pos = true)
    (hnexts : ∀ next ∈ search spot, seen.has next.pos = true) (count : Nat) :
    ∀ {stop}, Rounds R count spot stop → seen.has stop.pos = true := by
  induction count with
  | zero =>
      intro stop h
      rw [Rounds.zero_iff.mp h]
      exact hspot
  | succ count ih =>
      intro stop h
      obtain ⟨middle, hstep, hrounds⟩ := Rounds.succ_iff.mp h
      have hleads := hR.leads hstep
      by_cases hpos : middle.pos = spot.pos
      -- a round that takes nothing leaves one round less to make
      · obtain ⟨stop', hrounds', hstop⟩ :=
          (Rounds.moves hR count).same (hleads.same_start hpos) hrounds
        rw [hstop.pos]
        exact ih hrounds'
      · obtain ⟨next, hnext, heq⟩ := (hsearch spot).complete middle hstep
        have hseen := hnexts next hnext
        rw [heq] at hseen
        have := hleads.pos_le
        exact hsettled middle stop hleads (by omega) hseen ⟨count, hrounds⟩

theorem foldl_explores {spot : Spot} {marks : Places}
    (explore : Spot → Places × List Spot → Places × List Spot)
    (hexplore : ∀ next state, R spot next →
      (∀ pos, marks.has pos = true → state.1.has pos = true) →
      ¬ state.1.has next.pos = true → Settled R spot state.1 →
      Progress (Reaches R next) state (explore next state) ∧
        Settled R spot (explore next state).1 ∧
        (explore next state).1.has next.pos = true) :
    ∀ (nexts : List Spot) (state : Places × List Spot),
      (∀ next ∈ nexts, R spot next) →
      (∀ pos, marks.has pos = true → state.1.has pos = true) →
      Settled R spot state.1 →
      let last := nexts.foldl
        (fun reached next =>
          if reached.1.has next.pos then reached else explore next reached)
        state
      Progress (fun stop => ∃ next, R spot next ∧ Reaches R next stop)
          state last ∧
        Settled R spot last.1 ∧
        ∀ next ∈ nexts, last.1.has next.pos = true := by
  intro nexts
  induction nexts with
  | nil =>
      intro state _ _ hsettled
      exact ⟨.refl, hsettled, by simp⟩
  | cons next nexts ih =>
      intro state hsteps hmarks hsettled
      have hstep := hsteps next List.mem_cons_self
      have hrest : ∀ other ∈ nexts, R spot other := fun other h =>
        hsteps other (List.mem_cons_of_mem _ h)
      rw [List.foldl_cons]
      by_cases hseen : state.1.has next.pos = true
      · rw [if_pos hseen]
        obtain ⟨hprogress, hsettled, hall⟩ := ih state hrest hmarks hsettled
        refine ⟨hprogress, hsettled, ?_⟩
        intro other hother
        rcases List.mem_cons.mp hother with rfl | hother
        · exact hprogress.seen _ hseen
        · exact hall other hother
      · rw [if_neg hseen]
        obtain ⟨hprogress, hsettled, hnext⟩ :=
          hexplore next state hstep hmarks hseen hsettled
        obtain ⟨hprogress', hsettled', hall⟩ := ih (explore next state) hrest
          (fun pos hpos => hprogress.seen pos (hmarks pos hpos)) hsettled
        refine ⟨(hprogress.imp fun stop h => ⟨next, hstep, h⟩).trans
          hprogress', hsettled', ?_⟩
        intro other hother
        rcases List.mem_cons.mp hother with rfl | hother
        · exact hprogress'.seen _ hnext
        · exact hall other hother

private theorem visit_succ (greedy : Bool) (fuel : Nat) (spot : Spot)
    (state : Places × List Spot) :
    visit search greedy (fuel + 1) spot state =
      let last := (search spot).foldl
        (fun reached next =>
          if reached.1.has next.pos then reached
          else visit search greedy fuel next
            (reached.1.add next.pos, reached.2))
        (state.1, if !greedy then spot :: state.2 else state.2)
      (last.1, if greedy then spot :: last.2 else last.2) := by
  cases greedy <;> rfl

private theorem visit_explores (hR : Moves R) (hsearch : Realizes search R)
    (greedy : Bool) (fuel : Nat) : ∀ {spot state},
      spot.rest.length ≤ fuel → state.1.has spot.pos = true →
      Settled R spot state.1 →
      Explores R spot state (visit search greedy fuel spot state) := by
  induction fuel with
  | zero =>
      intro spot state hfuel hspot hsettled
      refine ⟨Progress.push (.refl spot), List.mem_cons_self, ?_⟩
      intro stop hreach
      have hleads := hreach.leads hR
      have hlength := hleads.rest_length
      have hpos := hleads.pos_le
      have heq : stop.pos = spot.pos := by omega
      rw [heq]
      exact hspot
  | succ fuel ih =>
      intro spot state hfuel hspot hsettled
      have hexplore : ∀ next (reached : Places × List Spot), R spot next →
          (∀ pos, state.1.has pos = true → reached.1.has pos = true) →
          ¬ reached.1.has next.pos = true → Settled R spot reached.1 →
          let after := visit search greedy fuel next
            (reached.1.add next.pos, reached.2)
          Progress (Reaches R next) reached after ∧ Settled R spot after.1 ∧
            after.1.has next.pos = true := by
        intro next reached hstep hmarks hfresh hsettled
        have hleads := hR.leads hstep
        have hlength := hleads.rest_length
        have hpos := hleads.pos_le
        -- a fresh place lies further on, with less text left than fuel
        have hne : next.pos ≠ spot.pos := by
          intro heq
          rw [heq] at hfresh
          exact hfresh (hmarks _ hspot)
        refine Explores.next hR hstep hsettled (ih ?_ ?_ (hsettled.mark hleads))
        · omega
        · simp
      rw [visit_succ]
      obtain ⟨hprogress, hsettled', hall⟩ := foldl_explores _ hexplore
        (search spot) (state.1, if !greedy then spot :: state.2 else state.2)
        (hsearch spot).sound (fun _ h => h) hsettled
      have hrounds := hprogress.imp fun stop ⟨next, hstep, h⟩ => h.head hstep
      refine ⟨((Progress.pushIf (.refl spot) _).trans hrounds).trans
        (Progress.pushIf (.refl spot) _), ?_, ?_⟩
      · cases greedy
        · exact hprogress.kept spot List.mem_cons_self
        · exact List.mem_cons_self
      · rintro stop ⟨count, hrounds⟩
        exact hsettled'.covers hR hsearch (hprogress.seen _ hspot) hall count
          hrounds

/-! ## Loops without an upper bound -/

theorem Lists.oneOrMore (hR : Moves R) (hsearch : Realizes search R)
    (greedy : Bool) (spot : Spot) :
    Lists (oneOrMore search greedy spot) fun stop =>
      ∃ count, Rounds R (count + 1) spot stop := by
  have hexplore : ∀ next (reached : Places × List Spot), R spot next →
      (∀ pos, Places.has 0 pos = true → reached.1.has pos = true) →
      ¬ reached.1.has next.pos = true → Settled R spot reached.1 →
      let after :=
        let seen := reached.1.add next.pos
        if next.pos = spot.pos then (seen, next :: reached.2)
        else visit search greedy spot.rest.length next (seen, reached.2)
      Progress (Reaches R next) reached after ∧ Settled R spot after.1 ∧
        after.1.has next.pos = true := by
    intro next reached hstep _ hfresh hsettled
    have hleads := hR.leads hstep
    have hlength := hleads.rest_length
    have hpos := hleads.pos_le
    by_cases heq : next.pos = spot.pos
    · rw [if_pos heq]
      refine ⟨Progress.ofMarked (.refl next) List.mem_cons_self
        (Progress.push (.refl next)), ?_, by simp⟩
      rw [heq]
      exact hsettled.mark (.refl spot)
    · rw [if_neg heq]
      refine Explores.next hR hstep hsettled
        (visit_explores hR hsearch greedy _ ?_ ?_ (hsettled.mark hleads))
      · omega
      · simp
  obtain ⟨hprogress, hsettled, hall⟩ := foldl_explores _ hexplore
    (search spot) (0, []) (hsearch spot).sound (fun _ h => h)
    (settled_zero spot)
  constructor
  · intro stop hstop
    rcases hprogress.sound stop (List.mem_reverse.mp hstop) with h | h
    · cases h
    · obtain ⟨next, hstep, count, hrounds⟩ := h
      exact ⟨count, .more hstep hrounds⟩
  · rintro stop ⟨count, hrounds⟩
    obtain ⟨middle, hstep, hrounds⟩ := Rounds.succ_iff.mp hrounds
    have hleads := hR.leads hstep
    obtain ⟨next, hnext, heq⟩ := (hsearch spot).complete middle hstep
    have hseen := hall next hnext
    rw [heq] at hseen
    refine (hprogress.fresh stop.pos ?_).elim (fun hnone => by simp at hnone) ?_
    -- a first round that takes nothing leads back to the marked place
    · by_cases hpos : middle.pos = spot.pos
      · obtain ⟨stop', hrounds', hsame⟩ :=
          (Rounds.moves hR count).same (hleads.same_start hpos) hrounds
        rw [hpos] at hseen
        rw [hsame.pos]
        exact hsettled.covers hR hsearch hseen hall count hrounds'
      · have := hleads.pos_le
        exact hsettled middle stop hleads (by omega) hseen ⟨count, hrounds⟩
    · rintro ⟨found, hfound, -, hpos⟩
      exact ⟨found, List.mem_reverse.mpr hfound, hpos⟩

theorem Lists.zeroOrMore (hR : Moves R) (hsearch : Realizes search R)
    (greedy : Bool) (spot : Spot) :
    Lists (zeroOrMore search greedy spot) (Reaches R spot) := by
  have hmore := Lists.oneOrMore hR hsearch greedy spot
  have hzero := Lists.singleton spot
  have hsplit : ∀ stop, Reaches R spot stop ↔
      stop = spot ∨ ∃ count, Rounds R (count + 1) spot stop := by
    intro stop
    constructor
    · rintro ⟨count, hrounds⟩
      cases count with
      | zero => exact .inl (Rounds.zero_iff.mp hrounds)
      | succ count => exact .inr ⟨count, hrounds⟩
    · rintro (rfl | ⟨count, hrounds⟩)
      · exact .refl stop
      · exact ⟨count + 1, hrounds⟩
  refine Lists.distinct ?_
  cases greedy with
  | false => exact (hzero.append hmore).imp fun stop => (hsplit stop).symm
  | true =>
      refine (hmore.append hzero).imp fun stop => ?_
      rw [hsplit]
      exact or_comm

end Loops

end Signpost.Regex
