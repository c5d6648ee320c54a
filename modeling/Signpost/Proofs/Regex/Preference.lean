import Signpost.Proofs.Regex.Extension
import Signpost.Proofs.Regex.Sequences

/-!
# The preferred way

Of all ways through a sequence of expressions a search takes the first end of
the first expression from which the others can be passed, and so on.  Whether
they can be passed depends on the place alone, so that nothing is lost where
only one spot is kept of those at a place.
-/

namespace Signpost.Regex

open Spot

variable {α β : Type} {pick : Spot → Option α}

def Placed (pick : Spot → Option α) : Prop :=
  ∀ {first second : Spot}, first.Same second →
    (pick first).isSome = (pick second).isSome

theorem placed_some : Placed some := fun _ => rfl

private theorem findSome?_distinctFrom (spots : List Spot)
    (h : ∀ first ∈ spots, ∀ second ∈ spots, first.pos = second.pos →
      (pick first).isSome = (pick second).isSome) :
    ∀ seen, (∀ spot ∈ spots, seen.has spot.pos = true → pick spot = none) →
      (distinctFrom seen spots).findSome? pick = spots.findSome? pick := by
  induction spots with
  | nil => exact fun _ _ => rfl
  | cons spot spots ih =>
      intro seen hseen
      have hrest := ih fun first hfirst second hsecond =>
        h first (List.mem_cons_of_mem _ hfirst) second
          (List.mem_cons_of_mem _ hsecond)
      rw [distinctFrom, List.findSome?_cons]
      split
      · next hspot =>
          rw [hseen spot List.mem_cons_self hspot]
          exact hrest seen fun other hother =>
            hseen other (List.mem_cons_of_mem _ hother)
      · rw [List.findSome?_cons]
        cases hchoice : pick spot with
        | some choice => rfl
        | none =>
            refine hrest _ fun other hother hmark => ?_
            rw [Places.has_add, Bool.or_eq_true, decide_eq_true_eq] at hmark
            rcases hmark with hold | hpos
            · exact hseen other (List.mem_cons_of_mem _ hother) hold
            · have hsame := h spot List.mem_cons_self other
                (List.mem_cons_of_mem _ hother) hpos
              rw [hchoice, Option.isSome_none] at hsame
              exact Option.isSome_eq_false_iff.mp hsame.symm |>
                Option.isNone_iff_eq_none.mp

theorem findSome?_distinct {start : Spot} (h : Placed pick) {spots : List Spot}
    (hleads : ∀ spot ∈ spots, start.Leads spot) :
    (distinct spots).findSome? pick = spots.findSome? pick := by
  have hplaces : ∀ first ∈ spots, ∀ second ∈ spots, first.pos = second.pos →
      (pick first).isSome = (pick second).isSome :=
    fun first hfirst second hsecond hpos =>
      h ((hleads first hfirst).same hpos (hleads second hsecond))
  match spots with
  | [] | [_] => rfl
  | first :: second :: rest =>
      exact findSome?_distinctFrom (first :: second :: rest) hplaces 0 (by simp)

theorem findSome?_congr {pick' : Spot → Option α} {spots : List Spot}
    (h : ∀ spot ∈ spots, pick spot = pick' spot) :
    spots.findSome? pick = spots.findSome? pick' := by
  induction spots with
  | nil => rfl
  | cons spot spots ih =>
      rw [List.findSome?_cons, List.findSome?_cons, h spot List.mem_cons_self,
        ih fun other hother => h other (List.mem_cons_of_mem _ hother)]

theorem findSome?_flatMap (spots : List Spot) (search : Spot → List Spot) :
    (spots.flatMap search).findSome? pick =
      spots.findSome? fun spot => (search spot).findSome? pick := by
  induction spots with
  | nil => rfl
  | cons spot spots ih =>
      rw [List.flatMap_cons, List.findSome?_append, ih, List.findSome?_cons]
      cases (search spot).findSome? pick <;> rfl

theorem Ways.leads {nodes : List Node} {start stop : Spot}
    (h : Ways nodes start stop) :
    start.Leads stop := by
  induction nodes generalizing start with
  | nil => exact h ▸ .refl start
  | cons node nodes ih =>
      obtain ⟨middle, hway, hways⟩ := h
      exact (node.way_moves.leads hway).trans (ih hways)

theorem Ways.framed {nodes : List Node} {start stop : Spot}
    (h : Ways nodes start stop) (hstart : start.Framed) : stop.Framed := by
  induction nodes generalizing start with
  | nil => exact h ▸ hstart
  | cons node nodes ih =>
      obtain ⟨middle, hway, hways⟩ := h
      exact ih hways (node.way_framed hway hstart)

/-- Of the ends of one expression, the first that leads to a choice. -/
def Node.choose (node : Node) (next : Spot → Option α)
    (spot : Spot) : Option α :=
  (node.run spot).findSome? next

def chooseAlong (nodes : List Node) (last : Spot → Option α) :
    Spot → Option α :=
  nodes.foldr Node.choose last

theorem Node.isSome_choose {node : Node} (h : Placed pick) {start : Spot} :
    (node.choose pick start).isSome ↔
      ∃ stop, node.Way start stop ∧ (pick stop).isSome := by
  rw [Node.choose, List.findSome?_isSome_iff]
  constructor
  · rintro ⟨stop, hmem, hsome⟩
    exact ⟨stop, (node.run_realizes start).sound stop hmem, hsome⟩
  · rintro ⟨stop, hway, hsome⟩
    obtain ⟨found, hfound, hpos⟩ := (node.run_realizes start).complete stop hway
    have hleads :=
      node.way_moves.leads ((node.run_realizes start).sound found hfound)
    refine ⟨found, hfound, ?_⟩
    rw [h (hleads.same hpos (node.way_moves.leads hway))]
    exact hsome

theorem Node.placed_choose (node : Node) (h : Placed pick) :
    Placed (node.choose pick) := by
  have hone : ∀ {first second : Spot}, first.Same second →
      (node.choose pick first).isSome → (node.choose pick second).isSome := by
    intro first second hsame hsome
    obtain ⟨stop, hway, hstop⟩ := (isSome_choose h).mp hsome
    obtain ⟨stop', hway', hsame'⟩ := node.way_moves.same hsame hway
    exact (isSome_choose h).mpr ⟨stop', hway', by rwa [← h hsame']⟩
  exact fun {_ _} hsame => Bool.eq_iff_iff.mpr ⟨hone hsame, hone hsame.symm⟩

private theorem placed_chooseAlong (nodes : List Node) (h : Placed pick) :
    Placed (chooseAlong nodes pick) := by
  induction nodes with
  | nil => exact h
  | cons node nodes ih => exact node.placed_choose ih

private theorem Node.choose_seq {first second : Node}
    (h : Placed pick) (start : Spot) :
    (Node.seq first second).choose pick start =
      first.choose (second.choose pick) start := by
  have hleads : ∀ stop ∈ (first.run start).flatMap second.run,
      start.Leads stop := by
    intro stop hstop
    obtain ⟨middle, hmiddle, hstop⟩ := List.mem_flatMap.mp hstop
    exact (first.forward_run start middle hmiddle).trans
      (second.forward_run middle stop hstop)
  rw [Node.choose, run, andThen, findSome?_distinct h hleads, findSome?_flatMap]
  rfl

theorem chooseAlong_cons (node : Node) (nodes : List Node)
    (pick : Spot → Option α) :
    chooseAlong (node :: nodes) pick = node.choose (chooseAlong nodes pick) :=
      rfl

theorem chooseAlong_append (first second : List Node) (pick : Spot → Option α) :
    chooseAlong (first ++ second) pick =
      chooseAlong first (chooseAlong second pick) :=
  List.foldr_append

theorem choose_ofItems (nodes : List Node) :
    ∀ {pick : Spot → Option α}, Placed pick →
    (Node.ofItems nodes).choose pick = chooseAlong nodes.reverse pick := by
  induction nodes with
  | nil =>
      intro pick _
      funext spot
      simp [Node.ofItems, Node.choose, Node.run, chooseAlong]
  | cons node earlier ih =>
      intro pick h
      cases earlier with
      | nil => rfl
      | cons previous earlier =>
          funext spot
          rw [Node.ofItems, Node.choose_seq h, ih (node.placed_choose h),
            show (node :: previous :: earlier).reverse =
              (previous :: earlier).reverse ++ [node] from List.reverse_cons,
            chooseAlong_append]
          · rfl
          · simp

theorem isSome_chooseAlong (nodes : List Node) (h : Placed pick)
    {start : Spot} :
    (chooseAlong nodes pick start).isSome ↔
      ∃ stop, Ways nodes start stop ∧ (pick stop).isSome := by
  induction nodes generalizing start with
  | nil => simp [chooseAlong, Ways]
  | cons node nodes ih =>
      rw [chooseAlong_cons, Node.isSome_choose (placed_chooseAlong nodes h)]
      simp only [ih, Ways]
      constructor
      · rintro ⟨middle, hway, stop, hways, hsome⟩
        exact ⟨stop, ⟨middle, hway, hways⟩, hsome⟩
      · rintro ⟨stop, ⟨middle, hway, hways⟩, hsome⟩
        exact ⟨middle, hway, stop, hways, hsome⟩

theorem exists_of_chooseAlong {nodes : List Node} {start : Spot} {choice : α}
    (h : chooseAlong nodes pick start = some choice) :
    ∃ stop, Ways nodes start stop ∧ pick stop = some choice := by
  induction nodes generalizing start with
  | nil => exact ⟨start, rfl, h⟩
  | cons node nodes ih =>
      obtain ⟨middle, hmiddle, hlater⟩ := List.exists_of_findSome?_eq_some h
      obtain ⟨stop, hways, hpick⟩ := ih hlater
      exact ⟨stop,
        ⟨middle, (node.run_realizes start).sound middle hmiddle, hways⟩, hpick⟩

theorem chooseAlong_congr {nodes : List Node} {pick' : Spot → Option α}
    {start : Spot}
    (h : ∀ stop, Ways nodes start stop → pick stop = pick' stop) :
    chooseAlong nodes pick start = chooseAlong nodes pick' start := by
  induction nodes generalizing start with
  | nil => exact h start rfl
  | cons node nodes ih =>
      refine findSome?_congr fun middle hmiddle =>
        ih fun stop hways => h stop ?_
      exact ⟨middle, (node.run_realizes start).sound middle hmiddle, hways⟩

theorem map_chooseAlong (nodes : List Node) (f : α → β) (start : Spot) :
    (chooseAlong nodes pick start).map f =
      chooseAlong nodes (fun stop => (pick stop).map f) start := by
  induction nodes generalizing start with
  | nil => rfl
  | cons node nodes ih =>
      rw [chooseAlong_cons, chooseAlong_cons, Node.choose,
        Node.choose, List.map_findSome?]
      exact findSome?_congr fun middle _ => ih middle

theorem chooseAlong_extend {c : Char} {rest : List Char} {nodes : List Node}
    (h : ∀ node ∈ nodes, node.avoids c) (start : Spot) :
    chooseAlong nodes pick (start.extend (c :: rest)) =
      chooseAlong nodes (fun stop => pick (stop.extend (c :: rest))) start := by
  induction nodes generalizing start with
  | nil => rfl
  | cons node nodes ih =>
      obtain ⟨hnode, hnodes⟩ := List.forall_mem_cons.mp h
      rw [chooseAlong_cons, chooseAlong_cons, Node.choose, Node.choose,
        node.run_extend hnode start, List.findSome?_map]
      exact findSome?_congr fun middle _ => ih hnodes middle

theorem search_ofItems {nodes : List Node}
    (hanchor : ∀ start stop, (Node.ofItems nodes.reverse).Way start stop →
      start.before = none) (text : List Char) :
    (Node.ofItems nodes.reverse).search text =
      chooseAlong nodes some { rest := text } := by
  have hhead : ∀ spots : List Spot, spots.head? = spots.findSome? some := by
    rintro (_ | ⟨spot, spots⟩) <;> rfl
  have hchoose := choose_ofItems nodes.reverse placed_some
  rw [List.reverse_reverse] at hchoose
  rw [Node.search_of_anchored hanchor, hhead, ← hchoose]
  rfl

end Signpost.Regex
