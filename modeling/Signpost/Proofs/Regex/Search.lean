import Signpost.Proofs.Regex.BoundedLoops

/-!
# The search finds every way

`Node.run` realizes `Node.Way`: it lists ends of ways only, groups included,
and for every way one end at its place.  From there on a search of a whole text
is a matter of ways alone.
-/

namespace Signpost.Regex

theorem Node.one_realizes (set : CharSet) :
    Realizes (Node.one set).run (Node.one set).Way := by
  intro start
  rw [Node.run]
  split
  · next hrest =>
      refine ⟨by simp, ?_⟩
      rintro stop ⟨c, rest, hcons, -⟩
      simp [hrest] at hcons
  · next c rest hrest =>
      refine ⟨?_, ?_⟩
      · intro stop hstop
        split at hstop
        · next hset =>
            exact ⟨c, rest, hrest, hset, List.mem_singleton.mp hstop⟩
        · cases hstop
      · rintro stop ⟨c', rest', hcons, hset, rfl⟩
        rw [hrest] at hcons
        obtain ⟨rfl, rfl⟩ := List.cons_eq_cons.mp hcons
        exact ⟨_, by rw [if_pos hset]; exact List.mem_singleton_self _, rfl⟩

private theorem Node.loop_realizes {body : Node}
    (h : Realizes body.run body.Way)
    (least : Nat) (most : Option Nat) (greedy : Bool) :
    Realizes (Node.loop body least most greedy).run
      (Node.loop body least most greedy).Way := by
  intro start
  have hmoves := body.way_moves
  have hleast : ∀ count, Lists (exactly body.run count [start])
      (Rounds body.Way count start) := by
    intro count
    refine (Lists.exactly start hmoves h count (Lists.singleton start)
      ?_).imp fun stop => by simp
    rintro spot rfl
    exact .refl spot
  have hleads : ∀ {count} stop, Rounds body.Way count start stop →
      start.Leads stop :=
    fun _ hrounds => (Rounds.moves hmoves _).leads hrounds
  -- behind the rounds that must be made stands a loop of rounds left to choice
  cases most with
  | some most =>
      have hmoves' : Moves (Within body.Way (most - least)) :=
        Moves.exists fun used => (Rounds.moves hmoves used).guard _
      refine ((hleast least).andThen hleads hmoves'
        (Lists.upTo hmoves h greedy (most - least))).imp fun stop => ?_
      constructor
      · rintro ⟨middle, hbefore, extra, hextra, hafter⟩
        refine ⟨extra, ?_, Rounds.add_iff.mpr ⟨middle, hbefore, hafter⟩⟩
        rintro limit ⟨⟩
        exact hextra
      · rintro ⟨extra, hextra, hrounds⟩
        obtain ⟨middle, hbefore, hafter⟩ := Rounds.add_iff.mp hrounds
        exact ⟨middle, hbefore, extra, hextra most rfl, hafter⟩
  | none =>
      cases least with
      | zero =>
          refine (Lists.zeroOrMore hmoves h greedy start).imp fun stop => ?_
          simp [Node.Way, Reaches]
      | succ least =>
          have hmoves' : Moves fun first last =>
              ∃ count, Rounds body.Way (count + 1) first last :=
            Moves.exists fun count => Rounds.moves hmoves (count + 1)
          refine ((hleast least).andThen hleads hmoves'
            (Lists.oneOrMore hmoves h greedy)).imp fun stop => ?_
          constructor
          · rintro ⟨middle, hbefore, extra, hafter⟩
            refine ⟨extra, by simp, ?_⟩
            rw [Nat.add_assoc, Nat.add_comm 1]
            exact Rounds.add_iff.mpr ⟨middle, hbefore, hafter⟩
          · rintro ⟨extra, -, hrounds⟩
            rw [Nat.add_assoc, Nat.add_comm 1] at hrounds
            obtain ⟨middle, hbefore, hafter⟩ := Rounds.add_iff.mp hrounds
            exact ⟨middle, hbefore, extra, hafter⟩

theorem Node.run_realizes (node : Node) : Realizes node.run node.Way := by
  induction node with
  | empty => exact fun start => Lists.singleton start
  | one set => exact one_realizes set
  | look kind =>
      intro start
      rw [Node.run]
      refine ⟨?_, ?_⟩
      · intro stop hstop
        split at hstop
        · next hholds => exact ⟨hholds, List.mem_singleton.mp hstop⟩
        · cases hstop
      · rintro stop ⟨hholds, rfl⟩
        exact ⟨stop,
          by rw [if_pos hholds]; exact List.mem_singleton_self _, rfl⟩
  | seq first second ihfirst ihsecond =>
      intro start
      exact (ihfirst start).andThen (fun _ h => first.way_moves.leads h)
        second.way_moves ihsecond
  | alt first second ihfirst ihsecond =>
      intro start
      exact ((ihfirst start).append (ihsecond start)).distinct
  | loop body least most greedy ih => exact loop_realizes ih least most greedy
  | group index body ih =>
      intro start
      refine ⟨?_, ?_⟩
      · intro stop hstop
        obtain ⟨inner, hinner, rfl⟩ := List.mem_map.mp hstop
        exact ⟨inner, (ih start).sound inner hinner, rfl⟩
      · rintro _ ⟨inner, hbody, rfl⟩
        obtain ⟨found, hfound, hpos⟩ := (ih start).complete inner hbody
        exact ⟨_, List.mem_map_of_mem hfound, hpos⟩

theorem Node.run_eq_nil_iff {node : Node} {start : Spot} :
    node.run start = [] ↔ ∀ stop, ¬ node.Way start stop := by
  constructor
  · intro hnil stop hway
    obtain ⟨found, hfound, -⟩ := (node.run_realizes start).complete stop hway
    rw [hnil] at hfound
    cases hfound
  · intro hnone
    refine List.eq_nil_iff_forall_not_mem.mpr fun stop hstop => ?_
    exact hnone stop ((node.run_realizes start).sound stop hstop)

private theorem Node.searchFrom_of_anchored {node : Node}
    (hanchor : ∀ start stop, node.Way start stop → start.before = none)
    (text : List Char) : ∀ c pos, node.searchFrom (some c) pos text = none := by
  induction text with
  | nil =>
      intro c pos
      have hnil : node.run { pos, before := some c, rest := [] } = [] :=
        run_eq_nil_iff.mpr fun stop h => by cases hanchor _ stop h
      rw [searchFrom, hnil]
      rfl
  | cons d text ih =>
      intro c pos
      have hnil : node.run { pos, before := some c, rest := d :: text } = [] :=
        run_eq_nil_iff.mpr fun stop h => by cases hanchor _ stop h
      rw [searchFrom, hnil]
      exact ih d (pos + 1)

theorem Node.search_of_anchored {node : Node}
    (hanchor : ∀ start stop, node.Way start stop → start.before = none)
    (text : List Char) :
      node.search text = (node.run { rest := text }).head? := by
  cases text with
  | nil => rfl
  | cons c text =>
      rw [search, searchFrom]
      cases hrun : node.run { rest := c :: text } with
      | nil => exact searchFrom_of_anchored hanchor text c 1
      | cons spot spots => rfl

theorem Node.search_isSome_iff {node : Node}
    (hanchor : ∀ start stop, node.Way start stop → start.before = none)
    {text : List Char} : (node.search text).isSome ↔
      ∃ stop, node.Way { rest := text } stop := by
  rw [search_of_anchored hanchor, List.isSome_head?, ne_eq, run_eq_nil_iff]
  simp

theorem Node.way_of_search {node : Node}
    (hanchor : ∀ start stop, node.Way start stop → start.before = none)
    {text : List Char} {found : Spot} (h : node.search text = some found) :
    node.Way { rest := text } found := by
  rw [search_of_anchored hanchor] at h
  exact (node.run_realizes _).sound found (List.mem_of_mem_head? h)

end Signpost.Regex
