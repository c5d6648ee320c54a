import Mathlib.Data.List.Forall2
import Signpost.Proofs.Regex.Ways
import Signpost.Regex.Elaborate

/-!
# Sequences

A sequence of items elaborates to the sequence of their nodes, and a way
through it goes through one node after the other.
-/

namespace Signpost.Regex

open Spot

def Node.ofItems : List Node → Node
  | [] => .empty
  | [node] => node
  | node :: earlier => .seq (Node.ofItems earlier) node

def Becomes (settings : Settings) (item : Ast) (node : Node) : Prop :=
  item.elaborate settings = .ok (node, settings)

variable {settings : Settings}

theorem becomes_ofItems {items : List Ast} {nodes : List Node}
    (h : List.Forall₂ (Becomes settings) items nodes) :
    Becomes settings (Ast.ofItems items) (Node.ofItems nodes) := by
  induction h with
  | nil => rfl
  | @cons item node items nodes hitem hitems ih =>
      cases hitems with
      | nil => exact hitem
      | cons hprevious hearlier =>
          rw [Ast.ofItems, Node.ofItems, Becomes, Ast.elaborate]
          · rw [show (Ast.ofItems _).elaborate settings = _ from ih]
            change (item.elaborate settings >>= _) = _
            rw [show item.elaborate settings = _ from hitem]
            rfl
          · simp
          · simp

theorem becomes_group {inner : Ast} {node : Node} (index : Nat)
    (name : Option (List Char)) (h : Becomes settings inner node) :
    Becomes settings (.group (.capture index name) inner)
      (.group index node) := by
  rw [Becomes, Ast.elaborate]
  dsimp only
  rw [show inner.elaborate settings = _ from h]
  rfl

theorem becomes_optional {operand : Ast} {node : Node}
    (hgreed : settings.swapGreed = false) (h : Becomes settings operand node) :
    Becomes settings (.repetition operand ⟨0, some 1⟩ true)
      (.alt node .empty) := by
  rw [Becomes, Ast.elaborate, show operand.elaborate settings = _ from h]
  change Except.ok (node.repeated ⟨0, some 1⟩ (true != settings.swapGreed), _) =
    _
  rw [hgreed]
  rfl

theorem groupNames_ofItems (items : List Ast) :
    (Ast.ofItems items).groupNames = items.reverse.flatMap Ast.groupNames := by
  induction items with
  | nil => rfl
  | cons item earlier ih =>
      cases earlier with
      | nil => simp [Ast.ofItems]
      | cons previous earlier =>
          rw [Ast.ofItems, Ast.groupNames, ih]
          · simp
          · simp

def Ways : List Node → Spot → Spot → Prop
  | [], start, stop => stop = start
  | node :: nodes, start, stop =>
    ∃ middle, node.Way start middle ∧ Ways nodes middle stop

theorem ways_append {first second : List Node} {start stop : Spot} :
    Ways (first ++ second) start stop ↔
      ∃ middle, Ways first start middle ∧ Ways second middle stop := by
  induction first generalizing start with
  | nil => simp [Ways]
  | cons node first ih =>
      simp only [List.cons_append, Ways, ih]
      constructor
      · rintro ⟨next, hnode, middle, hfirst, hsecond⟩
        exact ⟨middle, ⟨next, hnode, hfirst⟩, hsecond⟩
      · rintro ⟨middle, ⟨next, hnode, hfirst⟩, hsecond⟩
        exact ⟨next, hnode, middle, hfirst, hsecond⟩

theorem ways_singleton {node : Node} {start stop : Spot} :
    Ways [node] start stop ↔ node.Way start stop := by
  simp [Ways]

theorem way_ofItems (nodes : List Node) {start stop : Spot} :
    (Node.ofItems nodes).Way start stop ↔ Ways nodes.reverse start stop := by
  induction nodes generalizing stop with
  | nil => exact Iff.rfl
  | cons node earlier ih =>
      cases earlier with
      | nil => exact ways_singleton.symm
      | cons previous earlier =>
          rw [List.reverse_cons, ways_append]
          simp only [ways_singleton, ← ih]
          exact Iff.rfl

def CanTake (R : Spot → Spot → Prop) (start : Spot) (used : List Char) : Prop :=
  ∃ stop, R start stop ∧ start.Ahead stop used

theorem CanTake.group {node : Node} {start : Spot} {used : List Char}
    (h : CanTake node.Way start used) (index : Nat) :
    CanTake (Node.group index node).Way start used := by
  obtain ⟨stop, hway, hahead⟩ := h
  exact ⟨Spot.capture index start stop, ⟨stop, hway, rfl⟩,
    hahead.congr (.refl start) (capture_same index start stop).symm⟩

theorem CanTake.cons {node : Node} {nodes : List Node} {start : Spot}
    {used more : List Char} (h : CanTake node.Way start used)
    (hnext : ∀ middle, start.Ahead middle used →
      CanTake (Ways nodes) middle more) :
    CanTake (Ways (node :: nodes)) start (used ++ more) := by
  obtain ⟨middle, hway, hahead⟩ := h
  obtain ⟨stop, hways, hmore⟩ := hnext middle hahead
  exact ⟨stop, ⟨middle, hway, hways⟩, hahead.trans hmore⟩

structure Takes (start stop : Spot) (used : List Char) : Prop where
  ahead : start.Ahead stop used
  groups : stop.groups = start.groups

theorem Takes.refl (spot : Spot) : Takes spot spot [] := ⟨.refl spot, rfl⟩

theorem Takes.cons {start stop : Spot} {c : Char} {rest used : List Char}
    (hrest : start.rest = c :: rest)
    (h : Takes (start.advance c rest) stop used) :
      Takes start stop (c :: used) :=
  ⟨(Ahead.advance start hrest).trans h.ahead, h.groups⟩

theorem exists_takes {start : Spot} {used more : List Char}
    (h : start.rest = used ++ more) :
    ∃ stop, Takes start stop used ∧ stop.rest = more := by
  induction used generalizing start with
  | nil => exact ⟨start, .refl start, h⟩
  | cons c used ih =>
      obtain ⟨stop, htakes, hmore⟩ := @ih (start.advance c (used ++ more)) rfl
      exact ⟨stop, htakes.cons h, hmore⟩

theorem takes_nil_iff {start stop : Spot} :
    Takes start stop [] ↔ stop = start := by
  constructor
  · rintro ⟨hahead, hgroups⟩
    have hsame := hahead.nil_same
    obtain ⟨pos, before, rest, groups⟩ := start
    obtain ⟨pos', before', rest', groups'⟩ := stop
    simpa using ⟨hsame.pos.symm, hsame.before.symm, hsame.rest.symm, hgroups⟩
  · rintro rfl
    exact .refl _

theorem takes_cons_iff {start stop : Spot} {c : Char} {used : List Char} :
    Takes start stop (c :: used) ↔ ∃ rest, start.rest = c :: rest ∧
      Takes (start.advance c rest) stop used := by
  constructor
  · rintro ⟨hahead, hgroups⟩
    refine ⟨used ++ stop.rest, hahead.rest, ⟨⟨rfl, ?_, ?_⟩, hgroups⟩⟩
    · have hpos := hahead.pos
      simp only [List.length_cons] at hpos
      simp only [Spot.advance]
      omega
    · rw [hahead.before, List.getLast?_cons]
      cases used.getLast? <;> rfl
  · rintro ⟨rest, hrest, h⟩
    exact h.cons hrest

theorem takes_append_iff {start stop : Spot} {used more : List Char} :
    Takes start stop (used ++ more) ↔
      ∃ middle, Takes start middle used ∧ Takes middle stop more := by
  constructor
  · intro h
    obtain ⟨middle, hfirst, hrest⟩ :=
      exists_takes (h.ahead.rest.trans (List.append_assoc ..))
    refine ⟨middle, hfirst, ⟨hrest, ?_, ?_⟩, h.groups.trans hfirst.groups.symm⟩
    · rw [h.ahead.pos, hfirst.ahead.pos, List.length_append, Nat.add_assoc]
    · rw [h.ahead.before, hfirst.ahead.before, List.getLast?_append,
        Option.or_assoc]
  · rintro ⟨middle, hfirst, hsecond⟩
    exact ⟨hfirst.ahead.trans hsecond.ahead, hsecond.groups.trans hfirst.groups⟩

theorem rounds_one_iff {set : CharSet} {count : Nat} {start stop : Spot} :
    Rounds (Node.one set).Way count start stop ↔ ∃ used, used.length = count ∧
      (∀ c ∈ used, set.contains c) ∧ Takes start stop used := by
  constructor
  · intro h
    induction h with
    | done spot => exact ⟨[], rfl, by simp, .refl spot⟩
    | more first _ ih =>
        obtain ⟨c, rest, hrest, hset, rfl⟩ := first
        obtain ⟨used, hlength, hused, htakes⟩ := ih
        refine ⟨c :: used, by simp [hlength], fun d hd => ?_, htakes.cons hrest⟩
        rcases List.mem_cons.mp hd with rfl | hd
        · exact hset
        · exact hused d hd
  · rintro ⟨used, rfl, hused, htakes⟩
    induction used generalizing start with
    | nil => exact Rounds.zero_iff.mpr (takes_nil_iff.mp htakes)
    | cons c used ih =>
        obtain ⟨rest, hrest, htakes⟩ := takes_cons_iff.mp htakes
        have hset := hused c (List.mem_cons_self ..)
        refine .more ⟨c, rest, hrest, hset, rfl⟩ ?_
        exact ih (fun d hd => hused d (List.mem_cons_of_mem _ hd)) htakes

theorem loop_one_iff {set : CharSet} {least : Nat} {greedy : Bool}
    {start stop : Spot} :
    (Node.loop (.one set) least none greedy).Way start stop ↔
      ∃ used, least ≤ used.length ∧ (∀ c ∈ used, set.contains c) ∧
        Takes start stop used := by
  constructor
  · rintro ⟨extra, -, h⟩
    obtain ⟨used, hlength, hused, htakes⟩ := rounds_one_iff.mp h
    exact ⟨used, by omega, hused, htakes⟩
  · rintro ⟨used, hlength, hused, htakes⟩
    refine ⟨used.length - least, by simp, rounds_one_iff.mpr ?_⟩
    exact ⟨used, by omega, hused, htakes⟩

end Signpost.Regex
