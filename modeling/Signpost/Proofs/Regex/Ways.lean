import Mathlib.Data.List.Basic
import Signpost.Regex.Node

/-!
# Ways of matching

`Node.Way` relates a spot to every spot where a match that begins there may
end, with the groups of that match, whatever the order of preference.  A way
only moves forward in the text, and which ways there are depends on the place
in the text alone, never on the groups matched before.
-/

namespace Signpost.Regex

/-- Both spots stand at one place of the text; their groups may differ. -/
structure Spot.Same (first second : Spot) : Prop where
  pos : first.pos = second.pos
  before : first.before = second.before
  rest : first.rest = second.rest

namespace Spot

theorem Same.refl (spot : Spot) : Same spot spot := ⟨rfl, rfl, rfl⟩

theorem Same.symm {first second : Spot} (h : Same first second) :
    Same second first :=
  ⟨h.pos.symm, h.before.symm, h.rest.symm⟩

theorem Same.trans {first second third : Spot} (h : Same first second)
    (h' : Same second third) : Same first third :=
  ⟨h.pos.trans h'.pos, h.before.trans h'.before, h.rest.trans h'.rest⟩

structure Ahead (start stop : Spot) (used : List Char) : Prop where
  rest : start.rest = used ++ stop.rest
  pos : stop.pos = start.pos + used.length
  before : stop.before = used.getLast?.or start.before

theorem Ahead.refl (spot : Spot) : Ahead spot spot [] :=
  ⟨rfl, rfl, rfl⟩

theorem Ahead.advance (spot : Spot) {c : Char} {rest : List Char}
    (h : spot.rest = c :: rest) : Ahead spot (spot.advance c rest) [c] :=
  ⟨h, rfl, rfl⟩

theorem Ahead.trans {first second third : Spot} {used more : List Char}
    (h : Ahead first second used) (h' : Ahead second third more) :
    Ahead first third (used ++ more) where
  rest := by rw [h.rest, h'.rest, List.append_assoc]
  pos := by rw [h'.pos, h.pos, List.length_append, Nat.add_assoc]
  before := by rw [h'.before, h.before, List.getLast?_append, Option.or_assoc]

theorem Ahead.congr {start start' stop stop' : Spot} {used : List Char}
    (h : Ahead start stop used) (hstart : Same start start')
    (hstop : Same stop stop') : Ahead start' stop' used where
  rest := by rw [← hstart.rest, ← hstop.rest, h.rest]
  pos := by rw [← hstop.pos, ← hstart.pos, h.pos]
  before := by rw [← hstop.before, ← hstart.before, h.before]

theorem Ahead.same {start stop stop' : Spot} {used : List Char}
    (h : Ahead start stop used) (h' : Ahead start stop' used) :
    Same stop stop' where
  pos := by rw [h.pos, h'.pos]
  before := by rw [h.before, h'.before]
  rest := by
    have hrest := h.rest
    rw [h'.rest] at hrest
    exact (List.append_cancel_left hrest).symm

theorem Ahead.nil_same {start stop : Spot} (h : Ahead start stop []) :
    Same start stop :=
  (Ahead.refl start).same h

def Leads (start stop : Spot) : Prop := ∃ used, Ahead start stop used

theorem Leads.refl (spot : Spot) : Leads spot spot := ⟨[], .refl spot⟩

theorem Leads.trans {first second third : Spot} :
    Leads first second → Leads second third → Leads first third
  | ⟨_, h⟩, ⟨_, h'⟩ => ⟨_, h.trans h'⟩

theorem Leads.pos_le {start stop : Spot} : Leads start stop →
    start.pos ≤ stop.pos
  | ⟨used, h⟩ => by rw [h.pos]; exact Nat.le_add_right ..

theorem Leads.congr_right {start stop stop' : Spot}
    (hstop : Same stop stop') : Leads start stop → Leads start stop'
  | ⟨used, h⟩ => ⟨used, h.congr (.refl start) hstop⟩

theorem Leads.same {start stop stop' : Spot} (hpos : stop.pos = stop'.pos) :
    Leads start stop → Leads start stop' → Same stop stop'
  | ⟨used, h⟩, ⟨used', h'⟩ => by
      have hlength : used.length = used'.length := by
        have := h.pos
        have := h'.pos
        omega
      have hused : used = used' := by
        have hrest := h.rest
        rw [h'.rest] at hrest
        exact (List.append_inj_left hrest hlength.symm).symm
      subst hused
      exact h.same h'

theorem Leads.same_start {start stop : Spot} (hpos : stop.pos = start.pos)
    (h : Leads start stop) : Same stop start :=
  h.same hpos (.refl start)

theorem Leads.rest_length {start stop : Spot} :
    Leads start stop → start.rest.length + start.pos =
      stop.rest.length + stop.pos
  | ⟨used, h⟩ => by
      rw [h.rest, h.pos, List.length_append]
      omega

end Spot

structure Moves (R : Spot → Spot → Prop) : Prop where
  leads : ∀ {start stop}, R start stop → start.Leads stop
  same : ∀ {start start' stop}, start.Same start' → R start stop →
    ∃ stop', R start' stop' ∧ stop.Same stop'

theorem Moves.exists {ι : Type} {R : ι → Spot → Spot → Prop}
    (hR : ∀ i, Moves (R i)) : Moves fun start stop => ∃ i, R i start stop where
  leads := fun ⟨i, h⟩ => (hR i).leads h
  same := by
    rintro start start' stop hsame ⟨i, h⟩
    obtain ⟨stop', h', hstop⟩ := (hR i).same hsame h
    exact ⟨stop', ⟨i, h'⟩, hstop⟩

theorem Moves.guard {R : Spot → Spot → Prop} (hR : Moves R) (p : Prop) :
    Moves fun start stop => p ∧ R start stop where
  leads := fun h => hR.leads h.2
  same := by
    rintro start start' stop hsame ⟨hp, h⟩
    obtain ⟨stop', h', hstop⟩ := hR.same hsame h
    exact ⟨stop', ⟨hp, h'⟩, hstop⟩

inductive Rounds (R : Spot → Spot → Prop) : Nat → Spot → Spot → Prop
  | done (spot) : Rounds R 0 spot spot
  | more {count start middle stop} : R start middle →
      Rounds R count middle stop → Rounds R (count + 1) start stop

namespace Rounds

variable {R : Spot → Spot → Prop}

@[simp] theorem zero_iff {start stop : Spot} :
    Rounds R 0 start stop ↔ stop = start := by
  constructor
  · intro h
    cases h
    rfl
  · rintro rfl
    exact .done _

theorem succ_iff {count : Nat} {start stop : Spot} :
    Rounds R (count + 1) start stop ↔
      ∃ middle, R start middle ∧ Rounds R count middle stop := by
  constructor
  · intro h
    cases h with
    | more first later => exact ⟨_, first, later⟩
  · rintro ⟨middle, first, later⟩
    exact .more first later

theorem add_iff {first second : Nat} {start stop : Spot} :
    Rounds R (first + second) start stop ↔
      ∃ middle, Rounds R first start middle ∧
        Rounds R second middle stop := by
  induction first generalizing start with
  | zero => simp
  | succ first ih =>
      rw [Nat.succ_add, succ_iff]
      constructor
      · rintro ⟨next, hfirst, hlater⟩
        obtain ⟨middle, hbefore, hafter⟩ := ih.mp hlater
        exact ⟨middle, .more hfirst hbefore, hafter⟩
      · rintro ⟨middle, hbefore, hafter⟩
        obtain ⟨next, hfirst, hlater⟩ := succ_iff.mp hbefore
        exact ⟨next, hfirst, ih.mpr ⟨middle, hlater, hafter⟩⟩

theorem moves (hR : Moves R) (count : Nat) : Moves (Rounds R count) where
  leads := by
    intro start stop h
    induction h with
    | done spot => exact .refl spot
    | more first _ ih => exact (hR.leads first).trans ih
  same := by
    intro start start' stop hsame h
    induction h generalizing start' with
    | done spot => exact ⟨start', .done start', hsame⟩
    | more first _ ih =>
        obtain ⟨middle, hfirst, hmiddle⟩ := hR.same hsame first
        obtain ⟨stop', hlater, hstop⟩ := ih hmiddle
        exact ⟨stop', .more hfirst hlater, hstop⟩

end Rounds

/-- Every match of the expression from a spot on, in no order. -/
def Node.Way : Node → Spot → Spot → Prop
  | empty, start, stop => stop = start
  | one set, start, stop =>
    ∃ c rest, start.rest = c :: rest ∧ set.contains c ∧
      stop = start.advance c rest
  | look kind, start, stop =>
    kind.holds start.before start.rest.head? ∧ stop = start
  | seq first second, start, stop =>
    ∃ middle, first.Way start middle ∧ second.Way middle stop
  | alt first second, start, stop => first.Way start stop ∨
      second.Way start stop
  | loop body least most _, start, stop =>
    ∃ extra, (∀ limit, most = some limit → extra ≤ limit - least) ∧
      Rounds body.Way (least + extra) start stop
  | group index body, start, stop =>
    ∃ inner, body.Way start inner ∧ stop = Spot.capture index start inner

theorem Spot.capture_same (index : Nat) (start stop : Spot) :
    (Spot.capture index start stop).Same stop :=
  ⟨rfl, rfl, rfl⟩

theorem Node.way_moves (node : Node) : Moves node.Way := by
  induction node with
  | empty =>
      refine ⟨?_, ?_⟩
      · rintro _ stop rfl
        exact .refl stop
      · rintro start start' _ hsame rfl
        exact ⟨start', rfl, hsame⟩
  | one set =>
      refine ⟨?_, ?_⟩
      · rintro start _ ⟨c, rest, hrest, -, rfl⟩
        exact ⟨[c], .advance start hrest⟩
      · rintro start start' _ hsame ⟨c, rest, hrest, hset, rfl⟩
        have hrest' : start'.rest = c :: rest := by rw [← hsame.rest, hrest]
        refine ⟨start'.advance c rest, ⟨c, rest, hrest', hset, rfl⟩, ?_⟩
        exact ⟨congrArg (· + 1) hsame.pos, rfl, rfl⟩
  | look kind =>
      refine ⟨?_, ?_⟩
      · rintro _ stop ⟨-, rfl⟩
        exact .refl stop
      · rintro start start' _ hsame ⟨hholds, rfl⟩
        rw [hsame.before, hsame.rest] at hholds
        exact ⟨start', ⟨hholds, rfl⟩, hsame⟩
  | seq first second ihfirst ihsecond =>
      refine ⟨?_, ?_⟩
      · rintro start stop ⟨middle, hfirst, hsecond⟩
        exact (ihfirst.leads hfirst).trans (ihsecond.leads hsecond)
      · rintro start start' stop hsame ⟨middle, hfirst, hsecond⟩
        obtain ⟨middle', hfirst', hmiddle⟩ := ihfirst.same hsame hfirst
        obtain ⟨stop', hsecond', hstop⟩ := ihsecond.same hmiddle hsecond
        exact ⟨stop', ⟨middle', hfirst', hsecond'⟩, hstop⟩
  | alt first second ihfirst ihsecond =>
      refine ⟨fun h => h.elim ihfirst.leads ihsecond.leads, ?_⟩
      rintro start start' stop hsame (h | h)
      · obtain ⟨stop', h', hstop⟩ := ihfirst.same hsame h
        exact ⟨stop', .inl h', hstop⟩
      · obtain ⟨stop', h', hstop⟩ := ihsecond.same hsame h
        exact ⟨stop', .inr h', hstop⟩
  | loop body least most greedy ih =>
      exact Moves.exists fun extra =>
        (Rounds.moves ih (least + extra)).guard _
  | group index body ih =>
      refine ⟨?_, ?_⟩
      · rintro start _ ⟨inner, hbody, rfl⟩
        exact (ih.leads hbody).congr_right
          (Spot.capture_same index start inner).symm
      · rintro start start' _ hsame ⟨inner, hbody, rfl⟩
        obtain ⟨inner', hbody', hinner⟩ := ih.same hsame hbody
        refine ⟨Spot.capture index start' inner', ⟨inner', hbody', rfl⟩, ?_⟩
        exact ((Spot.capture_same ..).trans hinner).trans
          (Spot.capture_same ..).symm

end Signpost.Regex
