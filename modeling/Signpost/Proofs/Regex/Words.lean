import Signpost.Proofs.Regex.Flat
import Signpost.Proofs.Regex.Search

/-!
# Words of an expression

Without assertions an expression matches the same words wherever they stand.
The words that it matches from end to end are found by matching them alone, and
an expression without groups leaves no trace but the place it stops at.
-/

namespace Signpost.Regex

open Spot

def Node.lookFree : Node → Bool
  | look _ => false
  | seq first second | alt first second => first.lookFree && second.lookFree
  | loop body _ _ _ | group _ body => body.lookFree
  | _ => true

def Node.matchesWhole (node : Node) (word : List Char) : Bool :=
  (node.run { rest := word }).any fun spot => spot.rest = []

/-- The words taken in a relation can be taken wherever they stand. -/
def Portable (R : Spot → Spot → Prop) : Prop :=
  ∀ {start stop start' : Spot} {used more : List Char}, R start stop →
    start.Ahead stop used → start'.rest = used ++ more →
    ∃ stop', R start' stop' ∧ start'.Ahead stop' used

variable {R : Spot → Spot → Prop}

theorem Spot.Ahead.rest_eq {start stop : Spot} {used more : List Char}
    (h : start.Ahead stop used) (hrest : start.rest = used ++ more) :
    stop.rest = more :=
  List.append_cancel_left (h.rest.symm.trans hrest)

theorem Portable.trans {Q : Spot → Spot → Prop} (hR : Moves R) (hQ : Moves Q)
    (hR' : Portable R) (hQ' : Portable Q) :
    Portable fun start stop => ∃ middle, R start middle ∧ Q middle stop := by
  rintro start stop start' used more ⟨middle, hfirst, hsecond⟩ hahead hrest
  obtain ⟨before, hbefore⟩ := hR.leads hfirst
  obtain ⟨after, hafter⟩ := hQ.leads hsecond
  have hused : used = before ++ after := by
    have hboth := (hbefore.trans hafter).rest
    rw [hahead.rest] at hboth
    exact List.append_cancel_right hboth
  subst hused
  rw [List.append_assoc] at hrest
  obtain ⟨middle', hfirst', hbefore'⟩ := hR' hfirst hbefore hrest
  obtain ⟨stop', hsecond', hafter'⟩ :=
    hQ' hsecond hafter (hbefore'.rest_eq hrest)
  exact ⟨stop', ⟨middle', hfirst', hsecond'⟩, hbefore'.trans hafter'⟩

private theorem Spot.Ahead.eq_nil {spot : Spot} {used : List Char}
    (h : spot.Ahead spot used) : used = [] := by
  have hpos := h.pos
  exact List.length_eq_zero_iff.mp (by omega)

theorem portable_eq : Portable fun start stop => stop = start := by
  rintro start _ start' used more rfl hahead -
  rw [hahead.eq_nil]
  exact ⟨start', rfl, .refl start'⟩

theorem Portable.rounds (hR : Moves R) (hR' : Portable R) (count : Nat) :
    Portable (Rounds R count) := by
  induction count with
  | zero =>
      intro start stop start' used more h hahead hrest
      obtain ⟨stop', heq, h'⟩ := portable_eq (Rounds.zero_iff.mp h) hahead hrest
      exact ⟨stop', Rounds.zero_iff.mpr heq, h'⟩
  | succ count ih =>
      intro start stop start' used more h hahead hrest
      obtain ⟨stop', hrounds, h'⟩ := hR'.trans hR (Rounds.moves hR count) ih
        (Rounds.succ_iff.mp h) hahead hrest
      exact ⟨stop', Rounds.succ_iff.mpr hrounds, h'⟩

theorem Node.way_portable {node : Node} (hfree : node.lookFree) :
    Portable node.Way := by
  induction node with
  | empty => exact portable_eq
  | one set =>
      rintro start _ start' used more ⟨c, rest, hstart, hset, rfl⟩ hahead hrest
      have hused : used = [c] := by
        have hone := (Ahead.advance start hstart).rest
        rw [hahead.rest] at hone
        exact List.append_cancel_right hone
      subst hused
      exact ⟨start'.advance c more, ⟨c, more, hrest, hset, rfl⟩,
        .advance start' hrest⟩
  | look kind => cases hfree
  | seq first second ihfirst ihsecond =>
      simp only [lookFree, Bool.and_eq_true] at hfree
      exact Portable.trans first.way_moves second.way_moves (ihfirst hfree.1)
        (ihsecond hfree.2)
  | alt first second ihfirst ihsecond =>
      simp only [lookFree, Bool.and_eq_true] at hfree
      rintro start stop start' used more (h | h) hahead hrest
      · obtain ⟨stop', h', hahead'⟩ := ihfirst hfree.1 h hahead hrest
        exact ⟨stop', .inl h', hahead'⟩
      · obtain ⟨stop', h', hahead'⟩ := ihsecond hfree.2 h hahead hrest
        exact ⟨stop', .inr h', hahead'⟩
  | loop body least most greedy ih =>
      rintro start stop start' used more ⟨extra, hextra, h⟩ hahead hrest
      obtain ⟨stop', h', hahead'⟩ :=
        Portable.rounds body.way_moves (ih hfree) _ h hahead hrest
      exact ⟨stop', ⟨extra, hextra, h'⟩, hahead'⟩
  | group index body ih =>
      rintro start _ start' used more ⟨inner, h, rfl⟩ hahead hrest
      have hinner := hahead.congr (.refl start) (capture_same index start inner)
      obtain ⟨inner', h', hahead'⟩ := ih hfree h hinner hrest
      exact ⟨Spot.capture index start' inner', ⟨inner', h', rfl⟩,
        hahead'.congr (.refl start') (capture_same index start' inner').symm⟩

theorem Node.matchesWhole_iff {node : Node} {word : List Char} :
    node.matchesWhole word ↔ ∃ stop, node.Way { rest := word } stop ∧
      Ahead { rest := word } stop word := by
  have hlists := node.run_realizes { rest := word }
  constructor
  · intro h
    obtain ⟨stop, hmem, hstop⟩ := List.any_eq_true.mp h
    have hway := hlists.sound stop hmem
    obtain ⟨used, hahead⟩ := node.way_moves.leads hway
    have hused : used = word := by
      have hrest := hahead.rest
      simp only [of_decide_eq_true hstop, List.append_nil] at hrest
      exact hrest.symm
    exact ⟨stop, hway, hused ▸ hahead⟩
  · rintro ⟨stop, hway, hahead⟩
    obtain ⟨found, hmem, hpos⟩ := hlists.complete stop hway
    have hsame := Leads.same hpos
      (node.way_moves.leads (hlists.sound found hmem)) ⟨word, hahead⟩
    have hstop : found.rest = [] := by
      rw [hsame.rest]
      exact hahead.rest_eq (List.append_nil word).symm
    exact List.any_eq_true.mpr ⟨found, hmem, decide_eq_true hstop⟩

theorem Node.matchesWhole_of_way {node : Node} (hfree : node.lookFree)
    {start stop : Spot} {word : List Char} (h : node.Way start stop)
    (hahead : start.Ahead stop word) : node.matchesWhole word :=
  matchesWhole_iff.mpr
    (way_portable hfree h hahead (List.append_nil word).symm)

theorem Node.way_of_matchesWhole {node : Node} (hfree : node.lookFree)
    {start : Spot} {word more : List Char} (h : node.matchesWhole word)
    (hrest : start.rest = word ++ more) :
    ∃ stop, node.Way start stop ∧ start.Ahead stop word := by
  obtain ⟨stop, hway, hahead⟩ := matchesWhole_iff.mp h
  exact way_portable hfree hway hahead hrest

private theorem Rounds.groups_eq {count : Nat} {start stop : Spot}
    (hR : ∀ {start stop}, R start stop → stop.groups = start.groups)
    (h : Rounds R count start stop) : stop.groups = start.groups := by
  induction h with
  | done spot => rfl
  | more first _ ih => rw [ih, hR first]

theorem Node.way_groups {node : Node} (hfree : node.groupFree)
    {start stop : Spot} (h : node.Way start stop) :
    stop.groups = start.groups := by
  induction node generalizing start stop with
  | empty => rw [h]
  | one set =>
      obtain ⟨c, rest, -, -, rfl⟩ := h
      rfl
  | look kind => rw [h.2]
  | seq first second ihfirst ihsecond =>
      simp only [groupFree, Bool.and_eq_true] at hfree
      obtain ⟨middle, hfirst, hsecond⟩ := h
      rw [ihsecond hfree.2 hsecond, ihfirst hfree.1 hfirst]
  | alt first second ihfirst ihsecond =>
      simp only [groupFree, Bool.and_eq_true] at hfree
      exact h.elim (ihfirst hfree.1) (ihsecond hfree.2)
  | loop body least most greedy ih =>
      obtain ⟨extra, -, hrounds⟩ := h
      exact hrounds.groups_eq (ih hfree)
  | group index body => cases hfree

end Signpost.Regex
