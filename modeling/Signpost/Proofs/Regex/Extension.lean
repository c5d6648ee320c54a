import Signpost.Proofs.Regex.Search

/-!
# More text behind

A search that does not look around and takes no character `c` cannot tell a text
from the same text with `c` and more behind it: it lists the same spots in the
same order, each in the longer text.  Any search that ends before a question
mark could have ended there with no text behind.
-/

namespace Signpost.Regex

/-! ## Spots in a longer text -/

def Span.extend (tail : List Char) (span : Span) : Span :=
  { span with source := span.source ++ tail }

def Spot.extend (tail : List Char) (spot : Spot) : Spot :=
  { spot with
    rest := spot.rest ++ tail
    groups := spot.groups.map fun group => (group.1, group.2.extend tail) }

@[simp] theorem Spot.extend_pos (tail : List Char) (spot : Spot) :
    (spot.extend tail).pos = spot.pos := rfl

def Node.avoids (c : Char) : Node → Bool
  | look _ => false
  | one set => !set.contains c
  | seq first second | alt first second => first.avoids c && second.avoids c
  | loop body _ _ _ | group _ body => body.avoids c
  | empty => true

/-- The search goes the same way with the text behind. -/
def Extends (tail : List Char) (search : Spot → List Spot) : Prop :=
  ∀ spot, search (spot.extend tail) = (search spot).map (Spot.extend tail)

def Forward (search : Spot → List Spot) : Prop :=
  ∀ spot, ∀ next ∈ search spot, spot.Leads next

theorem Node.forward_run (node : Node) : Forward node.run :=
  fun spot next hnext =>
    node.way_moves.leads ((node.run_realizes spot).sound next hnext)

variable {tail : List Char} {search : Spot → List Spot}

private theorem distinctFrom_extend (spots : List Spot) : ∀ seen,
    distinctFrom seen (spots.map (Spot.extend tail)) =
      (distinctFrom seen spots).map (Spot.extend tail) := by
  induction spots with
  | nil => exact fun _ => rfl
  | cons spot spots ih =>
      intro seen
      simp only [List.map_cons, distinctFrom, Spot.extend_pos, ih]
      split <;> rfl

theorem distinct_extend (spots : List Spot) :
    distinct (spots.map (Spot.extend tail)) = (distinct spots).map
      (Spot.extend tail) := by
  match spots with
  | [] | [_] => rfl
  | first :: second :: rest =>
      exact distinctFrom_extend (first :: second :: rest) 0

theorem Extends.andThen (h : Extends tail search) (spots : List Spot) :
    andThen (spots.map (Spot.extend tail)) search =
      (andThen spots search).map (Spot.extend tail) := by
  rw [Regex.andThen, Regex.andThen, ← distinct_extend,
    List.flatMap_map, List.map_flatMap]
  simp only [h _]

theorem Extends.exactly (h : Extends tail search) (count : Nat) :
    ∀ spots : List Spot,
    exactly search count (spots.map (Spot.extend tail)) =
      (exactly search count spots).map (Spot.extend tail) := by
  induction count with
  | zero => exact fun _ => rfl
  | succ count ih =>
      intro spots
      cases spots with
      | nil => rfl
      | cons spot spots =>
          rw [List.map_cons, Regex.exactly, Regex.exactly,
            ← List.map_cons, h.andThen, ih]
          · simp
          · simp

/-! ## Loops -/

theorem foldl_extend {α : Type} {step step' : α → Spot → α} (extend : α → α)
    (keeps : α → Prop) {nexts : List Spot}
    (hstep : ∀ next ∈ nexts, ∀ state, keeps state →
      step' (extend state) (next.extend tail) = extend (step state next) ∧
        keeps (step state next)) :
    ∀ state, keeps state → (nexts.map (Spot.extend tail)).foldl step'
      (extend state) =
      extend (nexts.foldl step state) := by
  induction nexts with
  | nil => exact fun _ _ => rfl
  | cons next nexts ih =>
      intro state hstate
      obtain ⟨hnext, hkeeps⟩ := hstep next List.mem_cons_self state hstate
      rw [List.map_cons, List.foldl_cons, List.foldl_cons, hnext]
      exact ih (fun other hother => hstep other (List.mem_cons_of_mem _ hother))
        _ hkeeps

def extendState {α : Type} (tail : List Char) (state : α × List Spot) :
    α × List Spot :=
  (state.1, state.2.map (Spot.extend tail))

def visitFresh (search : Spot → List Spot) (greedy : Bool) (fuel : Nat)
    (reached : Places × List Spot) (next : Spot) : Places × List Spot :=
  if reached.1.has next.pos then reached
  else visit search greedy fuel next (reached.1.add next.pos, reached.2)

theorem visit_eq_foldl (greedy : Bool) (fuel : Nat) (spot : Spot)
    (state : Places × List Spot) :
    visit search greedy (fuel + 1) spot state =
      let last := (search spot).foldl (visitFresh search greedy fuel)
        (state.1, if greedy then state.2 else spot :: state.2)
      (last.1, if greedy then spot :: last.2 else last.2) := by
  cases greedy <;> rfl

private theorem visit_seen (greedy : Bool) (fuel : Nat) {pos : Nat} :
    ∀ (spot : Spot) (state : Places × List Spot), state.1.has pos = true →
      (visit search greedy fuel spot state).1.has pos = true := by
  induction fuel with
  | zero => exact fun _ _ h => h
  | succ fuel ih =>
      intro spot state h
      rw [visit_eq_foldl]
      have hstart : (state.1, if greedy then state.2 else spot :: state.2).1.has
          pos = true := h
      refine List.foldlRecOn (search spot) (visitFresh search greedy fuel)
        (motive := fun reached => reached.1.has pos = true) hstart
          fun reached hreached next _ => ?_
      rw [visitFresh]
      split
      · exact hreached
      · exact ih next _ (by simp [hreached])

private theorem visitFresh_seen (greedy : Bool) (fuel : Nat)
    {pos : Nat} (next : Spot)
    (reached : Places × List Spot) (h : reached.1.has pos = true) :
    (visitFresh search greedy fuel reached next).1.has pos = true := by
  rw [visitFresh]
  split
  · exact h
  · exact visit_seen greedy fuel next _ (by simp [h])

theorem visit_of_seen (greedy : Bool) (fuel : Nat) {spot : Spot}
    {state : Places × List Spot}
    (h : ∀ next ∈ search spot, state.1.has next.pos = true) :
    visit search greedy fuel spot state = (state.1, spot :: state.2) := by
  have hstay :
      ∀ (fuel : Nat) (nexts : List Spot) (seen : Places) (out : List Spot),
      (∀ next ∈ nexts, seen.has next.pos = true) →
      nexts.foldl (visitFresh search greedy fuel) (seen, out) =
        (seen, out) := by
    intro fuel nexts seen out
    induction nexts with
    | nil => exact fun _ => rfl
    | cons next nexts ih =>
        intro hseen
        rw [List.foldl_cons, visitFresh, if_pos (hseen next List.mem_cons_self)]
        exact ih fun other hother => hseen other (List.mem_cons_of_mem _ hother)
  cases fuel with
  | zero => rfl
  | succ fuel =>
      rw [visit_eq_foldl]
      dsimp only
      rw [hstay fuel (search spot) state.1 _ h]
      cases greedy <;> rfl

theorem visit_extend_end (h : Extends tail search) (hforward : Forward search)
    (greedy : Bool) (fuel fuel' : Nat) {spot : Spot}
    {state : Places × List Spot}
    (hend : spot.rest.length = 0) (hspot : state.1.has spot.pos = true) :
    visit search greedy fuel' (spot.extend tail) (extendState tail state) =
      extendState tail (visit search greedy fuel spot state) := by
  have hseen : ∀ next ∈ search spot, state.1.has next.pos = true := by
    intro next hnext
    have hlength := (hforward spot next hnext).rest_length
    have hpos := (hforward spot next hnext).pos_le
    rw [show next.pos = spot.pos by omega]
    exact hspot
  rw [visit_of_seen greedy fuel hseen, visit_of_seen greedy fuel']
  · rfl
  · rw [h spot]
    simpa [extendState] using hseen

private theorem visit_extend (h : Extends tail search)
    (hforward : Forward search) (greedy : Bool) (fuel : Nat) :
    ∀ {fuel' : Nat} {spot : Spot} {state : Places × List Spot},
      spot.rest.length ≤ fuel → spot.rest.length ≤ fuel' →
      state.1.has spot.pos = true →
      visit search greedy fuel' (spot.extend tail) (extendState tail state) =
        extendState tail (visit search greedy fuel spot state) := by
  induction fuel with
  | zero => exact fun hfuel _ hspot =>
      visit_extend_end h hforward greedy 0 _ (by omega) hspot
  | succ fuel ih =>
      intro fuel' spot state hfuel hfuel' hspot
      by_cases hend : spot.rest.length = 0
      · exact visit_extend_end h hforward greedy (fuel + 1) fuel' hend hspot
      · obtain ⟨fuel', rfl⟩ :=
          Nat.exists_eq_succ_of_ne_zero (n := fuel') (by omega)
        -- the place of the spot stays marked, so that a fresh end is further on
        have hstep : ∀ next ∈ search spot, ∀ reached : Places × List Spot,
            reached.1.has spot.pos = true →
            visitFresh search greedy fuel' (extendState tail reached)
              (next.extend tail) =
                extendState tail (visitFresh search greedy fuel reached next) ∧
              (visitFresh search greedy fuel reached next).1.has spot.pos =
                true := by
          intro next hnext reached hreached
          refine ⟨?_, visitFresh_seen greedy fuel next reached hreached⟩
          by_cases hseen : reached.1.has next.pos = true
          · rw [visitFresh, visitFresh, if_pos hseen,
              Spot.extend_pos, extendState, if_pos hseen]
          · have hlength := (hforward spot next hnext).rest_length
            have hpos := (hforward spot next hnext).pos_le
            have hne : next.pos ≠ spot.pos := fun heq => hseen (heq ▸ hreached)
            have hless : next.rest.length ≤ fuel := by omega
            have hless' : next.rest.length ≤ fuel' := by omega
            rw [visitFresh, visitFresh, if_neg hseen,
              Spot.extend_pos, extendState, if_neg hseen]
            have hmarked :
                (reached.1.add next.pos).has next.pos = true := by simp
            exact @ih fuel' next (_, reached.2) hless hless' hmarked
        have hloop :=
          foldl_extend (extendState tail) (·.1.has spot.pos = true) hstep
          (state.1, if greedy then state.2 else spot :: state.2) hspot
        rw [visit_eq_foldl, visit_eq_foldl, h spot]
        cases greedy <;> simp [extendState] at hloop ⊢ <;> simp [hloop]

def firstFresh (search : Spot → List Spot) (greedy : Bool) (fuel pos : Nat)
    (reached : Places × List Spot) (next : Spot) : Places × List Spot :=
  if reached.1.has next.pos then reached
  else if next.pos = pos then (reached.1.add next.pos, next :: reached.2)
  else visit search greedy fuel next (reached.1.add next.pos, reached.2)

theorem oneOrMore_eq_foldl (greedy : Bool) (spot : Spot) :
    oneOrMore search greedy spot = ((search spot).foldl
      (firstFresh search greedy spot.rest.length spot.pos) (0, [])).2.reverse :=
        rfl

theorem Extends.oneOrMore (h : Extends tail search) (hforward : Forward search)
    (greedy : Bool) : Extends tail (oneOrMore search greedy) := by
  intro spot
  have hstep : ∀ next ∈ search spot, ∀ reached : Places × List Spot, True →
      firstFresh search greedy (spot.extend tail).rest.length spot.pos
          (extendState tail reached) (next.extend tail) =
        extendState tail
          (firstFresh search greedy spot.rest.length spot.pos reached next) ∧
          True := by
    intro next hnext reached _
    refine ⟨?_, trivial⟩
    have hlength := (hforward spot next hnext).rest_length
    have hpos := (hforward spot next hnext).pos_le
    have hless : next.rest.length ≤ spot.rest.length := by omega
    have hless' : next.rest.length ≤ (spot.extend tail).rest.length := by
      simp only [Spot.extend, List.length_append]
      omega
    have hmarked : (reached.1.add next.pos).has next.pos = true := by simp
    rw [firstFresh, firstFresh, Spot.extend_pos]
    by_cases hseen : reached.1.has next.pos = true
    · rw [if_pos hseen, if_pos (by exact hseen)]
    · rw [if_neg hseen, if_neg (by exact hseen)]
      by_cases hstays : next.pos = spot.pos
      · rw [if_pos hstays, if_pos hstays]
        rfl
      · rw [if_neg hstays, if_neg hstays]
        exact @visit_extend tail search h hforward greedy spot.rest.length
          (spot.extend tail).rest.length next (_, reached.2)
            hless hless' hmarked
  have hloop :=
    foldl_extend (extendState tail) (fun _ => True) hstep (0, []) trivial
  rw [oneOrMore_eq_foldl, oneOrMore_eq_foldl, h spot, List.map_reverse]
  exact congrArg (·.2.reverse) hloop

theorem Extends.zeroOrMore (h : Extends tail search) (hforward : Forward search)
    (greedy : Bool) : Extends tail (zeroOrMore search greedy) := by
  intro spot
  rw [Regex.zeroOrMore, Regex.zeroOrMore, h.oneOrMore hforward greedy spot,
    ← distinct_extend]
  cases greedy <;> simp

def roundFresh (search : Spot → List Spot) (greedy : Bool) (count : Nat)
    (reached : Places × List Places × List Spot) (next : Spot) :
    Places × List Places × List Spot :=
  if reached.1.has next.pos then reached
  else
    let (later, out) := visitUpTo search greedy count next reached.2
    (reached.1.add next.pos, later, out)

theorem visitUpTo_eq_foldl (greedy : Bool) (count : Nat) (spot : Spot)
    (state : List Places × List Spot) :
    visitUpTo search greedy (count + 1) spot state =
      let last := (search spot).foldl (roundFresh search greedy count)
        (state.1.headD 0, state.1.tail, if greedy then state.2
          else spot :: state.2)
      (last.1 :: last.2.1, if greedy then spot :: last.2.2 else last.2.2) := rfl

private theorem visitUpTo_extend (h : Extends tail search)
    (greedy : Bool) (count : Nat) :
    ∀ (spot : Spot) (state : List Places × List Spot),
      visitUpTo search greedy count (spot.extend tail)
        (extendState tail state) =
        extendState tail (visitUpTo search greedy count spot state) := by
  induction count with
  | zero => exact fun _ _ => rfl
  | succ count ih =>
      intro spot state
      have hstep : ∀ next ∈ search spot,
          ∀ reached : Places × List Places × List Spot, True →
          roundFresh search greedy count (reached.1, extendState tail reached.2)
              (next.extend tail) =
            ((roundFresh search greedy count reached next).1,
              extendState tail
                (roundFresh search greedy count reached next).2) ∧ True := by
        intro next _ reached _
        refine ⟨?_, trivial⟩
        simp only [roundFresh, Spot.extend_pos, ih]
        split <;> rfl
      have hloop := foldl_extend
        (fun reached => (reached.1, extendState tail reached.2))
        (fun _ => True) hstep (state.1.headD 0, state.1.tail,
          if greedy then state.2 else spot :: state.2) trivial
      rw [visitUpTo_eq_foldl, visitUpTo_eq_foldl, h spot]
      cases greedy <;> simp [extendState] at hloop ⊢ <;> simp [hloop]

theorem Extends.upTo (h : Extends tail search) (greedy : Bool) (count : Nat) :
    Extends tail (upTo search greedy count) := by
  intro spot
  have hvisit := visitUpTo_extend h greedy count spot ([], [])
  rw [Regex.upTo, Regex.upTo, ← distinct_extend, List.map_reverse]
  exact congrArg (fun last => distinct last.2.reverse) hvisit

/-! ## Expressions -/

theorem Node.run_extend {c : Char} {rest : List Char} (node : Node)
    (h : node.avoids c) :
    Extends (c :: rest) node.run := by
  induction node with
  | empty => exact fun spot => rfl
  | one set =>
      intro spot
      have hset : set.contains c = false := by simpa [avoids] using h
      cases hrest : spot.rest with
      | nil => simp [run, Spot.extend, hrest, hset]
      | cons d more =>
          simp only [run, Spot.extend, hrest, List.cons_append]
          split <;> rfl
  | look kind => cases h
  | seq first second ihfirst ihsecond =>
      intro spot
      simp only [avoids, Bool.and_eq_true] at h
      rw [run, run, ihfirst h.1 spot, (ihsecond h.2).andThen]
  | alt first second ihfirst ihsecond =>
      intro spot
      simp only [avoids, Bool.and_eq_true] at h
      rw [run, run, ihfirst h.1 spot, ihsecond h.2 spot,
        ← List.map_append, distinct_extend]
  | loop body least most greedy ih =>
      intro spot
      have hbody := ih h
      have hone : ∀ count, exactly body.run count [spot.extend (c :: rest)] =
          (exactly body.run count [spot]).map (Spot.extend (c :: rest)) :=
        fun count => hbody.exactly count [spot]
      cases most with
      | some most =>
          simp only [run]
          rw [hone, (hbody.upTo greedy (most - least)).andThen]
      | none =>
          cases least with
          | zero =>
              simp only [run]
              exact hbody.zeroOrMore body.forward_run greedy spot
          | succ least =>
              simp only [run]
              rw [hone, (hbody.oneOrMore body.forward_run greedy).andThen]
  | group index body ih =>
      intro spot
      rw [run, run, ih h spot, List.map_map, List.map_map]
      rfl

def Spot.Framed (spot : Spot) : Prop :=
  ∀ group ∈ spot.groups, group.2.length ≤ group.2.source.length

theorem Spot.Framed.group?_extend {spot : Spot} (h : spot.Framed)
    (tail : List Char)
    (index : Nat) : (spot.extend tail).group? index = spot.group? index := by
  obtain ⟨pos, before, rest, groups⟩ := spot
  induction groups with
  | nil => rfl
  | cons group groups ih =>
      obtain ⟨hgroup, hgroups⟩ := List.forall_mem_cons.mp h
      have hrest := ih hgroups
      by_cases hindex : group.1 = index
      · simp [Spot.group?, Spot.extend, Span.text, Span.extend, hindex,
          List.take_append_of_le_length hgroup]
      · simpa [Spot.group?, Spot.extend, hindex] using hrest

theorem Rounds.framed {R : Spot → Spot → Prop}
    (hR : ∀ {start stop}, R start stop → start.Framed → stop.Framed)
    {count : Nat} {start stop : Spot} (h : Rounds R count start stop) :
      start.Framed → stop.Framed := by
  induction h with
  | done spot => exact id
  | more first _ ih => exact fun hstart => ih (hR first hstart)

theorem Node.way_framed (node : Node) : ∀ {start stop : Spot},
    node.Way start stop → start.Framed → stop.Framed := by
  induction node with
  | empty => exact fun h hstart => h ▸ hstart
  | one set =>
      rintro start _ ⟨c, rest, -, -, rfl⟩ hstart
      exact hstart
  | look kind => exact fun h hstart => h.2 ▸ hstart
  | seq first second ihfirst ihsecond =>
      rintro start stop ⟨middle, hfirst, hsecond⟩ hstart
      exact ihsecond hsecond (ihfirst hfirst hstart)
  | alt first second ihfirst ihsecond =>
      exact fun h hstart => h.elim (ihfirst · hstart) (ihsecond · hstart)
  | loop body least most greedy ih =>
      rintro start stop ⟨extra, -, hrounds⟩ hstart
      exact hrounds.framed ih hstart
  | group index body ih =>
      rintro start _ ⟨inner, hbody, rfl⟩ hstart
      refine List.forall_mem_cons.mpr ⟨?_, ih hbody hstart⟩
      have hlength := (body.way_moves.leads hbody).rest_length
      dsimp only
      omega

/-! ## Ways that end before the text behind -/

private theorem Look.holds_end {look : Look} {before : Option Char}
    (h : look.holds before (some '?')) : look.holds before none := by
  have hword : ∀ unicode, isWord unicode (some '?') = false := by decide
  cases look with
  | word kind unicode =>
      rw [Look.holds, hword] at h
      exact h
  | startText | startLine => exact h
  | endText | endLine | endAnyLine => simp [Look.holds] at h
  | startAnyLine => simpa [Look.holds] using h

/--
A way in the longer text is a way in the shorter one, if it ends within it.
-/
def Shortens (tail : List Char) (R : Spot → Spot → Prop) : Prop :=
  ∀ {start stop start' : Spot}, R start stop → start.Same (start'.extend tail) →
    tail.length ≤ stop.rest.length →
    ∃ stop', R start' stop' ∧ stop.Same (stop'.extend tail)

variable {R Q : Spot → Spot → Prop}

theorem Shortens.trans (hQ : Moves Q) (hR' : Shortens tail R)
    (hQ' : Shortens tail Q) :
    Shortens tail fun start stop => ∃ middle, R start middle ∧
      Q middle stop := by
  rintro start stop start' ⟨middle, hfirst, hsecond⟩ hstart hlength
  obtain ⟨used, hahead⟩ := hQ.leads hsecond
  have hmiddle : tail.length ≤ middle.rest.length := by
    rw [hahead.rest, List.length_append]
    omega
  obtain ⟨middle', hfirst', hsame⟩ := hR' hfirst hstart hmiddle
  obtain ⟨stop', hsecond', hstop⟩ := hQ' hsecond hsame hlength
  exact ⟨stop', ⟨middle', hfirst', hsecond'⟩, hstop⟩

theorem Shortens.rounds (hR : Moves R) (hR' : Shortens tail R) (count : Nat) :
    Shortens tail (Rounds R count) := by
  induction count with
  | zero =>
      intro start stop start' h hstart _
      cases Rounds.zero_iff.mp h
      exact ⟨start', .done start', hstart⟩
  | succ count ih =>
      intro start stop start' h hstart hlength
      obtain ⟨stop', h', hstop⟩ :=
        Shortens.trans (Rounds.moves hR count) hR' ih (Rounds.succ_iff.mp h)
          hstart hlength
      exact ⟨stop', Rounds.succ_iff.mpr h', hstop⟩

theorem Node.way_shortens (node : Node) (query : List Char) :
    Shortens ('?' :: query) node.Way := by
  induction node with
  | empty =>
      rintro start _ start' rfl hstart _
      exact ⟨start', rfl, hstart⟩
  | one set =>
      rintro start _ start' ⟨c, rest, hrest, hset, rfl⟩ hstart hlength
      have hlong : start'.rest ++ '?' :: query = c :: rest :=
        hstart.rest.symm.trans hrest
      cases hshort : start'.rest with
      | nil =>
          rw [hshort] at hlong
          cases hlong
          simp only [Spot.advance, List.length_cons] at hlength
          omega
      | cons d rest' =>
          rw [hshort] at hlong
          cases hlong
          exact ⟨start'.advance c rest', ⟨c, rest', hshort, hset, rfl⟩,
            ⟨congrArg (· + 1) hstart.pos, rfl, rfl⟩⟩
  | look kind =>
      rintro start _ start' ⟨hholds, rfl⟩ hstart _
      rw [hstart.before, hstart.rest] at hholds
      -- at the end of the path the longer text goes on with a question mark
      refine ⟨start', ⟨?_, rfl⟩, hstart⟩
      cases hshort : start'.rest with
      | nil =>
          simp only [Spot.extend, hshort] at hholds
          exact Look.holds_end hholds
      | cons c rest =>
          simp only [Spot.extend, hshort] at hholds
          exact hholds
  | seq first second ihfirst ihsecond =>
      exact Shortens.trans second.way_moves ihfirst ihsecond
  | alt first second ihfirst ihsecond =>
      rintro start stop start' (h | h) hstart hlength
      · obtain ⟨stop', h', hstop⟩ := ihfirst h hstart hlength
        exact ⟨stop', .inl h', hstop⟩
      · obtain ⟨stop', h', hstop⟩ := ihsecond h hstart hlength
        exact ⟨stop', .inr h', hstop⟩
  | loop body least most greedy ih =>
      rintro start stop start' ⟨extra, hextra, h⟩ hstart hlength
      obtain ⟨stop', h', hstop⟩ :=
        Shortens.rounds body.way_moves ih _ h hstart hlength
      exact ⟨stop', ⟨extra, hextra, h'⟩, hstop⟩
  | group index body ih =>
      rintro start _ start' ⟨inner, h, rfl⟩ hstart hlength
      obtain ⟨inner', h', hinner⟩ := ih h hstart hlength
      exact ⟨Spot.capture index start' inner', ⟨inner', h', rfl⟩,
        ⟨hinner.pos, hinner.before, hinner.rest⟩⟩

end Signpost.Regex
