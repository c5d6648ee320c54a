import Signpost.Proofs.Pattern.Nodes
import Signpost.Proofs.Unicode.CaseOrbit

/-!
# Ways through a shape

A way through the nodes of a shape takes a text that the shape derives, and
leaves in the groups of the tokens what they are filled with.  Every derivation
is taken by some way.
-/

namespace Signpost

open Regex Spot

namespace Shape

variable {insensitive : Bool}

theorem contains_singleton {c d : Char} :
    (CharSet.singleton c).contains d ↔ d = c := by
  change (c ≤ d && d ≤ c) = true ↔ d = c
  rw [Bool.and_eq_true, decide_eq_true_eq, decide_eq_true_eq]
  exact ⟨fun h => Char.le_antisymm h.2 h.1, fun h => by simp [h]⟩

private theorem contains_union {left right : CharSet} {c : Char} :
    (left.union right).contains c ↔ left.contains c ∨ right.contains c :=
  Bool.or_eq_true_iff

theorem contains_compl {set : CharSet} {c : Char} :
    set.compl.contains c ↔ ¬ set.contains c := by
  change (!set.contains c) = true ↔ _
  rw [Bool.not_eq_true', Bool.not_eq_true]

private theorem contains_folded {set : CharSet} {d : Char} :
    set.folded.contains d ↔ set.contains d ∨
      ∃ c ∈ Unicode.CaseOrbit.companions d, set.contains c := by
  rw [← List.any_eq_true]
  exact Bool.or_eq_true_iff

theorem contains_fold {set : CharSet} {d : Char} :
    ((settings insensitive).fold set).contains d ↔ set.contains d ∨
      insensitive ∧ ∃ c ∈ Unicode.CaseOrbit.companions d, set.contains c := by
  cases insensitive with
  | false => simp [Settings.fold]
  | true => simpa [Settings.fold] using contains_folded

theorem not_mem_companions {c d : Char} (hc : c.toNat < 128)
    (halpha : c.isAlpha = false) : c ∉ Unicode.CaseOrbit.companions d := by
  intro hmem
  have hletter := Unicode.CaseOrbit.isAlpha_of_mem_companions hmem hc
  rw [halpha] at hletter
  cases hletter

theorem stands_sign {c d : Char} (hc : c.toNat < 128)
    (halpha : c.isAlpha = false) : Stands insensitive c d ↔ d = c := by
  simp [Stands, not_mem_companions hc halpha]

theorem stands_slash {d : Char} : Stands insensitive '/' d ↔ d = '/' :=
  stands_sign (by decide) (by decide)

theorem stands_question {d : Char} : Stands insensitive '?' d ↔ d = '?' :=
  stands_sign (by decide) (by decide)

theorem contains_segmentSet {d : Char} :
    (segmentSet insensitive).contains d ↔ d ≠ '/' ∧ d ≠ '?' := by
  have hslash : '/' ∉ Unicode.CaseOrbit.companions d :=
    not_mem_companions (by decide) (by decide)
  have hquestion : '?' ∉ Unicode.CaseOrbit.companions d :=
    not_mem_companions (by decide) (by decide)
  have hpair :
      ∀ c, (CharSet.union (.singleton '/') (.singleton '?')).contains c ↔
      c = '/' ∨ c = '?' := by
    intro c
    rw [contains_union, contains_singleton, contains_singleton]
  rw [segmentSet, contains_compl, contains_fold, hpair]
  simp only [hpair]
  constructor
  · intro h
    exact ⟨fun heq => h (.inl (.inl heq)), fun heq => h (.inl (.inr heq))⟩
  · rintro ⟨hne, hne'⟩ (heq | ⟨-, c, hmem, rfl | rfl⟩)
    · exact heq.elim hne hne'
    · exact hslash hmem
    · exact hquestion hmem

theorem contains_lineSet {d : Char} : lineSet.contains d ↔ d ≠ '\n' := by
  rw [lineSet, contains_compl, contains_singleton]

theorem way_charNode {c : Char} {start stop : Spot} :
    (charNode insensitive c).Way start stop ↔
      ∃ d, Stands insensitive c d ∧ Takes start stop [d] := by
  have hset : ∀ d, ((settings insensitive).fold (.singleton c)).contains d ↔
      Stands insensitive c d := by
    intro d
    rw [contains_fold, contains_singleton]
    simp [Stands, contains_singleton]
  constructor
  · rintro ⟨d, rest, hrest, hd, rfl⟩
    exact ⟨d, (hset d).mp hd, (Takes.refl _).cons hrest⟩
  · rintro ⟨d, hd, htakes⟩
    obtain ⟨rest, hrest, htakes⟩ := takes_cons_iff.mp htakes
    exact ⟨d, rest, hrest, (hset d).mpr hd, takes_nil_iff.mp htakes⟩

theorem way_wildcardNode {start stop : Spot} :
    (wildcardNode insensitive).Way start stop ↔ Takes start stop [] ∨
      ∃ rest, '\n' ∉ rest ∧ Takes start stop ('/' :: rest) := by
  constructor
  · rintro ((hslash | hnothing) | ⟨middle, hslash, hrest⟩)
    · obtain ⟨d, hd, htakes⟩ := way_charNode.mp hslash
      cases stands_slash.mp hd
      exact .inr ⟨[], by simp, htakes⟩
    · exact .inl (takes_nil_iff.mpr hnothing)
    · obtain ⟨d, hd, hfirst⟩ := way_charNode.mp hslash
      cases stands_slash.mp hd
      obtain ⟨rest, -, hline, htakes⟩ := loop_one_iff.mp hrest
      refine .inr ⟨rest, fun hmem => ?_, ?_⟩
      · exact contains_lineSet.mp (hline _ hmem) rfl
      · obtain ⟨text, hstart, hfirst⟩ := takes_cons_iff.mp hfirst
        rw [takes_nil_iff.mp hfirst] at htakes
        exact htakes.cons hstart
  · rintro (hnothing | ⟨rest, hline, htakes⟩)
    · exact .inl (.inr (takes_nil_iff.mp hnothing))
    · obtain ⟨text, hstart, htakes⟩ := takes_cons_iff.mp htakes
      refine .inr ⟨start.advance '/' text, way_charNode.mpr ?_, ?_⟩
      · exact ⟨'/', stands_slash.mpr rfl, (Takes.refl _).cons hstart⟩
      · refine loop_one_iff.mpr ⟨rest, Nat.zero_le _, fun c hc => ?_, htakes⟩
        exact contains_lineSet.mpr fun heq => hline (heq ▸ hc)

theorem fills_of_way {name : List Char}
    {constraint : Option (Constraint insensitive)}
    (h : (tokenOf name constraint).WellFormed) {start stop : Spot}
    (hway : (fillNode constraint).Way start stop) :
    ∃ filling, Fills constraint filling ∧ Takes start stop filling := by
  cases constraint with
  | none =>
      obtain ⟨filling, hlength, hset, htakes⟩ := loop_one_iff.mp hway
      refine ⟨filling, ⟨?_, ?_, ?_⟩, htakes⟩
      · exact List.ne_nil_of_length_pos hlength
      · exact fun hmem => (contains_segmentSet.mp (hset _ hmem)).1 rfl
      · exact fun hmem => (contains_segmentSet.mp (hset _ hmem)).2 rfl
  | some constraint =>
      obtain ⟨filling, hahead⟩ := (fillNode _).way_moves.leads hway
      exact ⟨filling, Node.matchesWhole_of_way constraint.lookFree hway hahead,
        hahead, Node.way_groups (groupFree_fill h) hway⟩

theorem way_of_fills {constraint : Option (Constraint insensitive)}
    {filling more : List Char} (h : Fills constraint filling) {start : Spot}
    (hrest : start.rest = filling ++ more) :
    CanTake (fillNode constraint).Way start filling := by
  cases constraint with
  | none =>
      obtain ⟨hne, hslash, hquestion⟩ := h
      obtain ⟨stop, htakes, -⟩ := exists_takes hrest
      refine ⟨stop, loop_one_iff.mpr ?_, htakes.ahead⟩
      refine ⟨filling, List.length_pos_of_ne_nil hne, fun c hc => ?_, htakes⟩
      exact contains_segmentSet.mpr
        ⟨fun heq => hslash (heq ▸ hc), fun heq => hquestion (heq ▸ hc)⟩
  | some constraint =>
      exact Node.way_of_matchesWhole constraint.lookFree h hrest

/-! ## Groups of the tokens -/

theorem group?_capture {index : Nat} {start stop : Spot} {used : List Char}
    (h : start.Ahead stop used) :
    (Spot.capture index start stop).group? index = some used := by
  have hlength : stop.pos - start.pos = used.length := by
    have := h.pos
    omega
  simp [Spot.capture, Spot.group?, Span.text, h.rest, hlength]

theorem group?_capture_of_ne {index other : Nat} (hne : other ≠ index)
    (start stop : Spot) :
    (Spot.capture index start stop).group? other = stop.group? other := by
  simp [Spot.capture, Spot.group?, hne.symm]

theorem group?_of_groups {first second : Spot}
    (h : first.groups = second.groups) (index : Nat) :
    first.group? index = second.group? index := by
  rw [Spot.group?, Spot.group?, h]

def Bounded (before : Nat) (spot : Spot) : Prop :=
  ∀ group ∈ spot.groups, group.1 ≤ before

theorem Bounded.mono {before after : Nat} {spot : Spot}
    (h : Bounded before spot) (hle : before ≤ after) : Bounded after spot :=
  fun group hmem => Nat.le_trans (h group hmem) hle

theorem Bounded.capture {before index : Nat} {stop : Spot}
    (h : Bounded before stop) (hindex : index ≤ before) (start : Spot) :
    Bounded before (Spot.capture index start stop) := by
  intro group hmem
  rcases List.mem_cons.mp hmem with rfl | hmem
  · exact hindex
  · exact h group hmem

theorem Bounded.takes {before : Nat} {start stop : Spot} {used : List Char}
    (h : Bounded before start) (htakes : Takes start stop used) :
    Bounded before stop := by
  rwa [Bounded, htakes.groups]

theorem Bounded.group?_eq_none {before index : Nat} {spot : Spot}
    (h : Bounded before spot) (hlt : before < index) :
    spot.group? index = none := by
  rw [Spot.group?, Option.map_eq_none_iff, List.find?_eq_none]
  intro group hmem heq
  have hle := h group hmem
  simp only [decide_eq_true_eq] at heq
  omega

theorem namedGroups_bounds (shape : Shape insensitive) : ∀ {before},
    ∀ group ∈ shape.namedGroups before,
      before < group.2 ∧ group.2 ≤ before + shape.captures := by
  induction shape with
  | done => simp [namedGroups]
  | plain c next ih => exact ih
  | token name constraint next ih =>
      intro before group hmem
      rcases List.mem_cons.mp hmem with rfl | hmem
      · simp [captures]
      · have hnext := ih group hmem
        simp only [captures]
        omega
  | wildcard next ih =>
      intro before group hmem
      have hnext := ih group hmem
      simp only [captures]
      omega
  | optional inner next ihinner ihnext =>
      intro before group hmem
      simp only [captures]
      rcases List.mem_append.mp hmem with hmem | hmem
      · have hinner := ihinner group hmem
        omega
      · have hnext := ihnext group hmem
        omega

/-! ## Ways are derivations -/

def held (shape : Shape insensitive) (before : Nat) (spot : Spot) :
    List (Option (List Char)) :=
  (shape.namedGroups before).map fun group => spot.group? group.2

/--
What a way through a shape leaves, when `before` groups have been opened before
it: it derives what it took, and only its own groups have changed.
-/
structure Found (shape : Shape insensitive) (before : Nat) (start stop : Spot)
    (word : List Char) (values : List (Option (List Char))) : Prop where
  ahead : start.Ahead stop word
  derives : shape.Derives word values
  kept : ∀ index ≤ before, stop.group? index = start.group? index
  bounded : Bounded (before + shape.captures) stop
  values : shape.held before stop = values

theorem held_congr (shape : Shape insensitive) {before : Nat}
    {first second : Spot}
    (h : ∀ index, before < index → index ≤ before + shape.captures →
      first.group? index = second.group? index) :
    shape.held before first = shape.held before second := by
  refine List.map_congr_left fun group hmem => ?_
  obtain ⟨hlow, hhigh⟩ := namedGroups_bounds shape group hmem
  exact h group.2 hlow hhigh

private theorem held_eq_none (shape : Shape insensitive)
    {before : Nat} {spot : Spot}
    (h : ∀ index, before < index → index ≤ before + shape.captures →
      spot.group? index = none) :
    shape.held before spot = shape.tokens.map fun _ => none := by
  have hnames := congrArg (List.map fun _ => (none : Option (List Char)))
    (shape.map_fst_namedGroups before)
  rw [names, List.map_map, List.map_map] at hnames
  refine Eq.trans (List.map_congr_left fun group hmem => ?_) hnames
  obtain ⟨hlow, hhigh⟩ := namedGroups_bounds shape group hmem
  exact h group.2 hlow hhigh

/--
A group that took a text without opening others, and what has been found behind
it.
-/
theorem Found.behind_group {next : Shape insensitive} {before : Nat}
    {start inner stop : Spot} {used word : List Char}
    {values : List (Option (List Char))} (htakes : Takes start inner used)
    (h : next.Found (before + 1) (Spot.capture (before + 1) start inner)
      stop word
      values) :
    start.Ahead stop (used ++ word) ∧ stop.group? (before + 1) = some used ∧
      ∀ index ≤ before, stop.group? index = start.group? index := by
  have hahead := htakes.ahead.congr (.refl start)
    (Spot.capture_same (before + 1) start inner).symm
  refine ⟨hahead.trans h.ahead, ?_, fun index hindex => ?_⟩
  · rw [h.kept (before + 1) (Nat.le_refl _), group?_capture htakes.ahead]
  · rw [h.kept index (by omega), group?_capture_of_ne (by omega),
      group?_of_groups htakes.groups]

theorem found_of_ways (shape : Shape insensitive) (h : shape.Formed) :
    ∀ {before start stop}, Bounded before start →
    Ways (shape.nodes before) start stop →
    ∃ word values, shape.Found before start stop word values := by
  -- a group that is left out holds nothing only because nothing has matched it
  -- before, as the bound says
  induction shape with
  | done =>
      rintro before start _ hbounded rfl
      exact ⟨[], [], .refl _, .done, fun _ _ => rfl, hbounded, rfl⟩
  | plain c next ih =>
      rintro before start stop hbounded ⟨middle, hnode, hways⟩
      obtain ⟨d, hd, htakes⟩ := way_charNode.mp hnode
      obtain ⟨word, values, hfound⟩ := ih h (hbounded.takes htakes) hways
      refine ⟨d :: word, values, htakes.ahead.trans hfound.ahead,
        .plain hd hfound.derives, fun index hindex => ?_, hfound.bounded,
        hfound.values⟩
      rw [hfound.kept index hindex, group?_of_groups htakes.groups]
  | token name constraint next ih =>
      rintro before start stop hbounded ⟨_, ⟨inner, hfill, rfl⟩, hways⟩
      obtain ⟨filling, hfills, htakes⟩ := fills_of_way h.head hfill
      have hinner := (hbounded.takes htakes).mono (Nat.le_succ before)
      obtain ⟨word, values, hfound⟩ :=
        ih h.tail (hinner.capture (Nat.le_refl _) start) hways
      obtain ⟨hahead, hgroup, hkept⟩ := hfound.behind_group htakes
      refine ⟨filling ++ word, some filling :: values, hahead,
        .token hfills hfound.derives, hkept, ?_, ?_⟩
      · exact hfound.bounded.mono (by simp only [captures]; omega)
      · rw [held, namedGroups, List.map_cons, hgroup]
        exact congrArg _ hfound.values
  | wildcard next ih =>
      rintro before start stop hbounded ⟨_, ⟨inner, hnode, rfl⟩, hways⟩
      obtain ⟨used, htakes, hderives⟩ : ∃ used, Takes start inner used ∧
          ∀ {word values}, next.Derives word values →
            (wildcard next).Derives (used ++ word) values := by
        rcases way_wildcardNode.mp hnode with htakes | ⟨rest, hline, htakes⟩
        · exact ⟨[], htakes, .nothing⟩
        · exact ⟨'/' :: rest, htakes, .remainder hline⟩
      have hinner := (hbounded.takes htakes).mono (Nat.le_succ before)
      obtain ⟨word, values, hfound⟩ :=
        ih h (hinner.capture (Nat.le_refl _) start) hways
      obtain ⟨hahead, -, hkept⟩ := hfound.behind_group htakes
      refine ⟨used ++ word, values, hahead, hderives hfound.derives, hkept, ?_,
        hfound.values⟩
      exact hfound.bounded.mono (by simp only [captures]; omega)
  | optional inner next ihinner ihnext =>
      rintro before start stop hbounded ⟨middle, hnode, hways⟩
      rcases hnode with ⟨reached, hinner, rfl⟩ | hskip
      · have hinner : Ways (inner.nodes (before + 1)) start reached := by
          simpa using (way_ofItems _).mp hinner
        obtain ⟨first, values, hfirst⟩ :=
          ihinner h.inside (hbounded.mono (Nat.le_succ before)) hinner
        have hbound : before + 1 + inner.captures =
            before + inner.captures + 1 := by omega
        have hreached := hbound ▸ hfirst.bounded
        obtain ⟨second, values', hsecond⟩ :=
          ihnext h.after (hreached.capture (by omega) start) hways
        have hahead := hfirst.ahead.congr (.refl start)
          (Spot.capture_same (before + 1) start reached).symm
        -- the way behind the group records later groups only
        have hback : ∀ index, index ≠ before + 1 →
            index ≤ before + inner.captures + 1 →
            stop.group? index = reached.group? index := by
          intro index hne hle
          rw [hsecond.kept index hle, group?_capture_of_ne hne]
        refine ⟨first ++ second, values ++ values', hahead.trans hsecond.ahead,
          .kept hfirst.derives hsecond.derives, fun index hindex => ?_, ?_, ?_⟩
        · rw [hback index (by omega) (by omega), hfirst.kept index (by omega)]
        · exact hsecond.bounded.mono (by simp only [captures]; omega)
        · have hheld : inner.held (before + 1) stop =
              inner.held (before + 1) reached :=
            inner.held_congr fun index hlow hhigh =>
              hback index (by omega) (by omega)
          rw [held, namedGroups, List.map_append]
          exact congr (congrArg _ (hheld.trans hfirst.values)) hsecond.values
      · cases hskip
        have hmiddle :=
          hbounded.mono (Nat.le_add_right before (inner.captures + 1))
        obtain ⟨word, values, hfound⟩ := ihnext h.after hmiddle hways
        refine ⟨word, _, hfound.ahead, .skipped hfound.derives,
          fun index hindex => hfound.kept index (by omega), ?_, ?_⟩
        · exact hfound.bounded.mono (by simp only [captures]; omega)
        · have hnone : inner.held (before + 1) stop =
              inner.tokens.map fun _ => none := by
            refine inner.held_eq_none fun index hlow hhigh => ?_
            rw [hfound.kept index (by omega),
              hbounded.group?_eq_none (by omega)]
          rw [held, namedGroups, List.map_append]
          exact congr (congrArg _ hnone) hfound.values

/-- Every derivation is taken by a way, wherever its text stands. -/
theorem canTake_of_derives {shape : Shape insensitive} {word : List Char}
    {values : List (Option (List Char))} (h : shape.Derives word values) :
    ∀ {before : Nat} {start : Spot} {more : List Char},
      start.rest = word ++ more →
      CanTake (Ways (shape.nodes before)) start word := by
  induction h with
  | done => exact fun _ => ⟨_, rfl, .refl _⟩
  | @plain c d next word values hd _ ih =>
      intro before start more hrest
      have hchar : CanTake (charNode insensitive c.val).Way start [d] :=
        ⟨_, way_charNode.mpr ⟨d, hd, (Takes.refl _).cons hrest⟩,
          .advance start hrest⟩
      exact hchar.cons fun middle hmiddle => ih (hmiddle.rest_eq hrest)
  | @token name constraint filling next word values hfills _ ih =>
      intro before start more hrest
      rw [List.append_assoc] at hrest
      exact ((way_of_fills hfills hrest).group _).cons fun middle hmiddle =>
        ih (hmiddle.rest_eq hrest)
  | @nothing next word values _ ih =>
      intro before start more hrest
      have hnode : CanTake (wildcardNode insensitive).Way start [] :=
        ⟨start, way_wildcardNode.mpr (.inl (.refl start)), .refl start⟩
      exact (hnode.group _).cons fun middle hmiddle =>
        ih (hmiddle.nil_same.rest.symm.trans hrest)
  | @remainder next rest word values hline _ ih =>
      intro before start more hrest
      rw [List.append_assoc] at hrest
      obtain ⟨stop, htakes, -⟩ := exists_takes hrest
      have hnode : CanTake (wildcardNode insensitive).Way start ('/' :: rest) :=
        ⟨stop, way_wildcardNode.mpr (.inr ⟨rest, hline, htakes⟩), htakes.ahead⟩
      exact (hnode.group _).cons fun middle hmiddle =>
        ih (hmiddle.rest_eq hrest)
  | @kept inner next first second values values' _ _ ihinner ihnext =>
      intro before start more hrest
      rw [List.append_assoc] at hrest
      obtain ⟨stop, hways, hahead⟩ := @ihinner (before + 1) start _ hrest
      have hinner : CanTake
          (Node.ofItems (inner.nodes (before + 1)).reverse).Way start first :=
        ⟨stop, (way_ofItems _).mpr (by simpa using hways), hahead⟩
      obtain ⟨stop, hgroup, hahead⟩ := hinner.group (before + 1)
      have hoptional : CanTake (Node.alt _ .empty).Way start first :=
        ⟨stop, .inl hgroup, hahead⟩
      exact hoptional.cons fun middle hmiddle => ihnext (hmiddle.rest_eq hrest)
  | @skipped inner next word values _ ih =>
      intro before start more hrest
      have hoptional : CanTake (Node.alt (.group (before + 1)
          (Node.ofItems (inner.nodes (before + 1)).reverse)) .empty).Way
          start [] :=
        ⟨start, .inr rfl, .refl start⟩
      exact hoptional.cons fun middle hmiddle =>
        ih (hmiddle.nil_same.rest.symm.trans hrest)

end Shape

end Signpost
