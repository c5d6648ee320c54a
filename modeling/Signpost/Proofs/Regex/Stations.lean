import Mathlib.Logic.Relation
import Signpost.Proofs.Data.List
import Signpost.Proofs.Regex.Splicing
import Signpost.Proofs.Unicode.Numerals

/-!
# Where the reader stands

The reader goes through an expression from lexeme to lexeme.  It comes to stand
before every parenthesis that opens, unless it reads over it: inside a bracketed
class, inside an escape, or in a comment, which the flag `x` allows.  No other
lexeme has such a parenthesis in it but as its first character.
-/

namespace Signpost.Regex

namespace ParseState

theorem names_subset_of_step {state after : ParseState} {lexeme : Lexeme}
    (h : state.step lexeme = .ok after) : state.names ⊆ after.names := by
  cases lexeme with
  | openCapture name =>
      cases name with
      | none =>
          cases h
          exact List.Subset.refl _
      | some name =>
          simp only [step, openCapture] at h
          split at h
          · cases h
          · cases h
            exact List.subset_cons_self name state.names
  | close =>
      simp only [step, closeGroup] at h
      split at h
      · cases h
      · cases h
        exact List.Subset.refl _
  | quantifier bounds greedy =>
      cases h
      rw [quantify]
      split <;> exact List.Subset.refl _
  | primitive | bracketed | openFlagged | setFlags | bar =>
      cases h
      exact List.Subset.refl _

end ParseState

/-! ## The way of the reader -/

/--
A place where the reader begins a lexeme: its state, and the text from there on.
-/
structure Station where
  state : ParseState
  text : List Char
  deriving DecidableEq, Repr

namespace Station

def ahead (station : Station) : List Char :=
  skip station.state.verbose station.text

def next? (station : Station) : Option Station :=
  match station.ahead with
  | [] => none
  | text =>
    match Lexeme.next station.state.verbose station.state.frame.hasOperand
      text with
    | .error _ => none
    | .ok (lexeme, rest) =>
      match station.state.step lexeme with
      | .error _ => none
      | .ok state => some ⟨state, rest⟩

def journey : Nat → Station → List Station
  | 0, _ => []
  | fuel + 1, station => station :: station.next?.elim [] (journey fuel)

def left (station : Station) : List Char :=
  (station.next?.map Station.text).getD station.ahead

def taken (station : Station) : List Char :=
  station.text.take (station.text.length - station.left.length)

def passes (place : List Char) (station : Station) : Bool :=
  place <:+ station.text ∧ station.ahead ≠ place ∧ ¬ place <:+ station.left

/--
The reader passes the place in a comment, in a bracketed class or in an escape.
-/
def covers (place : List Char) (station : Station) : Bool :=
  station.passes place &&
    (station.state.verbose && '#' ∈ station.taken || station.ahead.head? =
      some '[' ||
      station.ahead.head? = some '\\')

end Station

/-- Somewhere on its way through the text the reader reads over the place. -/
def isCovered (text place : List Char) : Bool :=
  (Station.journey (text.length + 1) ⟨{}, text⟩).any (Station.covers place)

/-! ## What a lexeme takes -/

/--
What has been taken of the text has a parenthesis that opens only in a comment.
-/
def Clears (verbose : Bool) (text rest : List Char) : Prop :=
  ∃ taken, text = taken ++ rest ∧ ('(' ∈ taken → verbose = true ∧ '#' ∈ taken)

variable {verbose : Bool}

theorem Clears.refl (text : List Char) : Clears verbose text text :=
  ⟨[], rfl, by simp⟩

theorem Clears.trans {first second third : List Char}
    (h : Clears verbose first second)
    (h' : Clears verbose second third) : Clears verbose first third := by
  obtain ⟨taken, rfl, hopen⟩ := h
  obtain ⟨more, rfl, hopen'⟩ := h'
  refine ⟨taken ++ more, (List.append_assoc ..).symm, fun hmem => ?_⟩
  rcases List.mem_append.mp hmem with hmem | hmem
  · exact (hopen hmem).imp_right (List.mem_append_left more)
  · exact (hopen' hmem).imp_right (List.mem_append_right taken)

theorem clears_cons {c : Char} (hc : c ≠ '(') (rest : List Char) :
    Clears verbose (c :: rest) rest :=
  ⟨[c], rfl, fun hmem => absurd (List.mem_singleton.mp hmem).symm hc⟩

theorem isWhiteSpace_open : Unicode.isWhiteSpace '(' = false := by decide

private theorem dropTrivia_clears (text : List Char) : ∀ inComment, ∃ taken,
    text = taken ++ dropTrivia inComment text ∧
      ('(' ∈ taken → inComment = true ∨ '#' ∈ taken) := by
  induction text with
  | nil => exact fun _ => ⟨[], rfl, by simp⟩
  | cons c text ih =>
      intro inComment
      rw [dropTrivia]
      split
      · next hcomment =>
          obtain ⟨taken, htext, -⟩ := ih (c != '\n')
          exact ⟨c :: taken, congrArg (c :: ·) htext, fun _ => .inl hcomment⟩
      split
      · next hblank =>
          obtain ⟨taken, htext, hopen⟩ := ih false
          refine ⟨c :: taken, congrArg (c :: ·) htext, fun hmem => .inr ?_⟩
          rcases List.mem_cons.mp hmem with rfl | hmem
          · simp [isWhiteSpace_open] at hblank
          · exact List.mem_cons_of_mem c
              ((hopen hmem).resolve_left Bool.false_ne_true)
      split
      · next hsign =>
          obtain ⟨taken, htext, -⟩ := ih true
          exact ⟨c :: taken, congrArg (c :: ·) htext,
            fun _ => .inr (by simp [hsign])⟩
      · exact ⟨[], rfl, by simp⟩

theorem skip_clears (text : List Char) :
    Clears verbose text (skip verbose text) := by
  cases verbose with
  | false => exact .refl text
  | true =>
      obtain ⟨taken, htext, hopen⟩ := dropTrivia_clears text false
      exact ⟨taken, htext,
        fun hmem => ⟨rfl, (hopen hmem).resolve_left Bool.false_ne_true⟩⟩

theorem gather_clears {test : Char → Bool} (htest : test '(' = false)
    (text : List Char) :
    Clears verbose text (gather verbose test text).2 := by
  have hfuel : ∀ fuel text,
      Clears verbose text (gatherWith verbose test fuel text).2 := by
    intro fuel
    induction fuel with
    | zero => exact fun text => .refl text
    | succ fuel ih =>
        intro text
        cases text with
        | nil => exact .refl []
        | cons c text =>
            rw [gatherWith]
            split
            · next hc =>
                have hopen : c ≠ '(' := by
                  rintro rfl
                  simp [htest] at hc
                exact (clears_cons hopen text).trans
                  ((skip_clears text).trans (ih _))
            · exact .refl _
  exact hfuel text.length text

theorem decimal_clears (text : List Char) :
    Clears verbose text (decimal verbose text).2 := by
  have hdrop : Clears verbose text (text.dropWhile Unicode.isWhiteSpace) := by
    refine ⟨text.takeWhile Unicode.isWhiteSpace,
      List.takeWhile_append_dropWhile.symm, ?_⟩
    intro hmem
    have hopen := List.mem_takeWhile_imp hmem
    simp [isWhiteSpace_open] at hopen
  rw [decimal_eq]
  exact hdrop.trans
    ((gather_clears (by decide) _).trans (gather_clears isWhiteSpace_open _))

theorem greed_clears (text : List Char) :
    Clears verbose text (greed text).2 := by
  unfold greed
  split
  · exact clears_cons (by decide) _
  · exact .refl _

private theorem countedBounds_clears {text rest : List Char} {bounds : Bounds}
    (h : countedBounds verbose text = .ok (bounds, rest)) :
      Clears verbose text rest := by
  have hleast :=
    (skip_clears text).trans (@decimal_clears verbose (skip verbose text))
  unfold countedBounds at h
  generalize skip verbose text = ahead at h hleast
  split at h
  · cases h
  simp only at h
  split at h
  · cases h
  · next after heq =>
      rw [heq] at hleast
      have hafter :=
        hleast.trans ((clears_cons (by decide) after).trans (skip_clears after))
      split at h
      · cases h
      · next hend =>
          obtain ⟨least, -, ⟨⟩⟩ := bind_eq_ok_iff.mp h
          rwa [hend] at hafter
      · obtain ⟨least, -, h⟩ := bind_eq_ok_iff.mp h
        obtain ⟨most, -, ⟨⟩⟩ := bind_eq_ok_iff.mp h
        exact hafter.trans (decimal_clears _)
  · obtain ⟨least, -, ⟨⟩⟩ := bind_eq_ok_iff.mp h
    exact hleast

theorem counted_clears {text rest : List Char} {value : Bounds × Bool}
    (h : counted verbose text = .ok (value, rest)) :
      Clears verbose text rest := by
  obtain ⟨⟨bounds, after⟩, hbounds, h⟩ := bind_eq_ok_iff.mp h
  have hafter := countedBounds_clears hbounds
  dsimp only at h
  split at h
  · next behind =>
      split at h
      · cases h
        exact hafter.trans ((clears_cons (by decide) behind).trans
          ((skip_clears behind).trans (greed_clears _)))
      · cases h
  · cases h

private theorem isGroupNameChar_open : isGroupNameChar '(' = false := by
  rw [isGroupNameChar, Unicode.isAlphanumeric_ascii (by decide)]
  decide

private theorem isGroupNameStart_open :
    isGroupNameStart '(' = false := by decide

private theorem groupNameTail_clears {text rest name : List Char}
    (h : groupNameTail text = .ok (name, rest)) : Clears verbose text rest := by
  induction text generalizing name with
  | nil => cases h
  | cons c text ih =>
      rw [groupNameTail] at h
      split at h
      · next hend =>
          cases h
          exact clears_cons (by rw [hend]; decide) _
      split at h
      · next hchar =>
          have hopen : c ≠ '(' := by
            rintro rfl
            simp [isGroupNameChar_open] at hchar
          obtain ⟨⟨more, left⟩, hmore, ⟨⟩⟩ := bind_eq_ok_iff.mp h
          exact (clears_cons hopen text).trans (ih hmore)
      · cases h

theorem named_clears {text rest : List Char} {lexeme : Lexeme}
    (h : named text = .ok (lexeme, rest)) : Clears verbose text rest := by
  obtain ⟨⟨name, left⟩, hname, ⟨⟩⟩ := bind_eq_ok_iff.mp h
  cases text with
  | nil => cases hname
  | cons c text =>
      rw [groupName] at hname
      split at hname
      · cases hname
      split at hname
      · next hstart =>
          have hopen : c ≠ '(' := by
            rintro rfl
            simp [isGroupNameStart_open] at hstart
          obtain ⟨⟨more, left⟩, hmore, ⟨⟩⟩ := bind_eq_ok_iff.mp hname
          exact (clears_cons hopen text).trans (groupNameTail_clears hmore)
      · cases hname

private theorem flagChanges_clears {text rest : List Char}
    {changes : FlagChanges} :
    ∀ {enabled afterMinus seen},
    flagChanges enabled afterMinus seen text = .ok (changes, rest) →
    Clears verbose text rest.tail := by
  induction text with
  | nil =>
      intro enabled afterMinus seen h
      cases h
  | cons c text ih =>
      intro enabled afterMinus seen h
      rw [flagChanges] at h
      split at h
      · next hend =>
          have hopen : c ≠ '(' := by rcases hend with rfl | rfl <;> decide
          split at h
          · cases h
          · cases h
            exact clears_cons hopen text
      split at h
      · next hminus =>
          split at h
          · exact (clears_cons (by rw [hminus]; decide) text).trans (ih h)
          · cases h
      split at h
      · cases h
      · next flag hflag =>
          have hopen : c ≠ '(' := by
            rintro rfl
            cases hflag
          split at h
          · cases h
          · exact (clears_cons hopen text).trans (ih h)

private theorem groupHead_clears {text rest : List Char} {lexeme : Lexeme}
    (h : groupHead verbose text = .ok (lexeme, rest)) :
      Clears verbose text rest := by
  have hquestion : ∀ text : List Char, Clears verbose ('?' :: text) text :=
    fun text => clears_cons (by decide) text
  have hskip := @skip_clears verbose text
  unfold groupHead at h
  generalize skip verbose text = ahead at h hskip
  refine hskip.trans ?_
  split at h
  case h_5 =>
    next text =>
      exact (hquestion _).trans ((clears_cons (by decide) _).trans
        ((clears_cons (by decide) text).trans (named_clears h)))
  case h_6 =>
    next text _ _ =>
      exact (hquestion _).trans
        ((clears_cons (by decide) text).trans (named_clears h))
  case h_8 =>
    next text _ _ _ _ _ _ _ =>
      obtain ⟨⟨changes, after⟩, hflags, h⟩ := bind_eq_ok_iff.mp h
      have hafter := (hquestion text).trans (flagChanges_clears hflags)
      split at h
      · cases h
      · next heq =>
          cases heq
          cases h
          exact hafter
      · next heq =>
          cases heq
          cases h
          exact hafter
  case h_9 =>
    cases h
    exact .refl _
  all_goals cases h

theorem next_clears {hasOperand : Bool} {c : Char} {text rest : List Char}
    {lexeme : Lexeme}
    (h : Lexeme.next verbose hasOperand (c :: text) = .ok (lexeme, rest))
    (hclass : c ≠ '[') (hescape : c ≠ '\\') : Clears verbose text rest := by
  have huncounted : ∀ bounds, Lexeme.next.uncounted hasOperand bounds text =
      .ok (lexeme, rest) → Clears verbose text rest := by
    intro bounds h
    unfold Lexeme.next.uncounted at h
    split at h
    · cases h
      exact greed_clears text
    · cases h
  by_cases hsign : c ∈ signs
  · simp only [signs, List.mem_cons, List.not_mem_nil, or_false] at hsign
    rcases hsign with rfl | rfl | rfl | rfl | rfl | rfl | rfl | rfl | rfl |
      rfl | rfl | rfl
    · exact groupHead_clears h
    · cases h
      exact .refl _
    · cases h
      exact .refl _
    · exact absurd rfl hclass
    · exact huncounted _ h
    · exact huncounted _ h
    · exact huncounted _ h
    · simp only [Lexeme.next] at h
      split at h
      · obtain ⟨⟨⟨bounds, greedy⟩, after⟩, hcounted, ⟨⟩⟩ := bind_eq_ok_iff.mp h
        exact counted_clears hcounted
      · cases h
    · exact absurd rfl hescape
    · cases h
      exact .refl _
    · cases h
      exact .refl _
    · cases h
      exact .refl _
  · rw [next_literal hsign] at h
    cases h
    exact .refl _

/-! ## On the way -/

namespace Station

abbrev Reaches : Station → Station → Prop :=
  Relation.ReflTransGen fun station after => station.next? = some after

theorem next?_of_skip {state after : ParseState}
    {text rest left : List Char} {c : Char}
    {lexeme : Lexeme} (hskip : skip state.verbose text = c :: rest)
    (hnext : Lexeme.next state.verbose state.frame.hasOperand (c :: rest) =
      .ok (lexeme, left)) (hstep : state.step lexeme = .ok after) :
    next? ⟨state, text⟩ = some ⟨after, left⟩ := by
  simp [next?, ahead, hskip, hnext, hstep]

theorem exists_lexeme {station after : Station}
    (h : station.next? = some after) :
    ∃ c rest lexeme, station.ahead = c :: rest ∧
      Lexeme.next station.state.verbose station.state.frame.hasOperand
        (c :: rest) =
        .ok (lexeme, after.text) ∧
      station.state.step lexeme = .ok after.state := by
  cases hahead : station.ahead with
  | nil => simp [next?, hahead] at h
  | cons c rest =>
      simp only [next?, hahead] at h
      split at h
      · cases h
      · next lexeme left hnext =>
          split at h
          · cases h
          · next state hstep =>
              cases h
              exact ⟨c, rest, lexeme, rfl, hnext, hstep⟩

theorem suffix_of_next? {station after : Station}
    (h : station.next? = some after) :
    after.text <:+ station.text ∧ after.text.length < station.text.length := by
  obtain ⟨c, rest, lexeme, hahead, hnext, -⟩ := exists_lexeme h
  have hskip := skip_suffix station.state.verbose station.text
  have hleft := next_leaves _ _ _ _ _ hnext
  rw [← ahead, hahead] at hskip
  exact ⟨hleft.trans (suffix_of_cons_suffix hskip),
    Nat.lt_of_le_of_lt hleft.length_le hskip.length_le⟩

private theorem mem_journey {start station : Station}
    (h : start.Reaches station) :
    ∀ {fuel : Nat}, start.text.length < fuel → station ∈
      journey fuel start := by
  induction h using Relation.ReflTransGen.head_induction_on with
  | refl =>
      intro fuel hfuel
      cases fuel with
      | zero => cases hfuel
      | succ fuel => exact List.mem_cons_self
  | head hnext _ ih =>
      intro fuel hfuel
      have hlength := (suffix_of_next? hnext).2
      cases fuel with
      | zero => cases hfuel
      | succ fuel =>
          rw [journey, hnext]
          exact List.mem_cons_of_mem _ (ih (by omega))

theorem covers_of_isCovered {text place : List Char}
    (h : isCovered text place = false)
    {station : Station} (hreaches : Reaches ⟨{}, text⟩ station) :
    station.covers place = false := by
  have hmem := mem_journey hreaches (Nat.lt_succ_self text.length)
  simpa using List.any_eq_false.mp h station hmem

theorem Reaches.names_subset {start station : Station}
    (h : start.Reaches station) :
    start.state.names ⊆ station.state.names := by
  induction h with
  | refl => exact List.Subset.refl _
  | tail _ hnext ih =>
      obtain ⟨c, rest, lexeme, -, -, hstep⟩ := exists_lexeme hnext
      exact List.Subset.trans ih (ParseState.names_subset_of_step hstep)

end Station

variable {state result : ParseState} {text place : List Char}

namespace Station

theorem left_of_next? {station after : Station}
    (h : station.next? = some after) :
    station.left = after.text := by
  rw [left, h, Option.map_some, Option.getD_some]

theorem taken_eq {station : Station} {before : List Char}
    (h : station.text = before ++ station.left) : station.taken = before := by
  simp [taken, h]

theorem suffix_left_of_clears {station : Station}
    (hcomment : station.state.verbose = true → '#' ∉ station.taken)
    (hclears : ∀ c rest after, station.ahead = c :: rest →
      station.next? = some after →
      Clears station.state.verbose rest after.text)
    (hplace : '(' :: place <:+ station.text)
    (hstand : station.ahead ≠ '(' :: place) :
    '(' :: place <:+ station.left := by
  have hfree : ∀ part ⊆ station.taken,
      ('(' ∈ part → station.state.verbose = true ∧ '#' ∈ part) → '(' ∉ part :=
    fun part hpart hopen hmem => hcomment (hopen hmem).1 (hpart (hopen hmem).2)
  -- neither what is left out nor the rest of the lexeme has a parenthesis
  obtain ⟨trivia, htext, htrivia⟩ :=
    @skip_clears station.state.verbose station.text
  change station.text = trivia ++ station.ahead at htext
  cases hnext : station.next? with
  | none =>
      have hleft : station.left = station.ahead := by rw [left, hnext]; rfl
      have htaken : station.taken = trivia := taken_eq (hleft ▸ htext)
      rw [htext] at hplace
      rw [hleft]
      exact suffix_of_not_mem (hfree trivia (by simp [htaken]) htrivia) hplace
  | some after =>
      obtain ⟨c, rest, lexeme, hahead, -, -⟩ := exists_lexeme hnext
      obtain ⟨more, hrest, hmore⟩ := hclears c rest after hahead hnext
      have hleft := left_of_next? hnext
      have htaken : station.taken = trivia ++ c :: more :=
        taken_eq
          (by rw [htext, hahead, hrest, hleft, List.append_assoc,
            List.cons_append])
      rw [htext] at hplace
      have hahead' :=
        suffix_of_not_mem (hfree trivia (by simp [htaken]) htrivia) hplace
      rw [hahead] at hahead' hstand
      have hrest' :=
        (List.suffix_cons_iff.mp hahead').resolve_left (Ne.symm hstand)
      rw [hrest] at hrest'
      rw [hleft]
      exact suffix_of_not_mem (hfree more (by simp [htaken]) hmore) hrest'

theorem suffix_left {station : Station}
    (hopen : station.covers ('(' :: place) = false)
    (hplace : '(' :: place <:+ station.text)
    (hstand : station.ahead ≠ '(' :: place) :
    '(' :: place <:+ station.left := by
  by_contra hleft
  have hpasses : station.passes ('(' :: place) = true := by
    simp [passes, hplace, hstand, hleft]
  simp only [covers, hpasses, Bool.true_and, Bool.or_eq_false_iff,
    Bool.and_eq_false_iff, decide_eq_false_iff_not] at hopen
  obtain ⟨⟨hcomment, hclass⟩, hescape⟩ := hopen
  refine hleft (suffix_left_of_clears ?_ ?_ hplace hstand)
  · exact fun hverbose => hcomment.resolve_left (by simp [hverbose])
  · intro c rest after hahead hnext
    rw [hahead] at hclass hescape
    obtain ⟨_, _, lexeme, hcons, hlexeme, -⟩ := exists_lexeme hnext
    rw [hahead] at hcons
    cases hcons
    exact next_clears hlexeme (by simpa using hclass) (by simpa using hescape)

end Station

theorem ParseState.Reads.exists_stand (h : Reads state text result)
    (hplace : '(' :: place <:+ text)
    (hopen : ∀ station, Station.Reaches ⟨state, text⟩ station →
      station.covers ('(' :: place) = false) :
    ∃ station, Station.Reaches ⟨state, text⟩ station ∧
      station.ahead = '(' :: place ∧
      Reads station.state station.text result := by
  induction h with
  | @done state text hskip =>
      have hnone : Station.next? ⟨state, text⟩ = none := by
        simp [Station.next?, Station.ahead, hskip]
      have hleft := Station.suffix_left (hopen _ .refl) hplace
        (by simp [Station.ahead, hskip])
      simp [Station.left, Station.ahead, hnone, hskip] at hleft
  | @next state after result text rest left c lexeme hskip
      hnext hstep hrest ih =>
      have hfollows := Station.next?_of_skip hskip hnext hstep
      by_cases hstand : c :: rest = '(' :: place
      · exact ⟨⟨state, text⟩, .refl, hskip.trans hstand,
          .next hskip hnext hstep hrest⟩
      have hleft := Station.suffix_left (hopen _ .refl) hplace
        (by simpa [Station.ahead, hskip] using hstand)
      rw [Station.left_of_next? hfollows] at hleft
      obtain ⟨station, hreaches, hstation⟩ :=
        ih hleft fun station hstation => hopen station (.head hfollows hstation)
      exact ⟨station, .head hfollows hreaches, hstation⟩

end Signpost.Regex
