import Mathlib.Data.List.Basic
import Signpost.Regex.Parser
import Signpost.Proofs.Data.List

/-!
# Reading to the end

Every reader of the notation gives back an end of the text it was given, and a
lexeme takes a character at least.  The parser therefore never runs out of
steps: `ParseState.readAll` reads one lexeme after the other until no text is
left.
-/

namespace Signpost.Regex

theorem bind_eq_ok_iff {ε α β : Type} {first : Except ε α}
    {next : α → Except ε β} {result : β} :
    first >>= next = .ok result ↔
      ∃ value, first = .ok value ∧ next value = .ok result := by
  cases first with
  | error error => simp [bind, Except.bind]
  | ok value => simp [bind, Except.bind]

/-! ## What readers leave -/

/-- What is left when the reading succeeds is an end of the text. -/
def Leaves {α : Type} (text : List Char)
    (result : Except Error (α × List Char)) : Prop :=
  ∀ value rest, result = .ok (value, rest) → rest <:+ text

section Leaves

variable {α β : Type} {text middle : List Char}

@[simp] theorem leaves_error (error : Error) :
    Leaves (α := α) text (.error error) := by
  intro value rest h
  cases h

@[simp] theorem leaves_ok {value : α} {rest : List Char} :
    Leaves text (.ok (value, rest)) ↔ rest <:+ text := by
  constructor
  · exact fun h => h value rest rfl
  · rintro h _ _ ⟨⟩
    exact h

@[simp] theorem leaves_pure {value : α} {rest : List Char} :
    Leaves text (pure (value, rest)) ↔ rest <:+ text :=
  leaves_ok

theorem Leaves.mono {result : Except Error (α × List Char)}
    (h : Leaves middle result) (hend : middle <:+ text) : Leaves text result :=
  fun value rest heq => (h value rest heq).trans hend

theorem Leaves.bind {first : Except Error (α × List Char)}
    {next : α × List Char → Except Error (β × List Char)}
    (h : Leaves middle first)
    (hnext : ∀ value rest, rest <:+ middle →
      Leaves text (next (value, rest))) : Leaves text (first >>= next) := by
  cases first with
  | error error => exact leaves_error error
  | ok result => exact hnext result.1 result.2 (h _ _ rfl)

theorem leaves_bind {first : Except Error α}
    {next : α → Except Error (β × List Char)}
    (hnext : ∀ value, Leaves text (next value)) :
    Leaves text (first >>= next) := by
  cases first with
  | error error => exact leaves_error error
  | ok value => exact hnext value

end Leaves

private theorem dropTrivia_suffix (text : List Char) : ∀ inComment,
    dropTrivia inComment text <:+ text := by
  induction text with
  | nil => simp [dropTrivia]
  | cons c rest ih =>
      intro inComment
      have hcons := List.suffix_cons c rest
      unfold dropTrivia
      split
      · exact (ih _).trans hcons
      split
      · exact (ih _).trans hcons
      split
      · exact (ih _).trans hcons
      · exact List.suffix_refl _

theorem skip_suffix (verbose : Bool) (text : List Char) :
    skip verbose text <:+ text := by
  cases verbose with
  | false => exact List.suffix_refl text
  | true => exact dropTrivia_suffix text false

private theorem gatherWith_suffix (verbose : Bool)
    (test : Char → Bool) (fuel : Nat) :
    ∀ text, (gatherWith verbose test fuel text).2 <:+ text := by
  induction fuel with
  | zero =>
      intro text
      exact List.suffix_refl text
  | succ fuel ih =>
      intro text
      cases text with
      | nil => exact List.suffix_refl []
      | cons c rest =>
          rw [gatherWith]
          split
          · exact ((ih _).trans (skip_suffix verbose rest)).trans
              (List.suffix_cons c rest)
          · exact List.suffix_refl _

theorem gather_suffix (verbose : Bool) (test : Char → Bool)
    (text : List Char) : (gather verbose test text).2 <:+ text :=
  gatherWith_suffix verbose test _ text

theorem decimal_suffix (verbose : Bool) (text : List Char) :
    (decimal verbose text).2 <:+ text := by
  have hrest : (gather verbose Unicode.isWhiteSpace
      (gather verbose Char.isDigit
        (text.dropWhile Unicode.isWhiteSpace)).2).2 <:+ text :=
    ((gather_suffix ..).trans (gather_suffix ..)).trans
      (List.dropWhile_suffix _)
  unfold decimal
  dsimp only
  split
  · exact hrest
  split
  · exact hrest
  · exact hrest

variable {verbose : Bool}

/-! ## Escapes -/

theorem hexDigits_leaves (count : Nat) : ∀ text,
    Leaves text (hexDigits verbose count text) := by
  induction count with
  | zero => simp [hexDigits]
  | succ count ih =>
      intro text
      cases text with
      | nil => exact leaves_error _
      | cons c text =>
          rw [hexDigits]
          split
          · refine (ih _).bind fun value rest h => leaves_pure.mpr ?_
            exact (h.trans (skip_suffix ..)).trans (List.suffix_cons c text)
          · exact leaves_error _

theorem hexEscape_leaves (count : Nat) (text : List Char) :
    Leaves text (hexEscape verbose count text) := by
  have hskip := skip_suffix verbose text
  unfold hexEscape
  split
  · exact leaves_error _
  · next rest heq =>
      have hgather := gather_suffix verbose isHexDigit (skip verbose rest)
      have hskip' := skip_suffix verbose rest
      rw [heq] at hskip
      split
      · exact leaves_error _
      · next hdigits =>
          rw [hdigits] at hgather
          split
          · exact leaves_error _
          · refine leaves_bind fun c => leaves_pure.mpr ?_
            exact (suffix_of_cons_suffix hgather).trans
              (hskip'.trans (suffix_of_cons_suffix hskip))
      · exact leaves_error _
  · refine (hexDigits_leaves count _).bind fun digits rest h => ?_
    exact leaves_bind fun c => leaves_pure.mpr (h.trans hskip)

private theorem propertyEscape_leaves (negated : Bool) (text : List Char) :
    Leaves text (propertyEscape verbose negated text) := by
  have hskip := skip_suffix verbose text
  unfold propertyEscape
  split
  · exact leaves_error _
  · next rest heq =>
      have hgather := gather_suffix verbose (· != '}') (skip verbose rest)
      have hskip' := skip_suffix verbose rest
      rw [heq] at hskip
      split
      · next hname =>
          rw [hname] at hgather
          exact leaves_ok.mpr ((suffix_of_cons_suffix hgather).trans
            (hskip'.trans (suffix_of_cons_suffix hskip)))
      · exact leaves_error _
  · exact leaves_error _
  · next heq =>
      rw [heq] at hskip
      exact leaves_ok.mpr (suffix_of_cons_suffix hskip)

private theorem wordBoundary_leaves (text : List Char) :
    Leaves text (wordBoundary verbose text) := by
  unfold wordBoundary
  split
  · next rest =>
      have hskip := (skip_suffix verbose rest).trans (List.suffix_cons '{' rest)
      split
      · exact leaves_error _
      · next c inside heq =>
          rw [heq] at hskip
          split
          · have hgather :=
              gather_suffix verbose isBoundaryNameChar (c :: inside)
            split
            · next hname =>
                rw [hname] at hgather
                have hrest := (suffix_of_cons_suffix hgather).trans hskip
                split
                · exact leaves_ok.mpr hrest
                · exact leaves_ok.mpr hrest
                · exact leaves_ok.mpr hrest
                · exact leaves_ok.mpr hrest
                · exact leaves_error _
            · exact leaves_error _
          · exact leaves_ok.mpr (List.suffix_refl _)
  · exact leaves_ok.mpr (List.suffix_refl _)

theorem escape_leaves (text : List Char) :
    Leaves text (escape verbose text) := by
  unfold escape
  split
  · exact leaves_error _
  next c rest =>
  have hcons := List.suffix_cons c rest
  split
  · exact leaves_error _
  split
  · exact leaves_ok.mpr hcons
  split
  case h_1 | h_2 | h_3 => exact (hexEscape_leaves _ _).mono hcons
  case h_4 | h_5 => exact (propertyEscape_leaves _ _).mono hcons
  case h_20 =>
    refine (wordBoundary_leaves _).bind fun kind rest h => leaves_pure.mpr ?_
    exact h.trans hcons
  case h_24 => exact leaves_error _
  all_goals exact leaves_ok.mpr hcons

/-! ## Bracketed classes -/

theorem classPrimitive_leaves (c : Char) (text : List Char) :
    Leaves text (classPrimitive verbose (c :: text)) := by
  unfold classPrimitive
  split
  · exact leaves_error _
  · next heq =>
      cases heq
      exact escape_leaves text
  · next heq =>
      cases heq
      exact leaves_ok.mpr (List.suffix_refl text)

theorem classItem_leaves (c : Char) (text : List Char) :
    Leaves text (classItem verbose (c :: text)) := by
  unfold classItem
  refine (classPrimitive_leaves c text).bind fun first rest hfirst => ?_
  have hskip := (skip_suffix verbose rest).trans hfirst
  dsimp only
  split
  · exact leaves_error _
  · next rest' heq =>
      rw [heq] at hskip
      split
      · exact leaves_bind fun item => leaves_pure.mpr hskip
      · have hskip' := (skip_suffix verbose rest').trans
          (suffix_of_cons_suffix hskip)
        cases hrest : skip verbose rest' with
        | nil => exact leaves_error _
        | cons d rest'' =>
            rw [hrest] at hskip'
            refine (classPrimitive_leaves d rest'').bind fun last after h => ?_
            refine leaves_bind fun first => leaves_bind fun last => ?_
            split
            · exact leaves_pure.mpr (h.trans (suffix_of_cons_suffix hskip'))
            · exact leaves_error _
  · exact leaves_bind fun item => leaves_pure.mpr hskip

theorem posixClass_suffix {text rest : List Char} {item : ClassExpr}
    (h : posixClass text = some (item, rest)) : rest <:+ text := by
  have hnamed : ∀ {negated text},
      posixClass.named negated text = some (item, rest) → rest <:+ text := by
    intro negated text h
    have hdrop := List.dropWhile_suffix (l := text) (· != ':')
    unfold posixClass.named at h
    split at h
    · next rest' heq =>
        obtain ⟨kind, -, hkind⟩ := Option.map_eq_some_iff.mp h
        cases hkind
        rw [heq] at hdrop
        exact suffix_of_cons_suffix (suffix_of_cons_suffix hdrop)
    · cases h
  unfold posixClass at h
  split at h
  · exact (hnamed h).trans
      ((List.suffix_cons _ _).trans (List.suffix_cons _ _))
  · exact (hnamed h).trans (List.suffix_cons _ _)
  · cases h

private theorem leadingHyphens_suffix (fuel : Nat) : ∀ text,
    (leadingHyphens verbose fuel text).2 <:+ text := by
  induction fuel with
  | zero =>
      intro text
      simp [leadingHyphens]
  | succ fuel ih =>
      intro text
      unfold leadingHyphens
      split
      · next fuel rest hfuel =>
          cases hfuel
          exact ((ih _).trans (skip_suffix verbose rest)).trans
            (List.suffix_cons _ _)
      · exact List.suffix_refl _

theorem openItems_leaves (negated : Bool) (text : List Char) :
    Leaves text (openItems verbose negated text) := by
  have hhyphens : (leadingHyphens verbose text.length text).2 <:+ text :=
    leadingHyphens_suffix _ text
  unfold openItems
  dsimp only
  split
  · exact leaves_error _
  · next rest _ heq =>
      rw [heq] at hhyphens
      have hskip := (skip_suffix verbose rest).trans
        (suffix_of_cons_suffix hhyphens)
      split
      · exact leaves_error _
      · exact leaves_ok.mpr hskip
  · exact leaves_ok.mpr hhyphens

theorem openClass_leaves (text : List Char) :
    Leaves text (openClass verbose text) := by
  have hskip := skip_suffix verbose text
  unfold openClass
  split
  · next rest heq =>
      rw [heq] at hskip
      exact (openItems_leaves true _).mono
        ((skip_suffix verbose rest).trans (suffix_of_cons_suffix hskip))
  · exact (openItems_leaves false _).mono hskip

theorem classBody_leaves (fuel : Nat) : ∀ current outer text,
    Leaves text (classBody verbose fuel current outer text) := by
  induction fuel with
  | zero =>
      intro current outer text
      exact leaves_error _
  | succ fuel ih =>
      intro current outer text
      have hskip := skip_suffix verbose text
      unfold classBody
      split
      · exact leaves_error _
      · next rest heq =>
          rw [heq] at hskip
          have hrest := suffix_of_cons_suffix hskip
          split
          · next item rest' hposix =>
              exact (ih _ _ _).mono ((posixClass_suffix hposix).trans hrest)
          · refine (openClass_leaves rest).bind fun inner rest' h => ?_
            exact (ih _ _ _).mono (h.trans hrest)
      · next rest heq =>
          rw [heq] at hskip
          have hrest := suffix_of_cons_suffix hskip
          split
          · exact leaves_ok.mpr hrest
          · exact (ih _ _ _).mono hrest
      · next rest heq =>
          rw [heq] at hskip
          exact (ih _ _ _).mono
            (suffix_of_cons_suffix (suffix_of_cons_suffix hskip))
      · next rest heq =>
          rw [heq] at hskip
          exact (ih _ _ _).mono
            (suffix_of_cons_suffix (suffix_of_cons_suffix hskip))
      · next rest heq =>
          rw [heq] at hskip
          exact (ih _ _ _).mono
            (suffix_of_cons_suffix (suffix_of_cons_suffix hskip))
      · next heq _ _ _ _ _ =>
          cases hrest : skip verbose text with
          | nil => exact absurd hrest heq
          | cons c rest =>
              rw [hrest] at hskip
              refine (classItem_leaves c rest).bind fun item rest' h => ?_
              exact (ih _ _ _).mono (h.trans (suffix_of_cons_suffix hskip))

theorem bracketedClass_leaves (text : List Char) :
    Leaves text (bracketedClass verbose text) := by
  refine (openClass_leaves text).bind fun current rest h => ?_
  exact (classBody_leaves _ _ _ _).mono h

/-! ## Quantifiers and heads of groups -/

theorem greed_suffix (text : List Char) : (greed text).2 <:+ text := by
  unfold greed
  split
  · exact List.suffix_cons _ _
  · exact List.suffix_refl _

private theorem countedBounds_leaves (text : List Char) :
    Leaves text (countedBounds verbose text) := by
  have hskip := skip_suffix verbose text
  have hdecimal := (decimal_suffix verbose (skip verbose text)).trans hskip
  unfold countedBounds
  split
  · exact leaves_error _
  · dsimp only
    split
    · exact leaves_error _
    · next rest heq =>
        rw [heq] at hdecimal
        have hskip' := (skip_suffix verbose rest).trans
          (suffix_of_cons_suffix hdecimal)
        have hdecimal' :=
          (decimal_suffix verbose (skip verbose rest)).trans hskip'
        split
        · exact leaves_error _
        · next heq' =>
            rw [heq'] at hskip'
            exact leaves_bind fun least => leaves_pure.mpr hskip'
        · refine leaves_bind fun least => leaves_bind fun most => ?_
          exact leaves_pure.mpr hdecimal'
    · exact leaves_bind fun least => leaves_pure.mpr hdecimal

theorem counted_leaves (text : List Char) :
    Leaves text (counted verbose text) := by
  refine (countedBounds_leaves text).bind fun bounds rest h => ?_
  dsimp only
  split
  · next rest =>
      have hgreed := ((greed_suffix (skip verbose rest)).trans
        (skip_suffix verbose rest)).trans (suffix_of_cons_suffix h)
      split
      · exact leaves_pure.mpr hgreed
      · exact leaves_error _
  · exact leaves_error _

private theorem groupNameTail_leaves (text : List Char) :
    Leaves text (groupNameTail text) := by
  induction text with
  | nil => exact leaves_error _
  | cons c text ih =>
      have hcons := List.suffix_cons c text
      unfold groupNameTail
      split
      · exact leaves_ok.mpr hcons
      split
      · exact ih.bind fun name rest h => leaves_pure.mpr (h.trans hcons)
      · exact leaves_error _

private theorem groupName_leaves (text : List Char) :
    Leaves text (groupName text) := by
  unfold groupName
  split
  · exact leaves_error _
  split
  · exact leaves_error _
  split
  · exact (groupNameTail_leaves _).bind fun name rest h =>
      leaves_pure.mpr (h.trans (List.suffix_cons _ _))
  · exact leaves_error _

private theorem flagChanges_leaves (text : List Char) :
    ∀ enabled afterMinus seen,
    Leaves text (flagChanges enabled afterMinus seen text) := by
  induction text with
  | nil => exact fun _ _ _ => leaves_error _
  | cons c text ih =>
      intro enabled afterMinus seen
      have hcons := List.suffix_cons c text
      unfold flagChanges
      split
      · split
        · exact leaves_error _
        · exact leaves_ok.mpr (List.suffix_refl _)
      split
      · split
        · exact (ih _ _ _).mono hcons
        · exact leaves_error _
      split
      · exact leaves_error _
      split
      · exact leaves_error _
      · exact (ih _ _ _).mono hcons

private theorem groupHead_leaves (text : List Char) :
    Leaves text (groupHead verbose text) := by
  have hskip := skip_suffix verbose text
  have hname : ∀ rest, rest <:+ text → Leaves text ((groupName rest).bind
      fun named => .ok (Lexeme.openCapture (some named.1), named.2)) := by
    intro rest h
    refine (groupName_leaves rest).bind fun name rest' h' => ?_
    exact leaves_pure.mpr (h'.trans h)
  unfold groupHead
  split
  · exact leaves_error _
  · exact leaves_error _
  · exact leaves_error _
  · exact leaves_error _
  · next rest heq =>
      rw [heq] at hskip
      exact hname rest (suffix_of_cons_suffix
        (suffix_of_cons_suffix (suffix_of_cons_suffix hskip)))
  · next rest _ _ heq =>
      rw [heq] at hskip
      exact hname rest (suffix_of_cons_suffix (suffix_of_cons_suffix hskip))
  · exact leaves_error _
  · next rest _ _ _ _ _ _ _ heq =>
      rw [heq] at hskip
      refine (flagChanges_leaves rest true false []).bind
        fun changes rest' h => ?_
      have hrest' := h.trans (suffix_of_cons_suffix hskip)
      split
      · exact leaves_error _
      · next heq' =>
          cases heq'
          exact leaves_pure.mpr (suffix_of_cons_suffix hrest')
      · next heq' =>
          cases heq'
          exact leaves_pure.mpr ((List.tail_suffix _).trans hrest')
  · exact leaves_ok.mpr hskip

theorem next_leaves (hasOperand : Bool) (c : Char) (text : List Char) :
    Leaves text (Lexeme.next verbose hasOperand (c :: text)) := by
  have hall : text <:+ text := List.suffix_refl text
  have huncounted : ∀ bounds,
      Leaves text (Lexeme.next.uncounted hasOperand bounds text) := by
    intro bounds
    unfold Lexeme.next.uncounted
    split
    · exact leaves_ok.mpr (greed_suffix text)
    · exact leaves_error _
  -- one case for each sign; other characters stand for themselves
  unfold Lexeme.next
  split
  · exact leaves_error _
  · next heq =>
      cases heq
      exact groupHead_leaves text
  · next heq =>
      cases heq
      exact leaves_ok.mpr hall
  · next heq =>
      cases heq
      exact leaves_ok.mpr hall
  · next heq =>
      cases heq
      exact (bracketedClass_leaves text).bind fun result rest h =>
        leaves_pure.mpr h
  · next heq =>
      cases heq
      exact huncounted _
  · next heq =>
      cases heq
      exact huncounted _
  · next heq =>
      cases heq
      exact huncounted _
  · next heq =>
      cases heq
      split
      · exact (counted_leaves text).bind fun result rest h => leaves_pure.mpr h
      · exact leaves_error _
  · next heq =>
      cases heq
      exact (escape_leaves text).bind fun item rest h => leaves_pure.mpr h
  all_goals
    next heq =>
      cases heq
      exact leaves_ok.mpr hall

/-! ## The parser -/

namespace ParseState

private theorem run_congr (fuel : Nat) : ∀ {fuel' state text},
    text.length < fuel →
    text.length < fuel' → run fuel state text = run fuel' state text := by
  induction fuel with
  | zero =>
      intro fuel' state text h
      exact absurd h (Nat.not_lt_zero _)
  | succ fuel ih =>
      intro fuel' state text h h'
      have hskip := (skip_suffix state.verbose text).length_le
      cases fuel' with
      | zero => exact absurd h' (Nat.not_lt_zero _)
      | succ fuel' =>
          rw [run, run]
          cases heq : skip state.verbose text with
          | nil => rfl
          | cons c rest =>
              simp only [heq, List.length_cons] at hskip
              have hnext : Leaves rest (Lexeme.next state.verbose
                  state.frame.hasOperand (c :: rest)) := next_leaves _ c rest
              dsimp only
              cases hlexeme : Lexeme.next state.verbose
                  state.frame.hasOperand (c :: rest) with
              | error error => rfl
              | ok result =>
                  have hlength := (hnext _ _ hlexeme).length_le
                  change (state.step result.1 >>= fun state =>
                      run fuel state result.2) =
                    (state.step result.1 >>= fun state =>
                      run fuel' state result.2)
                  congr 1
                  funext after
                  exact ih (by omega) (by omega)

def readAll (state : ParseState) (text : List Char) :
    Except Error ParseState :=
  run (text.length + 1) state text

private theorem run_eq_readAll {fuel : Nat} {state : ParseState}
    {text : List Char}
    (h : text.length < fuel) : run fuel state text = state.readAll text :=
  run_congr fuel h (Nat.lt_succ_self _)

theorem readAll_of_skip_nil {state : ParseState} {text : List Char}
    (h : skip state.verbose text = []) : state.readAll text = .ok state := by
  rw [readAll, run, h]

theorem readAll_of_next {state : ParseState} {c : Char}
    {text rest after : List Char} {lexeme : Lexeme}
    (hskip : skip state.verbose text = c :: rest)
    (hnext : Lexeme.next state.verbose state.frame.hasOperand (c :: rest) =
      .ok (lexeme, after)) :
    state.readAll text =
      (state.step lexeme >>= fun state => state.readAll after) := by
  have hlength := (skip_suffix state.verbose text).length_le
  have hafter := (next_leaves _ _ _ _ _ hnext).length_le
  simp only [hskip, List.length_cons] at hlength
  rw [readAll, run, hskip]
  simp only [hnext]
  change (state.step lexeme >>= fun state => run text.length state after) = _
  congr 1
  funext state
  exact run_eq_readAll (by omega)

theorem readAll_of_skip_cons {state : ParseState} {c : Char}
    {text rest : List Char} (hskip : skip state.verbose text = c :: rest) :
    state.readAll text =
      (Lexeme.next state.verbose state.frame.hasOperand (c :: rest) >>=
        fun (lexeme, after) =>
          state.step lexeme >>= fun state => state.readAll after) := by
  cases hnext :
    Lexeme.next state.verbose state.frame.hasOperand (c :: rest) with
  | error error =>
      rw [readAll, run, hskip]
      simp only [hnext]
      rfl
  | ok read => exact readAll_of_next hskip hnext

/-! Without the flag `x` there is nothing to skip. -/

variable {state : ParseState} (hverbose : state.verbose = false)

include hverbose

theorem readAll_nil : state.readAll [] = .ok state :=
  readAll_of_skip_nil (by rw [hverbose]; rfl)

theorem readAll_cons (c : Char) (text : List Char) :
    state.readAll (c :: text) =
      (Lexeme.next false state.frame.hasOperand (c :: text) >>=
        fun (lexeme, after) =>
          state.step lexeme >>= fun state => state.readAll after) := by
  have hskip : skip state.verbose (c :: text) = c :: text := by
    rw [hverbose]
    rfl
  rw [readAll_of_skip_cons hskip, hverbose]

theorem readAll_literal {c : Char} (text : List Char)
    (hnext : Lexeme.next false state.frame.hasOperand (c :: text) =
      .ok (.primitive (.literal ⟨c, false⟩), text)) :
    state.readAll (c :: text) =
      (state.push (.literal ⟨c, false⟩)).readAll text := by
  rw [readAll_cons hverbose, hnext]
  rfl

end ParseState

end Signpost.Regex
