import Signpost.Proofs.Pattern.Nodes
import Signpost.Proofs.Unicode.Numerals

/-!
# Names of groups

The name of a token may begin with a digit, that of a group may not.  With
different names this is all that an expression can fail at while it is read:
the expression of a shape is refused for a name, for its depth or for its size.
-/

namespace Signpost

open Regex

/-- Whether the name of a token is none that a group can have. -/
def beginsWithDigit (name : List Char) : Bool := name.head?.any Char.isDigit

theorem toNat_of_isAlpha {c : Char} (h : c.isAlpha) :
    64 < c.toNat ∧ c.toNat < 128 := by
  have halpha : c.isAlpha = (c.isUpper || c.isLower) := rfl
  have hupper : c.isUpper = decide (c.val ≥ 'A'.val ∧ c.val ≤ 'Z'.val) := rfl
  have hlower :
      c.isLower = (decide (c.val ≥ 'a'.val) && decide (c.val ≤ 'z'.val)) := rfl
  have hval : c.toNat = c.val.toNat := rfl
  grind [UInt32.le_iff_toNat_le]

theorem toNat_of_isDigit {c : Char} (h : c.isDigit) : c.toNat < 64 := by
  have hdigit :
      c.isDigit = (decide (c.val ≥ '0'.val) && decide (c.val ≤ '9'.val)) := rfl
  have hval : c.toNat = c.val.toNat := rfl
  grind [UInt32.le_iff_toNat_le]

theorem isNameChar_cases {c : Char} (h : isNameChar c) :
    c.isAlpha ∨ c.isDigit ∨ c = '_' := by
  simpa [isNameChar, Char.isAlphanum, or_assoc] using h

theorem toNat_lt_of_isNameChar {c : Char} (h : isNameChar c) :
    c.toNat < 128 := by
  rcases isNameChar_cases h with halpha | hdigit | rfl
  · exact (toNat_of_isAlpha halpha).2
  · exact (toNat_of_isDigit hdigit).trans (by decide)
  · decide

private theorem isGroupNameStart_eq {c : Char} (h : isNameChar c) :
    isGroupNameStart c = !c.isDigit := by
  rw [isGroupNameStart, Unicode.isAlphabetic, if_pos (toNat_lt_of_isNameChar h)]
  rcases isNameChar_cases h with halpha | hdigit | rfl
  · have hdigit : c.isDigit = false := Bool.eq_false_iff.mpr fun hdigit =>
      absurd (toNat_of_isDigit hdigit) (toNat_of_isAlpha halpha).1.not_gt
    simp [halpha, hdigit]
  · have halpha : c.isAlpha = false := Bool.eq_false_iff.mpr fun halpha =>
      absurd (toNat_of_isDigit hdigit) (toNat_of_isAlpha halpha).1.not_gt
    have hlow : c ≠ '_' := by
      rintro rfl
      cases hdigit
    simp [halpha, hdigit, hlow]
  · rfl

private theorem isGroupNameChar_of_isNameChar {c : Char} (h : isNameChar c) :
    isGroupNameChar c := by
  simp only [isGroupNameChar, Unicode.isAlphanumeric_ascii
    (toNat_lt_of_isNameChar h)]
  grind [isNameChar]

namespace Regex

variable {name text : List Char}

private theorem groupNameTail_name (h : ∀ c ∈ name, isNameChar c) :
    groupNameTail (name ++ '>' :: text) = .ok (name, text) := by
  induction name with
  | nil => rfl
  | cons c name ih =>
      obtain ⟨hc, hname⟩ := List.forall_mem_cons.mp h
      have hclose : c ≠ '>' := by
        rintro rfl
        cases hc
      rw [List.cons_append, groupNameTail, if_neg hclose,
        if_pos (isGroupNameChar_of_isNameChar hc), ih hname]
      rfl

private theorem groupName_name (hstarts : startsName name)
    (h : ∀ c ∈ name, isNameChar c) :
    groupName (name ++ '>' :: text) =
      if beginsWithDigit name then .error .groupNameInvalid
      else .ok (name, text) := by
  cases name with
  | nil => cases hstarts
  | cons c name =>
      obtain ⟨hc, hname⟩ := List.forall_mem_cons.mp h
      have hclose : c ≠ '>' := by
        rintro rfl
        cases hc
      rw [List.cons_append, groupName, if_neg hclose, groupNameTail_name hname,
        isGroupNameStart_eq hc]
      cases hdigit : c.isDigit with
      | true => simp [beginsWithDigit, hdigit]
      | false =>
          simp [beginsWithDigit, hdigit, bind, Except.bind, pure, Except.pure]

private theorem next_named {hasOperand : Bool} (hstarts : startsName name)
    (h : ∀ c ∈ name, isNameChar c) :
    Lexeme.next false hasOperand (namedHead name text) =
      if beginsWithDigit name then .error .groupNameInvalid
      else .ok (.openCapture (some name), text) := by
  have hhead : Lexeme.next false hasOperand (namedHead name text) =
      (groupName (name ++ '>' :: text) >>= fun found =>
        .ok (.openCapture (some found.1), found.2)) := rfl
  rw [hhead, groupName_name hstarts h]
  split <;> rfl

private theorem ParseState.readAll_named {state : ParseState}
    (hverbose : state.verbose = false)
    (hstarts : startsName name) (h : ∀ c ∈ name, isNameChar c)
    (hfresh : name ∉ state.names) :
    state.readAll (namedHead name text) =
      if beginsWithDigit name then .error .groupNameInvalid
      else (state.opened (some name)).readAll text := by
  have hread : state.readAll (namedHead name text) = _ :=
    readAll_cons hverbose '(' _
  have hnext := @next_named name text state.frame.hasOperand hstarts h
  rw [namedHead] at hnext
  rw [hread, hnext]
  split
  · rfl
  · have hstep : state.step (.openCapture (some name)) =
        .ok (state.opened (some name)) := by
      simp [step, openCapture, hfresh, opened]
    change (state.step (.openCapture (some name)) >>= _) = _
    rw [hstep]
    rfl

end Regex

namespace Shape

open Template ParseState

variable {insensitive : Bool}

private theorem readAll_expression (shape : Shape insensitive)
    (h : shape.Formed) : ∀ {state text},
    state.verbose = false → text.head? ≠ some '?' →
    (shape.enter state).names.Nodup →
    state.readAll (shape.expression ++ text) =
      if shape.names.any beginsWithDigit then .error .groupNameInvalid
      else (shape.enter state).readAll text := by
  induction shape with
  | done => exact fun _ _ _ => rfl
  | plain c next ih =>
      intro state text hverbose hhead hnodup
      have hsign : c.val ∉ signs := fun hmem => c.property (signs_special hmem)
      rw [enter_plain] at hnodup ⊢
      rw [expression, List.cons_append,
        readAll_literal hverbose _ (next_literal hsign _)]
      exact ih h hverbose hhead hnodup
  | token name constraint next ih =>
      intro state text hverbose hhead hnodup
      rw [enter_token] at hnodup ⊢
      -- names are never dropped, so one that is distinct in the end is new here
      have hfresh : name ∉ state.names := by
        have hentered := (List.nodup_append.mp hnodup).2.1
        exact (List.nodup_cons.mp hentered).1
      obtain ⟨hopen, hclose⟩ := fillText_enclosed h.head
      have hclosing : (state.opened (some name)).readAll
          (fillText constraint ++ ')' :: (next.expression ++ text)) =
            ((token name constraint done).enter state).readAll
              (next.expression ++ text) :=
        @readAll_closing _ _ (parse_fillText constraint) hopen hclose
          (state.opened (some name))
          (.capture (state.captures + 1) (some name)) state.frame
            state.groups hverbose rfl
          (by rw [← hverbose]; rfl) _
      have hopening :
          state.readAll ((token name constraint next).expression ++ text) =
          if beginsWithDigit name then .error .groupNameInvalid
          else (state.opened (some name)).readAll
            (fillText constraint ++ ')' :: (next.expression ++ text)) := by
        rw [expression, List.append_assoc, tokenExpression_append]
        exact readAll_named hverbose h.head.starts h.head.name hfresh
      have hnames : (token name constraint next).names = name :: next.names :=
        rfl
      rw [hopening, hnames, List.any_cons]
      cases beginsWithDigit name with
      | true => rfl
      | false => exact hclosing.trans (ih h.tail hverbose hhead hnodup)
  | wildcard next ih =>
      intro state text hverbose hhead hnodup
      rw [enter_wildcard] at hnodup ⊢
      rw [expression, List.append_assoc, readAll_wildcard hverbose]
      exact ih h hverbose hhead hnodup
  | optional inner next ihinner ihnext =>
      intro state text hverbose hhead hnodup
      rw [enter_optional] at hnodup ⊢
      simp only [expression, List.cons_append, List.append_assoc]
      rw [readAll_open hverbose (head?_expression inner (by simp))]
      have hopened : (state.opened none).verbose = false := hverbose
      have hentered : (inner.enter (state.opened none)).names.Nodup := by
        have hsame := (List.nodup_append.mp hnodup).2.1
        simpa [enter, opened, names, tokens] using hsame
      have hnames : (optional inner next).names = inner.names ++ next.names :=
        List.map_append
      rw [ihinner h.inside hopened (by simp) hentered, hnames, List.any_append]
      cases inner.names.any beginsWithDigit with
      | true => rfl
      | false =>
          rw [if_neg Bool.false_ne_true,
            readAll_closeOptional inner hverbose (head?_expression next hhead)]
          exact ihnext h.after hverbose hhead hnodup

variable {shape stem : Shape insensitive}

private theorem parse_stem (h : stem.Formed) (hnodup : stem.names.Nodup) :
    parse ('^' :: (stem.expression ++ ending)) =
      if stem.names.any beginsWithDigit then .error .groupNameInvalid
      else if (Ast.ofItems stem.items.reverse).depth ≤ nestLimit then
        .ok (Ast.ofItems stem.items.reverse)
      else .error (.nestLimitExceeded nestLimit) := by
  let anchor : ParseState := ParseState.push {} (.assertion .startLine)
  have hstart : ParseState.readAll {} ('^' :: (stem.expression ++ ending)) =
      anchor.readAll (stem.expression ++ ending) := readAll_step rfl rfl rfl
  have hshape : anchor.readAll (stem.expression ++ ending) = _ :=
    readAll_expression stem h rfl (by simp [ending])
      (by simpa [enter, anchor, ParseState.push] using hnodup)
  have hread :
      ParseState.run (('^' :: (stem.expression ++ ending)).length + 1) {}
      ('^' :: (stem.expression ++ ending)) = _ := hstart.trans hshape
  rw [parse, hread]
  cases stem.names.any beginsWithDigit with
  | true => rfl
  | false =>
      have hfinished (state : ParseState) (hgroups : state.groups = [])
          (hclose : state.frame.close = Ast.ofItems stem.items.reverse) :
          (Except.ok state >>= fun state => state.finish >>= fun ast =>
            if ast.depth ≤ nestLimit then pure ast
            else .error (.nestLimitExceeded nestLimit)) =
          if (Ast.ofItems stem.items.reverse).depth ≤ nestLimit then
            .ok (Ast.ofItems stem.items.reverse)
          else .error (.nestLimitExceeded nestLimit) := by
        change (state.finish >>= _) = _
        rw [finish, hgroups, hclose]
        rfl
      rw [if_neg Bool.false_ne_true, if_neg Bool.false_ne_true,
        readAll_ending rfl]
      apply hfinished _ rfl
      simp [Frame.close, Ast.ofBranches, enter, anchor,
        ParseState.push, Frame.push, items]

theorem compile_stem (hstem : stem.Stem shape)
    (htokens : (ofText shape.text).tokens = shape.tokens)
    (hnodup : shape.names.Nodup) :
    Regex.compile (anchored shape.text) insensitive =
      if shape.names.any beginsWithDigit then .error .groupNameInvalid
      else if (Ast.ofItems stem.items.reverse).depth ≤ nestLimit then
        if stem.node.size ≤ sizeLimit then
          .ok ⟨anchored shape.text, stem.node, stem.namedGroups 0⟩
        else .error (.sizeLimitExceeded sizeLimit)
      else .error (.nestLimitExceeded nestLimit) := by
  have hformed : stem.Formed := by
    intro token hmem
    rw [← hstem.tokens_eq, ← htokens] at hmem
    exact wellFormed_of_mem_tokens hmem
  have hnames :
      stem.names = shape.names := by rw [names, names, hstem.tokens_eq]
  have helaborate : (Ast.ofItems stem.items.reverse).elaborate
      { caseInsensitive := insensitive } =
        .ok (stem.node, settings insensitive) :=
    becomes_node hformed
  rw [Regex.compile, hstem.anchored_eq htokens,
    parse_stem hformed (hnames ▸ hnodup), hnames]
  split
  · rfl
  split
  · change ((Ast.ofItems stem.items.reverse).elaborate
      { caseInsensitive := insensitive } >>= _) = _
    rw [helaborate, ← groupNames_items hformed]
    rfl
  · rfl

end Shape

end Signpost
