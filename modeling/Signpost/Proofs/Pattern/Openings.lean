import Signpost.Proofs.Pattern.Cutting
import Signpost.Proofs.Pattern.Parsing
import Signpost.Proofs.Regex.Stations

/-!
# Where tokens open groups

The expression of a pattern has a named group for each of its tokens, but the
reader of the expression may pass it: inside a bracketed class, in an escape or
in a comment.  For this the pattern needs a sign that opens one of these, since
the expression brings along only the class of a segment and the escape before
the query, neither of which has a parenthesis in it.
-/

namespace Signpost.Template

open Regex

variable {pattern : List Char} {index later : Nat} {token : Token}

/-- The expression of a pattern from the token with the number on. -/
def expressionFrom (pattern : List Char) (index : Nat) : List Char :=
  ((ofText pattern).parts.drop index).flatMap
      (fun part => tokenExpression part.1 ++ literalExpression part.2) ++
    (trailingSlash pattern ++ "(?:\\?.*)?$".toList)

/--
Whether the expression has the token inside a bracketed class, in an escape or
in a comment, where it opens no group.
-/
def coversToken (pattern : List Char) (index : Nat) : Bool :=
  isCovered (anchored pattern) (expressionFrom pattern index)

theorem expressionFrom_anchored (pattern : List Char) (index : Nat) :
    expressionFrom pattern index <:+ anchored pattern := by
  refine ⟨'^' :: (literalExpression (ofText pattern).lead ++
    ((ofText pattern).parts.take index).flatMap fun part =>
      tokenExpression part.1 ++ literalExpression part.2), ?_⟩
  conv_rhs => rw [anchored, synthesize, bodyExpression,
    ← List.take_append_drop index (ofText pattern).parts, List.flatMap_append]
  simp [expressionFrom]

theorem expressionFrom_suffix (h : index ≤ later) :
    expressionFrom pattern later <:+ expressionFrom pattern index := by
  obtain ⟨between, hdrop⟩ :=
    List.drop_suffix (later - index) ((ofText pattern).parts.drop index)
  rw [List.drop_drop, Nat.add_sub_cancel' h] at hdrop
  refine ⟨between.flatMap fun part => tokenExpression part.1 ++
    literalExpression part.2, ?_⟩
  rw [expressionFrom, expressionFrom, ← hdrop, List.flatMap_append,
    List.append_assoc]

theorem expressionFrom_token
    (h : (ofText pattern).tokens[index]? = some token) :
    ∃ behind, expressionFrom pattern index = namedHead token.name behind ∧
      expressionFrom pattern (index + 1) <:+ behind := by
  rw [tokens, List.getElem?_map] at h
  obtain ⟨part, hpart, rfl⟩ := Option.map_eq_some_iff.mp h
  obtain ⟨hindex, hget⟩ := List.getElem?_eq_some_iff.mp hpart
  have hfrom : expressionFrom pattern index = tokenExpression part.1 ++
      (literalExpression part.2 ++ expressionFrom pattern (index + 1)) := by
    rw [expressionFrom, List.drop_eq_getElem_cons hindex,
      hget, List.flatMap_cons]
    simp only [expressionFrom, List.append_assoc]
  rw [hfrom, Shape.tokenExpression_append]
  refine ⟨part.1.constraint.getD segmentExpression ++
    ')' :: (literalExpression part.2 ++ expressionFrom pattern (index + 1)),
    rfl, ?_⟩
  exact ((List.suffix_append _ _).trans (List.suffix_cons _ _)).trans
    (List.suffix_append _ _)

def coveringSigns : List Char := ['[', '\\', '#']

theorem forall_coveringSigns {motive : Char → Prop} (hclass : motive '[')
    (hescape : motive '\\') (hcomment : motive '#') :
      ∀ sign ∈ coveringSigns, motive sign := by
  simp only [coveringSigns, List.mem_cons, List.not_mem_nil, or_false]
  rintro sign (rfl | rfl | rfl)
  · exact hclass
  · exact hescape
  · exact hcomment

/--
There is no class but that of a segment, no escape but of a question mark, no
comment.
-/
def isPlain : List Char → Bool
  | [] => true
  | c :: rest =>
    c != '#' && (c != '[' || "^/?]".toList.isPrefixOf rest) &&
      (c != '\\' || ['?'].isPrefixOf rest) && isPlain rest

theorem isPlain_cons {c : Char} {rest : List Char} : isPlain (c :: rest) ↔
    c ≠ '#' ∧ (c = '[' → "^/?]".toList <+: rest) ∧ (c = '\\' → ['?'] <+: rest) ∧
      isPlain rest := by
  simp [isPlain, imp_iff_not_or, and_assoc]

theorem isPlain_append {first second : List Char} (h : isPlain first)
    (h' : isPlain second) :
    isPlain (first ++ second) := by
  induction first with
  | nil => exact h'
  | cons c first ih =>
      obtain ⟨hcomment, hclass, hescape, hfirst⟩ := isPlain_cons.mp h
      exact isPlain_cons.mpr ⟨hcomment,
        fun hc => (hclass hc).trans (List.prefix_append first second),
        fun hc => (hescape hc).trans (List.prefix_append first second),
        ih hfirst⟩

theorem isPlain_of_not_mem {text : List Char}
    (h : ∀ sign ∈ coveringSigns, sign ∉ text) :
    isPlain text := by
  induction text with
  | nil => rfl
  | cons c text ih =>
      have hc : ∀ sign ∈ coveringSigns, c ≠ sign := fun sign hsign heq =>
        h sign hsign (heq ▸ List.mem_cons_self)
      exact isPlain_cons.mpr
        ⟨hc '#' (by decide), fun heq => absurd heq (hc '[' (by decide)),
        fun heq => absurd heq (hc '\\' (by decide)),
        ih fun sign hsign hmem => h sign hsign (List.mem_cons_of_mem c hmem)⟩

theorem isPlain_suffix {text rest : List Char} (h : isPlain text)
    (hrest : rest <:+ text) :
    isPlain rest := by
  induction text with
  | nil => rwa [List.suffix_nil.mp hrest]
  | cons c text ih =>
      rcases List.suffix_cons_iff.mp hrest with rfl | hlater
      · exact h
      · exact ih (isPlain_cons.mp h).2.2.2 hlater

private theorem comment_not_mem {text : List Char} (h : isPlain text) :
    '#' ∉ text := by
  induction text with
  | nil => exact nofun
  | cons c text ih =>
      obtain ⟨hcomment, -, -, htext⟩ := isPlain_cons.mp h
      simpa [hcomment.symm] using ih htext

private theorem next_clears_of_isPlain {verbose hasOperand : Bool} {c : Char}
    {text rest : List Char} {lexeme : Lexeme} (hplain : isPlain (c :: text))
    (h : Lexeme.next verbose hasOperand (c :: text) = .ok (lexeme, rest)) :
    Clears verbose text rest := by
  obtain ⟨-, hclass, hescape, -⟩ := isPlain_cons.mp hplain
  by_cases hbracket : c = '['
  · obtain ⟨more, rfl⟩ := hclass hbracket
    have hread : ∃ found, Lexeme.next verbose hasOperand
        ('[' :: ("^/?]".toList ++ more)) =
        .ok (found, more) := by
      cases verbose <;> exact ⟨_, rfl⟩
    obtain ⟨found, hfound⟩ := hread
    rw [hbracket, hfound] at h
    cases h
    exact ⟨_, rfl, fun hmem => absurd hmem (by decide)⟩
  by_cases hbackslash : c = '\\'
  · obtain ⟨more, rfl⟩ := hescape hbackslash
    rw [hbackslash] at h
    cases h
    exact clears_cons (by decide) more
  · exact next_clears h hbracket hbackslash

private theorem covers_of_isPlain {station : Station} {place : List Char}
    (hplain : isPlain station.text) :
      station.covers ('(' :: place) = false := by
  rw [Bool.eq_false_iff]
  intro hcovers
  have hpasses := (Bool.and_eq_true_iff.mp hcovers).1
  simp only [Station.passes, decide_eq_true_eq] at hpasses
  obtain ⟨hplace, hstand, hleft⟩ := hpasses
  refine hleft (Station.suffix_left_of_clears ?_ ?_ hplace hstand)
  · exact fun _ hmem => comment_not_mem hplain (List.mem_of_mem_take hmem)
  · intro c rest after hahead hnext
    obtain ⟨_, _, lexeme, hcons, hlexeme, -⟩ := Station.exists_lexeme hnext
    rw [← hahead.symm.trans hcons] at hlexeme
    have hsuffix : c :: rest <:+ station.text :=
      hahead ▸ skip_suffix station.state.verbose station.text
    exact next_clears_of_isPlain (isPlain_suffix hplain hsuffix) hlexeme

theorem isCovered_of_isPlain {text place : List Char} (hplain : isPlain text) :
    isCovered text ('(' :: place) = false := by
  have hjourney : ∀ fuel station, isPlain station.text →
      (Station.journey fuel station).any (Station.covers ('(' :: place)) =
        false := by
    intro fuel
    induction fuel with
    | zero => exact fun _ _ => rfl
    | succ fuel ih =>
        intro station hstation
        rw [Station.journey, List.any_cons, covers_of_isPlain hstation,
          Bool.false_or]
        cases hnext : station.next? with
        | none => rfl
        | some after =>
            exact ih after
              (isPlain_suffix hstation (Station.suffix_of_next? hnext).1)
  exact hjourney _ _ hplain

theorem isPlain_flatMap {α : Type} {parts : List α} {write : α → List Char}
    (h : ∀ part ∈ parts, isPlain (write part)) :
      isPlain (parts.flatMap write) := by
  induction parts with
  | nil => rfl
  | cons part parts ih =>
      obtain ⟨hpart, hparts⟩ := List.forall_mem_cons.mp h
      exact isPlain_append hpart (ih hparts)

private theorem mem_expandWildcards {c : Char} {literal : List Char}
    (h : c ∈ expandWildcards literal) : c ∈ literal ∨
    c ∈ wildcardExpression := by
  induction literal using expandWildcards.induct with
  | case1 rest ih =>
      rw [expandWildcards] at h
      rcases List.mem_append.mp h with hmem | hmem
      · exact .inr hmem
      · exact (ih hmem).imp_left fun hrest => by simp [hrest]
  | case2 d rest hplain ih =>
      rw [expandWildcards.eq_2 _ _ hplain] at h
      rcases List.mem_cons.mp h with rfl | hmem
      · exact .inl List.mem_cons_self
      · exact (ih hmem).imp_left (List.mem_cons_of_mem d)
  | case3 => exact .inl h

private theorem mem_optionalGroups {c : Char} {literal : List Char}
    (h : c ∈ optionalGroups literal) : c ∈ literal ∨ c = '?' := by
  obtain ⟨d, hd, hc⟩ := List.mem_flatMap.mp h
  split at hc
  · next hclose =>
      rcases List.mem_cons.mp hc with rfl | hquestion
      · exact .inl (hclose ▸ hd)
      · exact .inr (List.mem_singleton.mp hquestion)
  · exact .inl (List.mem_singleton.mp hc ▸ hd)

theorem isPlain_literalExpression {literal : List Char}
    (h : ∀ sign ∈ coveringSigns, sign ∉ literal) :
      isPlain (literalExpression literal) := by
  have hwritten : ∀ sign ∈ coveringSigns, sign ≠ '?' ∧
      sign ∉ wildcardExpression :=
    forall_coveringSigns (by decide) (by decide) (by decide)
  refine isPlain_of_not_mem fun sign hsign hmem => ?_
  rcases mem_expandWildcards hmem with hgroups | hwildcard
  · rcases mem_optionalGroups hgroups with hliteral | hquestion
    · exact h sign hsign hliteral
    · exact (hwritten sign hsign).1 hquestion
  · exact (hwritten sign hsign).2 hwildcard

private theorem isPlain_tokenExpression {token : Token}
    (h : ∀ sign ∈ coveringSigns, sign ∉ token.text) :
      isPlain (tokenExpression token) := by
  have hname : isPlain token.name := by
    refine isPlain_of_not_mem fun sign hsign hmem => h sign hsign ?_
    rw [Token.text]
    split <;> simp [hmem]
  have hbody : isPlain (token.constraint.getD segmentExpression) := by
    cases hconstraint : token.constraint with
    | none => decide
    | some constraint =>
        refine isPlain_of_not_mem fun sign hsign hmem => h sign hsign ?_
        rw [Option.getD_some] at hmem
        simp [Token.text, hconstraint, hmem]
  have hhead : isPlain ("(?P<".toList ++ token.name) :=
    isPlain_append (by decide) hname
  have hgroup : isPlain ('>' :: token.constraint.getD segmentExpression) :=
    @isPlain_append ['>'] _ (by decide) hbody
  exact isPlain_append (isPlain_append hhead hgroup) (by decide)

private theorem isPlain_anchored {pattern : List Char}
    (h : ∀ sign ∈ coveringSigns, sign ∉ pattern) :
    isPlain (anchored pattern) := by
  have htext : (ofText pattern).text = pattern := (cuts_scan pattern).text
  rw [← htext, text] at h
  have hlead : isPlain (literalExpression (ofText pattern).lead) :=
    isPlain_literalExpression fun sign hsign hmem =>
      h sign hsign (List.mem_append_left _ hmem)
  have hparts : ∀ part ∈ (ofText pattern).parts,
      isPlain (tokenExpression part.1 ++ literalExpression part.2) := by
    intro part hpart
    have hsigns : ∀ sign ∈ coveringSigns, sign ∉ part.1.text ++ part.2 :=
      fun sign hsign hmem => h sign hsign
        (List.mem_append_right _ (List.mem_flatMap.mpr ⟨part, hpart, hmem⟩))
    exact isPlain_append
      (isPlain_tokenExpression fun sign hsign hmem =>
        hsigns sign hsign (List.mem_append_left _ hmem))
      (isPlain_literalExpression fun sign hsign hmem =>
        hsigns sign hsign (List.mem_append_right _ hmem))
  have hslash : isPlain (trailingSlash pattern) := by
    rw [trailingSlash]
    split <;> decide
  have hbody : isPlain (ofText pattern).bodyExpression :=
    isPlain_append hlead (isPlain_flatMap hparts)
  have hstart : isPlain ('^' :: synthesize pattern) :=
    @isPlain_append ['^'] _ (by decide) (isPlain_append hbody hslash)
  exact isPlain_append hstart (by decide)

theorem coversToken_of_not_mem {pattern : List Char}
    {index : Nat} {token : Token} (h : ∀ sign ∈ coveringSigns, sign ∉ pattern)
    (htoken : (ofText pattern).tokens[index]? = some token) :
    coversToken pattern index = false := by
  obtain ⟨behind, hplace, -⟩ := expressionFrom_token htoken
  rw [coversToken, hplace]
  exact isCovered_of_isPlain (isPlain_anchored h)

end Signpost.Template
