import Signpost.Proofs.Pattern.Expression
import Signpost.Proofs.Regex.Splicing

/-!
# No flags outside of groups

In the expression of a pattern a question mark follows every parenthesis that
closes a literal, so that `(?i)` becomes `(?i)?` and is refused.  The
parentheses that are written around tokens and wildcards do not close any flags
either: the expression of every pattern is guarded.
-/

namespace Signpost

open Regex

namespace Regex

def isFlagSign (c : Char) : Bool := c = '-' || (Flag.ofChar? c).isSome

private theorem flagChanges_run {text rest : List Char}
    {changes : FlagChanges} :
    ∀ {enabled afterMinus seen},
    flagChanges enabled afterMinus seen text = .ok (changes, rest) →
    ∃ run, text = run ++ rest ∧ ∀ c ∈ run, isFlagSign c := by
  induction text with
  | nil =>
      intro enabled afterMinus seen h
      cases h
  | cons c text ih =>
      intro enabled afterMinus seen h
      have hcons :
          isFlagSign c → (∃ run, text = run ++ rest ∧ ∀ c ∈ run, isFlagSign c) →
          ∃ run, c :: text = run ++ rest ∧ ∀ c ∈ run, isFlagSign c := by
        rintro hsign ⟨run, rfl, hrun⟩
        exact ⟨c :: run, rfl, List.forall_mem_cons.mpr ⟨hsign, hrun⟩⟩
      rw [flagChanges] at h
      split at h
      · split at h
        · cases h
        · cases h
          exact ⟨[], rfl, by simp⟩
      split at h
      · next hminus =>
          split at h
          · exact hcons (by simp [isFlagSign, hminus]) (ih h)
          · cases h
      split at h
      · cases h
      · next hflag =>
          split at h
          · cases h
          · exact hcons (by simp [isFlagSign, hflag]) (ih h)

theorem setFlags_of_groupHead {text rest : List Char} {changes : FlagChanges}
    (h : groupHead false text = .ok (.setFlags changes, rest)) :
    ∃ run, text = '?' :: (run ++ ')' :: rest) ∧ ∀ c ∈ run, isFlagSign c := by
  have hnamed : ∀ {text}, named text ≠ .ok (.setFlags changes, rest) := by
    intro text h
    obtain ⟨_, -, heq⟩ := bind_eq_ok_iff.mp h
    cases heq
  unfold groupHead at h
  split at h
  case h_5 | h_6 => exact absurd h hnamed
  case h_8 heq =>
    cases heq
    obtain ⟨⟨found, after⟩, hread, hflags⟩ := bind_eq_ok_iff.mp h
    obtain ⟨run, rfl, hrun⟩ := flagChanges_run hread
    refine ⟨run, ?_, hrun⟩
    change flagged (found, after) = _ at hflags
    unfold flagged at hflags
    split at hflags
    · cases hflags
    · next heq =>
        cases heq
        cases hflags
        rfl
    · cases hflags
  all_goals cases h

end Regex

/--
Every parenthesis that closes flags is followed by a question mark.  While
`inside` holds, only signs of flags have stood behind an opening parenthesis.
-/
def closesFlags (inside : Bool) : List Char → Bool
  | [] => true
  | c :: rest =>
    if c = '(' then closesFlags true rest
    else if c = ')' then (!inside || rest.head? = some '?') &&
      closesFlags false rest
    else closesFlags (inside && (c = '?' || isFlagSign c)) rest

private theorem closesFlags_suffix {text : List Char} : ∀ {before inside},
    closesFlags inside (before ++ '(' :: text) → closesFlags true text := by
  intro before
  induction before with
  | nil => exact fun h => h
  | cons c before ih =>
      intro inside h
      rw [List.cons_append, closesFlags] at h
      split at h
      · exact ih h
      split at h
      · exact ih (Bool.and_eq_true_iff.mp h).2
      · exact ih h

private theorem head?_of_closesFlags {run rest : List Char}
    (hrun : ∀ c ∈ run, c = '?' ∨ isFlagSign c)
    (h : closesFlags true (run ++ ')' :: rest)) : rest.head? = some '?' := by
  induction run with
  | nil => simpa [closesFlags] using (Bool.and_eq_true_iff.mp h).1
  | cons c run ih =>
      obtain ⟨hc, hrun⟩ := List.forall_mem_cons.mp hrun
      have hopen : c ≠ '(' := by rintro rfl; revert hc; decide
      have hclose : c ≠ ')' := by rintro rfl; revert hc; decide
      rw [List.cons_append, closesFlags, if_neg hopen, if_neg hclose] at h
      refine ih hrun ?_
      have hsign : (c = '?' || isFlagSign c) = true := by simpa using hc
      rwa [hsign] at h

theorem guarded_of_closesFlags {text : List Char} {inside : Bool}
    (h : closesFlags inside text) : ParseState.Guarded text := by
  rintro behind ⟨before, rfl⟩ changes rest hhead
  obtain ⟨run, rfl, hrun⟩ := setFlags_of_groupHead hhead
  refine @head?_of_closesFlags ('?' :: run) rest ?_ (closesFlags_suffix h)
  exact List.forall_mem_cons.mpr ⟨.inl rfl, fun c hc => .inr (hrun c hc)⟩

theorem closesFlags_plain {part text : List Char}
    (hpart : ∀ c ∈ part, c ≠ '(' ∧ c ≠ ')') (h : closesFlags false text) :
    closesFlags false (part ++ text) := by
  induction part with
  | nil => exact h
  | cons c part ih =>
      obtain ⟨hc, hpart⟩ := List.forall_mem_cons.mp hpart
      rw [List.cons_append, closesFlags, if_neg hc.1, if_neg hc.2]
      exact ih hpart

def Closes (text : List Char) : Prop := ∀ inside, closesFlags inside text

namespace Template

theorem closes_cons {c : Char} {text : List Char} (hc : c ≠ ')')
    (h : Closes text) :
    Closes (c :: text) := by
  intro inside
  rw [closesFlags, if_neg hc]
  split
  · exact h true
  · exact h _

theorem closes_literal {text : List Char} (h : Closes text)
    (literal : List Char) :
    Closes (literalExpression literal ++ text) := by
  induction literal using expandWildcards.induct with
  | case1 literal ih =>
      rw [Shape.literalExpression_wildcard, List.append_assoc]
      exact fun inside => ih false
  | case2 c literal hplain ih =>
      by_cases hc : c = ')'
      · subst hc
        rw [Shape.literalExpression_close]
        intro inside
        simp only [List.cons_append, closesFlags]
        simpa using ih false
      · have hstar : c ≠ '/' ∨ literal.head? ≠ some '*' := by
          by_contra hboth
          push Not at hboth
          obtain ⟨rest, rfl⟩ := List.head?_eq_some_iff.mp hboth.2
          exact hplain rest hboth.1 rfl
        rw [Shape.literalExpression_cons hc hstar]
        exact closes_cons hc ih
  | case3 => exact h

private theorem closes_token {token : Token} (hformed : token.WellFormed)
    {text : List Char}
    (h : Closes text) : Closes (tokenExpression token ++ text) := by
  have hclose :
      closesFlags false (')' :: text) := by simpa [closesFlags] using h false
  have hconstraint : ∀ c ∈ token.constraint.getD segmentExpression,
      c ≠ '(' ∧ c ≠ ')' := by
    cases hsome : token.constraint with
    | none =>
        intro c hc
        obtain ⟨hopen, hclose⟩ := Shape.segmentExpression_enclosed
        exact ⟨ne_of_mem_of_not_mem hc hopen, ne_of_mem_of_not_mem hc hclose⟩
    | some constraint =>
        intro c hc
        have hchar := hformed.constraint constraint hsome c hc
        simp only [isConstraintChar, Bool.and_eq_true, bne_iff_ne] at hchar
        exact ⟨hchar.1.2, hchar.2⟩
  have hname : ∀ c ∈ token.name, c ≠ '(' ∧ c ≠ ')' := by
    intro c hc
    have hchar := hformed.name c hc
    constructor
    · rintro rfl
      cases hchar
    · rintro rfl
      cases hchar
  have hbody : closesFlags false
      (token.name ++ '>' ::
        (token.constraint.getD segmentExpression ++ ')' :: text)) := by
    refine closesFlags_plain hname ?_
    exact closesFlags_plain hconstraint hclose
  rw [Shape.tokenExpression_append]
  exact fun inside => hbody

theorem guarded_synthesize (pattern : List Char) :
    ParseState.Guarded (synthesize pattern) := by
  have hslash : Closes (trailingSlash pattern) := by
    unfold trailingSlash
    split
    · exact fun inside => rfl
    · exact fun inside => rfl
  have hparts : ∀ parts : List (Token × List Char),
      (∀ part ∈ parts, part.1.WellFormed) →
      Closes (parts.flatMap (fun part => tokenExpression part.1 ++
        literalExpression part.2) ++ trailingSlash pattern) := by
    intro parts hformed
    induction parts with
    | nil => exact hslash
    | cons part parts ih =>
        obtain ⟨hpart, hparts⟩ := List.forall_mem_cons.mp hformed
        rw [List.flatMap_cons, List.append_assoc, List.append_assoc]
        exact closes_token hpart (closes_literal (ih hparts) part.2)
  have hall : Closes (synthesize pattern) := by
    rw [synthesize, bodyExpression, List.append_assoc]
    refine closes_literal (hparts _ fun part hmem => ?_) _
    exact wellFormed_of_mem_tokens (List.mem_map_of_mem hmem)
  exact guarded_of_closesFlags (hall false)

end Template

end Signpost
