import Signpost.Pattern.Compiled
import Signpost.Proofs.Pattern.Cutting
import Signpost.Proofs.Pattern.Expression

/-!
# A slash at the end of a pattern

No token reaches into a slash behind it, and nothing that stands before the
slash is replaced together with it.  The slash that every expression takes at
its end is therefore the one that the pattern ends in, if there is one: with it
and without it a pattern has one expression.
-/

namespace Signpost

namespace Template

def slashLast : List (Token × List Char) → List (Token × List Char)
  | [] => []
  | [part] => [(part.1, part.2 ++ ['/'])]
  | part :: next :: parts => part :: slashLast (next :: parts)

/-- The template with a slash behind it. -/
def slashed (template : Template) : Template :=
  match template.parts with
  | [] => { lead := template.lead ++ ['/'] }
  | part :: parts => { template with parts := slashLast (part :: parts) }

theorem slashed_addChar (c : Char) (template : Template) :
    (addChar c template).slashed = addChar c template.slashed := by
  obtain ⟨lead, parts⟩ := template
  cases parts <;> rfl

theorem slashed_addToken (token : Token) (template : Template) :
    (addToken token template).slashed = addToken token template.slashed := by
  obtain ⟨lead, parts⟩ := template
  cases parts <;> rfl

theorem startsName_slash (text : List Char) :
    startsName (text ++ ['/']) = startsName text := by
  cases text <;> rfl

private theorem scan_slash (text : List Char) : ∀ state : ScanState,
    scan state (text ++ ['/']) = (scan state text).slashed := by
  induction text with
  | nil =>
      intro state
      cases state <;> rfl
  | cons c text ih =>
      intro state
      rw [List.cons_append]
      cases state with
      | literal =>
          rw [scan, scan, startsName_slash]
          split
          · exact ih _
          · rw [slashed_addChar, ih]
      | name name =>
          rw [scan, scan, startsName_slash]
          split
          · exact ih _
          split
          · exact ih _
          split
          · rw [slashed_addToken, ih]
          · rw [slashed_addToken, slashed_addChar, ih]
      | constraint name constraint =>
          rw [scan, scan]
          split
          · exact ih _
          · rw [slashed_addToken, slashed_addChar, ih]

theorem ofText_slash (text : List Char) :
    ofText (text ++ ['/']) = (ofText text).slashed :=
  scan_slash text .literal

private theorem spansFrom_slashLast (parts : List (Token × List Char)) :
    ∀ start,
    spansFrom start (slashLast parts) = spansFrom start parts := by
  induction parts using slashLast.induct with
  | case1 => exact fun _ => rfl
  | case2 part => exact fun _ => rfl
  | case3 part next parts ih =>
      intro start
      rw [slashLast, spansFrom, spansFrom, ih]

theorem spans_slashed (template : Template) :
    template.slashed.spans = template.spans := by
  obtain ⟨lead, parts⟩ := template
  cases parts with
  | nil => rfl
  | cons part parts => exact spansFrom_slashLast (part :: parts) _

theorem tokens_slash (text : List Char) :
    (ofText (text ++ ['/'])).tokens = (ofText text).tokens := by
  have hspans := congrArg (List.map Prod.fst) (spans_slashed (ofText text))
  rw [spans, spans, map_fst_spansFrom, map_fst_spansFrom] at hspans
  rw [ofText_slash]
  exact hspans

private theorem literalExpression_append {first second : List Char}
    (h : second.head? ≠ some '*') :
    literalExpression (first ++ second) =
      literalExpression first ++ literalExpression second := by
  induction first using expandWildcards.induct with
  | case1 first ih =>
      rw [List.cons_append, List.cons_append, Shape.literalExpression_wildcard,
        Shape.literalExpression_wildcard, ih, List.append_assoc]
  | case2 c first hplain ih =>
      rw [List.cons_append]
      by_cases hclose : c = ')'
      · subst hclose
        rw [Shape.literalExpression_close, Shape.literalExpression_close, ih]
        rfl
      · have hfirst : c ≠ '/' ∨ first.head? ≠ some '*' := by
          by_contra hboth
          push Not at hboth
          obtain ⟨rest, rfl⟩ := List.head?_eq_some_iff.mp hboth.2
          exact hplain rest hboth.1 rfl
        have hwhole : c ≠ '/' ∨ (first ++ second).head? ≠ some '*' := by
          refine hfirst.imp id fun hhead => ?_
          cases first with
          | nil => exact h
          | cons d first => exact hhead
        rw [Shape.literalExpression_cons hclose hwhole,
          Shape.literalExpression_cons hclose hfirst, ih]
        rfl
  | case3 => rfl

theorem literalExpression_slash (literal : List Char) :
    literalExpression (literal ++ ['/']) = literalExpression literal ++ ['/'] :=
  literalExpression_append (by decide)

private theorem flatMap_slashLast (part : Token × List Char)
    (parts : List (Token × List Char)) :
    (slashLast (part :: parts)).flatMap
        (fun part => tokenExpression part.1 ++ literalExpression part.2) =
      (part :: parts).flatMap
        (fun part => tokenExpression part.1 ++ literalExpression part.2) ++
          ['/'] := by
  induction parts generalizing part with
  | nil => simp [slashLast, literalExpression_slash]
  | cons next parts ih =>
      rw [slashLast, List.flatMap_cons, ih, ← List.append_assoc]
      rfl

private theorem bodyExpression_slashed (template : Template) :
    template.slashed.bodyExpression = template.bodyExpression ++ ['/'] := by
  obtain ⟨lead, parts⟩ := template
  cases parts with
  | nil => simp [slashed, bodyExpression, literalExpression_slash]
  | cons part parts =>
      rw [slashed, bodyExpression, flatMap_slashLast, ← List.append_assoc]
      rfl

theorem synthesize_slash {pattern : List Char}
    (h : pattern.getLast? ≠ some '/') :
    synthesize (pattern ++ ['/']) = synthesize pattern := by
  rw [synthesize, synthesize, ofText_slash, bodyExpression_slashed,
    trailingSlash, trailingSlash, if_pos (by simp), if_neg h, List.append_assoc]
  rfl

private theorem anchored_slash {pattern : List Char}
    (h : pattern.getLast? ≠ some '/') :
    anchored (pattern ++ ['/']) = anchored pattern := by
  rw [anchored, anchored, synthesize_slash h]

end Template

namespace CompiledPattern

private theorem compile_slash {pattern : String}
    (hslash : pattern.toList.getLast? ≠ some '/')
    (hstar : pattern.toList.getLast? ≠ some '*') (caseSensitive : Bool) :
    compile (pattern ++ "/") caseSensitive =
      match compile pattern caseSensitive with
      | .error error => .error { error with pattern := pattern ++ "/" }
      | .ok compiled => .ok { compiled with source := pattern ++ "/" } := by
  have htext : (pattern ++ "/").toList = pattern.toList ++ ['/'] :=
    String.toList_append
  have hseparators : separators (pattern.toList ++ ['/']) =
      separators pattern.toList := by
    rw [separators, separators, if_neg (by simp), if_neg hstar]
  rw [compile, compile, htext, Template.anchored_slash hslash,
    Template.tokens_slash, hseparators]
  cases Regex.compile (Template.anchored pattern.toList)
    (!caseSensitive) <;> rfl

/--
A pattern and the pattern with a slash behind it have the same expression and
the same tokens at the same places.  Unless it ends in a wildcard, they compile
both or neither, and take the same values from every path.
-/
theorem closing_slash_indifferent {pattern : String}
    (hslash : pattern.toList.getLast? ≠ some '/') :
    Template.synthesize (pattern ++ "/").toList =
      Template.synthesize pattern.toList ∧
    (Template.ofText (pattern ++ "/").toList).tokens =
      (Template.ofText pattern.toList).tokens ∧
    (Template.ofText (pattern ++ "/").toList).spans =
      (Template.ofText pattern.toList).spans ∧
    (pattern.toList.getLast? ≠ some '*' → ∀ caseSensitive,
      ((∃ slashed, compile (pattern ++ "/") caseSensitive = .ok slashed) ↔
        ∃ bare, compile pattern caseSensitive = .ok bare) ∧
      ∀ slashed bare, compile (pattern ++ "/") caseSensitive = .ok slashed →
        compile pattern caseSensitive = .ok bare →
        ∀ path, slashed.captures path = bare.captures path) := by
  have htext : (pattern ++ "/").toList = pattern.toList ++ ['/'] :=
    String.toList_append
  rw [htext]
  refine ⟨Template.synthesize_slash hslash, Template.tokens_slash _, ?_, ?_⟩
  · rw [Template.ofText_slash, Template.spans_slashed]
  intro hstar caseSensitive
  rw [compile_slash hslash hstar]
  cases compile pattern caseSensitive with
  | error error => simp
  | ok compiled =>
      refine ⟨by simp, ?_⟩
      rintro _ _ ⟨⟩ ⟨⟩ path
      rfl

theorem closing_slash_indifferent_constraint : ∃ slashed bare,
    compile "/tag(/@year)/@name:[%:@0-9a-z]+" false = .ok bare ∧
      compile "/tag(/@year)/@name:[%:@0-9a-z]+/" false = .ok slashed ∧
      slashed.captures "/TAG/c%2B/?x" = bare.captures "/TAG/c%2B/?x" ∧
      bare.captures "/TAG/c%2B/?x" =
        some { named := [("year", none), ("name", some "c+")] } := by
  obtain ⟨bare, hbare, hcaptures⟩ : ∃ bare,
      compile "/tag(/@year)/@name:[%:@0-9a-z]+" false = .ok bare ∧
        bare.captures "/TAG/c%2B/?x" =
          some { named := [("year", none), ("name", some "c+")] } :=
    ⟨_, rfl, by decide +kernel⟩
  obtain ⟨-, -, -, hcompile⟩ :=
    @closing_slash_indifferent "/tag(/@year)/@name:[%:@0-9a-z]+" (by decide)
  obtain ⟨hiff, hsame⟩ := hcompile (by decide) false
  obtain ⟨slashed, hslashed⟩ := hiff.mpr ⟨bare, hbare⟩
  exact ⟨slashed, bare, hbare, hslashed, hsame slashed bare hslashed hbare _,
    hcaptures⟩

end CompiledPattern

end Signpost
