import Signpost.Proofs.Data.List
import Signpost.Proofs.Pattern.Scanning

/-!
# The expression of a shape

The replacements made in the text around the tokens act on the parts of the
shape one at a time: no replacement reaches over the border of two parts.  The
slash that ends the expression comes out of the shape, if the shape ends in
one, and is added to it otherwise.
-/

namespace Signpost.Shape

open Template

variable {insensitive : Bool}

def expression : Shape insensitive → List Char
  | done => []
  | plain c next => c.val :: next.expression
  | token name constraint next =>
    tokenExpression (tokenOf name constraint) ++ next.expression
  | wildcard next => wildcardExpression ++ next.expression
  | optional inner next =>
    '(' :: inner.expression ++ ')' :: '?' :: next.expression

private theorem head?_optionalGroups (literal : List Char) :
    (optionalGroups literal).head? = literal.head? := by
  cases literal with
  | nil => rfl
  | cons c literal =>
      by_cases hc : c = ')'
      · simp [optionalGroups, hc]
      · simp [optionalGroups, hc]

theorem expandWildcards_cons {c : Char} {literal : List Char}
    (h : c ≠ '/' ∨ literal.head? ≠ some '*') :
    expandWildcards (c :: literal) = c :: expandWildcards literal := by
  rw [expandWildcards]
  rintro rest rfl rfl
  simp at h

theorem literalExpression_cons {c : Char} {literal : List Char}
    (hclose : c ≠ ')') (h : c ≠ '/' ∨ literal.head? ≠ some '*') :
    literalExpression (c :: literal) = c :: literalExpression literal := by
  have hgroups :
      optionalGroups (c :: literal) = c :: optionalGroups literal := by
    simp [optionalGroups, hclose]
  rw [literalExpression, hgroups, expandWildcards_cons]
  · rfl
  · rwa [head?_optionalGroups]

theorem literalExpression_close (literal : List Char) :
    literalExpression (')' :: literal) =
      ')' :: '?' :: literalExpression literal := by
  have hgroups : optionalGroups (')' :: literal) =
      ')' :: '?' :: optionalGroups literal := by
    simp [optionalGroups]
  rw [literalExpression, hgroups, expandWildcards_cons (.inl (by decide)),
    expandWildcards_cons (.inl (by decide))]
  rfl

theorem literalExpression_wildcard (literal : List Char) :
    literalExpression ('/' :: '*' :: literal) =
      wildcardExpression ++ literalExpression literal := by
  have hgroups : optionalGroups ('/' :: '*' :: literal) =
      '/' :: '*' :: optionalGroups literal := by
    simp [optionalGroups]
  rw [literalExpression, hgroups, expandWildcards]
  rfl

theorem bodyExpression_addChar {c : Char} {template : Template}
    (hclose : c ≠ ')') (h : c ≠ '/' ∨ template.lead.head? ≠ some '*') :
    (addChar c template).bodyExpression = c :: template.bodyExpression := by
  change literalExpression (c :: template.lead) ++ _ = _
  rw [literalExpression_cons hclose h]
  rfl

theorem bodyExpression_addToken (token : Token) (template : Template) :
    (addToken token template).bodyExpression =
      tokenExpression token ++ template.bodyExpression := by
  simp [bodyExpression, addToken, literalExpression, optionalGroups,
    expandWildcards]

theorem segmentExpression_enclosed :
    '(' ∉ segmentExpression ∧ ')' ∉ segmentExpression := by decide

theorem tokenExpression_append (token : Token) (text : List Char) :
    tokenExpression token ++ text = '(' :: '?' :: 'P' :: '<' :: (token.name ++
      '>' :: (token.constraint.getD segmentExpression ++ ')' :: text)) := by
  have htoken : tokenExpression token = ['(', '?', 'P', '<'] ++ token.name ++
      '>' :: token.constraint.getD segmentExpression ++ [')'] := rfl
  simp [htoken]

theorem bodyExpression_onto (shape : Shape insensitive) : ∀ {template},
    template.lead.head? ≠ some '*' →
    (shape.onto template).bodyExpression =
        shape.expression ++ template.bodyExpression ∧
      (shape.onto template).lead.head? ≠ some '*' := by
  induction shape with
  | done => exact fun h => ⟨rfl, h⟩
  | plain c next ih =>
      intro template h
      obtain ⟨hnext, hlead⟩ := ih h
      have hstar : c.val ≠ '*' := PlainChar.ne c.property (by decide)
      have hclose : c.val ≠ ')' := PlainChar.ne c.property (by decide)
      refine ⟨?_, by simpa [onto, addChar] using hstar⟩
      rw [onto, bodyExpression_addChar hclose (.inr hlead), hnext]
      rfl
  | token name constraint next ih =>
      intro template h
      obtain ⟨hnext, -⟩ := ih h
      refine ⟨?_, by simp [onto, addToken]⟩
      rw [onto, bodyExpression_addToken, hnext, expression, List.append_assoc]
  | wildcard next ih =>
      intro template h
      obtain ⟨hnext, -⟩ := ih h
      refine ⟨?_, by simp [onto, addChar]⟩
      change literalExpression
        ('/' :: '*' :: (next.onto template).lead) ++ _ = _
      rw [literalExpression_wildcard, expression, List.append_assoc,
        List.append_assoc, ← hnext]
      rfl
  | optional inner next ihinner ihnext =>
      intro template h
      obtain ⟨hnext, -⟩ := ihnext h
      obtain ⟨hinner, hlead⟩ := @ihinner (addChar ')' (next.onto template))
        (by simp [addChar])
      refine ⟨?_, by simp [onto, addChar]⟩
      rw [onto, bodyExpression_addChar (by decide) (.inl (by decide)), hinner]
      change _ :: (_ ++ (literalExpression (')' :: _) ++ _)) = _
      rw [literalExpression_close]
      simp only [expression, List.cons_append, List.append_assoc, ← hnext]
      rfl

@[simp] theorem text_append (first second : Shape insensitive) :
    (first.append second).text = first.text ++ second.text := by
  induction first with
  | done => rfl
  | plain c next ih => simp [append, text, ih]
  | token name constraint next ih => simp [append, text, ih]
  | wildcard next ih => simp [append, text, ih]
  | optional inner next _ ih => simp [append, text, ih]

@[simp] theorem tokens_append (first second : Shape insensitive) :
    (first.append second).tokens = first.tokens ++ second.tokens := by
  induction first with
  | done => rfl
  | plain c next ih => exact ih
  | token name constraint next ih => simp [append, tokens, ih]
  | wildcard next ih => exact ih
  | optional inner next _ ih => simp [append, tokens, ih]

@[simp] theorem expression_append (first second : Shape insensitive) :
    (first.append second).expression = first.expression ++
      second.expression := by
  induction first with
  | done => rfl
  | plain c next ih => simp [append, expression, ih]
  | token name constraint next ih => simp [append, expression, ih]
  | wildcard next ih => simp [append, expression, ih]
  | optional inner next _ ih => simp [append, expression, ih]

def slash : PlainChar := ⟨'/', by decide⟩

/-- The shape without the slash that it may end in. -/
inductive Stem : Shape insensitive → Shape insensitive → Prop
  | slashed (stem) : Stem stem (stem.append (plain slash done))
  | whole {shape : Shape insensitive} :
      shape.text.getLast? ≠ some '/' → Stem shape shape

private theorem getLast?_token {token : Token} (h : token.WellFormed) :
    token.text.getLast? ≠ some '/' := by
  intro hlast
  have hmem := List.mem_of_getLast? hlast
  obtain ⟨name, constraint⟩ := token
  have hname : '/' ∉ name := fun hmem => by cases h.name _ hmem
  cases constraint with
  | none => simp [Token.text, hname] at hmem
  | some constraint =>
      have hconstraint : '/' ∉ constraint :=
        fun hmem => by cases h.constraint _ rfl _ hmem
      simp [Token.text, hname, hconstraint] at hmem

private theorem eq_done_of_text {shape : Shape insensitive}
    (h : shape.text = []) :
    shape = done := by
  cases shape with
  | done => rfl
  | token name constraint next =>
      cases constraint <;> simp [text, tokenOf, Token.text] at h
  | _ => cases h

private theorem exists_append_slash {shape : Shape insensitive}
    (h : ∀ token ∈ shape.tokens, token.WellFormed)
    (hlast : shape.text.getLast? = some '/') :
    ∃ stem : Shape insensitive, shape = stem.append (plain slash done) := by
  induction shape with
  | done => cases hlast
  | plain c next ih =>
      cases hnext : next.text.getLast? with
      | none =>
          have hdone := eq_done_of_text (List.getLast?_eq_none_iff.mp hnext)
          subst hdone
          have hc : c = slash := Subtype.ext (Option.some.inj hlast)
          exact ⟨done, by rw [hc]; rfl⟩
      | some d =>
          have hd : (plain c next).text.getLast? = some d := by
            rw [text, List.getLast?_cons, hnext]
            rfl
          obtain ⟨stem, rfl⟩ := ih h (by rw [hnext, ← hd, hlast])
          exact ⟨plain c stem, rfl⟩
  | token name constraint next ih =>
      have htoken := getLast?_token (h _ (List.mem_cons_self ..))
      obtain ⟨stem, rfl⟩ :=
        ih (fun token hmem => h token (by simp [tokens, hmem]))
        (getLast?_of_append hlast htoken)
      exact ⟨token name constraint stem, rfl⟩
  | wildcard next ih =>
      have hnext : next.text.getLast? = some '/' :=
        @getLast?_of_append _ ['/', '*'] _ _ hlast (by decide)
      obtain ⟨stem, rfl⟩ := ih h hnext
      exact ⟨wildcard stem, rfl⟩
  | optional inner next _ ih =>
      have hnext : next.text.getLast? = some '/' := by
        refine @getLast?_of_append _ ('(' :: inner.text ++ [')']) _ _ ?_ ?_
        · simpa [text] using hlast
        · rw [List.getLast?_append]
          simp
      obtain ⟨stem, rfl⟩ := ih
        (fun token hmem => h token (by simp [tokens, hmem])) hnext
      exact ⟨optional inner stem, rfl⟩

theorem exists_stem {shape : Shape insensitive}
    (h : ∀ token ∈ shape.tokens, token.WellFormed) :
    ∃ stem : Shape insensitive, stem.Stem shape := by
  by_cases hlast : shape.text.getLast? = some '/'
  · obtain ⟨stem, rfl⟩ := exists_append_slash h hlast
    exact ⟨stem, .slashed stem⟩
  · exact ⟨shape, .whole hlast⟩

theorem Stem.tokens_eq {stem shape : Shape insensitive} (h : stem.Stem shape) :
    shape.tokens = stem.tokens := by
  cases h with
  | slashed => simp [tokens]
  | whole => rfl

def ending : List Char :=
  ['/', '?', '(', '?', ':', '\\', '?', '.', '*', ')', '?', '$']

private theorem ending_eq : ending = '/' :: '?' :: "(?:\\?.*)?$".toList := rfl

theorem Stem.anchored_eq {stem shape : Shape insensitive} (h : stem.Stem shape)
    (htokens : (ofText shape.text).tokens = shape.tokens) :
    anchored shape.text = '^' :: (stem.expression ++ ending) := by
  have hbody : (ofText shape.text).bodyExpression = shape.expression := by
    rw [ofText_text htokens, (bodyExpression_onto shape (by simp)).1]
    exact List.append_nil _
  rw [anchored, synthesize, hbody, trailingSlash, ending_eq]
  cases h with
  | slashed =>
      rw [if_pos (by simp [text, slash])]
      simp only [expression_append, expression, slash, List.append_assoc,
        List.cons_append, List.nil_append]
  | whole hlast =>
      rw [if_neg hlast]
      simp only [List.append_assoc, List.cons_append, List.nil_append]

end Signpost.Shape
