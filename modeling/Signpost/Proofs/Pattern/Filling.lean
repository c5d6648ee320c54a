import Signpost.Router.Basic
import Signpost.Proofs.Data.List
import Signpost.Proofs.Pattern.Building
import Signpost.Proofs.Pattern.Cutting

/-!
# Filling patterns with values

A path is built by one equation: the literals of the pattern follow each other,
with the remaining values at their stars, and between them stand the texts of
the first values as they are.
-/

namespace Signpost

open Segment (rendered)

def starred (rest literal : List Char) : List Char :=
  rest.intercalate (literal.splitOn '*')

theorem fillStars_eq (rest literal : List Char) :
    fillStars rest literal = starred rest literal := by
  induction literal with
  | nil => rfl
  | cons c literal ih =>
      have hpieces := List.splitOn_ne_nil '*' literal
      rw [fillStars, List.flatMap_cons, ← fillStars, ih, starred, starred,
        List.splitOn_cons_eq_if_modifyHead]
      by_cases hstar : c = '*'
      · rw [if_pos hstar, if_pos (by simpa using hstar),
          List.intercalate_cons_of_ne_nil hpieces]
        rfl
      · rw [if_neg hstar, if_neg (by simpa using hstar),
          intercalate_modifyHead_cons c rest hpieces]
        rfl

theorem starred_self {rest literal : List Char} (h : '*' ∉ literal) :
    starred rest literal = literal := by
  rw [starred, List.splitOn_eq_singleton h, List.intercalate_singleton]

private theorem joinRest_eq (values : List Json) :
    joinRest values = ['/'].intercalate (rendered values) := by
  rw [joinRest, String.toList_intercalate, rendered, List.map_map]
  rfl

namespace Template

variable {template : Template} {values : List Json}

/--
The literals with their stars filled, each behind the text of the value before
it.
-/
def spliced (template : Template) (values : List Json) : List Char :=
  let rest := ['/'].intercalate (rendered (values.drop template.tokens.length))
  (List.zipWith (· ++ ·) ([] :: rendered values)
    (template.literals.map (starred rest))).flatten

private theorem fillParts_eq (rest : List Char)
    (parts : List (Token × List Char)) (values : List Json) :
    fillParts rest parts values =
      (List.zipWith (· ++ ·) (rendered values)
        ((parts.map Prod.snd).map (starred rest))).flatten := by
  induction parts generalizing values with
  | nil => simp [fillParts]
  | cons part parts ih =>
      cases values with
      | nil => rfl
      | cons value values =>
          rw [fillParts, ih, fillStars_eq]
          rfl

theorem fill_eq_spliced (template : Template) (values : List Json) :
    template.fill values = template.spliced values := by
  have htokens : template.tokens.length = template.parts.length :=
    List.length_map _
  rw [fill, fillStars_eq, fillParts_eq, joinRest_eq, spliced, htokens]
  rfl

theorem length_literals (template : Template) :
    template.literals.length = template.tokens.length + 1 := by
  simp [literals, tokens]

theorem spliced_append (hstars : ∀ literal ∈ template.literals, '*' ∉ literal)
    (hvalues : template.tokens.length ≤ values.length) (more : List Json) :
    template.spliced (values ++ more) = template.spliced values := by
  have hliterals (rest : List Char) :
      template.literals.map (starred rest) = template.literals :=
    (List.map_congr_left fun literal hliteral =>
      starred_self (hstars literal hliteral)).trans
      (List.map_id _)
  have hlength : template.literals.length ≤ ([] :: rendered values).length := by
    simpa [length_literals, rendered] using hvalues
  have hrendered : [] :: rendered (values ++ more) =
      ([] :: rendered values) ++ rendered more := by
    simp [rendered]
  rw [spliced, spliced, hliterals, hliterals, hrendered,
    zipWith_append_left _ _ hlength]

theorem length_tokens_of_literals {other : Template}
    (h : other.literals = template.literals) :
    other.tokens.length = template.tokens.length := by
  simpa [length_literals] using congrArg List.length h

theorem spliced_congr {other : Template}
    (h : other.literals = template.literals) :
    other.spliced values = template.spliced values := by
  rw [spliced, spliced, h, length_tokens_of_literals h]

theorem ofText_plain {text : List Char} (h : '@' ∉ text) :
    ofText text = { lead := text } := by
  refine (cuts_iff.mp ⟨?_, ?_, ?_, ?_⟩).symm
  · simp [Template.text]
  · simp [tokens]
  · intro literal hliteral before c after heq
    obtain rfl := List.mem_singleton.mp hliteral
    have hat : '@' ∈ before ++ '@' :: c :: after := by simp
    exact absurd (heq ▸ hat) h
  · simp

theorem spliced_plain {text : List Char} (h : '*' ∉ text) (values : List Json) :
    spliced { lead := text } values = text := by
  simp [spliced, literals, starred_self h]

/-- The bytes before the first place, between places, and behind the last. -/
def piecesBetween (bytes : List UInt8) (cursor : Nat) :
    List (Token × Nat × Nat) → List (List UInt8)
  | [] => [bytes.drop cursor]
  | (_, start, stop) :: spans =>
    (bytes.take start).drop cursor :: piecesBetween bytes stop spans

private theorem piecesBetween_spansFrom (front lead : List Char)
    (parts : List (Token × List Char)) :
    piecesBetween (Utf8.encode (front ++ text { lead, parts }))
      (Utf8.width front)
        (spansFrom (Utf8.width (front ++ lead)) parts) =
      (literals { lead, parts }).map Utf8.encode := by
  induction parts generalizing front lead with
  | nil =>
      simp only [text, List.flatMap_nil, List.append_nil]
      rw [spansFrom, piecesBetween, Utf8.encode_append,
        Utf8.width, List.drop_left]
      rfl
  | cons part parts ih =>
      have hnext := ih (front ++ lead ++ part.1.text) part.2
      simp only [Utf8.width_append] at hnext
      have htext : front ++ text { lead, parts := part :: parts } =
          front ++ lead ++ part.1.text ++ text { lead := part.2, parts } := by
        simp [text]
      have hpiece :
          ((Utf8.encode (front ++ text { lead, parts := part :: parts })).take
            (Utf8.width (front ++ lead))).drop (Utf8.width front) =
          Utf8.encode lead := by
        rw [htext, List.append_assoc (front ++ lead),
          Utf8.encode_append (front ++ lead),
          Utf8.width, Utf8.width, List.take_left, Utf8.encode_append,
          List.drop_left]
      rw [spansFrom, piecesBetween, hpiece, htext, Utf8.width_append, hnext]
      rfl

private theorem piecesBetween_spans (pattern : List Char) :
    piecesBetween (Utf8.encode pattern) 0 (ofText pattern).spans =
      (ofText pattern).literals.map Utf8.encode := by
  have htext : (ofText pattern).text = pattern := (cuts_scan pattern).text
  have hpieces :=
    piecesBetween_spansFrom [] (ofText pattern).lead (ofText pattern).parts
  rwa [List.nil_append, htext] at hpieces

end Template

namespace Router

open Template

variable {pattern : String} {values : List Json}

theorem make_short (h : values.length < (ofText pattern.toList).tokens.length) :
    make pattern values =
      (none, [.valuesShort pattern (ofText pattern.toList).tokens.length
        values.length]) := by
  rw [tokens, List.length_map] at h ⊢
  have hat : '@' ∈ pattern.toList := by
    by_contra hat
    simp [ofText_plain hat] at h
  rw [make, buildPath]
  simp [hat, h]

theorem make_enough
    (h : (ofText pattern.toList).tokens.length ≤ values.length) :
    make pattern values =
      (some (String.ofList ((ofText pattern.toList).spliced values)), []) := by
  rw [make, buildPath]
  dsimp only
  by_cases hplain : !pattern.toList.contains '*' && !pattern.toList.contains '@'
  · obtain ⟨hstar, hat⟩ : '*' ∉ pattern.toList ∧ '@' ∉ pattern.toList := by
      simpa using hplain
    rw [if_pos hplain, ofText_plain hat, spliced_plain hstar,
      String.ofList_toList]
  · rw [tokens, List.length_map] at h
    rw [if_neg hplain, if_neg (Nat.not_lt.mpr h), fill_eq_spliced]

/--
A path is missing exactly when there are fewer values than tokens, and otherwise
it is the splice of the values and of the pieces between the tokens.  So values
that are left over need a star in a literal; of the tokens only their number
matters, whatever stars their constraints have; and a pattern without `@` and
`*` is its own splice.
-/
theorem make_splices (pattern : String) (values : List Json) :
    let template := ofText pattern.toList
    template.literals.map Utf8.encode =
        piecesBetween (Utf8.encode pattern.toList) 0 template.spans ∧
      make pattern values =
        (if values.length < template.tokens.length then
          (none, [.valuesShort pattern template.tokens.length values.length])
        else (some (String.ofList (template.spliced values)), [])) ∧
      ((∀ literal ∈ template.literals, '*' ∉ literal) →
        template.tokens.length ≤ values.length →
          ∀ more, make pattern (values ++ more) = make pattern values) ∧
      (∀ other : String, (ofText other.toList).literals = template.literals →
        (make other values).1 = (make pattern values).1) ∧
      ('@' ∉ pattern.toList → '*' ∉ pattern.toList →
        template = { lead := pattern.toList } ∧ template.spliced values =
          pattern.toList) := by
  intro template
  refine ⟨(piecesBetween_spans _).symm, ?_, ?_, ?_, ?_⟩
  · split
    · next hshort => exact make_short hshort
    · next henough => exact make_enough (Nat.not_lt.mp henough)
  · intro hstars hvalues more
    have hmore : template.tokens.length ≤ (values ++ more).length := by
      rw [List.length_append]
      omega
    rw [make_enough hmore, make_enough hvalues, spliced_append hstars hvalues]
  · intro other hliterals
    have hlength := length_tokens_of_literals hliterals
    rcases Nat.lt_or_ge values.length
      template.tokens.length with hshort | henough
    · rw [make_short hshort, make_short (hlength ▸ hshort)]
    · rw [make_enough henough, make_enough (hlength ▸ henough),
        spliced_congr hliterals]
  · intro hat hstar
    have htemplate : template = { lead := pattern.toList } := ofText_plain hat
    exact ⟨htemplate, by rw [htemplate, spliced_plain hstar]⟩

theorem make_splices_starred :
    make "/@a:[0-9]*/*x" [.string "@b*", .string "c", .bool true] =
      (some "/@b*/c/1x", []) ∧
      make "/@a:x*" [.string "*", .string "c"] = make "/@a:x*" [.string "*"] ∧
      (make "/@b" [.string "*"]).1 = (make "/@a:x*" [.string "*"]).1 ∧
      (Template.ofText "/a".toList).spliced [.null] = "/a".toList := by
  refine ⟨(make_splices _ _).2.1.trans rfl, ?_, ?_, ?_⟩
  · exact (make_splices "/@a:x*" [.string "*"]).2.2.1 (by decide)
      (by decide) [.string "c"]
  · exact (make_splices "/@a:x*" [.string "*"]).2.2.2.1 "/@b" (by decide)
  · exact ((make_splices "/a" [.null]).2.2.2.2 (by decide) (by decide)).2

end Router

end Signpost
