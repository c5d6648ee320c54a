import Mathlib.Tactic.Tauto
import Signpost.Proofs.Pattern.Scanning
import Signpost.Proofs.Text.Utf8

/-!
# Cutting patterns at their tokens

A pattern can be cut in one way only into literals and tokens such that no
literal has a token in it and every token is as long as it can be.  This is how
the scanner cuts it, and the places that it names are the bytes of the tokens.
-/

namespace Signpost

open Template

/-- No `@` stands before a character of names. -/
def TokenFree (literal : List Char) : Prop :=
  ∀ before c after, literal = before ++ '@' :: c :: after → isNameChar c = false

/-- What stands behind the token cannot belong to it. -/
def Token.EndsBefore (token : Token) (behind : List Char) : Prop :=
  match token.constraint with
  | none => ∀ c, behind.head? = some c → isNameChar c = false ∧ c ≠ ':'
  | some _ => ∀ c, behind.head? = some c → c = '/' ∨ c = '(' ∨ c = ')'

namespace Template

/--
The pattern is the text of the template, and its tokens are all that there are.
-/
structure Cuts (template : Template) (pattern : List Char) : Prop where
  text : template.text = pattern
  formed : ∀ token ∈ template.tokens, token.WellFormed
  free : ∀ literal ∈ template.literals, TokenFree literal
  ends : ∀ before token literal after, template.parts =
    before ++ (token, literal) :: after →
    token.EndsBefore (literal ++ Template.text { parts := after })

variable {template : Template} {token : Token}
    {text rest : List Char} {c : Char}

theorem text_addToken (token : Token) (template : Template) :
    (addToken token template).text = token.text ++ template.text := by
  simp [Template.text, addToken]

theorem tokenFree_cons {literal : List Char} :
    TokenFree (c :: literal) ↔ (c = '@' → startsName literal = false) ∧
    TokenFree literal := by
  constructor
  · intro h
    refine ⟨?_, fun before d after heq => h (c :: before) d after
      (by simp [heq])⟩
    rintro rfl
    cases literal with
    | nil => rfl
    | cons d literal => exact h [] d literal rfl
  · rintro ⟨hfirst, hrest⟩ (_ | ⟨d, before⟩) e after heq
    · obtain ⟨rfl, rfl⟩ := List.cons_eq_cons.mp heq
      exact hfirst rfl
    · obtain ⟨rfl, rfl⟩ := List.cons_eq_cons.mp heq
      exact hrest before e after rfl

theorem startsName_text (template : Template) :
    startsName template.text = startsName template.lead := by
  obtain ⟨_ | ⟨c, lead⟩, parts⟩ := template
  · cases parts with
    | nil => rfl
    | cons part parts =>
        obtain ⟨⟨name, _ | constraint⟩, literal⟩ := part <;> rfl
  · rfl

theorem cuts_empty : Cuts {} [] :=
  ⟨rfl, by simp [tokens], by simp [literals, TokenFree], by simp⟩

theorem cuts_addChar :
    (addChar c template).Cuts text ↔
      ∃ rest, text = c :: rest ∧ (c = '@' → startsName rest = false) ∧
        template.Cuts rest := by
  constructor
  · rintro ⟨rfl, hformed, hfree, hends⟩
    have hlead : TokenFree (c :: template.lead) :=
      hfree _ (by simp [literals, addChar])
    rw [tokenFree_cons, ← startsName_text] at hlead
    refine ⟨template.text, rfl, hlead.1, rfl, hformed,
      fun literal hliteral => ?_, hends⟩
    rcases List.mem_cons.mp hliteral with rfl | hlater
    · exact hlead.2
    · exact hfree literal (List.mem_cons_of_mem _ hlater)
  · rintro ⟨rest, rfl, hat, rfl, hformed, hfree, hends⟩
    refine ⟨rfl, hformed, fun literal hliteral => ?_, hends⟩
    rcases List.mem_cons.mp hliteral with rfl | hlater
    · exact tokenFree_cons.mpr ⟨startsName_text template ▸ hat,
        hfree _ (by simp [literals])⟩
    · exact hfree literal (List.mem_cons_of_mem _ hlater)

theorem cuts_addToken :
    (addToken token template).Cuts text ↔
      ∃ rest, text = token.text ++ rest ∧ token.WellFormed ∧
        token.EndsBefore rest ∧
        template.Cuts rest := by
  constructor
  · rintro ⟨rfl, hformed, hfree, hends⟩
    refine ⟨template.text, text_addToken token template,
      hformed token (by simp),
      hends [] token template.lead template.parts rfl, rfl, fun other hother =>
        hformed other (by simp [hother]),
      fun literal hliteral => hfree literal
        (List.mem_cons_of_mem _ hliteral), ?_⟩
    intro before other literal after hparts
    exact hends ((token, template.lead) :: before) other literal after
      (by simp [addToken, hparts])
  · rintro ⟨rest, rfl, htoken, hbehind, rfl, hformed, hfree, hends⟩
    refine ⟨text_addToken token template, ?_, ?_, ?_⟩
    · simpa using ⟨htoken, hformed⟩
    · intro literal hliteral
      rcases List.mem_cons.mp hliteral with rfl | hlater
      · simp [TokenFree, addToken]
      · exact hfree literal hlater
    · rintro (_ | ⟨part, before⟩) other literal after hparts
      · obtain ⟨hpart, rfl⟩ := List.cons_eq_cons.mp hparts
        obtain ⟨rfl, rfl⟩ := Prod.mk.inj hpart
        exact hbehind
      · obtain ⟨-, hparts⟩ := List.cons_eq_cons.mp hparts
        exact hends before other literal after hparts

/-- Every template is made of characters and tokens, from its end. -/
theorem induction {motive : Template → Prop} (empty : motive {})
    (char : ∀ c template, motive template → motive (addChar c template))
    (token : ∀ token template, motive template →
      motive (addToken token template))
    (template : Template) : motive template := by
  obtain ⟨lead, parts⟩ := template
  induction parts generalizing lead with
  | nil =>
      induction lead with
      | nil => exact empty
      | cons c lead ih => exact char c _ ih
  | cons part parts ihparts =>
      induction lead with
      | nil => exact token part.1 _ (ihparts part.2)
      | cons c lead ih => exact char c _ ih

theorem scan_plain (h : c = '@' → startsName rest = false) :
    scan .literal (c :: rest) = addChar c (scan .literal rest) := by
  rw [scan, if_neg]
  rintro ⟨hat, hstarts⟩
  simp [h hat] at hstarts

theorem scan_token_of_ends (hformed : token.WellFormed)
    (hends : token.EndsBefore rest) :
    scan .literal (token.text ++ rest) = addToken token
      (scan .literal rest) := by
  obtain ⟨name, _ | constraint⟩ := token
  · have hname : rest.takeWhile isNameChar = [] :=
      takeWhile_of_head fun c hc => (hends c hc).1
    have hrest := @dropWhile_of_takeWhile _ isNameChar rest [] hname
    simp only [List.nil_append] at hrest
    simp only [Token.text, List.cons_append]
    rw [scan_open hformed.starts hformed.name, hname, hrest, List.append_nil]
    unfold scanBehind
    split
    · exact absurd rfl (hends ':' rfl).2
    · rfl
  · have hstop : rest.takeWhile isConstraintChar = [] := by
      apply takeWhile_of_head
      intro c hc
      rcases hends c hc with rfl | rfl | rfl <;> rfl
    have hconstraint : (constraint ++ rest).takeWhile isConstraintChar =
        constraint := by
      rw [List.takeWhile_append_of_pos (hformed.constraint constraint rfl),
        hstop, List.append_nil]
    have hcolon : isNameChar ':' = false := rfl
    simp only [Token.text, List.cons_append, List.append_assoc]
    rw [scan_open hformed.starts hformed.name, List.takeWhile_cons_of_neg
      (by simp [hcolon]),
      List.dropWhile_cons_of_neg (by simp [hcolon]), List.append_nil]
    simp only [scanBehind]
    rw [hconstraint, dropWhile_of_takeWhile hconstraint]

theorem scan_of_cuts (h : template.Cuts text) :
    scan .literal text = template := by
  induction template using Template.induction generalizing text with
  | empty =>
      rw [← h.text]
      rfl
  | char c template ih =>
      obtain ⟨rest, rfl, hat, hrest⟩ := cuts_addChar.mp h
      rw [scan_plain hat, ih hrest]
  | token token template ih =>
      obtain ⟨rest, rfl, hformed, hends, hrest⟩ := cuts_addToken.mp h
      rw [scan_token_of_ends hformed hends, ih hrest]

private theorem cuts_scanBehind {name behind : List Char}
    (hstarts : startsName name) (hname : ∀ c ∈ name, isNameChar c)
    (hbehind : ∀ c, behind.head? = some c → isNameChar c = false)
    (h : ∀ rest : List Char, rest.length ≤ behind.length →
      (scan .literal rest).Cuts rest) :
    (scanBehind name behind).Cuts ('@' :: (name ++ behind)) := by
  unfold scanBehind
  split
  · next text =>
      have hsplit := @List.takeWhile_append_dropWhile _ isConstraintChar text
      have hlength := List.length_dropWhile_le isConstraintChar text
      refine cuts_addToken.mpr
        ⟨text.dropWhile isConstraintChar, ?_, ?_, ?_, h _ ?_⟩
      · simp [Token.text, hsplit]
      · refine ⟨hstarts, hname, ?_⟩
        rintro _ ⟨⟩ c hc
        exact List.mem_takeWhile_imp hc
      · intro c hc
        have hnot := head_dropWhile hc
        simp only [isConstraintChar, Bool.and_eq_false_iff, bne_eq_false_iff_eq]
          at hnot
        tauto
      · simp only [List.length_cons]
        omega
  · next text hcolon =>
      refine cuts_addToken.mpr ⟨behind, rfl, ⟨hstarts, hname, by simp⟩,
        ?_, h _ (Nat.le_refl _)⟩
      intro c hc
      refine ⟨hbehind c hc, ?_⟩
      rintro rfl
      cases behind with
      | nil => simp at hc
      | cons d behind =>
          simp only [List.head?_cons, Option.some.injEq] at hc
          exact hcolon behind (by rw [hc])

theorem cuts_scan (text : List Char) : (scan .literal text).Cuts text := by
  -- the scan goes on behind a whole token, so the induction is on the length
  induction hlength : text.length using Nat.strong_induction_on
    generalizing text with
  | _ length ih =>
      subst hlength
      cases text with
      | nil => exact cuts_empty
      | cons c rest =>
          by_cases hopen : c = '@' ∧ startsName rest
          · obtain ⟨rfl, hstarts⟩ := hopen
            have hsplit := @List.takeWhile_append_dropWhile _ isNameChar rest
            have hlength := List.length_dropWhile_le isNameChar rest
            have hname : startsName (rest.takeWhile isNameChar) := by
              cases rest with
              | nil => cases hstarts
              | cons d rest =>
                  have hd : isNameChar d := hstarts
                  simp [startsName, hd]
            have hshorter : ∀ shorter : List Char,
                shorter.length ≤ (rest.dropWhile isNameChar).length →
                  (scan .literal shorter).Cuts shorter := by
              intro shorter hle
              apply ih shorter.length _ shorter rfl
              simp only [List.length_cons]
              omega
            have hcuts :=
              cuts_scanBehind hname (fun c hc => List.mem_takeWhile_imp hc)
              (fun c hc => head_dropWhile hc) hshorter
            rw [scan, if_pos ⟨rfl, hstarts⟩, scan_name]
            rwa [hsplit] at hcuts
          · have hat : c = '@' → startsName rest = false := by
              intro hc
              simpa using fun hstarts => hopen ⟨hc, hstarts⟩
            rw [scan_plain hat]
            exact cuts_addChar.mpr
              ⟨rest, rfl, hat, ih rest.length (by simp) rest rfl⟩

theorem cuts_iff {pattern : List Char} : template.Cuts pattern ↔
    template = ofText pattern := by
  constructor
  · intro h
    exact (scan_of_cuts h).symm
  · rintro rfl
    exact cuts_scan pattern

private theorem width_text_pos (token : Token) : 0 < Utf8.width token.text := by
  obtain ⟨name, _ | constraint⟩ := token <;>
    exact Nat.lt_of_lt_of_le (Utf8.length_encodeChar_pos '@')
      (by simp [Token.text, Utf8.width])

variable {parts before after : List (Token × List Char)}
    {literal : List Char} {start : Nat}

theorem text_of_parts
    (hparts : template.parts = before ++ (token, literal) :: after) :
    template.text = Template.text { lead := template.lead, parts := before } ++
      token.text ++
      (literal ++ Template.text { parts := after }) := by
  simp [Template.text, hparts]

theorem map_fst_spansFrom (start : Nat) (parts : List (Token × List Char)) :
    (spansFrom start parts).map Prod.fst = parts.map Prod.fst := by
  induction parts generalizing start with
  | nil => rfl
  | cons part parts ih => simp [spansFrom, ih]

private theorem getElem?_spansFrom (lead : List Char) :
    (spansFrom (Utf8.width lead)
      (before ++ (token, literal) :: after))[before.length]? =
      some (token, Utf8.width (Template.text { lead, parts := before }),
        Utf8.width
          (Template.text { lead, parts := before } ++ token.text)) := by
  induction before generalizing lead with
  | nil => simp [spansFrom, Template.text, Utf8.width_append]
  | cons part before ih =>
      have hlead := ih (lead ++ part.1.text ++ part.2)
      simp only [Utf8.width_append] at hlead
      simp only [List.cons_append, spansFrom, List.length_cons,
        List.getElem?_cons_succ, hlead]
      simp [Template.text, Utf8.width_append, Nat.add_assoc]

theorem le_of_mem_spansFrom : ∀ entry ∈ spansFrom start parts,
    start ≤ entry.2.1 ∧ entry.2.1 < entry.2.2 := by
  induction parts generalizing start with
  | nil => simp [spansFrom]
  | cons part parts ih =>
      intro entry hentry
      have hpos := width_text_pos part.1
      rcases List.mem_cons.mp hentry with rfl | hlater
      · simp only
        omega
      · have hbound := ih entry hlater
        omega

private theorem pairwise_spansFrom (start : Nat)
    (parts : List (Token × List Char)) :
    (spansFrom start parts).Pairwise fun first second =>
      first.2.2 ≤ second.2.1 := by
  induction parts generalizing start with
  | nil => exact List.Pairwise.nil
  | cons part parts ih =>
      refine List.Pairwise.cons (fun entry hentry => ?_) (ih _)
      have hbound := le_of_mem_spansFrom entry hentry
      simp only
      omega

/--
Whatever the pattern, the scanner's template is the one cut of it.  The spans
are those of its tokens, in order: each covers the bytes of its token in the
pattern, is not empty, and ends before the next begins.
-/
theorem ofText_only_cut (pattern : List Char) :
    (∀ template : Template, template.Cuts pattern ↔ template = ofText pattern) ∧
    (ofText pattern).spans.map Prod.fst = (ofText pattern).tokens ∧
    (∀ before token literal after,
      (ofText pattern).parts = before ++ (token, literal) :: after →
        let front :=
          Template.text { lead := (ofText pattern).lead, parts := before }
        let start := Utf8.width front
        let stop := Utf8.width (front ++ token.text)
        (ofText pattern).spans[before.length]? = some (token, start, stop) ∧
          pattern = front ++ token.text ++
            (literal ++ Template.text { parts := after }) ∧
          ((Utf8.encode pattern).take stop).drop start =
            Utf8.encode token.text) ∧
    (∀ entry ∈ (ofText pattern).spans, entry.2.1 < entry.2.2) ∧
    (ofText pattern).spans.Pairwise fun first second =>
      first.2.2 ≤ second.2.1 := by
  refine ⟨fun _ => cuts_iff, map_fst_spansFrom _ _, ?_,
    fun entry hentry => (le_of_mem_spansFrom entry hentry).2,
    pairwise_spansFrom _ _⟩
  intro before token literal after hparts front start stop
  have htext : pattern = front ++ token.text ++
      (literal ++ Template.text { parts := after }) :=
    (cuts_scan pattern).text.symm.trans (text_of_parts hparts)
  refine ⟨?_, htext, ?_⟩
  · rw [spans, hparts]
    exact getElem?_spansFrom _
  · have hstop : stop = (Utf8.encode (front ++ token.text)).length := rfl
    have hstart : start = (Utf8.encode front).length := rfl
    rw [htext, Utf8.encode_append, hstop, List.take_left,
      Utf8.encode_append, hstart, List.drop_left]

theorem ofText_only_cut_nested :
    let pattern := "é/@@a:x@b(@c)".toList
    (ofText pattern).spans[1]? = some (⟨['c'], none⟩, 11, 13) ∧
      ((Utf8.encode pattern).take 13).drop 11 = Utf8.encode ['@', 'c'] := by
  intro pattern
  have hparts : (ofText pattern).parts =
      [(⟨['a'], some ['x', '@', 'b']⟩, ['('])] ++
        (⟨['c'], none⟩, [')']) :: [] := by
    decide
  obtain ⟨hspan, -, hbytes⟩ := (ofText_only_cut pattern).2.2.1 _ _ _ _ hparts
  exact ⟨hspan, hbytes⟩

end Template

end Signpost
