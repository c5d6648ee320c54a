import Signpost.Proofs.Pattern.Cutting
import Signpost.Proofs.Pattern.Expression

/-!
# Patterns translated in one pass

The expression of a pattern is made by cutting the pattern at its tokens and
replacing twice in every literal.  One pass from left to right, which at each
place takes what it prefers there and never looks back, writes the same.
-/

namespace Signpost

open Template

/-- What a pass meets at one place of a pattern. -/
inductive Piece where
  | token (found : Token)
  | wildcard
  | close
  | plain (c : Char)
  deriving DecidableEq, Repr

namespace Piece

def text : Piece → List Char
  | token found => found.text
  | wildcard => "/*".toList
  | close => ")".toList
  | plain c => [c]

def expression : Piece → List Char
  | token found =>
    "(?P<".toList ++ found.name ++ '>' :: found.constraint.getD
      "[^/?]+".toList ++ [')']
  | wildcard => "(/?|/.*?)".toList
  | close => ")?".toList
  | plain c => [c]

def token? : Piece → Option Token
  | token found => some found
  | _ => none

/--
The piece is what the pass prefers with the given text behind it: a whole token
to anything else, a wildcard to its slash alone.
-/
inductive Preferred : Piece → List Char → Prop
  | token {found rest} : found.WellFormed → found.EndsBefore rest →
      Preferred (.token found) rest
  | wildcard {rest} : Preferred .wildcard rest
  | close {rest} : Preferred .close rest
  | plain {c rest} : (c = '@' → startsName rest = false) →
      (c = '/' → rest.head? ≠ some '*') →
      c ≠ ')' → Preferred (.plain c) rest

end Piece

def tokenAt? : List Char → Option (Token × List Char)
  | '@' :: text =>
    if startsName text then
      match text.takeWhile isNameChar, text.dropWhile isNameChar with
      | name, ':' :: behind =>
        some (⟨name, some (behind.takeWhile isConstraintChar)⟩,
          behind.dropWhile isConstraintChar)
      | name, behind => some (⟨name, none⟩, behind)
    else none
  | _ => none

def firstPiece (c : Char) (rest : List Char) : Piece × List Char :=
  match tokenAt? (c :: rest) with
  | some (token, behind) => (.token token, behind)
  | none =>
    match c, rest with
    | '/', '*' :: behind => (.wildcard, behind)
    | ')', rest => (.close, rest)
    | c, rest => (.plain c, rest)

variable {token : Token} {text rest behind : List Char}
    {c : Char} {piece : Piece}

private theorem scan_of_tokenAt? (h : tokenAt? text = some (token, behind)) :
    scan .literal text = addToken token (scan .literal behind) := by
  unfold tokenAt? at h
  split at h
  · next text =>
      split at h
      · next hstarts =>
          rw [scan, if_pos ⟨rfl, hstarts⟩, scan_name,
            List.reverse_nil, List.nil_append]
          split at h
          · next hcolon =>
              obtain ⟨rfl, rfl⟩ := Prod.mk.inj (Option.some.inj h)
              rw [hcolon]
              rfl
          · next hcolon =>
              obtain ⟨rfl, rfl⟩ := Prod.mk.inj (Option.some.inj h)
              unfold scanBehind
              split
              · next behind hbehind => exact absurd hbehind (hcolon behind)
              · rfl
      · cases h
  · cases h

private theorem tokenAt?_eq_some (h : tokenAt? text = some (token, behind)) :
    text = token.text ++ behind ∧ token.WellFormed ∧
    token.EndsBefore behind := by
  have hcuts := cuts_scan text
  rw [scan_of_tokenAt? h, cuts_addToken] at hcuts
  obtain ⟨rest, htext, hformed, hends, hrest⟩ := hcuts
  have hbehind : behind = rest := (cuts_scan behind).text.symm.trans hrest.text
  subst hbehind
  exact ⟨htext, hformed, hends⟩

private theorem startsName_of_tokenAt? (h : tokenAt? ('@' :: rest) = none) :
    startsName rest = false := by
  cases hstarts : startsName rest with
  | false => rfl
  | true =>
      simp only [tokenAt?, hstarts, if_true] at h
      split at h <;> cases h

theorem firstPiece_spec (c : Char) (rest : List Char) :
    c :: rest = (firstPiece c rest).1.text ++ (firstPiece c rest).2 ∧
      (firstPiece c rest).1.Preferred (firstPiece c rest).2 := by
  unfold firstPiece
  split
  · next token behind htoken =>
      obtain ⟨htext, hformed, hends⟩ := tokenAt?_eq_some htoken
      exact ⟨htext, .token hformed hends⟩
  · next hnone =>
      split
      · exact ⟨rfl, .wildcard⟩
      · exact ⟨rfl, .close⟩
      · next hclose hwild =>
          refine ⟨rfl, .plain ?_ ?_ ?_⟩
          · rintro rfl
            exact startsName_of_tokenAt? hnone
          · rintro rfl hstar
            obtain ⟨more, rfl⟩ := List.head?_eq_some_iff.mp hstar
            exact hwild more rfl rfl
          · rintro rfl
            exact hclose rfl

private theorem Piece.length_text_pos (piece : Piece) :
    0 < piece.text.length := by
  cases piece with
  | token found =>
      obtain ⟨name, _ | constraint⟩ := found <;> simp [Piece.text, Token.text]
  | wildcard => decide
  | close => decide
  | plain c => simp [Piece.text]

theorem length_firstPiece_lt (c : Char) (rest : List Char) :
    (firstPiece c rest).2.length < (c :: rest).length := by
  have htext := (firstPiece_spec c rest).1
  have hpos := (firstPiece c rest).1.length_text_pos
  rw [htext, List.length_append]
  omega

def pieces : List Char → List Piece
  | [] => []
  | c :: rest => (firstPiece c rest).1 :: pieces (firstPiece c rest).2
termination_by text => text.length
decreasing_by exact length_firstPiece_lt c rest

def Piece.onto (template : Template) : Piece → Template
  | .token found => addToken found template
  | .wildcard => addChar '/' (addChar '*' template)
  | .close => addChar ')' template
  | .plain c => addChar c template

theorem scan_of_preferred (h : piece.Preferred rest) :
    scan .literal (piece.text ++ rest) = piece.onto (scan .literal rest) := by
  cases h with
  | token hformed hends => exact scan_token_of_ends hformed hends
  | wildcard =>
      have hslash : '/' ≠ '@' := by decide
      have hstar : '*' ≠ '@' := by decide
      change scan .literal ('/' :: '*' :: rest) = _
      rw [scan_addChar hslash, scan_addChar hstar]
      rfl
  | close =>
      have hclose : ')' ≠ '@' := by decide
      exact scan_addChar hclose rest
  | plain hat _ _ => exact scan_plain hat

theorem tokens_onto (piece : Piece) (template : Template) :
    (piece.onto template).tokens = piece.token?.toList ++ template.tokens := by
  cases piece <;> rfl

private theorem expression_token (token : Token) :
    (Piece.token token).expression = tokenExpression token := rfl

private theorem head?_lead_scan (h : rest.head? ≠ some '*') :
    (scan .literal rest).lead.head? ≠ some '*' := by
  intro hlead
  obtain ⟨lead, hlead⟩ := List.head?_eq_some_iff.mp hlead
  rw [← (cuts_scan rest).text, Template.text, hlead] at h
  exact h rfl

private theorem bodyExpression_of_preferred (h : piece.Preferred rest) :
    (scan .literal (piece.text ++ rest)).bodyExpression =
      piece.expression ++ (scan .literal rest).bodyExpression := by
  rw [scan_of_preferred h]
  cases h with
  | token hformed hends =>
      rw [Piece.onto, Shape.bodyExpression_addToken, expression_token]
  | wildcard =>
      change literalExpression
        ('/' :: '*' :: (scan .literal rest).lead) ++ _ = _
      rw [Shape.literalExpression_wildcard, List.append_assoc]
      rfl
  | close =>
      change literalExpression (')' :: (scan .literal rest).lead) ++ _ = _
      rw [Shape.literalExpression_close]
      rfl
  | @plain c rest hat hslash hclose =>
      rw [Piece.onto, Shape.bodyExpression_addChar hclose]
      · rfl
      · by_cases hc : c = '/'
        · exact .inr (head?_lead_scan (hslash hc))
        · exact .inl hc

theorem flatMap_text_pieces (pattern : List Char) :
    (pieces pattern).flatMap Piece.text = pattern := by
  fun_induction pieces pattern with
  | case1 => rfl
  | case2 c rest ih => rw [List.flatMap_cons, ih, ← (firstPiece_spec c rest).1]

private theorem bodyExpression_pieces (pattern : List Char) :
    (ofText pattern).bodyExpression =
      (pieces pattern).flatMap Piece.expression := by
  fun_induction pieces pattern with
  | case1 => rfl
  | case2 c rest ih =>
      obtain ⟨htext, hfirst⟩ := firstPiece_spec c rest
      rw [List.flatMap_cons, ← ih, ofText, htext,
        bodyExpression_of_preferred hfirst]
      rfl

private theorem tokens_pieces (pattern : List Char) :
    (ofText pattern).tokens = (pieces pattern).filterMap Piece.token? := by
  fun_induction pieces pattern with
  | case1 => rfl
  | case2 c rest ih =>
      obtain ⟨htext, hfirst⟩ := firstPiece_spec c rest
      rw [ofText, htext, scan_of_preferred hfirst, tokens_onto, ← ofText, ih]
      cases (firstPiece c rest).1 <;> rfl

private theorem preferred_of_pieces {pattern : List Char}
    {before after : List Piece}
    (h : pieces pattern = before ++ piece :: after) :
    piece.Preferred (after.flatMap Piece.text) := by
  induction before generalizing pattern with
  | nil =>
      cases pattern with
      | nil => simp [pieces] at h
      | cons c rest =>
          rw [pieces] at h
          obtain ⟨rfl, rfl⟩ := List.cons_eq_cons.mp h
          rw [flatMap_text_pieces]
          exact (firstPiece_spec c rest).2
  | cons first before ih =>
      cases pattern with
      | nil => simp [pieces] at h
      | cons c rest =>
          rw [pieces] at h
          exact ih (List.cons_eq_cons.mp h).2

/--
The expression is what one pass from left to right writes, piece by piece, with
the slash at the end made optional.  The pieces make up the pattern, the tokens
among them are those of the pattern, and each is what is preferred at its place.
-/
theorem synthesize_one_pass (pattern : List Char) :
    synthesize pattern = (pieces pattern).flatMap Piece.expression ++
        (if pattern.getLast? = some '/' then "?".toList else "/?".toList) ∧
      (pieces pattern).flatMap Piece.text = pattern ∧
      (pieces pattern).filterMap Piece.token? = (ofText pattern).tokens ∧
      ∀ before piece after, pieces pattern = before ++ piece :: after →
        piece.Preferred (after.flatMap Piece.text) := by
  refine ⟨?_, flatMap_text_pieces pattern, (tokens_pieces pattern).symm,
    fun _ _ _ => preferred_of_pieces⟩
  rw [synthesize, bodyExpression_pieces]
  rfl

theorem synthesize_one_pass_mixed :
    let pattern := "/(@a:x*/*)@@b/".toList
    let before : List Piece := [.plain '/', .plain '(']
    let piece : Piece := .token ⟨['a'], some ['x', '*']⟩
    let after : List Piece :=
      [.wildcard, .close, .plain '@', .token ⟨['b'], none⟩, .plain '/']
    pieces pattern = before ++ piece :: after ∧
      piece.Preferred "/*)@@b/".toList ∧
      synthesize pattern = "/((?P<a>x*)(/?|/.*?))?@(?P<b>[^/?]+)/?".toList := by
  intro pattern before piece after
  have hpieces : pieces pattern = before ++ piece :: after := by decide +kernel
  obtain ⟨hexpression, -, -, hpreferred⟩ := synthesize_one_pass pattern
  refine ⟨hpieces, hpreferred before piece after hpieces, ?_⟩
  rw [hexpression, hpieces]
  rfl

end Signpost
