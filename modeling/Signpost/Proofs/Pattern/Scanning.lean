import Mathlib.Data.List.TakeWhile
import Signpost.Pattern.Expression
import Signpost.Proofs.Data.List
import Signpost.Proofs.Pattern.Shape

/-!
# Scanning what a shape writes

The scanner takes as much for a token as it can.  When it finds just the tokens
of a shape in its text, it has cut the text where the shape does, and the
expression of the pattern is made from the parts of the shape, one by one.
-/

namespace Signpost

structure Token.WellFormed (token : Token) : Prop where
  starts : startsName token.name
  name : ∀ c ∈ token.name, isNameChar c
  constraint : ∀ text, token.constraint = some text →
    ∀ c ∈ text, isConstraintChar c

namespace Template

@[simp] theorem tokens_addChar (c : Char) (template : Template) :
    (addChar c template).tokens = template.tokens := rfl

@[simp] theorem tokens_addToken (token : Token) (template : Template) :
    (addToken token template).tokens = token :: template.tokens := rfl

/-- The name and the constraint read so far are the beginning of a token. -/
def ScanState.Ready (text : List Char) : ScanState → Prop
  | .literal => True
  | .name read => startsName (read.reverse ++ text) ∧ ∀ c ∈ read, isNameChar c
  | .constraint whole read => startsName whole ∧
      (∀ c ∈ whole, isNameChar c) ∧ ∀ c ∈ read, isConstraintChar c

private theorem startsName_reverse {name : List Char} {c : Char}
    {rest : List Char}
    (h : startsName (name.reverse ++ c :: rest)) (hc : isNameChar c = false) :
    startsName name.reverse := by
  cases hname : name.reverse with
  | nil =>
      rw [hname] at h
      simp [startsName, hc] at h
  | cons d name =>
      rw [hname] at h
      exact h

theorem wellFormed_of_mem (text : List Char) : ∀ state : ScanState,
    state.Ready text → ∀ token ∈ (scan state text).tokens,
      token.WellFormed := by
  -- the token being read is in the state, so the induction is over all states
  induction text with
  | nil =>
      intro state hready token hmem
      cases state with
      | literal => cases hmem
      | name name =>
          cases List.mem_singleton.mp hmem
          exact ⟨by simpa using hready.1, by simpa using hready.2, by simp⟩
      | constraint name constraint =>
          cases List.mem_singleton.mp hmem
          exact ⟨hready.1, hready.2.1, by simpa using hready.2.2⟩
  | cons c rest ih =>
      intro state hready token hmem
      cases state with
      | literal =>
          rw [scan] at hmem
          split at hmem
          · next hopen => exact ih (.name []) ⟨hopen.2, by simp⟩ token hmem
          · exact ih .literal trivial token hmem
      | name name =>
          rw [scan] at hmem
          split at hmem
          · next hc =>
              refine ih (.name (c :: name))
                ⟨by simpa using hready.1, fun d hd => ?_⟩ token hmem
              rcases List.mem_cons.mp hd with rfl | hd
              · exact hc
              · exact hready.2 d hd
          · next hc =>
              have hstarts := startsName_reverse hready.1 (by simpa using hc)
              have hname : ∀ d ∈ name.reverse, isNameChar d := by
                simpa using hready.2
              have hdone : Token.WellFormed ⟨name.reverse, none⟩ :=
                ⟨hstarts, hname, by simp⟩
              split at hmem
              · exact ih (.constraint name.reverse []) ⟨hstarts, hname, by simp⟩
                  token hmem
              split at hmem
              · next hopen =>
                  rcases List.mem_cons.mp hmem with rfl | hmem
                  · exact hdone
                  · exact ih (.name []) ⟨hopen.2, by simp⟩ token hmem
              · rcases List.mem_cons.mp hmem with rfl | hmem
                · exact hdone
                · exact ih .literal trivial token hmem
      | constraint name constraint =>
          rw [scan] at hmem
          split at hmem
          · next hc =>
              refine ih (.constraint name (c :: constraint))
                ⟨hready.1, hready.2.1, fun d hd => ?_⟩ token hmem
              rcases List.mem_cons.mp hd with rfl | hd
              · exact hc
              · exact hready.2.2 d hd
          · rcases List.mem_cons.mp hmem with rfl | hmem
            · exact ⟨hready.1, hready.2.1, by simpa using hready.2.2⟩
            · exact ih .literal trivial token hmem

private theorem scan_constraint (name text : List Char) : ∀ constraint,
    scan (.constraint name constraint) text =
      addToken
        ⟨name, some (constraint.reverse ++ text.takeWhile isConstraintChar)⟩
        (scan .literal (text.dropWhile isConstraintChar)) := by
  induction text with
  | nil => simp [scan]
  | cons c text ih =>
      intro constraint
      rw [scan]
      cases hc : isConstraintChar c with
      | true => simp [hc, ih]
      | false =>
          have hat : c ≠ '@' := by
            rintro rfl
            cases hc
          simp [hc, scan, hat]

def scanBehind (name : List Char) : List Char → Template
  | ':' :: text =>
    addToken ⟨name, some (text.takeWhile isConstraintChar)⟩
      (scan .literal (text.dropWhile isConstraintChar))
  | text => addToken ⟨name, none⟩ (scan .literal text)

theorem scan_name (text : List Char) : ∀ name, scan (.name name) text =
    scanBehind (name.reverse ++ text.takeWhile isNameChar)
      (text.dropWhile isNameChar) := by
  induction text with
  | nil => simp [scan, scanBehind]
  | cons c text ih =>
      intro name
      rw [scan]
      cases hc : isNameChar c with
      | true => simp [hc, ih]
      | false =>
          by_cases hcolon : c = ':'
          · simp [hcolon, scanBehind, scan_constraint,
              show isNameChar ':' = false from rfl]
          · by_cases hopen : c = '@' ∧ startsName text
            · have hat : isNameChar '@' = false := rfl
              simp [hopen, hat, scanBehind, scan]
            · simp [hc, hcolon, hopen, scanBehind, scan]

theorem wellFormed_of_mem_tokens {text : List Char} {token : Token}
    (h : token ∈ (scan .literal text).tokens) : token.WellFormed :=
  wellFormed_of_mem text .literal trivial token h

theorem scan_addChar {c : Char} (hc : c ≠ '@') (text : List Char) :
    scan .literal (c :: text) = addChar c (scan .literal text) := by
  simp [scan, hc]

theorem startsName_append {name : List Char} (h : startsName name)
    (text : List Char) : startsName (name ++ text) := by
  cases name with
  | nil => cases h
  | cons c name => exact h

private theorem name_of_scanBehind {name text : List Char} {token : Token}
    {more : List Token} (h : (scanBehind name text).tokens = token :: more) :
    token.name = name := by
  unfold scanBehind at h
  split at h
  · rw [← (List.cons_eq_cons.mp h).1]
  · rw [← (List.cons_eq_cons.mp h).1]

theorem scan_open {name : List Char} (hstarts : startsName name)
    (hname : ∀ c ∈ name, isNameChar c) (rest : List Char) :
    scan .literal ('@' :: (name ++ rest)) =
      scanBehind (name ++ rest.takeWhile isNameChar)
        (rest.dropWhile isNameChar) := by
  rw [scan, if_pos ⟨rfl, startsName_append hstarts rest⟩, scan_name,
    List.takeWhile_append_of_pos hname, List.dropWhile_append_of_pos hname]
  rfl

private theorem scan_token {token : Token} {text : List Char}
    {more : List Token}
    (h : (scan .literal (token.text ++ text)).tokens = token :: more) :
    scan .literal (token.text ++ text) = addToken token
      (scan .literal text) := by
  have hformed : token.WellFormed := wellFormed_of_mem_tokens (by rw [h]; simp)
  obtain ⟨name, constraint⟩ := token
  have hopen := scan_open hformed.starts hformed.name
  cases constraint with
  | none =>
      simp only [Token.text, List.cons_append] at h ⊢
      rw [hopen] at h ⊢
      have hrun : text.takeWhile isNameChar = [] := by
        simpa using name_of_scanBehind h
      have hrest := @dropWhile_of_takeWhile _ isNameChar text [] hrun
      simp only [List.nil_append] at hrest
      rw [hrun, hrest, List.append_nil] at h ⊢
      unfold scanBehind at h ⊢
      split at h
      · cases (List.cons_eq_cons.mp h).1
      · rfl
  | some constraint =>
      have hcolon : isNameChar ':' = false := rfl
      simp only [Token.text, List.cons_append, List.append_assoc] at h ⊢
      rw [hopen] at h ⊢
      rw [List.takeWhile_cons_of_neg (by simp [hcolon]),
        List.dropWhile_cons_of_neg (by simp [hcolon]), List.append_nil] at h ⊢
      simp only [scanBehind, tokens_addToken] at h ⊢
      have hrun : (constraint ++ text).takeWhile isConstraintChar =
          constraint := by
        simpa using (List.cons_eq_cons.mp h).1
      rw [hrun, dropWhile_of_takeWhile hrun]

end Template

namespace Shape

open Template

variable {insensitive : Bool}

def onto (template : Template) : Shape insensitive → Template
  | done => template
  | plain c next => addChar c (next.onto template)
  | token name constraint next =>
    addToken (tokenOf name constraint) (next.onto template)
  | wildcard next => addChar '/' (addChar '*' (next.onto template))
  | optional inner next =>
    addChar '(' (inner.onto (addChar ')' (next.onto template)))

private theorem scan_onto (shape : Shape insensitive) : ∀ {text more},
    (scan .literal (shape.text ++ text)).tokens = shape.tokens ++ more →
    scan .literal (shape.text ++ text) = shape.onto (scan .literal text) ∧
      (scan .literal text).tokens = more := by
  induction shape with
  | done => exact fun h => ⟨rfl, h⟩
  | plain c next ih =>
      intro text more h
      have hat : c.val ≠ '@' := PlainChar.ne c.property (by decide)
      simp only [Shape.text, List.cons_append, scan_addChar hat] at h ⊢
      obtain ⟨hscan, hmore⟩ := ih h
      exact ⟨by rw [hscan]; rfl, hmore⟩
  | token name constraint next ih =>
      intro text more h
      simp only [Shape.text, List.append_assoc] at h ⊢
      have hscan := scan_token h
      rw [hscan] at h ⊢
      obtain ⟨hnext, hmore⟩ := ih (List.cons_eq_cons.mp h).2
      exact ⟨by rw [hnext]; rfl, hmore⟩
  | wildcard next ih =>
      intro text more h
      have hslash : '/' ≠ '@' := by decide
      have hstar : '*' ≠ '@' := by decide
      simp only [Shape.text, List.cons_append, scan_addChar hslash,
        scan_addChar hstar] at h ⊢
      obtain ⟨hscan, hmore⟩ := ih h
      exact ⟨by rw [hscan]; rfl, hmore⟩
  | optional inner next ihinner ihnext =>
      intro text more h
      have hopen : '(' ≠ '@' := by decide
      have hclose : ')' ≠ '@' := by decide
      simp only [Shape.text, List.cons_append, scan_addChar hopen,
        List.append_assoc] at h ⊢
      simp only [tokens_addChar, Shape.tokens, List.append_assoc] at h
      obtain ⟨hinner, hrest⟩ := ihinner h
      rw [scan_addChar hclose] at hinner hrest
      obtain ⟨hnext, hmore⟩ := ihnext hrest
      exact ⟨by rw [hinner, hnext]; rfl, hmore⟩

theorem ofText_text {shape : Shape insensitive}
    (h : (ofText shape.text).tokens = shape.tokens) :
    ofText shape.text = shape.onto {} := by
  obtain ⟨hscan, -⟩ := @scan_onto _ shape [] []
    (by simpa [ofText] using h)
  simpa [ofText, scan] using hscan

end Shape

end Signpost
