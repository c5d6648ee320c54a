import Mathlib.Data.List.TakeWhile
import Signpost.Proofs.Data.List
import Signpost.Proofs.Regex.Reading

/-!
# Reading with text behind

An expression that can be read alone is read in the same way when a parenthesis
and more text follow it: no lexeme of it reaches up to the parenthesis.  Under
the flag `x` this is so where the lexeme is not the last one, since what is left
out behind it might be a comment that goes on.
-/

namespace Signpost.Regex

def IsParenthesis (c : Char) : Prop := c = '(' ∨ c = ')'

theorem IsParenthesis.ne {mark c : Char} (h : IsParenthesis mark)
    (hopen : '(' ≠ c) (hclose : ')' ≠ c) : mark ≠ c := by
  rcases h with rfl | rfl
  · exact hopen
  · exact hclose

/--
What is read alone is read with text behind too, and leaves it.  Under the flag
`x` something must be left alone.
-/
def Carries {α : Type} (verbose : Bool) (behind : List Char)
    (alone within : Except Error (α × List Char)) : Prop :=
  ∀ value rest, alone = .ok (value, rest) → (verbose = true → rest ≠ []) →
    within = .ok (value, rest ++ behind)

section Carries

variable {α β : Type} {verbose : Bool} {behind : List Char}

theorem carries_error (error : Error) (within : Except Error (α × List Char)) :
    Carries verbose behind (.error error) within := by
  intro value rest h
  cases h

theorem carries_ok (value : α) (rest : List Char) :
    Carries verbose behind (.ok (value, rest))
      (.ok (value, rest ++ behind)) := by
  rintro _ _ ⟨⟩ -
  rfl

theorem Carries.bind {alone within : Except Error (α × List Char)}
    {next next' : α × List Char → Except Error (β × List Char)}
    (h : Carries verbose behind alone within)
    (hend : ∀ value, Leaves [] (next (value, [])))
    (hnext : ∀ value rest, Carries verbose behind (next (value, rest))
      (next' (value, rest ++ behind))) :
    Carries verbose behind (alone >>= next) (within >>= next') := by
  intro value rest hok hrest
  obtain ⟨⟨first, middle⟩, halone, hok⟩ := bind_eq_ok_iff.mp hok
  have hmiddle : verbose = true → middle ≠ [] := by
    rintro hverbose rfl
    exact hrest hverbose (List.suffix_nil.mp (hend _ _ _ hok))
  rw [h first middle halone hmiddle]
  exact hnext first middle value rest hok hrest

theorem carries_bind {value : Except Error α}
    {next next' : α → Except Error (β × List Char)}
    (hnext : ∀ value, Carries verbose behind (next value) (next' value)) :
    Carries verbose behind (value >>= next) (value >>= next') := by
  cases value with
  | error error => exact carries_error error _
  | ok value => exact hnext value

theorem Carries.map {alone within : Except Error (α × List Char)}
    (h : Carries verbose behind alone within) (f : α → β) :
    Carries verbose behind (alone >>= fun read => .ok (f read.1, read.2))
      (within >>= fun read => .ok (f read.1, read.2)) :=
  h.bind (fun _ => leaves_ok.mpr (List.suffix_refl [])) fun _ _ =>
    carries_ok _ _

end Carries

variable {verbose : Bool} {behind : List Char}

/-! ## Blanks, runs and numbers -/

@[simp] theorem skip_false (text : List Char) : skip false text = text := rfl

@[simp] theorem skip_nil (verbose : Bool) : skip verbose [] = [] := by
  cases verbose <;> rfl

private theorem dropTrivia_append {text rest : List Char}
    {c : Char} : ∀ {inComment},
    dropTrivia inComment text = c :: rest →
    dropTrivia inComment (text ++ behind) = c :: (rest ++ behind) := by
  induction text with
  | nil =>
      intro inComment h
      cases h
  | cons d text ih =>
      intro inComment h
      rw [dropTrivia] at h
      rw [List.cons_append, dropTrivia]
      by_cases hcomment : inComment = true
      · rw [if_pos hcomment] at h ⊢
        exact ih h
      by_cases hblank : Unicode.isWhiteSpace d = true
      · rw [if_neg hcomment, if_pos hblank] at h ⊢
        exact ih h
      by_cases hsign : d = '#'
      · rw [if_neg hcomment, if_neg hblank, if_pos hsign] at h ⊢
        exact ih h
      · rw [if_neg hcomment, if_neg hblank, if_neg hsign] at h ⊢
        cases h
        rfl

theorem skip_append {text rest : List Char} {c : Char}
    (h : skip verbose text = c :: rest) :
    skip verbose (text ++ behind) = c :: (rest ++ behind) := by
  cases verbose with
  | false => exact congrArg (· ++ behind) h
  | true => exact dropTrivia_append h

theorem skip_append_of {text : List Char}
    (h : verbose = true → skip verbose text ≠ []) :
    skip verbose (text ++ behind) = skip verbose text ++ behind := by
  cases hskip : skip verbose text with
  | cons c rest => exact skip_append hskip
  | nil =>
      cases verbose with
      | false => exact congrArg (· ++ behind) hskip
      | true => exact absurd hskip (h rfl)

private theorem gatherWith_append {test : Char → Bool} (fuel : Nat) :
    ∀ {fuel' : Nat} {text taken rest : List Char} {c : Char}, fuel ≤ fuel' →
    text.length ≤ fuel → gatherWith verbose test fuel text =
      (taken, c :: rest) →
    gatherWith verbose test fuel' (text ++ behind) =
      (taken, c :: (rest ++ behind)) := by
  -- more text needs more fuel, so both amounts are free
  induction fuel with
  | zero =>
      intro fuel' text taken rest c _ hlength h
      cases List.length_eq_zero_iff.mp (Nat.le_zero.mp hlength)
      cases h
  | succ fuel ih =>
      intro fuel' text taken rest c hle hlength h
      obtain ⟨fuel', rfl⟩ :=
        Nat.exists_eq_add_one_of_ne_zero (n := fuel') (by omega)
      cases text with
      | nil => cases h
      | cons d text =>
          rw [gatherWith] at h
          rw [List.cons_append, gatherWith]
          by_cases htest : test d = true
          · rw [if_pos htest] at h ⊢
            cases hskip : skip verbose text with
            | nil =>
                rw [hskip] at h
                cases fuel <;> cases h
            | cons e more =>
                have hmore := (skip_suffix verbose text).length_le
                rw [hskip] at h hmore
                simp only [List.length_cons] at hlength hmore
                cases hread : gatherWith verbose test fuel (e :: more) with
                | mk first left =>
                    rw [hread] at h
                    cases h
                    rw [skip_append hskip, ← List.cons_append,
                      ih (by omega)
                        (by simp only [List.length_cons]; omega) hread]
          · rw [if_neg htest] at h ⊢
            cases h
            rfl

theorem gather_append {test : Char → Bool} {text taken rest : List Char}
    {c : Char} (h : gather verbose test text = (taken, c :: rest)) :
    gather verbose test (text ++ behind) = (taken, c :: (rest ++ behind)) :=
  gatherWith_append text.length (by simp) (Nat.le_refl _) h

theorem gather_skip_append {test : Char → Bool}
    {text taken rest : List Char} {c : Char}
    (h : gather verbose test (skip verbose text) = (taken, c :: rest)) :
    gather verbose test (skip verbose (text ++ behind)) =
      (taken, c :: (rest ++ behind)) := by
  cases hskip : skip verbose text with
  | nil =>
      rw [hskip] at h
      cases h
  | cons d more =>
      rw [skip_append hskip, ← List.cons_append]
      exact gather_append (by rw [← hskip, h])

theorem decimal_eq (text : List Char) :
    decimal verbose text =
      let read :=
        gather verbose Char.isDigit (text.dropWhile Unicode.isWhiteSpace)
      (if read.1 = [] then .error .repetitionCountEmpty
        else if decimalValue read.1 < countLimit then .ok (decimalValue read.1)
        else .error .decimalInvalid,
        (gather verbose Unicode.isWhiteSpace read.2).2) := by
  unfold decimal
  dsimp only
  split
  · rfl
  split
  · rfl
  · rfl

theorem decimal_append {text rest : List Char} {c : Char}
    {value : Except Error Nat} (h : decimal verbose text = (value, c :: rest)) :
    decimal verbose (text ++ behind) = (value, c :: (rest ++ behind)) := by
  rw [decimal_eq] at h ⊢
  cases hdrop : text.dropWhile Unicode.isWhiteSpace with
  | nil =>
      rw [hdrop] at h
      cases h
  | cons d text =>
  rw [hdrop] at h
  rw [dropWhile_append hdrop, ← List.cons_append]
  cases hdigits : gather verbose Char.isDigit (d :: text) with
  | mk digits after =>
  rw [hdigits] at h
  cases hblanks : gather verbose Unicode.isWhiteSpace after with
  | mk blanks left =>
  simp only [hblanks] at h
  cases after with
  | nil => cases hblanks; cases h
  | cons e after =>
      obtain ⟨hvalue, rfl⟩ := Prod.mk.inj h
      rw [gather_append hdigits]
      dsimp only
      rw [← List.cons_append, gather_append hblanks, hvalue]

theorem Carries.skip {α : Type} {read : Reader α}
    (hleaves : Leaves [] (read []))
    (h : ∀ text, Carries verbose behind (read text) (read (text ++ behind)))
    (text : List Char) : Carries verbose behind (read (skip verbose text))
      (read (skip verbose (text ++ behind))) := by
  by_cases hskip : verbose = true → Regex.skip verbose text ≠ []
  · rw [skip_append_of hskip]
    exact h _
  · push Not at hskip
    obtain ⟨hverbose, hnil⟩ := hskip
    rw [hnil]
    intro value rest hok hrest
    exact absurd (List.suffix_nil.mp (hleaves value rest hok)) (hrest hverbose)

/-! ## Escapes -/

private theorem hexDigits_carries (count : Nat) : ∀ text,
    Carries verbose behind (hexDigits verbose count text)
      (hexDigits verbose count (text ++ behind)) := by
  induction count with
  | zero => exact fun text => carries_ok _ _
  | succ count ih =>
      intro text
      cases text with
      | nil => exact carries_error _ _
      | cons c text =>
          rw [List.cons_append, hexDigits, hexDigits]
          split
          · exact (Carries.skip (hexDigits_leaves count []) ih text).map
              (c :: ·)
          · exact carries_error _ _

theorem hexEscape_carries (count : Nat) (text : List Char) :
    Carries verbose behind (hexEscape verbose count text)
      (hexEscape verbose count (text ++ behind)) := by
  unfold hexEscape
  cases hskip : skip verbose text with
  | nil => exact carries_error _ _
  | cons c rest =>
      rw [skip_append hskip]
      split
      · next heq => cases heq
      · next heq =>
          cases heq
          simp only
          cases hdigits : gather verbose isHexDigit (skip verbose rest) with
          | mk digits after =>
          cases after with
          | nil => exact carries_error _ _
          | cons d after =>
              rw [gather_skip_append hdigits]
              split
              · next heq => cases heq
              · next heq =>
                  cases heq
                  simp only
                  split
                  · exact carries_error _ _
                  · exact carries_bind fun c => carries_ok _ _
              · exact carries_error _ _
      · next hbrace =>
          split
          · next heq => cases heq
          · next heq =>
              exact absurd (by rw [(List.cons_eq_cons.mp heq).1]) (hbrace rest)
          · refine (hexDigits_carries count (c :: rest)).bind (fun digits => ?_)
              fun digits rest => ?_
            · exact leaves_bind fun c => leaves_pure.mpr (List.suffix_refl [])
            · exact carries_bind fun c => carries_ok _ _

theorem propertyEscape_carries (negated : Bool) (text : List Char) :
    Carries verbose behind (propertyEscape verbose negated text)
      (propertyEscape verbose negated (text ++ behind)) := by
  unfold propertyEscape
  cases hskip : skip verbose text with
  | nil => exact carries_error _ _
  | cons c rest =>
      rw [skip_append hskip]
      split
      · next heq => cases heq
      · next heq =>
          cases heq
          simp only
          cases hname : gather verbose (· != '}') (skip verbose rest) with
          | mk name after =>
          cases after with
          | nil => exact carries_error _ _
          | cons d after =>
              rw [gather_skip_append hname]
              exact carries_ok _ _
      · exact carries_error _ _
      · next hbrace hslash heq =>
          cases heq
          simp only
          exact carries_ok _ _

variable {mark : Char} {tail : List Char}

theorem wordBoundary_of_head {text : List Char} (h : text.head? ≠ some '{') :
    wordBoundary verbose text = .ok (.wordBoundary, text) := by
  unfold wordBoundary
  split
  · simp at h
  · rfl

private theorem wordBoundary_carries (hmark : IsParenthesis mark)
    (text : List Char) :
    Carries verbose (mark :: tail) (wordBoundary verbose text)
      (wordBoundary verbose (text ++ mark :: tail)) := by
  cases text with
  | nil =>
      have hbrace : mark ≠ '{' := hmark.ne (by decide) (by decide)
      rw [List.nil_append, wordBoundary_of_head (by simp),
        wordBoundary_of_head (by simpa using hbrace)]
      exact carries_ok _ []
  | cons c rest =>
      by_cases hc : c = '{'
      · subst hc
        simp only [wordBoundary, List.cons_append]
        cases hskip : skip verbose rest with
        | nil => exact carries_error _ _
        | cons d inside =>
            rw [skip_append hskip]
            simp only
            split
            · cases hname : gather verbose isBoundaryNameChar (d :: inside) with
              | mk name after =>
              cases after with
              | nil => exact carries_error _ _
              | cons e after =>
                  rw [← List.cons_append, gather_append hname]
                  split
                  · next heq =>
                      cases heq
                      simp only
                      split
                      · exact carries_ok _ _
                      · exact carries_ok _ _
                      · exact carries_ok _ _
                      · exact carries_ok _ _
                      · exact carries_error _ _
                  · exact carries_error _ _
            · exact carries_ok _ ('{' :: rest)
      · rw [wordBoundary_of_head (by simpa using hc), List.cons_append,
          wordBoundary_of_head (by simpa using hc)]
        exact carries_ok _ (c :: rest)

theorem escape_carries (hmark : IsParenthesis mark) (text : List Char) :
    Carries verbose (mark :: tail) (escape verbose text)
      (escape verbose (text ++ mark :: tail)) := by
  cases text with
  | nil => exact carries_error _ _
  | cons c rest =>
      simp only [List.cons_append, escape]
      split
      · exact carries_error _ _
      split
      · exact carries_ok _ _
      split
      case h_1 | h_2 | h_3 => exact hexEscape_carries _ _
      case h_4 | h_5 => exact propertyEscape_carries _ _
      case h_20 => exact (wordBoundary_carries hmark rest).map _
      case h_24 => exact carries_error _ _
      all_goals exact carries_ok _ _

/-! ## Bracketed classes -/

theorem classPrimitive_carries (hmark : IsParenthesis mark) (text : List Char) :
    Carries verbose (mark :: tail) (classPrimitive verbose text)
      (classPrimitive verbose (text ++ mark :: tail)) := by
  cases text with
  | nil => exact carries_error _ _
  | cons c rest =>
      by_cases hc : c = '\\'
      · subst hc
        exact escape_carries hmark rest
      · simp only [classPrimitive, List.cons_append]
        exact carries_ok _ _

private theorem dropTrivia_of_blank {text : List Char}
    (h : text.dropWhile Unicode.isWhiteSpace = []) :
    ∀ inComment, dropTrivia inComment text = [] := by
  induction text with
  | nil => exact fun _ => rfl
  | cons c text ih =>
      intro inComment
      rw [List.dropWhile_cons] at h
      split at h
      · next hblank =>
          rw [dropTrivia, if_pos hblank, ih h, ih h, ite_self]
      · cases h

private theorem dropTrivia_dropWhile (text : List Char) :
    dropTrivia false (text.dropWhile Unicode.isWhiteSpace) =
      dropTrivia false text := by
  induction text with
  | nil => rfl
  | cons c text ih =>
      by_cases hblank : Unicode.isWhiteSpace c = true
      · rw [List.dropWhile_cons_of_pos hblank, ih, dropTrivia, if_neg (by simp),
          if_pos hblank]
      · rw [List.dropWhile_cons_of_neg hblank]

private theorem skip_of_afterHyphen {text : List Char}
    (h : afterHyphen verbose text = none) :
    skip verbose text = [] := by
  cases verbose with
  | false => exact List.head?_eq_none_iff.mp h
  | true =>
      change dropTrivia false text = []
      rw [← dropTrivia_dropWhile]
      simp only [afterHyphen, if_true] at h
      split at h
      · next rest hdrop =>
          rw [hdrop, dropTrivia, if_neg (by simp),
            if_neg (by decide), if_pos rfl]
          exact dropTrivia_of_blank (List.head?_eq_none_iff.mp h) true
      · rw [List.head?_eq_none_iff.mp h]
        rfl

private theorem afterHyphen_append {text : List Char} {c : Char}
    (h : afterHyphen verbose text = some c) :
    afterHyphen verbose (text ++ behind) = some c := by
  cases verbose with
  | false =>
      cases text with
      | nil => cases h
      | cons d text => exact h
  | true =>
      simp only [afterHyphen, if_true] at h ⊢
      cases hdrop : text.dropWhile Unicode.isWhiteSpace with
      | nil =>
          rw [hdrop] at h
          cases h
      | cons d rest =>
          rw [hdrop] at h
          rw [dropWhile_append hdrop]
          by_cases hd : d = '#'
          · subst hd
            simp only at h ⊢
            cases hinside : rest.dropWhile Unicode.isWhiteSpace with
            | nil =>
                rw [hinside] at h
                cases h
            | cons e inside =>
                rw [hinside] at h
                rw [dropWhile_append hinside]
                exact h
          · simpa [hd] using h

theorem classItem_carries (hmark : IsParenthesis mark) (text : List Char) :
    Carries verbose (mark :: tail) (classItem verbose text)
      (classItem verbose (text ++ mark :: tail)) := by
  unfold classItem
  refine (classPrimitive_carries hmark text).bind (fun first => ?_)
    fun first rest => ?_
  · simp only [skip_nil, leaves_error]
  dsimp only
  cases hskip : skip verbose rest with
  | nil => exact carries_error _ _
  | cons c rest =>
      rw [skip_append hskip]
      split
      · next heq => cases heq
      · next heq =>
          cases heq
          simp only
          cases hafter : afterHyphen verbose rest with
          | none =>
              rw [skip_of_afterHyphen hafter, if_neg (by simp)]
              exact carries_error _ _
          | some d =>
              rw [afterHyphen_append hafter]
              split
              · exact carries_bind fun item => carries_ok _ ('-' :: rest)
              · cases hinside : skip verbose rest with
                | nil => exact carries_error _ _
                | cons e inside =>
                    rw [skip_append hinside]
                    refine (classPrimitive_carries hmark (e :: inside)).bind
                      (fun last => ?_) fun last rest => ?_
                    · refine leaves_bind fun first => leaves_bind fun last => ?_
                      split
                      · exact leaves_pure.mpr (List.suffix_refl [])
                      · exact leaves_error _
                    · refine carries_bind fun first =>
                        carries_bind fun last => ?_
                      split
                      · exact carries_ok _ _
                      · exact carries_error _ _
      · next hhyphen =>
          split
          · next heq => cases heq
          · next heq =>
              exact absurd (by rw [(List.cons_eq_cons.mp heq).1]) (hhyphen rest)
          · exact carries_bind fun item => carries_ok _ (c :: rest)

private theorem PosixClass.not_mem_of_ofName? (hmark : IsParenthesis mark)
    {name : List Char}
    {kind : PosixClass} (h : ofName? name = some kind) : mark ∉ name := by
  unfold ofName? at h
  split at h
  case h_15 => cases h
  all_goals
    next heq =>
      rw [show name = _ from String.ofList_injective heq]
      rcases hmark with rfl | rfl <;> decide

theorem posixClass_named_append (hmark : IsParenthesis mark) (negated : Bool)
    (text : List Char) : posixClass.named negated (text ++ mark :: tail) =
      (posixClass.named negated text).map
        fun (item, rest) => (item, rest ++ mark :: tail) := by
  unfold posixClass.named
  cases hdrop : text.dropWhile (· != ':') with
  -- the name would run over the parenthesis, and no class has such a name
  | nil =>
      have hname : PosixClass.ofName?
          ((text ++ mark :: tail).takeWhile (· != ':')) = none := by
        refine Option.eq_none_iff_forall_ne_some.mpr fun kind h => ?_
        refine PosixClass.not_mem_of_ofName? hmark h ?_
        have hmem : ∀ c ∈ text, (c != ':') = true :=
          List.dropWhile_eq_nil_iff.mp hdrop
        rw [List.takeWhile_append_of_pos hmem]
        have hcolon : mark ≠ ':' := hmark.ne (by decide) (by decide)
        simp [hcolon]
      rw [hname]
      split
      · rfl
      · rfl
  | cons c rest =>
      rw [dropWhile_append hdrop, takeWhile_append hdrop]
      cases rest with
      | nil =>
          simp only [List.nil_append]
          split
          · next heq =>
              cases heq
              rcases hmark with heq | heq <;> cases heq
          · rfl
      | cons d rest =>
          simp only [List.cons_append]
          split
          · next heq =>
              cases heq
              simp [Option.map_map, Function.comp_def]
          · next hnone =>
              split
              · next rest' heq =>
                  cases heq
                  exact absurd rfl (hnone (rest ++ mark :: tail))
              · rfl

theorem posixClass_append (hmark : IsParenthesis mark) (text : List Char) :
    posixClass (text ++ mark :: tail) =
      (posixClass text).map fun (item, rest) =>
        (item, rest ++ mark :: tail) := by
  match text with
  | [] =>
      have hcolon : mark ≠ ':' := hmark.ne (by decide) (by decide)
      simp [posixClass, hcolon]
  | [c] =>
      have hnot : mark ≠ '^' := hmark.ne (by decide) (by decide)
      by_cases hc : c = ':'
      · subst hc
        have hnamed : posixClass.named false ([] ++ mark :: tail) = _ :=
          posixClass_named_append hmark false []
        simpa [posixClass, hnot] using hnamed
      · simp [posixClass, hc]
  | c :: d :: rest =>
      by_cases hc : c = ':'
      · subst hc
        by_cases hd : d = '^'
        · subst hd
          exact posixClass_named_append hmark true rest
        · have hnamed :
              posixClass.named false (d :: rest ++ mark :: tail) = _ :=
            posixClass_named_append hmark false (d :: rest)
          simpa [posixClass, hd] using hnamed
      · simp [posixClass, hc]

private theorem leadingHyphens_append (fuel : Nat) :
    ∀ {fuel' : Nat} {text rest : List Char} {c : Char} {items : List ClassExpr},
    fuel ≤ fuel' → text.length ≤ fuel →
    leadingHyphens verbose fuel text = (items, c :: rest) →
    leadingHyphens verbose fuel' (text ++ behind) =
      (items, c :: (rest ++ behind)) := by
  induction fuel with
  | zero =>
      intro fuel' text rest c items _ hlength h
      cases List.length_eq_zero_iff.mp (Nat.le_zero.mp hlength)
      cases h
  | succ fuel ih =>
      intro fuel' text rest c items hle hlength h
      obtain ⟨fuel', rfl⟩ :=
        Nat.exists_eq_add_one_of_ne_zero (n := fuel') (by omega)
      cases text with
      | nil => cases h
      | cons d text =>
          by_cases hd : d = '-'
          · subst hd
            simp only [leadingHyphens, List.cons_append] at h ⊢
            cases hskip : skip verbose text with
            | nil =>
                rw [hskip] at h
                cases fuel <;> cases h
            | cons e more =>
                have hmore := (skip_suffix verbose text).length_le
                rw [hskip] at h hmore
                simp only [List.length_cons] at hlength hmore
                cases hread : leadingHyphens verbose fuel (e :: more) with
                | mk first left =>
                    rw [hread] at h
                    cases h
                    rw [skip_append hskip, ← List.cons_append,
                      ih (by omega)
                        (by simp only [List.length_cons]; omega) hread]
          · simpa [leadingHyphens, hd] using h

theorem openItems_carries (negated : Bool) (text : List Char) :
    Carries verbose behind (openItems verbose negated text)
      (openItems verbose negated (text ++ behind)) := by
  unfold openItems
  cases hread : leadingHyphens verbose text.length text with
  | mk hyphens rest =>
  cases rest with
  | nil => exact carries_error _ _
  | cons c rest =>
      rw [leadingHyphens_append text.length (by simp) (Nat.le_refl _) hread]
      dsimp only
      split
      · next heq => cases heq
      · next heq =>
          cases heq
          cases hskip : skip verbose rest with
          | nil => exact carries_error _ _
          | cons d rest =>
              simp only [skip_append hskip]
              exact carries_ok _ (d :: rest)
      · next hbracket =>
          split
          · next heq => cases heq
          · next heq =>
              exact (hbracket rest rfl
                (by rw [(List.cons_eq_cons.mp heq).1])).elim
          · exact carries_ok _ (c :: rest)

theorem openClass_carries (text : List Char) :
    Carries verbose behind (openClass verbose text)
      (openClass verbose (text ++ behind)) := by
  have hend : ∀ negated, Leaves [] (openItems verbose negated []) :=
    fun negated =>
    openItems_leaves negated []
  unfold openClass
  cases hskip : skip verbose text with
  | nil => exact carries_error _ _
  | cons c rest =>
      rw [skip_append hskip]
      by_cases hc : c = '^'
      · subst hc
        exact Carries.skip (hend true) (openItems_carries true) rest
      · have hitems : Carries verbose behind _
            (openItems verbose false (c :: rest ++ behind)) :=
          openItems_carries false (c :: rest)
        simpa [hc] using hitems

private theorem classBody_carries (hmark : IsParenthesis mark) (fuel : Nat) :
    ∀ {fuel' : Nat} {current : OpenClass} {outer : List OpenClass}
      {text : List Char},
    fuel ≤ fuel' →
    Carries verbose (mark :: tail) (classBody verbose fuel current outer text)
      (classBody verbose fuel' current outer (text ++ mark :: tail)) := by
  induction fuel with
  | zero => exact fun _ => carries_error _ _
  | succ fuel ih =>
      intro fuel' current outer text h
      obtain ⟨fuel', rfl⟩ :=
        Nat.exists_eq_add_one_of_ne_zero (n := fuel') (by omega)
      have hle : fuel ≤ fuel' := by omega
      have hend : ∀ current outer,
          Leaves [] (classBody verbose fuel current outer []) :=
        fun current outer => classBody_leaves fuel current outer []
      unfold classBody
      cases hskip : skip verbose text with
      | nil => exact carries_error _ _
      | cons c rest =>
      rw [skip_append hskip]
      split
      · next heq => cases heq
      · next heq =>
          cases heq
          simp only
          rw [posixClass_append hmark]
          cases hposix : posixClass rest with
          | some result => exact ih hle
          | none => exact (openClass_carries rest).bind (hend · _) fun inner
              rest => ih hle
      · next heq =>
          cases heq
          simp only
          split
          · exact carries_ok _ _
          · exact ih hle
      · next heq =>
          cases heq
          exact ih hle
      · next heq =>
          cases heq
          exact ih hle
      · next heq =>
          cases heq
          exact ih hle
      · next hopen hclose hand hminus htilde =>
          -- a pair of signs that the text lacks does not arise across its end
          have hpair : ∀ {sign more}, mark ≠ sign →
              (∀ more, c :: rest ≠ sign :: sign :: more) →
              c :: (rest ++ mark :: tail) ≠ sign :: sign :: more := by
            intro sign more hsign hne heq
            obtain ⟨rfl, hrest⟩ := List.cons_eq_cons.mp heq
            cases rest with
            | nil => exact hsign (List.cons_eq_cons.mp hrest).1
            | cons d rest =>
                obtain ⟨rfl, -⟩ := List.cons_eq_cons.mp hrest
                exact hne rest rfl
          split
          · next heq => cases heq
          · next heq =>
              exact absurd (by rw [(List.cons_eq_cons.mp heq).1]) (hopen rest)
          · next heq =>
              exact absurd (by rw [(List.cons_eq_cons.mp heq).1]) (hclose rest)
          · next heq =>
              exact absurd heq (hpair (hmark.ne (by decide) (by decide)) hand)
          · next heq =>
              exact absurd heq (hpair (hmark.ne (by decide) (by decide)) hminus)
          · next heq =>
              exact absurd heq (hpair (hmark.ne (by decide) (by decide)) htilde)
          · exact (classItem_carries hmark (c :: rest)).bind
              (fun item => hend _ _)
              fun item rest => ih hle

theorem bracketedClass_carries (hmark : IsParenthesis mark) (text : List Char) :
    Carries verbose (mark :: tail) (bracketedClass verbose text)
      (bracketedClass verbose (text ++ mark :: tail)) := by
  refine (openClass_carries text).bind (fun current => ?_)
    fun current rest => ?_
  · exact classBody_leaves _ current [] []
  · exact classBody_carries hmark _ (by simp)

end Signpost.Regex
