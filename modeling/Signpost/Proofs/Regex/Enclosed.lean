import Signpost.Proofs.Regex.Behind

/-!
# Lexemes with text behind

A lexeme that can be read alone is read in the same way when a parenthesis and
more text follow it.
-/

namespace Signpost.Regex

variable {verbose : Bool} {behind tail : List Char} {mark : Char}

/-! ## Quantifiers -/

theorem greed_append (hmark : IsParenthesis mark) (text : List Char) :
    greed (text ++ mark :: tail) =
      ((greed text).1, (greed text).2 ++ mark :: tail) := by
  cases text with
  | nil =>
      have hlazy : mark ≠ '?' := hmark.ne (by decide) (by decide)
      simp [greed, hlazy]
  | cons c text =>
      by_cases hc : c = '?'
      · subst hc
        rfl
      · simp [greed, hc]

private theorem countedBounds_append (text : List Char) :
    Carries true behind (countedBounds verbose text)
      (countedBounds verbose (text ++ behind)) := by
  unfold countedBounds
  cases hskip : skip verbose text with
  | nil => exact carries_error _ _
  | cons c rest =>
  rw [skip_append hskip]
  simp only
  cases hleast : decimal verbose (c :: rest) with
  | mk least after =>
  cases after with
  | nil => exact carries_error _ _
  | cons d after =>
  rw [← List.cons_append, decimal_append hleast]
  split
  · next heq => cases heq
  · next heq =>
      cases heq
      simp only
      cases hskip' : skip verbose after with
      | nil => exact carries_error _ _
      | cons e inside =>
          rw [skip_append hskip']
          split
          · next heq => cases heq
          · next heq =>
              cases heq
              exact carries_bind fun least => carries_ok _ ('}' :: inside)
          · next hbrace =>
              split
              · next heq => cases heq
              · next heq =>
                  exact absurd (by rw [(List.cons_eq_cons.mp heq).1])
                    (hbrace inside)
              · refine carries_bind fun least => ?_
                cases hmost : decimal verbose (e :: inside) with
                | mk most left =>
                cases left with
                | nil =>
                    intro value rest hok hrest
                    -- without a closing brace the bounds are refused
                    obtain ⟨most, -, hok⟩ := bind_eq_ok_iff.mp hok
                    cases hok
                    exact absurd rfl (hrest rfl)
                | cons f left =>
                    rw [← List.cons_append, decimal_append hmost]
                    exact carries_bind fun most => carries_ok _ (f :: left)
  · next hcomma =>
      split
      · next heq => cases heq
      · next heq =>
          exact absurd (by rw [(List.cons_eq_cons.mp heq).1]) (hcomma after)
      · exact carries_bind fun least => carries_ok _ (d :: after)

theorem counted_carries (hmark : IsParenthesis mark) (text : List Char) :
    Carries verbose (mark :: tail) (counted verbose text)
      (counted verbose (text ++ mark :: tail)) := by
  intro value rest hok hrest
  obtain ⟨⟨bounds, after⟩, hbounds, hok⟩ := bind_eq_ok_iff.mp hok
  rw [counted]
  cases after with
  | nil => cases hok
  | cons c after =>
      rw [countedBounds_append text bounds (c :: after) hbounds (by simp)]
      simp only [bind, Except.bind, List.cons_append] at hok ⊢
      split at hok
      · next heq =>
          cases heq
          have hskip : verbose = true → skip verbose after ≠ [] := by
            rintro hverbose hnil
            rw [hnil] at hok
            split at hok
            · cases hok
              exact hrest hverbose rfl
            · cases hok
          simp only
          rw [skip_append_of hskip, greed_append hmark]
          split at hok
          · cases hok
            next hvalid => rw [if_pos hvalid]; rfl
          · cases hok
      · cases hok

/-! ## Heads of groups -/

private theorem groupNameTail_append {text name rest : List Char}
    (h : groupNameTail text = .ok (name, rest)) :
    groupNameTail (text ++ behind) = .ok (name, rest ++ behind) := by
  induction text generalizing name with
  | nil => cases h
  | cons c text ih =>
      rw [groupNameTail] at h
      rw [List.cons_append, groupNameTail]
      by_cases hend : c = '>'
      · rw [if_pos hend] at h ⊢
        cases h
        rfl
      by_cases hchar : isGroupNameChar c = true
      · rw [if_neg hend, if_pos hchar] at h ⊢
        obtain ⟨⟨more, left⟩, hmore, hok⟩ := bind_eq_ok_iff.mp h
        cases hok
        rw [ih hmore]
        rfl
      · rw [if_neg hend, if_neg hchar] at h
        cases h

theorem groupName_append {text name rest : List Char}
    (h : groupName text = .ok (name, rest)) :
    groupName (text ++ behind) = .ok (name, rest ++ behind) := by
  cases text with
  | nil => cases h
  | cons c text =>
      rw [groupName] at h
      rw [List.cons_append, groupName]
      split at h
      · cases h
      · next hend =>
          rw [if_neg hend]
          split at h
          · next hstart =>
              obtain ⟨⟨more, left⟩, hmore, hok⟩ := bind_eq_ok_iff.mp h
              cases hok
              rw [if_pos hstart, groupNameTail_append hmore]
              rfl
          · cases h

theorem flagChanges_append {text rest : List Char} {changes : FlagChanges} :
    ∀ {enabled afterMinus seen},
    flagChanges enabled afterMinus seen text = .ok (changes, rest) →
    flagChanges enabled afterMinus seen (text ++ behind) =
      .ok (changes, rest ++ behind) := by
  induction text with
  | nil =>
      intro enabled afterMinus seen h
      cases h
  | cons c text ih =>
      intro enabled afterMinus seen h
      rw [flagChanges] at h
      rw [List.cons_append, flagChanges]
      by_cases hend : c = ':' ∨ c = ')'
      · rw [if_pos hend] at h ⊢
        split at h
        · cases h
        · next hminus =>
            cases h
            rw [if_neg hminus]
            rfl
      by_cases hminus : c = '-'
      · rw [if_neg hend, if_pos hminus] at h ⊢
        split at h
        · next henabled =>
            rw [if_pos henabled]
            exact ih h
        · cases h
      · rw [if_neg hend, if_neg hminus] at h ⊢
        cases hflag : Flag.ofChar? c with
        | none =>
            rw [hflag] at h
            cases h
        | some flag =>
            simp only [hflag] at h ⊢
            split at h
            · cases h
            · next hfresh =>
                rw [if_neg hfresh]
                exact ih h

theorem groupHead_of_head {text : List Char} (h : text.head? ≠ some '?') :
    groupHead false text = .ok (.openCapture none, text) := by
  cases text with
  | nil => rfl
  | cons c text =>
      have hc : c ≠ '?' := by simpa using h
      simp [groupHead, hc]

theorem groupHead_plain {text rest : List Char} {c : Char}
    (hskip : skip verbose text = c :: rest) (hc : c ≠ '?') :
    groupHead verbose text = .ok (.openCapture none, c :: rest) := by
  simp [groupHead, hskip, hc]

def flagged : FlagChanges × List Char → Except Error (Lexeme × List Char)
  | ([], ')' :: _) => .error .repetitionMissing
  | (changes, ')' :: rest) => .ok (.setFlags changes, rest)
  | (changes, rest) => .ok (.openFlagged changes, rest.tail)

theorem groupHead_flagged {text rest : List Char} {c : Char}
    (hskip : skip verbose text = '?' :: c :: rest)
    (hc : c ≠ '=' ∧ c ≠ '!' ∧ c ≠ '<')
    (hname : c = 'P' → rest.head? ≠ some '<') :
    groupHead verbose text =
      (flagChanges true false [] (c :: rest) >>= flagged) := by
  unfold groupHead
  rw [hskip]
  split
  case h_8 heq =>
    cases heq
    rfl
  case h_9 hquestion => exact absurd rfl (hquestion (c :: rest))
  all_goals simp_all

def named (text : List Char) : Except Error (Lexeme × List Char) := do
  let (name, rest) ← groupName text
  return (.openCapture (some name), rest)

theorem groupHead_named {text rest : List Char}
    (hskip : skip verbose text = '?' :: 'P' :: '<' :: rest) :
    groupHead verbose text = named rest := by
  rw [groupHead, hskip]
  rfl

theorem groupHead_angled {text rest : List Char} {c : Char}
    (hskip : skip verbose text = '?' :: '<' :: c :: rest)
    (hc : c ≠ '=' ∧ c ≠ '!') :
    groupHead verbose text = named (c :: rest) := by
  simp [groupHead, hskip, hc]
  rfl

private theorem flagChanges_ne_nil {text rest : List Char}
    {changes : FlagChanges} :
    ∀ {enabled afterMinus seen},
    flagChanges enabled afterMinus seen text = .ok (changes, rest) →
    rest ≠ [] := by
  induction text with
  | nil =>
      intro enabled afterMinus seen h
      cases h
  | cons c text ih =>
      intro enabled afterMinus seen h
      rw [flagChanges] at h
      split at h
      · split at h
        · cases h
        · cases h
          simp
      split at h
      · split at h
        · exact ih h
        · cases h
      split at h
      · cases h
      split at h
      · cases h
      · exact ih h

theorem named_carries (text : List Char) :
    Carries verbose behind (named text) (named (text ++ behind)) := by
  intro value left hok _
  obtain ⟨⟨name, rest⟩, hread, hok⟩ := bind_eq_ok_iff.mp hok
  cases hok
  rw [named, groupName_append hread]
  rfl

private theorem flagged_append {changes : FlagChanges}
    {text left : List Char} {lexeme : Lexeme}
    (htext : text ≠ []) (h : flagged (changes, text) = .ok (lexeme, left)) :
    flagged (changes, text ++ behind) = .ok (lexeme, left ++ behind) := by
  obtain ⟨c, text, rfl⟩ := List.exists_cons_of_ne_nil htext
  by_cases hc : c = ')'
  · subst hc
    cases changes with
    | nil => cases h
    | cons change changes =>
        cases h
        rfl
  · have hplain : ∀ rest, flagged (changes, c :: rest) =
        .ok (.openFlagged changes, rest) :=
      fun rest => by simp [flagged, hc]
    rw [hplain] at h
    cases h
    exact hplain _

private theorem groupHead_question_carries (hmark : IsParenthesis mark)
    {text rest : List Char} (hskip : skip verbose text = '?' :: rest) :
    Carries verbose (mark :: tail) (groupHead verbose text)
      (groupHead verbose (text ++ mark :: tail)) := by
  intro value left hok hleft
  have hwithin : skip verbose (text ++ mark :: tail) =
      '?' :: (rest ++ mark :: tail) :=
    skip_append hskip
  cases rest with
  | nil => simp [groupHead, hskip] at hok
  | cons d rest =>
      by_cases hlook : d = '=' ∨ d = '!'
      · rcases hlook with rfl | rfl <;> simp [groupHead, hskip] at hok
      by_cases hangle : d = '<'
      · subst hangle
        cases rest with
        | nil => simp [groupHead, hskip, groupName, bind, Except.bind] at hok
        | cons e rest =>
            by_cases hlook : e = '=' ∨ e = '!'
            · rcases hlook with rfl | rfl <;> simp [groupHead, hskip] at hok
            · have he : e ≠ '=' ∧ e ≠ '!' := by simpa using hlook
              rw [groupHead_angled hskip he] at hok
              rw [groupHead_angled hwithin he]
              exact named_carries (e :: rest) value left hok hleft
      by_cases hname : d = 'P' ∧ rest.head? = some '<'
      · obtain ⟨rfl, hhead⟩ := hname
        obtain ⟨rest, rfl⟩ := List.head?_eq_some_iff.mp hhead
        rw [groupHead_named hskip] at hok
        rw [groupHead_named hwithin]
        exact named_carries rest value left hok hleft
      · have hd : d ≠ '=' ∧ d ≠ '!' ∧ d ≠ '<' := by simp_all
        have hmore : d = 'P' → (rest ++ mark :: tail).head? ≠ some '<' := by
          have hangle : mark ≠ '<' := hmark.ne (by decide) (by decide)
          cases rest <;> simp_all
        rw [groupHead_flagged hskip hd fun hd hhead => hname ⟨hd, hhead⟩] at hok
        rw [groupHead_flagged hwithin hd hmore]
        obtain ⟨⟨changes, after⟩, hread, hok⟩ := bind_eq_ok_iff.mp hok
        change flagChanges true false [] (d :: rest ++ mark :: tail) >>=
          flagged = _
        rw [flagChanges_append hread]
        exact flagged_append (flagChanges_ne_nil hread) hok

theorem groupHead_carries (hmark : IsParenthesis mark) (text : List Char) :
    Carries verbose (mark :: tail) (groupHead verbose text)
      (groupHead verbose (text ++ mark :: tail)) := by
  cases hskip : skip verbose text with
  | nil =>
      intro value left hok hleft
      have hplain : groupHead verbose text = .ok (.openCapture none, []) := by
        rw [groupHead, hskip]
      rw [hplain] at hok
      cases hok
      cases verbose with
      | true => exact absurd rfl (hleft rfl)
      | false =>
          cases hskip
          have hlazy : mark ≠ '?' := hmark.ne (by decide) (by decide)
          exact groupHead_of_head (by simpa using hlazy)
  | cons c rest =>
      by_cases hc : c = '?'
      · subst hc
        exact groupHead_question_carries hmark hskip
      · rw [groupHead_plain hskip hc, groupHead_plain (skip_append hskip) hc]
        exact carries_ok _ (c :: rest)

private theorem flagged_cases {changes : FlagChanges} {text rest : List Char}
    {lexeme : Lexeme} (h : flagged (changes, text) = .ok (lexeme, rest)) :
    lexeme = .setFlags changes ∨ lexeme = .openFlagged changes := by
  unfold flagged at h
  split at h
  · cases h
  · next heq =>
      cases heq
      cases h
      exact .inl rfl
  · next heq =>
      cases heq
      cases h
      exact .inr rfl

theorem groupHead_cases {text rest : List Char} {lexeme : Lexeme}
    (h : groupHead verbose text = .ok (lexeme, rest)) :
    (∃ name, lexeme = .openCapture name) ∨
      ∃ changes, lexeme = .setFlags changes ∨
        lexeme = .openFlagged changes := by
  have hnamed : ∀ {text}, named text = .ok (lexeme, rest) →
      ∃ name, lexeme = .openCapture name := by
    intro text h
    obtain ⟨_, -, ⟨⟩⟩ := bind_eq_ok_iff.mp h
    exact ⟨_, rfl⟩
  unfold groupHead at h
  split at h
  case h_5 | h_6 => exact .inl (hnamed h)
  case h_8 =>
    obtain ⟨⟨changes, after⟩, -, h⟩ := bind_eq_ok_iff.mp h
    exact .inr ⟨changes, flagged_cases h⟩
  case h_9 =>
    cases h
    exact .inl ⟨_, rfl⟩
  all_goals cases h

/-! ## Lexemes -/

def signs : List Char :=
  ['(', ')', '|', '[', '?', '*', '+', '{', '\\', '.', '^', '$']

theorem next_literal {verbose hasOperand : Bool} {c : Char} (hc : c ∉ signs)
    (text : List Char) :
    Lexeme.next verbose hasOperand (c :: text) =
      .ok (.primitive (.literal ⟨c, false⟩), text) := by
  simp only [signs, List.mem_cons, List.not_mem_nil, or_false, not_or] at hc
  simp [Lexeme.next, hc]

theorem next_cases {hasOperand : Bool} {c : Char} {text rest : List Char}
    {lexeme : Lexeme}
    (h : Lexeme.next verbose hasOperand (c :: text) = .ok (lexeme, rest)) :
    (c = '(' ∧ groupHead verbose text = .ok (lexeme, rest)) ∨
      (c = ')' ∧ lexeme = .close ∧ rest = text) ∨ (c = '|' ∧ lexeme = .bar) ∨
      (hasOperand = true ∧ ∃ bounds greedy,
        lexeme = .quantifier bounds greedy) ∨
      (∃ item, lexeme = .primitive item) ∨
      ∃ negated inner, lexeme = .bracketed negated inner := by
  have huncounted : ∀ {bounds}, Lexeme.next.uncounted hasOperand bounds text =
      .ok (lexeme, rest) → hasOperand = true ∧ ∃ bounds greedy,
        lexeme = .quantifier bounds greedy := by
    intro bounds h
    unfold Lexeme.next.uncounted at h
    split at h
    · next hoperand =>
        cases h
        exact ⟨hoperand, _, _, rfl⟩
    · cases h
  by_cases hsign : c ∈ signs
  · simp only [signs, List.mem_cons, List.not_mem_nil, or_false] at hsign
    rcases hsign with rfl | rfl | rfl | rfl | rfl | rfl | rfl | rfl | rfl |
      rfl | rfl | rfl
    · exact .inl ⟨rfl, h⟩
    · cases h
      exact .inr (.inl ⟨rfl, rfl, rfl⟩)
    · cases h
      exact .inr (.inr (.inl ⟨rfl, rfl⟩))
    · obtain ⟨_, -, ⟨⟩⟩ := bind_eq_ok_iff.mp h
      exact .inr (.inr (.inr (.inr (.inr ⟨_, _, rfl⟩))))
    · exact .inr (.inr (.inr (.inl (huncounted h))))
    · exact .inr (.inr (.inr (.inl (huncounted h))))
    · exact .inr (.inr (.inr (.inl (huncounted h))))
    · simp only [Lexeme.next] at h
      split at h
      · next hoperand =>
          obtain ⟨_, -, ⟨⟩⟩ := bind_eq_ok_iff.mp h
          exact .inr (.inr (.inr (.inl ⟨hoperand, _, _, rfl⟩)))
      · cases h
    · obtain ⟨_, -, ⟨⟩⟩ := bind_eq_ok_iff.mp h
      exact .inr (.inr (.inr (.inr (.inl ⟨_, rfl⟩))))
    · cases h
      exact .inr (.inr (.inr (.inr (.inl ⟨_, rfl⟩))))
    · cases h
      exact .inr (.inr (.inr (.inr (.inl ⟨_, rfl⟩))))
    · cases h
      exact .inr (.inr (.inr (.inr (.inl ⟨_, rfl⟩))))
  · rw [next_literal hsign] at h
    cases h
    exact .inr (.inr (.inr (.inr (.inl ⟨_, rfl⟩))))

theorem close_of_next {hasOperand : Bool} {c : Char} {text rest : List Char}
    (h : Lexeme.next verbose hasOperand (c :: text) = .ok (.close, rest)) :
    c = ')' ∧ rest = text := by
  rcases next_cases h with ⟨-, hhead⟩ | ⟨hc, -, hrest⟩ |
    ⟨-, heq⟩ | ⟨-, _, _, heq⟩ |
    ⟨_, heq⟩ | ⟨_, _, heq⟩
  · obtain ⟨_, heq⟩ | ⟨_, heq | heq⟩ := groupHead_cases hhead <;> cases heq
  · exact ⟨hc, hrest⟩
  all_goals cases heq

theorem operand_of_next {hasOperand : Bool} {c : Char} {text rest : List Char}
    {bounds : Bounds} {greedy : Bool}
    (h : Lexeme.next verbose hasOperand (c :: text) =
      .ok (.quantifier bounds greedy, rest)) : hasOperand = true := by
  rcases next_cases h with ⟨-, hhead⟩ | ⟨-, heq, -⟩ | ⟨-, heq⟩ | ⟨hoperand, -⟩ |
    ⟨_, heq⟩ | ⟨_, _, heq⟩
  · obtain ⟨_, heq⟩ | ⟨_, heq | heq⟩ := groupHead_cases hhead <;> cases heq
  · cases heq
  · cases heq
  · exact hoperand
  · cases heq
  · cases heq

theorem next_of_operand {hasOperand hasOperand' : Bool}
    {c : Char} {text : List Char}
    {read : Lexeme × List Char} (himp : hasOperand = true → hasOperand' = true)
    (h : Lexeme.next verbose hasOperand (c :: text) = .ok read) :
    Lexeme.next verbose hasOperand' (c :: text) = .ok read := by
  cases hasOperand with
  | true =>
      rw [himp rfl]
      exact h
  | false =>
      by_cases hsign : c ∈ signs
      · simp only [signs, List.mem_cons, List.not_mem_nil, or_false] at hsign
        rcases hsign with rfl | rfl | rfl | rfl | rfl | rfl | rfl | rfl | rfl |
          rfl | rfl | rfl
        case inr.inr.inr.inr.inl | inr.inr.inr.inr.inr.inl |
            inr.inr.inr.inr.inr.inr.inl |
            inr.inr.inr.inr.inr.inr.inr.inl => cases h
        all_goals exact h
      · rw [next_literal hsign] at h ⊢
        exact h

theorem next_carries (hmark : IsParenthesis mark) (hasOperand : Bool) (c : Char)
    (text : List Char) :
    Carries verbose (mark :: tail) (Lexeme.next verbose hasOperand (c :: text))
      (Lexeme.next verbose hasOperand (c :: text ++ mark :: tail)) := by
  have huncounted : ∀ bounds, Carries verbose (mark :: tail)
      (Lexeme.next.uncounted hasOperand bounds text)
      (Lexeme.next.uncounted hasOperand bounds (text ++ mark :: tail)) := by
    intro bounds
    unfold Lexeme.next.uncounted
    rw [greed_append hmark]
    split
    · exact carries_ok _ _
    · exact carries_error _ _
  rw [List.cons_append]
  by_cases hsign : c ∈ signs
  · simp only [signs, List.mem_cons, List.not_mem_nil, or_false] at hsign
    rcases hsign with rfl | rfl | rfl | rfl | rfl | rfl | rfl | rfl | rfl |
      rfl | rfl | rfl
    · exact groupHead_carries hmark text
    · exact carries_ok _ _
    · exact carries_ok _ _
    · exact (bracketedClass_carries hmark text).map fun (negated, inner) =>
        Lexeme.bracketed negated inner
    · exact huncounted _
    · exact huncounted _
    · exact huncounted _
    · simp only [Lexeme.next]
      split
      · exact (counted_carries hmark text).map fun (bounds, greedy) =>
          Lexeme.quantifier bounds greedy
      · exact carries_error _ _
    · exact (escape_carries hmark text).map Lexeme.primitive
    · exact carries_ok _ _
    · exact carries_ok _ _
    · exact carries_ok _ _
  · rw [next_literal hsign, next_literal hsign]
    exact carries_ok _ _

end Signpost.Regex
