import Mathlib.Data.List.Infix
import Signpost.Dispatch.Handler

/-!
# Reading targets

A target is read at the last `::` of a text.  Two signs can overlap in a run of
colons, so that the method behind the last one neither has `::` in it nor begins
with a colon; this and the text written out fix class and method.
-/

namespace Signpost.Target

variable {text rest before after : List Char} {c : Char}

theorem sign_prefix_iff :
    [':', ':'] <+: c :: rest ↔ c = ':' ∧ ∃ after, rest = ':' :: after := by
  constructor
  · rintro ⟨after, hafter⟩
    obtain ⟨rfl, rfl⟩ := List.cons_eq_cons.mp hafter
    exact ⟨rfl, after, rfl⟩
  · rintro ⟨rfl, after, rfl⟩
    exact ⟨after, rfl⟩

theorem sign_infix_colon_iff :
    [':', ':'] <:+: ':' :: after ↔ after.head? = some ':' ∨
    [':', ':'] <:+: after := by
  rw [List.infix_cons_iff, sign_prefix_iff]
  cases after <;> simp

theorem splitLast_cons_of_some (h : splitLast rest = some (before, after))
    (c : Char) :
    splitLast (c :: rest) = some (c :: before, after) := by
  unfold splitLast
  rw [h]

theorem splitLast_sign (h : splitLast (':' :: after) = none) :
    splitLast (':' :: ':' :: after) = some ([], after) := by
  unfold splitLast
  rw [h]
  rfl

theorem splitLast_cons_of_none (h : splitLast rest = none)
    (hsign : ¬ [':', ':'] <+: c :: rest) : splitLast (c :: rest) = none := by
  unfold splitLast
  rw [h]
  dsimp only
  split
  · exact absurd (sign_prefix_iff.mpr ⟨rfl, _, rfl⟩) hsign
  · rfl

theorem splitLast_eq_none_iff : splitLast text = none ↔
    ¬ [':', ':'] <:+: text := by
  induction text with
  | nil => simp [splitLast]
  | cons c rest ih =>
      rw [List.infix_cons_iff, not_or, ← ih]
      cases hrest : splitLast rest with
      | some parts => simp [splitLast_cons_of_some hrest]
      | none =>
          by_cases hsign : [':', ':'] <+: c :: rest
          · obtain ⟨rfl, after, rfl⟩ := sign_prefix_iff.mp hsign
            simp [splitLast_sign hrest]
          · simp [splitLast_cons_of_none hrest hsign, hsign]

private theorem splitLast_append (h : ¬ [':', ':'] <:+: ':' :: after)
    (before : List Char) :
    splitLast (before ++ ':' :: ':' :: after) = some (before, after) := by
  induction before with
  | nil => exact splitLast_sign (splitLast_eq_none_iff.mpr h)
  | cons c before ih => exact splitLast_cons_of_some ih c

private theorem splitLast_eq_some_iff :
    splitLast text = some (before, after) ↔
      text = before ++ ':' :: ':' :: after ∧
      ¬ [':', ':'] <:+: ':' :: after := by
  constructor
  · intro h
    induction text generalizing before with
    | nil => nomatch h
    | cons c rest ih =>
        cases hrest : splitLast rest with
        | some parts =>
            obtain ⟨first, last⟩ := parts
            rw [splitLast_cons_of_some hrest] at h
            obtain ⟨rfl, rfl⟩ := Prod.mk.inj (Option.some.inj h)
            obtain ⟨rfl, hlast⟩ := ih hrest
            exact ⟨rfl, hlast⟩
        | none =>
            by_cases hsign : [':', ':'] <+: c :: rest
            · obtain ⟨rfl, last, rfl⟩ := sign_prefix_iff.mp hsign
              rw [splitLast_sign hrest] at h
              obtain ⟨rfl, rfl⟩ := Prod.mk.inj (Option.some.inj h)
              exact ⟨rfl, splitLast_eq_none_iff.mp hrest⟩
            · rw [splitLast_cons_of_none hrest hsign] at h
              nomatch h
  · rintro ⟨rfl, hlast⟩
    exact splitLast_append hlast before

/--
The text is the target written out.  Neither part is empty, and the method has
no `::` in it and does not begin with a colon.
-/
structure IsWritten (target : Target) (text : String) : Prop where
  text_eq : text = target.className ++ "::" ++ target.method
  className : target.className ≠ ""
  method : target.method ≠ ""
  signless : ¬ "::".toList <:+: target.method.toList
  first : target.method.toList.head? ≠ some ':'

variable {target : Target}

theorem isWritten_iff {text : String} :
    target.IsWritten text ↔
      splitLast text.toList =
        some (target.className.toList, target.method.toList) ∧
        target.className ≠ "" ∧ target.method ≠ "" := by
  have htext : text = target.className ++ "::" ++ target.method ↔
      text.toList = target.className.toList ++ ':' :: ':' ::
        target.method.toList := by
    rw [← String.toList_inj]
    simp
  rw [splitLast_eq_some_iff, ← htext, sign_infix_colon_iff, not_or]
  constructor
  · rintro ⟨htext, hclass, hmethod, hsignless, hfirst⟩
    exact ⟨⟨htext, hfirst, hsignless⟩, hclass, hmethod⟩
  · rintro ⟨⟨htext, hfirst, hsignless⟩, hclass, hmethod⟩
    exact ⟨htext, hclass, hmethod, hsignless, hfirst⟩

theorem IsWritten.parse? {text : String} (h : target.IsWritten text) :
    Target.parse? text = some target := by
  obtain ⟨hsplit, hclass, hmethod⟩ := isWritten_iff.mp h
  rw [Target.parse?, hsplit]
  split
  · next hnone => cases hnone
  · next hempty =>
      simp only [Option.some.injEq, Prod.mk.injEq, String.toList_eq_nil_iff]
        at hempty
      exact absurd hempty.1 hclass
  · next hempty =>
      simp only [Option.some.injEq, Prod.mk.injEq, String.toList_eq_nil_iff]
        at hempty
      exact absurd hempty.2 hmethod
  · next className method _ _ hsome =>
      obtain ⟨rfl, rfl⟩ := Prod.mk.inj (Option.some.inj hsome)
      simp

theorem isWritten_of_parse? {text : String}
    (h : Target.parse? text = some target) :
    target.IsWritten text := by
  rw [Target.parse?] at h
  split at h
  · nomatch h
  · nomatch h
  · nomatch h
  · next className method hclass hmethod hsplit =>
      obtain rfl := Option.some.inj h
      rw [isWritten_iff, hsplit]
      refine ⟨by simp, fun hempty => ?_, fun hempty => ?_⟩
      · exact hclass (by simpa using hempty)
      · exact hmethod (by simpa using hempty)

theorem text_of_parse? {text : String} (h : Target.parse? text = some target) :
    target.className ++ "::" ++ target.method = text :=
  (isWritten_of_parse? h).text_eq.symm

/--
Reading finds the target that the text is written from.  There is at most one,
and the text reads as none only where there is none.
-/
theorem parse?_exactly_written (text : String) :
    (∀ target, parse? text = some target ↔ target.IsWritten text) ∧
    (∀ target, parse? text = some target →
      target.className ++ "::" ++ target.method = text) ∧
    (∀ target other, IsWritten target text → IsWritten other text →
      target = other) ∧
    (parse? text = none ↔ ∀ target, ¬ IsWritten target text) := by
  have hiff (target : Target) : parse? text = some target ↔
      target.IsWritten text :=
    ⟨isWritten_of_parse?, IsWritten.parse?⟩
  refine ⟨hiff, fun _ => text_of_parse?,
    fun target other htarget hother => ?_, ?_⟩
  · exact Option.some.inj (htarget.parse?.symm.trans hother.parse?)
  · rw [Option.eq_none_iff_forall_ne_some]
    exact forall_congr' fun target => not_congr (hiff target)

theorem parse?_exactly_written_run :
    IsWritten ⟨"A:", "b:"⟩ "A:::b:" ∧ parse? "A:::b:" = some ⟨"A:", "b:"⟩ ∧
      (∀ other, IsWritten other "A:::b:" → ⟨"A:", "b:"⟩ = other) ∧
        parse? "A:::" = none := by
  obtain ⟨hiff, -, hunique, -⟩ := parse?_exactly_written "A:::b:"
  have hwritten : IsWritten ⟨"A:", "b:"⟩ "A:::b:" :=
    ⟨by decide, by decide, by decide, by decide, by decide⟩
  exact ⟨hwritten, (hiff _).mpr hwritten, fun other => hunique _ other hwritten,
    by decide⟩

end Signpost.Target
