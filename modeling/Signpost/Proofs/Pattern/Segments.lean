import Signpost.Proofs.Pattern.Meaning

/-!
# Segments

A segment of a pattern is a slash with plain characters or with one token
behind it.  In a path the slashes tell the segments apart, so what fills the
tokens of a sequence of segments is determined by the path.
-/

namespace Signpost

/-- A plain character that ends no segment. -/
abbrev SegmentChar := { c : Char // c ∉ specialChars ∧ c ≠ '/' }

inductive Segment where
  | text (chars : List SegmentChar) (nonempty : chars ≠ [])
  | token (name : List Char) (wellFormed : Token.WellFormed ⟨name, none⟩)

namespace Segment

def source : Segment → List Char
  | text chars _ => '/' :: chars.map Subtype.val
  | token name _ => '/' :: '@' :: name

def nestedSource : List Segment → List Char
  | [] => []
  | segment :: segments =>
    '(' :: (segment.source ++ nestedSource segments ++ [')'])

def names : List Segment → List (List Char)
  | [] => []
  | text _ _ :: segments => names segments
  | token name _ :: segments => name :: names segments

/--
What may stand behind the slash of the segment, with what fills its token.
-/
def Fits (insensitive : Bool) :
    Segment → List Char → List (List Char) → Prop
  | text chars _, part, fillings => fillings = [] ∧
      List.Forall₂ (fun (c : SegmentChar) d => Shape.Stands insensitive c.val d)
        chars part
  | token _ _, part, fillings => fillings = [part] ∧
      part ≠ [] ∧ '/' ∉ part ∧ '?' ∉ part

/-- The texts of segments in sequence, with what fills their tokens. -/
inductive Instance (insensitive : Bool) :
    List Segment → List Char → List (List Char) → Prop
  | nil : Instance insensitive [] [] []
  | cons {segment segments part word fillings fillings'} :
      Fits insensitive segment part fillings →
      Instance insensitive segments word fillings' →
      Instance insensitive (segment :: segments) ('/' :: part ++ word)
        (fillings ++ fillings')

variable {insensitive : Bool}

@[simp] theorem names_append (first second : List Segment) :
    names (first ++ second) = names first ++ names second := by
  induction first with
  | nil => rfl
  | cons segment first ih => cases segment <;> simp [names, ih]

theorem not_mem_of_stands {sign : Char}
    (hsign : Unicode.CaseOrbit.companions sign = []) {chars : List SegmentChar}
    {part : List Char} (hne : ∀ c : SegmentChar, c.val ≠ sign)
    (h : List.Forall₂
      (fun (c : SegmentChar) d => Shape.Stands insensitive c.val d)
      chars part) :
    sign ∉ part := by
  induction h with
  | nil => exact List.not_mem_nil
  | @cons c d chars part hd _ ih =>
      intro hmem
      rcases List.mem_cons.mp hmem with rfl | hmem
      · rcases hd with heq | ⟨-, hmem⟩
        · exact hne c heq.symm
        · rw [hsign] at hmem
          cases hmem
      · exact ih hmem

theorem Fits.closed {segment : Segment} {part : List Char}
    {fillings : List (List Char)} (h : Fits insensitive segment part fillings) :
    part ≠ [] ∧ '/' ∉ part ∧ '?' ∉ part := by
  cases segment with
  | token name _ => exact h.2
  | text chars nonempty =>
      obtain ⟨-, hstands⟩ := h
      refine ⟨?_, ?_, ?_⟩
      · rintro rfl
        cases hstands
        exact nonempty rfl
      · exact not_mem_of_stands rfl (fun c => c.property.2) hstands
      · exact not_mem_of_stands rfl
          (fun c => PlainChar.ne c.property.1 (by decide)) hstands

theorem Fits.unique {segment : Segment} {part : List Char}
    {fillings fillings' : List (List Char)}
    (h : Fits insensitive segment part fillings)
    (h' : Fits insensitive segment part fillings') : fillings = fillings' := by
  cases segment with
  | text chars _ => rw [h.1, h'.1]
  | token name _ => rw [h.1, h'.1]

theorem Instance.question_not_mem {segments : List Segment} {word : List Char}
    {fillings : List (List Char)}
    (h : Instance insensitive segments word fillings) : '?' ∉ word := by
  induction h with
  | nil => exact List.not_mem_nil
  | cons hfits _ ih =>
      obtain ⟨-, -, hquestion⟩ := hfits.closed
      simp [hquestion, ih]

theorem Instance.count_slash {segments : List Segment} {word : List Char}
    {fillings : List (List Char)}
    (h : Instance insensitive segments word fillings) :
    word.count '/' = segments.length := by
  induction h with
  | nil => rfl
  | cons hfits _ ih =>
      obtain ⟨-, hslash, -⟩ := hfits.closed
      simp [List.count_eq_zero_of_not_mem hslash, ih]

theorem Instance.getLast?_ne {segments : List Segment} {word : List Char}
    {fillings : List (List Char)}
    (h : Instance insensitive segments word fillings) :
    word.getLast? ≠ some '/' := by
  induction h with
  | nil => simp
  | @cons segment segments part word fillings fillings' hfits _ ih =>
      obtain ⟨hne, hslash, -⟩ := hfits.closed
      intro hlast
      refine ih (getLast?_of_append hlast fun hpart => ?_)
      obtain ⟨c, part, rfl⟩ := List.exists_cons_of_ne_nil hne
      rw [List.getLast?_cons_cons] at hpart
      exact hslash (List.mem_of_getLast? hpart)

def isCut (c : Char) : Bool := c = '/' || c = '?'

def Cut (tail : List Char) : Prop := ∀ c ∈ tail.head?, isCut c

theorem cut_nil : Cut [] := by simp [Cut]

theorem cut_slash (rest : List Char) : Cut ('/' :: rest) := by simp [Cut, isCut]

theorem cut_question (rest : List Char) : Cut ('?' :: rest) := by
  simp [Cut, isCut]

theorem Cut.takeWhile_eq {part tail : List Char} (h : Cut tail)
    (hslash : '/' ∉ part) (hquestion : '?' ∉ part) :
    (part ++ tail).takeWhile (fun c => !isCut c) = part := by
  have hpart : ∀ c ∈ part, (!isCut c) = true := by
    intro c hc
    simp only [isCut, Bool.not_eq_true', Bool.or_eq_false_iff,
      decide_eq_false_iff_not]
    exact ⟨fun heq => hslash (heq ▸ hc), fun heq => hquestion (heq ▸ hc)⟩
  rw [List.takeWhile_append_of_pos hpart]
  cases tail with
  | nil => simp
  | cons c tail => simp [h c rfl]

theorem Fits.parts_eq {segment : Segment} {part part' tail tail' : List Char}
    {fillings fillings' : List (List Char)}
    (h : Fits insensitive segment part fillings)
    (h' : Fits insensitive segment part' fillings') (htail : Cut tail)
    (htail' : Cut tail') (heq : part ++ tail = part' ++ tail') :
    part = part' ∧ tail = tail' ∧ fillings = fillings' := by
  obtain ⟨-, hslash, hquestion⟩ := h.closed
  obtain ⟨-, hslash', hquestion'⟩ := h'.closed
  have hpart : part = part' := by
    rw [← htail.takeWhile_eq hslash hquestion, heq,
      htail'.takeWhile_eq hslash' hquestion']
  subst hpart
  exact ⟨rfl, List.append_cancel_left heq, h.unique h'⟩

theorem Instance.cut {segments : List Segment} {word tail : List Char}
    {fillings : List (List Char)}
    (h : Instance insensitive segments word fillings) (htail : Cut tail) :
    Cut (word ++ tail) := by
  cases h with
  | nil => exact htail
  | cons => exact cut_slash _

theorem Instance.unique {segments : List Segment} {word word' : List Char}
    {fillings fillings' : List (List Char)}
    (h : Instance insensitive segments word fillings)
    (h' : Instance insensitive segments word' fillings')
    {tail tail' : List Char} (htail : Cut tail) (htail' : Cut tail')
    (heq : word ++ tail = word' ++ tail') :
    word = word' ∧ tail = tail' ∧ fillings = fillings' := by
  induction h generalizing word' fillings' with
  | nil =>
      cases h'
      exact ⟨rfl, heq, rfl⟩
  | cons hfits hnext ih =>
      cases h' with
      | cons hfits' hnext' =>
          simp only [List.cons_append, List.append_assoc] at heq
          obtain ⟨rfl, hrest, rfl⟩ := hfits.parts_eq hfits' (hnext.cut htail)
            (hnext'.cut htail') (List.cons_eq_cons.mp heq).2
          obtain ⟨rfl, rfl, rfl⟩ := ih hnext' hrest
          exact ⟨rfl, rfl, rfl⟩

theorem Instance.unique_take {segments : List Segment} {count count' : Nat}
    {word word' slash slash' : List Char}
    {fillings fillings' : List (List Char)}
    (hle : count ≤ segments.length) (hle' : count' ≤ segments.length)
    (h : Instance insensitive (segments.take count) word fillings)
    (h' : Instance insensitive (segments.take count') word' fillings')
    (hslash : slash = [] ∨ slash = ['/'])
    (hslash' : slash' = [] ∨ slash' = ['/'])
    (heq : word ++ slash = word' ++ slash') :
    count = count' ∧ fillings = fillings' := by
  have hends : slash = slash' := by
    rcases hslash with rfl | rfl
    · rcases hslash' with rfl | rfl
      · rfl
      · refine absurd ?_ h.getLast?_ne
        rw [← List.append_nil word, heq]
        simp
    · rcases hslash' with rfl | rfl
      · refine absurd ?_ h'.getLast?_ne
        rw [← List.append_nil word', ← heq]
        simp
      · rfl
  subst hends
  have hword := List.append_cancel_right heq
  subst hword
  have hcount := h.count_slash.symm.trans h'.count_slash
  rw [List.length_take_of_le hle, List.length_take_of_le hle'] at hcount
  subst hcount
  exact ⟨rfl, (h.unique h' cut_nil cut_nil rfl).2.2⟩

theorem instance_append_iff {first second : List Segment} {word : List Char}
    {fillings : List (List Char)} :
    Instance insensitive (first ++ second) word fillings ↔
      ∃ before after fillings' fillings'', word = before ++ after ∧
        fillings = fillings' ++ fillings'' ∧
        Instance insensitive first before fillings' ∧
        Instance insensitive second after fillings'' := by
  induction first generalizing word fillings with
  | nil =>
      constructor
      · exact fun h => ⟨[], word, [], fillings, rfl, rfl, .nil, h⟩
      · rintro ⟨_, after, _, fillings'', rfl, rfl, ⟨⟩, h⟩
        exact h
  | cons segment first ih =>
      constructor
      · intro h
        cases h with
        | cons hfits hnext =>
            obtain ⟨before, after, fillings', fillings'', rfl,
                rfl, hfirst, hsecond⟩ :=
              ih.mp hnext
            exact ⟨_, after, _, fillings'', (List.append_assoc ..).symm,
              (List.append_assoc ..).symm, .cons hfits hfirst, hsecond⟩
      · rintro ⟨_, after, _, fillings'', rfl, rfl, hfirst, hsecond⟩
        cases hfirst with
        | cons hfits hfirst =>
            rw [List.append_assoc, List.append_assoc]
            exact .cons hfits
              (ih.mpr ⟨_, after, _, _, rfl, rfl, hfirst, hsecond⟩)

theorem Instance.length_fillings {segments : List Segment} {word : List Char}
    {fillings : List (List Char)}
    (h : Instance insensitive segments word fillings) :
    fillings.length = (names segments).length := by
  induction h with
  | nil => rfl
  | @cons segment segments part word fillings fillings' hfits _ ih =>
      cases segment with
      | text chars _ => rw [hfits.1, names, List.nil_append, ih]
      | token name _ =>
          rw [hfits.1, names, List.singleton_append, List.length_cons,
          List.length_cons, ih]

theorem exists_instance_source (segments : List Segment) :
    ∃ fillings, Instance insensitive segments
      (segments.flatMap source) fillings := by
  induction segments with
  | nil => exact ⟨[], .nil⟩
  | cons segment segments ih =>
      obtain ⟨fillings, hinstance⟩ := ih
      cases segment with
      | text chars nonempty =>
          have hchars : List.Forall₂
              (fun (c : SegmentChar) d => Shape.Stands insensitive c.val d)
              chars (chars.map Subtype.val) := by
            rw [List.forall₂_map_right_iff]
            exact List.forall₂_same.mpr fun c _ => .inl rfl
          exact ⟨[] ++ fillings, .cons ⟨rfl, hchars⟩ hinstance⟩
      | token name wellFormed =>
          have hname : ∀ c, isNameChar c = false → c ∉ name := by
            intro c hc hmem
            rw [wellFormed.name c hmem] at hc
            cases hc
          have hpart : Fits insensitive (token name wellFormed) ('@' :: name)
              ['@' :: name] :=
            ⟨rfl, by simp, by simp [hname '/' rfl], by simp [hname '?' rfl]⟩
          exact ⟨['@' :: name] ++ fillings, .cons hpart hinstance⟩

end Segment

end Signpost
