import Signpost.Proofs.Pattern.Segments

/-!
# Patterns of segments

Segments written one after the other, and optional segments each within the one
before, have shapes whose derivations are the instances of the segments.
-/

namespace Signpost.Segment

open Shape

variable {insensitive : Bool}

def plains (next : Shape insensitive) : List SegmentChar → Shape insensitive
  | [] => next
  | c :: chars => plain ⟨c.val, c.property.1⟩ (plains next chars)

def before (segment : Segment) (next : Shape insensitive) : Shape insensitive :=
  match segment with
  | text chars _ => plain slash (plains next chars)
  | token name _ => plain slash (Shape.token name none next)

def shape (last : Shape insensitive) : List Segment → Shape insensitive
  | [] => last
  | segment :: segments => segment.before (shape last segments)

def nest : List Segment → Shape insensitive
  | [] => done
  | segment :: segments => optional (segment.before (nest segments)) done

private theorem text_plains (next : Shape insensitive)
    (chars : List SegmentChar) :
    (plains next chars).text = chars.map Subtype.val ++ next.text := by
  induction chars with
  | nil => rfl
  | cons c chars ih => simp [plains, Shape.text, ih]

theorem text_before (segment : Segment) (next : Shape insensitive) :
    (segment.before next).text = segment.source ++ next.text := by
  cases segment with
  | text chars _ => simp [before, Shape.text, text_plains, source, slash]
  | token name _ => rfl

theorem text_shape (last : Shape insensitive) (segments : List Segment) :
    (shape last segments).text = segments.flatMap source ++ last.text := by
  induction segments with
  | nil => rfl
  | cons segment segments ih => simp [shape, text_before, ih]

theorem text_nest (segments : List Segment) :
    (nest segments : Shape insensitive).text = nestedSource segments := by
  induction segments with
  | nil => rfl
  | cons segment segments ih =>
      simp [nest, Shape.text, text_before, ih, nestedSource]

def defaults (names : List (List Char)) : List Token :=
  names.map fun name => ⟨name, none⟩

private theorem tokens_plains (next : Shape insensitive)
    (chars : List SegmentChar) :
    (plains next chars).tokens = next.tokens := by
  induction chars with
  | nil => rfl
  | cons c chars ih => exact ih

theorem tokens_before (segment : Segment) (next : Shape insensitive) :
    (segment.before next).tokens = defaults (names [segment]) ++
      next.tokens := by
  cases segment with
  | text chars _ => exact tokens_plains next chars
  | token name _ => rfl

theorem names_cons (segment : Segment) (segments : List Segment) :
    names (segment :: segments) = names [segment] ++ names segments := by
  cases segment <;> rfl

theorem tokens_shape (last : Shape insensitive) (segments : List Segment) :
    (shape last segments).tokens = defaults (names segments) ++
      last.tokens := by
  induction segments with
  | nil => rfl
  | cons segment segments ih =>
      rw [shape, tokens_before, ih, names_cons segment segments]
      simp [defaults]

theorem tokens_nest (segments : List Segment) :
    (nest segments : Shape insensitive).tokens = defaults (names segments) := by
  induction segments with
  | nil => rfl
  | cons segment segments ih =>
      rw [nest, tokens, tokens_before, ih, names_cons segment segments]
      simp [defaults, tokens]

/-- No token before the text can take any of it. -/
def Closes (text : List Char) : Prop :=
  ∀ c ∈ text.head?, isNameChar c = false ∧ c ≠ ':'

theorem closes_cons {c : Char} (hname : isNameChar c = false) (hc : c ≠ ':')
    (text : List Char) : Closes (c :: text) := by
  rintro d ⟨⟩
  exact ⟨hname, hc⟩

open Template

private theorem scan_defaultToken {name text : List Char}
    (h : Token.WellFormed ⟨name, none⟩) (htext : Closes text) :
    scan .literal ('@' :: (name ++ text)) =
      addToken ⟨name, none⟩ (scan .literal text) := by
  have hrun : text.takeWhile isNameChar = [] ∧
      text.dropWhile isNameChar = text := by
    cases text with
    | nil => exact ⟨rfl, rfl⟩
    | cons c text =>
        have hc := (htext c rfl).1
        simp [hc]
  rw [scan, if_pos ⟨rfl, startsName_append h.starts text⟩, scan_name,
    List.takeWhile_append_of_pos h.name, List.dropWhile_append_of_pos h.name,
    hrun.1, hrun.2, scanBehind]
  · simp
  · rintro rest rfl
    exact (htext ':' rfl).2 rfl

private theorem scan_chars (chars : List SegmentChar) (text : List Char) :
    (scan .literal (chars.map Subtype.val ++ text)).tokens =
      (scan .literal text).tokens := by
  induction chars with
  | nil => rfl
  | cons c chars ih =>
      have hat : c.val ≠ '@' := PlainChar.ne c.property.1 (by decide)
      rw [List.map_cons, List.cons_append, scan_addChar hat]
      exact ih

theorem scan_source {segment : Segment} {text : List Char} (h : Closes text) :
    (scan .literal (segment.source ++ text)).tokens =
      defaults (names [segment]) ++ (scan .literal text).tokens := by
  cases segment with
  | text chars _ =>
      rw [source, List.cons_append, scan_addChar (by decide)]
      exact scan_chars chars text
  | token name wellFormed =>
      rw [source, List.cons_append, scan_addChar (by decide), List.cons_append,
        scan_defaultToken wellFormed h]
      rfl

private theorem closes_source (segment : Segment) (text : List Char) :
    Closes (segment.source ++ text) := by
  cases segment with
  | text chars _ => exact closes_cons rfl (by decide) _
  | token name _ => exact closes_cons rfl (by decide) _

private theorem closes_sources (segments : List Segment) {text : List Char}
    (h : Closes text) : Closes (segments.flatMap source ++ text) := by
  cases segments with
  | nil => exact h
  | cons segment segments =>
      rw [List.flatMap_cons, List.append_assoc]
      exact closes_source segment _

theorem scan_sources (segments : List Segment) {text : List Char}
    (h : Closes text) :
    (scan .literal (segments.flatMap source ++ text)).tokens =
      defaults (names segments) ++ (scan .literal text).tokens := by
  induction segments with
  | nil => rfl
  | cons segment segments ih =>
      rw [List.flatMap_cons, List.append_assoc,
        scan_source (closes_sources segments h), ih,
        names_cons segment segments]
      simp [defaults]

theorem closes_nested (segments : List Segment) {text : List Char}
    (h : Closes text) : Closes (nestedSource segments ++ text) := by
  cases segments with
  | nil => exact h
  | cons segment segments => exact closes_cons rfl (by decide) _

theorem scan_nested (segments : List Segment) : ∀ {text}, Closes text →
    (scan .literal (nestedSource segments ++ text)).tokens =
      defaults (names segments) ++ (scan .literal text).tokens := by
  induction segments with
  | nil => exact fun _ => rfl
  | cons segment segments ih =>
      intro text h
      have hclose : Closes (')' :: text) := closes_cons rfl (by decide) text
      have hclosing : (scan .literal (')' :: text)).tokens =
          (scan .literal text).tokens := by
        rw [scan_addChar (by decide)]
        rfl
      rw [nestedSource, List.cons_append, scan_addChar (by decide),
        List.append_assoc, List.append_assoc, tokens_addChar,
        List.singleton_append, scan_source (closes_nested segments hclose),
        ih hclose, hclosing, names_cons segment segments]
      simp [defaults]

theorem derives_plains_iff {next : Shape insensitive} {chars : List SegmentChar}
    {word : List Char} {values : List (Option (List Char))} :
    (plains next chars).Derives word values ↔ ∃ part rest, word = part ++ rest ∧
      List.Forall₂ (fun (c : SegmentChar) d => Stands insensitive c.val d)
        chars part ∧ next.Derives rest values := by
  induction chars generalizing word with
  | nil =>
      constructor
      · exact fun h => ⟨[], word, rfl, .nil, h⟩
      · rintro ⟨_, rest, rfl, ⟨⟩, h⟩
        exact h
  | cons c chars ih =>
      constructor
      · intro h
        cases h with
        | plain hd hnext =>
            obtain ⟨part, rest, rfl, hpart, hrest⟩ := ih.mp hnext
            exact ⟨_ :: part, rest, rfl, .cons hd hpart, hrest⟩
      · rintro ⟨_, rest, rfl, hpart, hrest⟩
        cases hpart with
        | cons hd hpart => exact .plain hd (ih.mpr ⟨_, rest, rfl, hpart, hrest⟩)

theorem derives_before_iff {segment : Segment} {next : Shape insensitive}
    {word : List Char} {values : List (Option (List Char))} :
    (segment.before next).Derives word values ↔ ∃ part rest fillings values',
      word = '/' :: part ++ rest ∧ values = fillings.map some ++ values' ∧
      Fits insensitive segment part fillings ∧ next.Derives rest values' := by
  cases segment with
  | text chars _ =>
      constructor
      · intro h
        cases h with
        | plain hd hnext =>
            cases stands_slash.mp hd
            obtain ⟨part, rest, rfl, hpart, hrest⟩ :=
              derives_plains_iff.mp hnext
            exact ⟨part, rest, [], values, rfl, rfl, ⟨rfl, hpart⟩, hrest⟩
      · rintro ⟨part, rest, _, values', rfl, rfl, ⟨rfl, hpart⟩, hrest⟩
        refine .plain (stands_slash.mpr rfl) ?_
        exact derives_plains_iff.mpr ⟨part, rest, rfl, hpart, hrest⟩
  | token name _ =>
      constructor
      · intro h
        cases h with
        | plain hd hnext =>
            cases stands_slash.mp hd
            cases hnext with
            | @token _ _ filling _ rest values hfills hrest =>
                exact ⟨filling, rest, [filling], values,
                  rfl, rfl, ⟨rfl, hfills⟩, hrest⟩
      · rintro ⟨part, rest, _, values', rfl, rfl, ⟨rfl, hpart⟩, hrest⟩
        exact .plain (stands_slash.mpr rfl) (.token hpart hrest)

theorem derives_shape_iff {last : Shape insensitive} {segments : List Segment}
    {word : List Char} {values : List (Option (List Char))} :
    (shape last segments).Derives word values ↔ ∃ taken rest fillings values',
      word = taken ++ rest ∧ values = fillings.map some ++ values' ∧
      Instance insensitive segments taken fillings ∧
      last.Derives rest values' := by
  induction segments generalizing word values with
  | nil =>
      constructor
      · exact fun h => ⟨[], word, [], values, rfl, rfl, .nil, h⟩
      · rintro ⟨_, rest, _, values', rfl, rfl, ⟨⟩, h⟩
        exact h
  | cons segment segments ih =>
      rw [shape, derives_before_iff]
      constructor
      · rintro ⟨part, behind, fillings, later, rfl, rfl, hfits, hnext⟩
        obtain ⟨taken, rest, fillings', values', rfl, rfl, hinstance, hlast⟩ :=
          ih.mp hnext
        exact ⟨'/' :: part ++ taken, rest, fillings ++ fillings', values',
          by simp, by simp, .cons hfits hinstance, hlast⟩
      · rintro ⟨_, rest, _, values', rfl, rfl, hinstance, hlast⟩
        cases hinstance with
        | @cons _ _ part taken fillings fillings' hfits hinstance =>
            refine ⟨part, taken ++ rest, fillings,
              fillings'.map some ++ values', by simp, by simp, hfits, ?_⟩
            exact ih.mpr ⟨taken, rest, fillings', values', rfl,
              rfl, hinstance, hlast⟩

theorem derives_nest_iff {segments : List Segment} {word : List Char}
    {values : List (Option (List Char))} :
    (nest segments : Shape insensitive).Derives word values ↔
      ∃ count ≤ segments.length, ∃ fillings,
        Instance insensitive (segments.take count) word fillings ∧
        values = fillings.map some ++
          (names (segments.drop count)).map fun _ => none := by
  induction segments generalizing word values with
  | nil =>
      constructor
      · rintro ⟨⟩
        exact ⟨0, Nat.le_refl _, [], .nil, rfl⟩
      · rintro ⟨count, hcount, _, hinstance, rfl⟩
        cases Nat.le_zero.mp hcount
        cases hinstance
        exact .done
  | cons segment segments ih =>
      constructor
      · intro h
        cases h with
        | @kept _ _ first second values values' hinner hdone =>
            cases hdone
            obtain ⟨part, rest, fillings, later, rfl, rfl, hfits, hnext⟩ :=
              derives_before_iff.mp hinner
            obtain ⟨count, hcount, fillings', hinstance, rfl⟩ := ih.mp hnext
            refine ⟨count + 1, Nat.succ_le_succ hcount,
              fillings ++ fillings', ?_, by simp⟩
            simpa using .cons hfits hinstance
        | skipped hdone =>
            cases hdone
            refine ⟨0, Nat.zero_le _, [], .nil, ?_⟩
            rw [tokens_before, tokens_nest, List.drop_zero,
              names_cons segment segments]
            simp [defaults, Function.comp_def]
      · rintro ⟨count, hcount, fillings, hinstance, rfl⟩
        cases count with
        | zero =>
            cases hinstance
            have hskipped : (nest (segment :: segments) :
                Shape insensitive).Derives [] _ := .skipped .done
            rw [tokens_before, tokens_nest] at hskipped
            rw [List.drop_zero, names_cons segment segments]
            simpa [defaults, Function.comp_def] using hskipped
        | succ count =>
            rw [List.take_succ_cons] at hinstance
            cases hinstance with
            | @cons _ _ part taken fillings fillings' hfits hinstance =>
                have hnext := ih.mpr ⟨count, Nat.le_of_succ_le_succ hcount,
                  fillings', hinstance, rfl⟩
                have hinner := derives_before_iff.mpr
                  ⟨part, taken, fillings, _, rfl, rfl, hfits, hnext⟩
                have hkept : (nest (segment :: segments) :
                    Shape insensitive).Derives _ _ := .kept hinner .done
                simpa using hkept

end Signpost.Segment
