import Signpost.Pattern.Build
import Signpost.Proofs.Pattern.Values
import Signpost.Proofs.Text.Form

/-!
# Building and matching

Values put in the places of the tokens make an instance of the segments of a
pattern.  So what has been built is matched, and gives the values back.
-/

namespace Signpost

namespace Template

def fillWith (rest : List Char) (template : Template) (values : List Json) :
    List Char :=
  fillStars rest template.lead ++ fillParts rest template.parts values

theorem fillWith_addChar {c : Char} (hc : c ≠ '*') (rest : List Char)
    (template : Template) (values : List Json) :
    fillWith rest (addChar c template) values =
      c :: fillWith rest template values := by
  simp [fillWith, addChar, fillStars, hc]

theorem fillWith_star (rest : List Char) (template : Template)
    (values : List Json) :
    fillWith rest (addChar '*' template) values =
      rest ++ fillWith rest template values := by
  simp [fillWith, addChar, fillStars]

private theorem fillWith_addToken (rest : List Char) (token : Token)
    (template : Template) (value : Json) (values : List Json) :
    fillWith rest (addToken token template) (value :: values) =
      (renderValue value).toList ++ fillWith rest template values := by
  simp [fillWith, addToken, fillStars, fillParts]

end Template

namespace Segment

open Shape Template

variable {insensitive : Bool}

/-- A value whose text can fill a token. -/
def Fillable (value : Json) : Prop :=
  (renderValue value).toList ≠ [] ∧ '/' ∉ (renderValue value).toList ∧
    '?' ∉ (renderValue value).toList

def rendered (values : List Json) : List (List Char) :=
  values.map fun value => (renderValue value).toList

private theorem fillWith_plains (chars : List SegmentChar)
    (next : Shape insensitive)
    (template : Template) (rest : List Char) (values : List Json) :
    fillWith rest ((plains next chars).onto template) values =
      chars.map Subtype.val ++ fillWith rest (next.onto template) values := by
  induction chars with
  | nil => rfl
  | cons c chars ih =>
      have hstar : c.val ≠ '*' := PlainChar.ne c.property.1 (by decide)
      rw [plains, onto, fillWith_addChar hstar, ih]
      rfl

private theorem exists_fits {segment : Segment} {values : List Json}
    (hlength : (names [segment]).length ≤ values.length)
    (hfillable : ∀ value ∈ values.take (names [segment]).length,
      Fillable value) :
    ∃ part, Fits insensitive segment part
        (rendered (values.take (names [segment]).length)) ∧
      ∀ (next : Shape insensitive) (template : Template) (rest : List Char),
        fillWith rest ((segment.before next).onto template) values =
          '/' :: part ++ fillWith rest (next.onto template)
            (values.drop (names [segment]).length) := by
  cases segment with
  | text chars nonempty =>
      have hchars : List.Forall₂
          (fun (c : SegmentChar) d => Stands insensitive c.val d) chars
          (chars.map Subtype.val) := by
        rw [List.forall₂_map_right_iff]
        exact List.forall₂_same.mpr fun c _ => .inl rfl
      refine ⟨chars.map Subtype.val, ⟨rfl, hchars⟩,
        fun next template rest => ?_⟩
      rw [before, onto, fillWith_addChar (by decide), fillWith_plains]
      rfl
  | token name wellFormed =>
      cases values with
      | nil => cases hlength
      | cons value values =>
          have hvalue := hfillable value (by simp [names])
          refine ⟨(renderValue value).toList, ⟨rfl, hvalue⟩,
            fun next template rest => ?_⟩
          rw [before, onto, fillWith_addChar (by decide),
            onto, fillWith_addToken]
          rfl

theorem exists_instance (segments : List Segment) : ∀ {values : List Json},
    (names segments).length ≤ values.length →
    (∀ value ∈ values.take (names segments).length, Fillable value) →
    ∃ word, Instance insensitive segments word
        (rendered (values.take (names segments).length)) ∧
      ∀ (last : Shape insensitive) (template : Template) (rest : List Char),
        fillWith rest ((shape last segments).onto template) values =
          word ++ fillWith rest (last.onto template)
            (values.drop (names segments).length) := by
  induction segments with
  | nil => exact fun _ _ => ⟨[], .nil, fun _ _ _ => rfl⟩
  | cons segment segments ih =>
      intro values hlength hfillable
      rw [names_cons, List.length_append] at hlength hfillable ⊢
      have hsplit :
          values.take ((names [segment]).length + (names segments).length) =
          values.take (names [segment]).length ++
            (values.drop (names [segment]).length).take
              (names segments).length :=
        List.take_add
      rw [hsplit] at hfillable ⊢
      obtain ⟨part, hfits, hpart⟩ := @exists_fits insensitive segment values
        (by omega) fun value hmem =>
          hfillable value (List.mem_append_left _ hmem)
      obtain ⟨word, hinstance, hword⟩ :=
        @ih (values.drop (names [segment]).length)
        (by rw [List.length_drop]; omega)
        fun value hmem => hfillable value (List.mem_append_right _ hmem)
      refine ⟨'/' :: part ++ word, ?_, fun last template rest => ?_⟩
      · rw [rendered, List.map_append]
        exact .cons hfits hinstance
      · rw [shape, hpart, hword, List.drop_drop]
        simp

private theorem at_mem_sources {segments : List Segment}
    (h : names segments ≠ []) :
    '@' ∈ segments.flatMap source := by
  induction segments with
  | nil => exact absurd rfl h
  | cons segment segments ih =>
      rw [List.flatMap_cons]
      cases segment with
      | text chars _ => exact List.mem_append_right _ (ih h)
      | token name _ => exact List.mem_append_left _ (by simp [source])

variable {segments : List Segment} {values : List Json} {pattern : String}

theorem ofText_of_shape {last : Shape insensitive}
    (htext : pattern.toList = (shape last segments).text)
    (htokens : (Template.ofText (shape last segments).text).tokens =
      (shape last segments).tokens) (hlast : last.tokens = []) :
    Template.ofText pattern.toList = (shape last segments).onto {} ∧
      (Template.ofText pattern.toList).parts.length =
        (names segments).length := by
  refine ⟨by rw [htext, ofText_text htokens], ?_⟩
  have hlength := congrArg List.length htokens
  rw [tokens_shape, hlast, List.append_nil, defaults, List.length_map,
    Template.tokens, List.length_map] at hlength
  rw [htext, hlength]

theorem buildPath_segments (hpattern : pattern.toList = segments.flatMap source)
    (hlength : (names segments).length ≤ values.length)
    (hfillable : ∀ value ∈ values.take (names segments).length,
      Fillable value) :
    ∃ word, buildPath pattern values = .ok (String.ofList word) ∧
      Instance insensitive segments word
        (rendered (values.take (names segments).length)) := by
  have hstar : pattern.toList.contains '*' = false := by
    simpa [hpattern] using star_not_mem_sources segments
  by_cases hat : '@' ∈ pattern.toList
  · obtain ⟨word, hinstance, hword⟩ :=
      @exists_instance insensitive segments values hlength hfillable
    have htext :
        pattern.toList = (shape (done : Shape insensitive) segments).text := by
      rw [hpattern, text_shape]
      exact (List.append_nil _).symm
    have htokens :
        (Template.ofText
          (shape (done : Shape insensitive) segments).text).tokens =
        (shape (done : Shape insensitive) segments).tokens := by
      rw [text_shape, tokens_shape, Template.ofText, Shape.text,
        scan_sources segments (by simp [Closes])]
      rfl
    obtain ⟨htemplate, hparts⟩ := ofText_of_shape htext htokens rfl
    have hfill : (Template.ofText pattern.toList).fill values = word := by
      refine Eq.trans ?_ (List.append_nil word)
      rw [htemplate]
      exact hword done {} _
    refine ⟨word, ?_, hinstance⟩
    rw [buildPath]
    dsimp only
    rw [hstar, if_neg (by simpa using hat), hparts, if_neg (by omega), hfill]
  -- without an `@` the pattern is its own path, and it has no token
  · have hnames : names segments = [] := by
      by_contra hne
      exact hat (hpattern ▸ at_mem_sources hne)
    obtain ⟨fillings, hinstance⟩ := @exists_instance_source insensitive segments
    have hnil : fillings = [] := by
      have := hinstance.length_fillings
      rw [hnames] at this
      exact List.length_eq_zero_iff.mp this
    refine ⟨pattern.toList, ?_, ?_⟩
    · rw [buildPath]
      dsimp only
      rw [hstar, if_pos (by simpa using hat), String.ofList_toList]
    · rw [hnil] at hinstance
      rw [hpattern, hnames]
      simpa [rendered] using hinstance

theorem buildPath_trailed
    (hpattern : pattern.toList = segments.flatMap source ++ ['/', '*'])
    (hlength : (names segments).length ≤ values.length)
    (hfillable : ∀ value ∈ values.take (names segments).length,
      Fillable value) :
    ∃ word, buildPath pattern values = .ok (String.ofList
        (word ++ '/' :: joinRest (values.drop (names segments).length))) ∧
      Instance insensitive segments word
        (rendered (values.take (names segments).length)) := by
  obtain ⟨word, hinstance, hword⟩ :=
    @exists_instance insensitive segments values hlength hfillable
  have hstar : pattern.toList.contains '*' = true := by
    simp [hpattern]
  have htext : pattern.toList = (trailed insensitive segments).text := by
    rw [hpattern, text_trailed]
  have htokens : (Template.ofText (trailed insensitive segments).text).tokens =
      (trailed insensitive segments).tokens := by
    rw [text_trailed, tokens_shape, Template.ofText,
      scan_sources segments (closes_cons rfl (by decide) _)]
    rfl
  obtain ⟨htemplate, hparts⟩ := ofText_of_shape htext htokens rfl
  have hfill : (Template.ofText pattern.toList).fill values =
      word ++ '/' :: joinRest (values.drop (names segments).length) := by
    rw [Template.fill, hparts, htemplate]
    refine (hword (wildcard done) {} _).trans ?_
    rw [onto, fillWith_addChar (by decide), fillWith_star]
    simp [onto, fillWith, fillStars, fillParts]
  refine ⟨word, ?_, hinstance⟩
  rw [buildPath]
  dsimp only
  rw [hstar, if_neg (by simp), hparts, if_neg (by omega), hfill]

/--
What a value is, once it has been put in the place of a token and matched.
-/
def returned (name : List Char) (value : Json) : String × Param :=
  (String.ofList name,
    some (String.ofList (decodeSegment (renderValue value).toList)))

/-- What is left for the wildcard, if there is one and anything is left. -/
def leftOver (wild : Bool) (values : List Json) : Option String :=
  match wild, joinRest values with
  | true, c :: rest => some (String.ofList (c :: rest))
  | _, _ => none

theorem leftOver_true (values : List Json) :
    leftOver true values = splatAt ('/' :: joinRest values) := by
  cases hrest : joinRest values <;> simp [leftOver, splatAt, hrest]

theorem filled_rendered (names : List (List Char)) (values : List Json) :
    filled names (rendered (values.take names.length)) =
      List.zipWith returned names values := by
  induction names generalizing values with
  | nil => rfl
  | cons name names ih =>
      cases values with
      | nil => rfl
      | cons value values =>
          exact congrArg (returned name value :: ·) (ih values)

theorem returned_plain {value : Json}
    (hpercent : '%' ∉ (renderValue value).toList)
    (hplus : '+' ∉ (renderValue value).toList) (name : List Char) :
    returned name value = (String.ofList name, some (renderValue value)) := by
  rw [returned, decodeSegment_self hpercent hplus, String.ofList_toList]

private theorem valuesAt_nil (segments : List Segment)
    (fillings : List (List Char)) :
    valuesAt segments [] 0 fillings =
      { named := filled (names segments) fillings } := by
  rw [valuesAt, List.take_nil, List.append_nil, List.drop_nil]
  simp [missing, names]

theorem captures_built_segments {compiled : CompiledPattern}
    (hpattern : pattern.toList = segments.flatMap source)
    (hcompile : CompiledPattern.compile pattern (!insensitive) = .ok compiled)
    (hlength : (names segments).length ≤ values.length)
    (hfillable : ∀ value ∈ values.take (names segments).length,
      Fillable value) :
    ∃ path, buildPath pattern values = .ok path ∧ compiled.captures path =
      some { named := List.zipWith returned (names segments) values } := by
  obtain ⟨word, hbuild, hinstance⟩ :=
    @buildPath_segments insensitive _ _ _ hpattern hlength hfillable
  have h : (nested insensitive segments []).Compiles compiled :=
    compiles_nested (hpattern.trans (List.append_nil _).symm) hcompile
  have hreads : Reads insensitive segments [] word 0
      (rendered (values.take (names segments).length)) := by
    refine ⟨Nat.le_refl 0, word, [], [], by simp, .inl rfl, .inl rfl, ?_⟩
    rwa [List.take_zero, List.append_nil]
  rw [← @String.toList_ofList word] at hreads
  refine ⟨_, hbuild, ?_⟩
  rw [(captures_nested_iff h).mpr ⟨0, _, hreads, rfl⟩,
    valuesAt_nil, filled_rendered]

private theorem captures_built_trailed {compiled : CompiledPattern}
    (hpattern : pattern.toList = segments.flatMap source ++ ['/', '*'])
    (hcompile : CompiledPattern.compile pattern (!insensitive) = .ok compiled)
    (hlength : (names segments).length ≤ values.length)
    (hfillable : ∀ value ∈ values.take (names segments).length, Fillable value)
    (hline : '\n' ∉ joinRest (values.drop (names segments).length)) :
    ∃ path, buildPath pattern values = .ok path ∧
      compiled.captures path = some
        { named := List.zipWith returned (names segments) values
          splat := leftOver true (values.drop (names segments).length) } := by
  obtain ⟨word, hbuild, hinstance⟩ :=
    @buildPath_trailed insensitive _ _ _ hpattern hlength hfillable
  have hwild : IsWild ('/' :: joinRest (values.drop (names segments).length)) :=
    .inr ⟨_, rfl, hline⟩
  refine ⟨_, hbuild, ?_⟩
  -- the whole remainder falls to the wildcard, question marks and all
  rw [captures_of_trailed (compiles_trailed hpattern hcompile)
    ((String.toList_ofList).trans (List.append_nil _).symm) hwild (.inl rfl)
    hinstance, String.toList_ofList, splatOf_wild hwild hinstance,
    filled_rendered, leftOver_true]

def wildSource (wild : Bool) : List Char :=
  if wild then ['/', '*'] else []

/-- A path that is built from values is matched, and the values come back. -/
theorem captures_buildPath :
    (∀ (caseSensitive wild : Bool) (segments : List Segment) (pattern : String)
      (compiled : CompiledPattern),
      pattern.toList = segments.flatMap source ++ wildSource wild →
      CompiledPattern.compile pattern caseSensitive = .ok compiled →
      ∀ values : List Json, (names segments).length ≤ values.length →
        (∀ value ∈ values.take (names segments).length, Fillable value) →
        (wild = true → '\n' ∉ joinRest (values.drop (names segments).length)) →
        ∃ path, buildPath pattern values = .ok path ∧
          compiled.captures path = some
            { named := List.zipWith returned (names segments) values
              splat := leftOver wild (values.drop (names segments).length) }) ∧
    ∀ (name : List Char) (value : Json), '%' ∉ (renderValue value).toList →
      '+' ∉ (renderValue value).toList →
      returned name value = (String.ofList name, some (renderValue value)) := by
  refine ⟨?_, fun name value hpercent hplus => returned_plain
    hpercent hplus name⟩
  intro caseSensitive wild segments pattern compiled hpattern
    hcompile values hlength
    hfillable hline
  rw [← Bool.not_not caseSensitive] at hcompile
  cases wild with
  | true =>
      exact captures_built_trailed hpattern hcompile hlength
        hfillable (hline rfl)
  | false =>
      exact captures_built_segments
        (hpattern.trans (List.append_nil _)) hcompile
        hlength hfillable

theorem captures_buildPath_short :
    ∃ compiled, CompiledPattern.compile "/@_/*" true = .ok compiled ∧
      ∃ path, buildPath "/@_/*" [.string "7", .string "a", .bool true] =
        .ok path ∧
        compiled.captures path =
          some { named := [("_", some "7")], splat := some "a/1" } := by
  obtain ⟨compiled, hcompile⟩ : ∃ compiled,
      CompiledPattern.compile "/@_/*" true = .ok compiled := ⟨_, rfl⟩
  have hfillable : ∀ value ∈ [Json.string "7"], Fillable value := by
    intro value hvalue
    rw [List.mem_singleton.mp hvalue]
    exact ⟨by decide, by decide, by decide⟩
  obtain ⟨path, hbuild, hcaptures⟩ :=
    captures_buildPath.1 true true [segmentToken]
    "/@_/*" compiled rfl hcompile [.string "7", .string "a", .bool true]
      (by decide)
    hfillable (fun _ => by decide)
  exact ⟨compiled, hcompile, path, hbuild, hcaptures.trans rfl⟩

end Segment

end Signpost
