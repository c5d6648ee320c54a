import Signpost.Proofs.Pattern.Remainder
import Signpost.Proofs.Pattern.Segmented

/-!
# Values of segments

A pattern of segments finds in a path the values that its segments are filled
with there.  They are determined by the path: a segment ends where a slash or a
question mark stands, and how many optional segments have been taken is how
many slashes there are.
-/

namespace Signpost.Segment

open Shape

variable {insensitive : Bool}

def filled (names fillings : List (List Char)) : List (String × Param) :=
  List.zipWith (fun name filling =>
    (String.ofList name, some (String.ofList (decodeSegment filling))))
    names fillings

def missing (names : List (List Char)) : List (String × Param) :=
  names.map fun name => (String.ofList name, none)

/--
The path is an instance of the segments and of so many of the optional ones,
with a slash or none and a query or none behind it.
-/
def Reads (insensitive : Bool) (segments optionals : List Segment)
    (path : List Char) (count : Nat) (fillings : List (List Char)) : Prop :=
  count ≤ optionals.length ∧ ∃ word slash query, path = word ++ slash ++ query ∧
    (slash = [] ∨ slash = ['/']) ∧ IsQuery query ∧
    Instance insensitive (segments ++ optionals.take count) word fillings

theorem IsQuery.head {query : List Char} (h : IsQuery query) :
    query = [] ∨ ∃ rest, query = '?' :: rest := by
  rcases h with rfl | ⟨rest, rfl, -⟩
  · exact .inl rfl
  · exact .inr ⟨rest, rfl⟩

private theorem query_unique {body body' query query' : List Char}
    (hbody : '?' ∉ body)
    (hbody' : '?' ∉ body') (hquery : IsQuery query) (hquery' : IsQuery query')
    (heq : body ++ query = body' ++ query') : body = body' := by
  have htake : ∀ {body query : List Char}, '?' ∉ body → IsQuery query →
      (body ++ query).takeWhile (· != '?') = body := by
    intro body query hbody hquery
    have hall : ∀ c ∈ body, (c != '?') = true := by
      intro c hc
      simp only [bne_iff_ne, ne_eq]
      exact fun heq => hbody (heq ▸ hc)
    rw [List.takeWhile_append_of_pos hall]
    rcases IsQuery.head hquery with rfl | ⟨rest, rfl⟩
    · simp
    · simp
  rw [← htake hbody hquery, heq, htake hbody' hquery']

theorem Reads.unique {segments optionals : List Segment} {path : List Char}
    {count count' : Nat} {fillings fillings' : List (List Char)}
    (h : Reads insensitive segments optionals path count fillings)
    (h' : Reads insensitive segments optionals path count' fillings') :
    count = count' ∧ fillings = fillings' := by
  obtain ⟨hle, word, slash, query, rfl, hslash, hquery, hinstance⟩ := h
  obtain ⟨hle', word', slash', query', hpath, hslash', hquery', hinstance'⟩ :=
    h'
  have hquestion : ∀ {word slash : List Char}, '?' ∉ word →
      (slash = [] ∨ slash = ['/']) → '?' ∉ word ++ slash := by
    rintro word _ hword (rfl | rfl) <;> simp [hword]
  have hbody := query_unique (hquestion hinstance.question_not_mem hslash)
    (hquestion hinstance'.question_not_mem hslash') hquery hquery' hpath
  have htake : ∀ {count}, count ≤ optionals.length →
      segments ++ optionals.take count =
        (segments ++ optionals).take (segments.length + count) := by
    intro count _
    rw [List.take_length_add_append]
  rw [htake hle] at hinstance
  rw [htake hle'] at hinstance'
  obtain ⟨hcount, hfillings⟩ := Instance.unique_take
    (by rw [List.length_append]; omega) (by rw [List.length_append]; omega)
    hinstance hinstance' hslash hslash' hbody
  exact ⟨by omega, hfillings⟩

theorem named_filled {names names' : List (List Char)}
    {fillings : List (List Char)} (hlength : fillings.length = names.length)
    {shape : Shape insensitive} (hnames : shape.names = names ++ names') :
    shape.named (fillings.map some ++ names'.map fun _ => none) =
      filled names fillings ++ missing names' := by
  rw [named, hnames, List.zipWith_append (by simp [hlength]),
    List.zipWith_map_right, List.zipWith_map_right, List.zipWith_self]
  rfl

/-! ## Optional segments -/

theorem star_not_mem_sources (segments : List Segment) :
    '*' ∉ segments.flatMap source := by
  intro hmem
  obtain ⟨segment, -, hsource⟩ := List.mem_flatMap.mp hmem
  cases segment with
  | text chars _ =>
      simp only [source, List.mem_cons, List.mem_map] at hsource
      obtain hslash | ⟨c, -, hstar⟩ := hsource
      · cases hslash
      · exact c.property.1 (hstar ▸ by decide)
  | token name wellFormed =>
      simp only [source, List.mem_cons] at hsource
      obtain hslash | hat | hname := hsource
      · cases hslash
      · cases hat
      · cases wellFormed.name _ hname

theorem getLast?_nested (segments optionals : List Segment) {sign : Char}
    (hsign : (segments.flatMap source).getLast? ≠ some sign)
    (hclose : sign ≠ ')') :
    (segments.flatMap source ++ nestedSource optionals).getLast? ≠
      some sign := by
  cases optionals with
  | nil => simpa [nestedSource] using hsign
  | cons segment optionals =>
      have hlast : (segments.flatMap source ++
          nestedSource (segment :: optionals)).getLast? = some ')' := by
        rw [List.getLast?_append, nestedSource, ← List.cons_append,
          List.getLast?_append]
        rfl
      rw [hlast]
      simpa using hclose.symm

abbrev nested (insensitive : Bool) (segments optionals : List Segment) :
    Shape insensitive :=
  shape (nest optionals) segments

variable {segments optionals : List Segment} {pattern : String}
  {compiled : CompiledPattern}

theorem text_nested : (nested insensitive segments optionals).text =
    segments.flatMap source ++ nestedSource optionals := by
  rw [text_shape, text_nest]

theorem compiles_nested
    (hpattern : pattern.toList = segments.flatMap source ++
      nestedSource optionals)
    (hcompile : CompiledPattern.compile pattern (!insensitive) = .ok compiled) :
    (nested insensitive segments optionals).Compiles compiled := by
  have hclosed : Closes [] := by simp [Closes]
  have hnested := closes_nested optionals hclosed
  have hoptionals := scan_nested optionals hclosed
  rw [List.append_nil] at hnested hoptionals
  refine ⟨?_, ?_⟩
  · rw [text_nested, Template.ofText, scan_sources segments hnested, hoptionals,
      tokens_shape, tokens_nest]
    exact congrArg _ (List.append_nil _)
  · rw [text_nested, ← hpattern, String.ofList_toList]
    exact hcompile

theorem derives_nested_iff {word : List Char}
    {values : List (Option (List Char))} :
    (nested insensitive segments optionals).Derives word values ↔
      ∃ count ≤ optionals.length, ∃ fillings,
        Instance insensitive (segments ++ optionals.take count) word fillings ∧
        values = fillings.map some ++
          (names (optionals.drop count)).map fun _ => none := by
  rw [derives_shape_iff]
  constructor
  · rintro ⟨taken, rest, fillings, _, rfl, rfl, hinstance, hnest⟩
    obtain ⟨count, hle, fillings', hinstance', rfl⟩ := derives_nest_iff.mp hnest
    refine ⟨count, hle, fillings ++ fillings', ?_, by simp⟩
    exact instance_append_iff.mpr
      ⟨taken, rest, fillings, fillings', rfl, rfl, hinstance, hinstance'⟩
  · rintro ⟨count, hle, _, hinstance, rfl⟩
    obtain ⟨taken, rest, fillings, fillings', rfl, rfl, hfirst, hsecond⟩ :=
      instance_append_iff.mp hinstance
    refine ⟨taken, rest, fillings, _, rfl, ?_, hfirst,
      derives_nest_iff.mpr ⟨count, hle, fillings', hsecond, rfl⟩⟩
    simp

theorem yields_nested_iff {body : List Char}
    {values : List (Option (List Char))} :
    (nested insensitive segments optionals).Yields body values ↔
      ∃ word slash, body = word ++ slash ∧ (slash = [] ∨ slash = ['/']) ∧
        (nested insensitive segments optionals).Derives word values := by
  obtain ⟨fillings, hinstance⟩ := @exists_instance_source insensitive segments
  have hlast :=
    getLast?_nested segments optionals hinstance.getLast?_ne (by decide)
  have htext : (nested insensitive segments optionals).text = _ := text_nested
  rw [← htext] at hlast
  exact Stem.yields_iff (.whole hlast)

/-- The values found in a path that reads as so many segments. -/
def valuesAt (segments optionals : List Segment) (count : Nat)
    (fillings : List (List Char)) : Params :=
  { named := filled (names (segments ++ optionals.take count)) fillings ++
      missing (names (optionals.drop count)) }

theorem captures_nested_iff
    (h : (nested insensitive segments optionals).Compiles compiled)
    {path : String} {params : Params} :
    compiled.captures path = some params ↔ ∃ count fillings,
      Reads insensitive segments optionals path.toList count fillings ∧
        params = valuesAt segments optionals count fillings := by
  have hnames : ∀ count, (nested insensitive segments optionals).names =
      names (segments ++ optionals.take count) ++ names
        (optionals.drop count) := by
    intro count
    rw [Shape.names, tokens_shape, tokens_nest, defaults,
      defaults, ← List.map_append, ← names_append, List.map_map,
      ← names_append, List.append_assoc, List.take_append_drop]
    exact List.map_id _
  have hsplat : CompiledPattern.separators
      (nested insensitive segments optionals).text = none := by
    have hstar : (segments.flatMap source).getLast? ≠ some '*' :=
      fun hlast => star_not_mem_sources segments (List.mem_of_getLast? hlast)
    rw [text_nested, CompiledPattern.separators,
      if_neg (getLast?_nested segments optionals hstar (by decide))]
  have hsound : ∀ {params}, compiled.captures path = some params →
      ∃ count fillings,
        Reads insensitive segments optionals path.toList count fillings ∧
          params = valuesAt segments optionals count fillings := by
    intro params hcaptures
    obtain ⟨body, query, values, hpath, hquery, hyields, rfl⟩ :=
      h.yields_of_captures hcaptures
    obtain ⟨word, slash, rfl, hslash, hderives⟩ := yields_nested_iff.mp hyields
    obtain ⟨count, hle, fillings, hinstance, rfl⟩ :=
      derives_nested_iff.mp hderives
    refine ⟨count, fillings, ⟨hle, word, slash, query, hpath, hslash, hquery,
      hinstance⟩, ?_⟩
    rw [hsplat, named_filled hinstance.length_fillings (hnames count)]
    rfl
  constructor
  · exact hsound
  · rintro ⟨count, fillings, hreads, rfl⟩
    have hreads' := hreads
    obtain ⟨hle, word, slash, query, hpath, hslash, hquery, hinstance⟩ := hreads
    have hderives :=
      derives_nested_iff.mpr ⟨count, hle, fillings, hinstance, rfl⟩
    have hyields := yields_nested_iff.mpr ⟨word, slash, rfl, hslash, hderives⟩
    -- the path is matched in some way, and there is only one
    obtain ⟨params, hparams⟩ := Option.isSome_iff_exists.mp
      (h.captures_of_yields hpath hquery hyields)
    obtain ⟨count', fillings', hreads'', rfl⟩ := hsound hparams
    obtain ⟨rfl, rfl⟩ := hreads'.unique hreads''
    exact hparams

/-! ## A wildcard at the end -/

abbrev trailed (insensitive : Bool) (segments : List Segment) :
    Shape insensitive :=
  shape (wildcard done) segments

theorem text_trailed : (trailed insensitive segments).text =
    segments.flatMap source ++ ['/', '*'] :=
  text_shape _ _

theorem compiles_trailed
    (hpattern : pattern.toList = segments.flatMap source ++ ['/', '*'])
    (hcompile : CompiledPattern.compile pattern (!insensitive) = .ok compiled) :
    (trailed insensitive segments).Compiles compiled := by
  have hclosed : Closes ['/', '*'] := closes_cons rfl (by decide) _
  refine ⟨?_, ?_⟩
  · rw [text_trailed, Template.ofText, scan_sources segments hclosed,
      tokens_shape]
    rfl
  · rw [text_trailed, ← hpattern, String.ofList_toList]
    exact hcompile

def IsWild (tail : List Char) : Prop :=
  tail = [] ∨ ∃ rest, tail = '/' :: rest ∧ '\n' ∉ rest

theorem derives_trailed_iff {word : List Char}
    {values : List (Option (List Char))} :
    (trailed insensitive segments).Derives word values ↔
      ∃ taken tail fillings, word = taken ++ tail ∧ IsWild tail ∧
        Instance insensitive segments taken fillings ∧
        values = fillings.map some := by
  rw [derives_shape_iff]
  constructor
  · rintro ⟨taken, tail, fillings, values', rfl, rfl, hinstance, hwild⟩
    cases hwild with
    | nothing hdone =>
        cases hdone
        exact ⟨taken, [], fillings, rfl, .inl rfl, hinstance, by simp⟩
    | @remainder _ rest _ _ hline hdone =>
        cases hdone
        exact ⟨taken, _, fillings, rfl, .inr ⟨rest, by simp, hline⟩, hinstance,
          by simp⟩
  · rintro ⟨taken, _, fillings, rfl, rfl | ⟨rest, rfl, hline⟩, hinstance, rfl⟩
    · exact ⟨taken, [], fillings, [], rfl, by simp, hinstance, .nothing .done⟩
    · have hwild : (wildcard done : Shape insensitive).Derives
          ('/' :: rest ++ []) [] := .remainder hline .done
      rw [List.append_nil] at hwild
      exact ⟨taken, _, fillings, [], rfl, by simp, hinstance, hwild⟩

theorem yields_trailed_iff {body : List Char}
    {values : List (Option (List Char))} :
    (trailed insensitive segments).Yields body values ↔
      (trailed insensitive segments).Derives body values := by
  have hlast : (trailed insensitive segments).text.getLast? ≠ some '/' := by
    rw [text_trailed, List.getLast?_append]
    simp
  rw [Yields, if_neg hlast]
  refine ⟨?_, .inl⟩
  rintro (hderives | ⟨word, rfl, hderives⟩)
  · exact hderives
  -- the wildcard takes the slash that may stand at the end
  · obtain ⟨taken, tail, fillings, rfl, hwild, hinstance, rfl⟩ :=
      derives_trailed_iff.mp hderives
    refine derives_trailed_iff.mpr
      ⟨taken, tail ++ ['/'], fillings, by simp, .inr ?_, hinstance, rfl⟩
    rcases hwild with rfl | ⟨rest, rfl, hline⟩
    · exact ⟨[], rfl, by simp⟩
    · exact ⟨rest ++ ['/'], rfl, by simp [hline]⟩

private theorem names_trailed : (trailed insensitive segments).names =
    names segments := by
  rw [Shape.names, tokens_shape, defaults]
  simp [tokens, Function.comp_def]

private theorem separators_trailed (insensitive : Bool)
    (segments : List Segment) :
    CompiledPattern.separators (trailed insensitive segments).text =
      some (segments.length + 1) := by
  obtain ⟨fillings, hinstance⟩ := @exists_instance_source insensitive segments
  rw [text_trailed, CompiledPattern.separators, if_pos (by
    rw [List.getLast?_append]; rfl), List.count_append, hinstance.count_slash]
  rfl

theorem reads_of_trailed (h : (trailed insensitive segments).Compiles compiled)
    {path : String} {params : Params}
    (hcaptures : compiled.captures path = some params) :
    ∃ taken tail query fillings, path.toList = taken ++ tail ++ query ∧
      IsWild tail ∧ IsQuery query ∧
      Instance insensitive segments taken fillings ∧
      params =
        { named := filled (names segments) fillings
          splat := splatOf path.toList (segments.length + 1) } := by
  obtain ⟨body, query, values, hpath, hquery, hyields, rfl⟩ :=
    h.yields_of_captures hcaptures
  obtain ⟨taken, tail, fillings, rfl, hwild, hinstance, rfl⟩ :=
    derives_trailed_iff.mp (yields_trailed_iff.mp hyields)
  refine ⟨taken, tail, query, fillings, hpath, hwild, hquery, hinstance, ?_⟩
  have hnames : (trailed insensitive segments).names =
      names segments ++ [] := by
    rw [names_trailed, List.append_nil]
  have hnamed := named_filled hinstance.length_fillings hnames
  rw [List.map_nil, List.append_nil] at hnamed
  rw [hnamed, separators_trailed]
  simp [missing]

theorem IsWild.cut {tail query : List Char} (h : IsWild tail)
    (hquery : IsQuery query) :
    Cut (tail ++ query) := by
  rcases h with rfl | ⟨rest, rfl, -⟩
  · rcases IsQuery.head hquery with rfl | ⟨rest, rfl⟩
    · exact cut_nil
    · exact cut_question rest
  · exact cut_slash _

theorem captures_of_trailed
    (h : (trailed insensitive segments).Compiles compiled)
    {path : String} {taken tail query : List Char} {fillings : List (List Char)}
    (hpath : path.toList = taken ++ tail ++ query) (hwild : IsWild tail)
    (hquery : IsQuery query)
    (hinstance : Instance insensitive segments taken fillings) :
    compiled.captures path = some
      { named := filled (names segments) fillings
        splat := splatOf path.toList (segments.length + 1) } := by
  have hderives := derives_trailed_iff.mpr
    ⟨taken, tail, fillings, rfl, hwild, hinstance, rfl⟩
  obtain ⟨params, hparams⟩ := Option.isSome_iff_exists.mp
    (h.captures_of_yields hpath hquery (yields_trailed_iff.mpr hderives))
  obtain ⟨taken', tail', query', fillings', hpath', hwild', hquery', hinstance',
    rfl⟩ := reads_of_trailed h hparams
  rw [List.append_assoc] at hpath hpath'
  obtain ⟨-, -, rfl⟩ := hinstance.unique hinstance' (hwild.cut hquery)
    (hwild'.cut hquery') (hpath.symm.trans hpath')
  exact hparams

/-- What the wildcard took, if there is any of it. -/
def splatAt (tail : List Char) : Option String :=
  match tail.tail with
  | [] => none
  | rest => some (String.ofList rest)

theorem splatOf_wild {taken tail : List Char} {fillings : List (List Char)}
    (hwild : IsWild tail)
    (hinstance : Instance insensitive segments taken fillings) :
    splatOf (taken ++ tail) (segments.length + 1) = splatAt tail := by
  rcases hwild with rfl | ⟨rest, rfl, -⟩
  · rw [List.append_nil]
    exact splatOf_eq_none (by rw [hinstance.count_slash]; omega)
  · rw [splatOf_append hinstance.count_slash]
    cases rest <;> rfl

theorem captures_trailed_iff
    (h : (trailed insensitive segments).Compiles compiled) {path : String}
    (hquestion : '?' ∉ path.toList) {params : Params} :
    compiled.captures path = some params ↔ ∃ taken tail fillings,
      path.toList = taken ++ tail ∧ IsWild tail ∧
      Instance insensitive segments taken fillings ∧
      params =
        { named := filled (names segments) fillings,
          splat := splatAt tail } := by
  constructor
  · intro hcaptures
    obtain ⟨taken, tail, query, fillings, hpath, hwild,
        hquery, hinstance, rfl⟩ :=
      reads_of_trailed h hcaptures
    have hnil : query = [] := by
      rcases IsQuery.head hquery with hnil | ⟨rest, rfl⟩
      · exact hnil
      · exact absurd (by simp [hpath]) hquestion
    rw [hnil, List.append_nil] at hpath
    refine ⟨taken, tail, fillings, hpath, hwild, hinstance, ?_⟩
    rw [hpath, splatOf_wild hwild hinstance]
  · rintro ⟨taken, tail, fillings, hpath, hwild, hinstance, rfl⟩
    rw [captures_of_trailed h (hpath.trans (List.append_nil _).symm) hwild
      (.inl rfl)
      hinstance, hpath, splatOf_wild hwild hinstance]

/-! ## Values where case counts -/

/--
The values of a path in a pattern of segments, first with optional segments
behind them and then with a wildcard.
-/
theorem captures_values :
    (∀ (segments optionals : List Segment) (pattern : String)
      (compiled : CompiledPattern),
      pattern.toList = segments.flatMap source ++ nestedSource optionals →
      CompiledPattern.compile pattern true = .ok compiled → ∀ path : String,
        ((compiled.captures path).isSome ↔ ∃ count fillings,
          Reads false segments optionals path.toList count fillings) ∧
        ∀ count fillings,
          Reads false segments optionals path.toList count fillings →
          (∀ count' fillings',
            Reads false segments optionals path.toList count' fillings' →
              count' = count ∧ fillings' = fillings) ∧
          compiled.captures path =
            some (valuesAt segments optionals count fillings)) ∧
    (∀ (segments : List Segment) (pattern : String)
      (compiled : CompiledPattern),
      pattern.toList = segments.flatMap source ++ ['/', '*'] →
      CompiledPattern.compile pattern true = .ok compiled →
      ∀ path : String, '?' ∉ path.toList →
        ((compiled.captures path).isSome ↔ ∃ taken tail fillings,
          path.toList = taken ++ tail ∧ IsWild tail ∧
          Instance false segments taken fillings) ∧
        ∀ taken tail fillings, path.toList = taken ++ tail → IsWild tail →
          Instance false segments taken fillings →
          compiled.captures path = some
            { named := filled (names segments) fillings
              splat := splatAt tail }) := by
  constructor
  · intro segments optionals pattern compiled hpattern hcompile path
    have h := @compiles_nested false _ _ _ _ hpattern hcompile
    refine ⟨⟨fun hsome => ?_, ?_⟩, fun count fillings hreads => ⟨?_, ?_⟩⟩
    · obtain ⟨params, hparams⟩ := Option.isSome_iff_exists.mp hsome
      obtain ⟨count, fillings, hreads, -⟩ := (captures_nested_iff h).mp hparams
      exact ⟨count, fillings, hreads⟩
    · rintro ⟨count, fillings, hreads⟩
      rw [(captures_nested_iff h).mpr ⟨count, fillings, hreads, rfl⟩]
      rfl
    · exact fun count' fillings' hreads' => hreads'.unique hreads
    · exact (captures_nested_iff h).mpr ⟨count, fillings, hreads, rfl⟩
  · intro segments pattern compiled hpattern hcompile path hquestion
    have h := @compiles_trailed false _ _ _ hpattern hcompile
    refine ⟨⟨fun hsome => ?_, ?_⟩,
      fun taken tail fillings hpath hwild hinstance =>
      (captures_trailed_iff h hquestion).mpr
        ⟨taken, tail, fillings, hpath, hwild, hinstance, rfl⟩⟩
    · obtain ⟨params, hparams⟩ := Option.isSome_iff_exists.mp hsome
      obtain ⟨taken, tail, fillings, hpath, hwild, hinstance, -⟩ :=
        (captures_trailed_iff h hquestion).mp hparams
      exact ⟨taken, tail, fillings, hpath, hwild, hinstance⟩
    · rintro ⟨taken, tail, fillings, hpath, hwild, hinstance⟩
      rw [(captures_trailed_iff h hquestion).mpr
        ⟨taken, tail, fillings, hpath, hwild, hinstance, rfl⟩]
      rfl

def segmentA : Segment := text [⟨'a', by decide⟩] (by decide)

def segmentToken : Segment :=
  token ['_'] ⟨rfl, List.forall_mem_singleton.mpr rfl, fun _ h => nomatch h⟩

theorem captures_values_short :
    (∃ compiled, CompiledPattern.compile "/a(/@_)" true = .ok compiled ∧
      compiled.captures "/a/7" = some { named := [("_", some "7")] }) ∧
    (∃ compiled, CompiledPattern.compile "/a/*" true = .ok compiled ∧
      compiled.captures "/a/b" = some { splat := some "b" }) := by
  have hfits : Fits false segmentA ['a'] [] := ⟨rfl, .cons (.inl rfl) .nil⟩
  constructor
  · obtain ⟨compiled, hcompile⟩ : ∃ compiled,
        CompiledPattern.compile "/a(/@_)" true = .ok compiled := ⟨_, rfl⟩
    have htoken : Fits false segmentToken ['7'] [['7']] :=
      ⟨rfl, by decide, by decide, by decide⟩
    have hreads :
        Reads false [segmentA] [segmentToken] "/a/7".toList 1 [['7']] :=
      ⟨by decide, ['/', 'a', '/', '7'], [], [], rfl, .inl rfl, .inl rfl,
        .cons hfits (.cons htoken .nil)⟩
    exact ⟨compiled, hcompile, (((captures_values.1 [segmentA] [segmentToken]
      "/a(/@_)" compiled rfl hcompile "/a/7").2 1 [['7']] hreads).2).trans rfl⟩
  · obtain ⟨compiled, hcompile⟩ : ∃ compiled,
        CompiledPattern.compile "/a/*" true = .ok compiled := ⟨_, rfl⟩
    exact ⟨compiled, hcompile,
      ((captures_values.2 [segmentA] "/a/*" compiled rfl
      hcompile "/a/b" (by decide)).2 ['/', 'a'] ['/', 'b'] [] rfl
        (.inr ⟨['b'], rfl, by decide⟩) (.cons hfits .nil)).trans rfl⟩

end Signpost.Segment
