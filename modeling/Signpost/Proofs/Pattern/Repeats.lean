import Signpost.Proofs.Dispatch.Arity
import Signpost.Proofs.Json.Members
import Signpost.Proofs.Pattern.Anchoring
import Signpost.Proofs.Pattern.Openings

/-!
# Names that repeat

Nothing compares the names of a pattern's tokens: two tokens of one name are
refused by the reader of the expression, for which no two groups may have the
same name.  So it has to stand before both groups.  A token inside a bracketed
class, behind a backslash or in a comment opens no group, and its name may stand
once more; the values of such a pattern have a key less than there are values.
-/

namespace Signpost

open Regex

namespace Regex.ParseState

variable {state result : ParseState} {text name behind : List Char}

theorem Reads.declares (h : Reads state text result)
    (hahead : skip state.verbose text = namedHead name behind)
    (hname : '>' ∉ name) :
    name ∉ state.names ∧ ∃ after, Station.next? ⟨state, text⟩ =
      some ⟨after, behind⟩ ∧
      name ∈ after.names ∧ Reads after behind result := by
  cases h with
  | done hskip =>
      rw [hahead] at hskip
      cases hskip
  | @next _ after _ _ rest left c lexeme hskip hnext hstep hrest =>
      have hfollows := Station.next?_of_skip hskip hnext hstep
      rw [hskip.symm.trans hahead] at hnext
      cases next_namedHead hname hnext
      obtain ⟨hfresh, rfl⟩ := openCapture_eq hstep
      exact ⟨hfresh, _, hfollows, List.mem_cons_self, hrest⟩

private theorem not_reads_twice {first second : List Char} (hname : '>' ∉ name)
    (hfirst : namedHead name first <:+ text)
    (hsecond : namedHead name second <:+ first)
    (hopen : isCovered text (namedHead name first) = false)
    (hopen' : isCovered text (namedHead name second) = false) :
    ¬ Reads {} text result := by
  intro h
  obtain ⟨⟨state, before⟩, hreaches, hstand, hreads⟩ :=
    h.exists_stand hfirst fun _ => Station.covers_of_isCovered hopen
  obtain ⟨-, after, hnext, hmem, hbehind⟩ := hreads.declares hstand hname
  -- from behind the first group on its name is known, so at the second too
  have hmiddle := hreaches.tail hnext
  obtain ⟨⟨state', before'⟩, hreaches', hstand', hreads'⟩ :=
    hbehind.exists_stand hsecond fun _ hlater =>
      Station.covers_of_isCovered hopen' (hmiddle.trans hlater)
  obtain ⟨hfresh, -⟩ := hreads'.declares hstand' hname
  exact hfresh (hreaches'.names_subset hmem)

end Regex.ParseState

namespace Template

variable {pattern : List Char} {index later : Nat}

/-- Two tokens, the one earlier than the other, have the same name. -/
def Repeats (pattern : List Char) (index later : Nat) : Prop :=
  index < later ∧ ∃ name, ((ofText pattern).tokens[index]?).map Token.name =
    some name ∧
    ((ofText pattern).tokens[later]?).map Token.name = some name

theorem nodup_names_iff : ((ofText pattern).tokens.map Token.name).Nodup ↔
    ∀ index later, ¬ Repeats pattern index later := by
  rw [List.nodup_iff_getElem?_ne_getElem?]
  simp only [List.length_map, List.getElem?_map]
  constructor
  · rintro h index later ⟨hless, name, hname, hname'⟩
    obtain ⟨token, htoken, -⟩ := Option.map_eq_some_iff.mp hname'
    exact h index later hless (List.getElem?_eq_some_iff.mp htoken).1
      (hname.trans hname'.symm)
  · intro h index later hless hlater heq
    rw [List.getElem?_eq_getElem hlater, Option.map_some] at heq
    exact h index later
      ⟨hless, _, heq, by rw [List.getElem?_eq_getElem hlater, Option.map_some]⟩

theorem Repeats.opens (h : Repeats pattern index later)
    (hsigns : ∀ sign ∈ coveringSigns, sign ∉ pattern) :
    coversToken pattern index = false ∧ coversToken pattern later = false := by
  obtain ⟨-, name, hname, hname'⟩ := h
  obtain ⟨first, hfirst, -⟩ := Option.map_eq_some_iff.mp hname
  obtain ⟨second, hsecond, -⟩ := Option.map_eq_some_iff.mp hname'
  exact ⟨coversToken_of_not_mem hsigns hfirst,
    coversToken_of_not_mem hsigns hsecond⟩

private theorem Repeats.parse_ne_ok (h : Repeats pattern index later)
    (hopen : coversToken pattern index = false)
    (hopen' : coversToken pattern later = false)
    (tree : Ast) : parse (anchored pattern) ≠ .ok tree := by
  intro hparse
  obtain ⟨state, hreads, -⟩ := Shape.parse_eq_ok_iff.mp hparse
  obtain ⟨hlater, name, hname, hname'⟩ := h
  obtain ⟨first, hfirst, rfl⟩ := Option.map_eq_some_iff.mp hname
  obtain ⟨second, hsecond, hsame⟩ := Option.map_eq_some_iff.mp hname'
  obtain ⟨behind, hplace, hbehind⟩ := expressionFrom_token hfirst
  obtain ⟨behind', hplace', -⟩ := expressionFrom_token hsecond
  rw [hsame] at hplace'
  rw [coversToken, hplace] at hopen
  rw [coversToken, hplace'] at hopen'
  have hplain : '>' ∉ first.name := by
    intro hmem
    have hchar :=
      (wellFormed_of_mem_tokens (List.mem_of_getElem? hfirst)).name _ hmem
    revert hchar
    decide
  refine ParseState.not_reads_twice hplain ?_ ?_ hopen hopen' hreads
  · exact hplace ▸ expressionFrom_anchored pattern index
  · exact hplace' ▸ (expressionFrom_suffix hlater).trans hbehind

end Template

namespace Params

variable {params : Params}

def keys (params : Params) : List String :=
  params.named.map Prod.fst ++ if params.splat.isSome then ["*"] else []

theorem toJson_eq (params : Params) : params.toJson =
    .ofMembers (params.keys.zip (params.values.map Json.optional)) := by
  obtain ⟨named, splat⟩ := params
  cases splat <;>
    simp [toJson, keys, values, List.zip_append, List.zip_map', Json.optional]

theorem length_keys (params : Params) :
    params.keys.length = params.values.length := by
  obtain ⟨named, splat⟩ := params
  cases splat <;> simp [keys, values]

theorem exists_members (h : params.keys.Nodup) : ∃ members,
    params.toJson = .object members ∧ members.length = params.values.length ∧
      members.Perm (params.keys.zip (params.values.map Json.optional)) := by
  have hlength :
      params.keys.length = (params.values.map Json.optional).length := by
    rw [List.length_map, length_keys]
  have hkeys :
      ((params.keys.zip (params.values.map Json.optional)).map
        Prod.fst).Nodup := by
    rwa [List.map_fst_zip (Nat.le_of_eq hlength)]
  obtain ⟨members, hmembers, hperm⟩ := Json.exists_perm_ofMembers hkeys
  refine ⟨members, (toJson_eq params).trans hmembers, ?_, hperm⟩
  · rw [hperm.length_eq, List.length_zip, ← hlength, Nat.min_self, length_keys]

end Params

namespace CompiledPattern

open Template

variable {pattern path : String} {caseSensitive : Bool}
    {compiled : CompiledPattern}

theorem compile_repeated {index later : Nat}
    (h : Repeats pattern.toList index later)
    (hopen : coversToken pattern.toList index = false)
    (hopen' : coversToken pattern.toList later = false) :
    ∃ cause, compile pattern caseSensitive = .error ⟨pattern, cause⟩ := by
  cases hcompile : compile pattern caseSensitive with
  | ok compiled =>
      obtain ⟨tree, hparse, -⟩ :=
        bind_eq_ok_iff.mp (Shape.compile_eq_ok hcompile)
      exact absurd hparse (h.parse_ne_ok hopen hopen' tree)
  | error error =>
      simp only [compile] at hcompile
      split at hcompile
      · next cause _ =>
          cases hcompile
          exact ⟨cause, rfl⟩
      · cases hcompile

private theorem names_nodup
    (hcompile : compile pattern caseSensitive = .ok compiled)
    (hopen : ∀ index later, Repeats pattern.toList index later →
      coversToken pattern.toList index = false ∧
      coversToken pattern.toList later = false) :
    compiled.names.Nodup := by
  have hnames : ((ofText pattern.toList).tokens.map Token.name).Nodup := by
    refine nodup_names_iff.mpr fun index later hrepeats => ?_
    obtain ⟨hfirst, hsecond⟩ := hopen index later hrepeats
    obtain ⟨cause, herror⟩ :=
      @compile_repeated _ caseSensitive _ _ hrepeats hfirst hsecond
    rw [hcompile] at herror
    cases herror
  have hmapped := hnames.map (f := String.ofList) fun _ _ =>
    String.ofList_injective
  rw [List.map_map] at hmapped
  rw [(names_of_compile hcompile).1]
  exact hmapped

theorem star_not_mem_tokenNames (pattern : String) :
    "*" ∉ tokenNames pattern := by
  intro hmem
  obtain ⟨token, htoken, hname⟩ := List.mem_map.mp hmem
  have hstar : token.name = ['*'] := by simpa using congrArg String.toList hname
  have hchar := (wellFormed_of_mem_tokens htoken).name '*' (by simp [hstar])
  revert hchar
  decide

private theorem keys_nodup
    (hcompile : compile pattern caseSensitive = .ok compiled)
    (hnames : compiled.names.Nodup) {params : Params}
    (hcaptures : compiled.captures path = some params) : params.keys.Nodup := by
  rw [Params.keys, (named_of_captures hcaptures).1]
  split
  · have hstar := star_not_mem_tokenNames pattern
    rw [← (names_of_compile hcompile).1] at hstar
    refine hnames.append (List.nodup_singleton "*") fun name hname hlast => ?_
    rw [List.mem_singleton.mp hlast] at hname
    exact hstar hname
  · simpa using hnames

/--
A pattern with two tokens of one name does not compile, and matches no path but
itself, as long as both tokens open a group.  Where this holds of all tokens of
one name, the names of what compiles are different, and an object has all
values. It holds of all tokens if no sign of the pattern opens a class, an
escape or a comment.
-/
theorem repeated_name_refused (pattern : String) (caseSensitive : Bool) :
    (∀ index later, Repeats pattern.toList index later →
        coversToken pattern.toList index = false →
        coversToken pattern.toList later = false →
        (∃ cause, compile pattern caseSensitive = .error ⟨pattern, cause⟩) ∧
          ∀ router, Router.Reachable router → ∀ path ≠ pattern,
            (router.matchPath pattern path caseSensitive).1 = false) ∧
      ((∀ index later, Repeats pattern.toList index later →
          coversToken pattern.toList index = false ∧
            coversToken pattern.toList later = false) →
        ∀ compiled, compile pattern caseSensitive = .ok compiled →
          compiled.names.Nodup ∧ ∀ path params,
            compiled.captures path = some params →
            ∃ members, params.toJson = .object members ∧
              members.length = params.values.length ∧
              members.Perm
                (params.keys.zip (params.values.map Json.optional))) ∧
      ((∀ sign ∈ coveringSigns, sign ∉ pattern.toList) →
        ∀ index later, Repeats pattern.toList index later →
          coversToken pattern.toList index = false ∧
            coversToken pattern.toList later = false) := by
  refine ⟨fun index later h hopen hopen' => ?_,
    fun hopen compiled hcompile => ?_, fun hsigns index later h =>
      h.opens hsigns⟩
  · obtain ⟨cause, herror⟩ :=
      @compile_repeated _ caseSensitive _ _ h hopen hopen'
    refine ⟨⟨cause, herror⟩, fun router hrouter path hpath => ?_⟩
    have hlone : pattern ≠ "*" := by
      rintro rfl
      obtain ⟨-, name, hname, -⟩ := h
      have hnone : (ofText "*".toList).tokens = [] := rfl
      rw [hnone] at hname
      cases hname
    have hvalues : Router.values? pattern path caseSensitive = none := by
      rw [Router.values?, if_neg (not_or.mpr ⟨hlone, hpath.symm⟩), herror]
    rw [(hrouter.coherent.matchPath pattern path caseSensitive).1, hvalues]
    rfl
  · have hnames := names_nodup hcompile hopen
    exact ⟨hnames, fun path params hcaptures =>
      Params.exists_members (keys_nodup hcompile hnames hcaptures)⟩

theorem repeated_name_refused_open :
    (Repeats "/@a(/@b)/@a:x+".toList 0 2 ∧
      (∀ sign ∈ coveringSigns, sign ∉ "/@a(/@b)/@a:x+".toList) ∧
      ∃ cause, compile "/@a(/@b)/@a:x+" false =
        .error ⟨"/@a(/@b)/@a:x+", cause⟩) ∧
    (Repeats "[@x]/@a(/@a)".toList 1 2 ∧
      coversToken "[@x]/@a(/@a)".toList 0 = true ∧
      (∃ cause, compile "[@x]/@a(/@a)" true = .error ⟨"[@x]/@a(/@a)", cause⟩) ∧
      (({} : Router).matchPath "[@x]/@a(/@a)" "x/b" true).1 = false) ∧
    ∃ compiled params, compile "[@x]/@a(/@b)/*" true = .ok compiled ∧
      compiled.captures "x/u/v/w" = some params ∧ compiled.names.Nodup ∧
      params.values = [none, some "u", some "v", some "w"] ∧
      ∃ members, params.toJson = .object members ∧ members.length = 4 := by
  have hplain : Repeats "/@a(/@b)/@a:x+".toList 0 2 :=
    ⟨by decide, "a".toList, by decide +kernel, by decide +kernel⟩
  have hsigns : ∀ sign ∈ coveringSigns, sign ∉ "/@a(/@b)/@a:x+".toList :=
    forall_coveringSigns (by decide +kernel) (by decide +kernel)
      (by decide +kernel)
  obtain ⟨hrefused, -, hopen⟩ := repeated_name_refused "/@a(/@b)/@a:x+" false
  obtain ⟨hfirst, hsecond⟩ := hopen hsigns 0 2 hplain
  obtain ⟨hplaincause, -⟩ := hrefused 0 2 hplain hfirst hsecond
  have hclassed : Repeats "[@x]/@a(/@a)".toList 1 2 :=
    ⟨by decide, "a".toList, by decide +kernel, by decide +kernel⟩
  obtain ⟨hcause, hmatch⟩ :=
    (repeated_name_refused "[@x]/@a(/@a)" true).1 1 2 hclassed
    (by decide +kernel) (by decide +kernel)
  obtain ⟨compiled, params, hcompile, hcaptures, hvalues⟩ : ∃ compiled params,
      compile "[@x]/@a(/@b)/*" true = .ok compiled ∧
        compiled.captures "x/u/v/w" = some params ∧
        params.values = [none, some "u", some "v", some "w"] :=
    ⟨_, _, rfl, rfl, by decide +kernel⟩
  have hdifferent :
      ∀ index later, ¬ Repeats "[@x]/@a(/@b)/*".toList index later :=
    nodup_names_iff.mp (by decide +kernel)
  obtain ⟨hnames, hmembers⟩ := (repeated_name_refused "[@x]/@a(/@b)/*" true).2.1
    (fun index later h => absurd h (hdifferent index later)) compiled hcompile
  obtain ⟨members, hjson, hlength, -⟩ := hmembers _ params hcaptures
  rw [hvalues] at hlength
  exact ⟨⟨hplain, hsigns, hplaincause⟩,
    ⟨hclassed, by decide +kernel, hcause,
      hmatch {} .uncached "x/b" (by decide)⟩,
    compiled, params, hcompile, hcaptures, hnames, hvalues,
    members, hjson, hlength⟩

/-- In a bracketed class the groups of two tokens are just characters. -/
theorem repeated_name_kept :
    Repeats "[@a@a]".toList 0 1 ∧ coversToken "[@a@a]".toList 0 = true ∧
      coversToken "[@a@a]".toList 1 = true ∧
      (∃ compiled, compile "[@a@a]" false = .ok compiled) ∧
      ∃ compiled params, compile "[@a@a]" true = .ok compiled ∧
        compiled.names = ["a", "a"] ∧ ¬ compiled.names.Nodup ∧
        compiled.captures "(" = some params ∧ params.values.length = 2 ∧
        params.toJson = .object [("a", .null)] ∧
        (({} : Router).matchPath "[@a@a]" "(" true).1 = true :=
  ⟨⟨by decide, "a".toList, by decide +kernel, by decide +kernel⟩,
    by decide +kernel,
    by decide +kernel, ⟨_, rfl⟩, _, _, rfl, rfl, by decide +kernel,
    rfl, rfl, rfl, by decide +kernel⟩

end CompiledPattern

end Signpost
