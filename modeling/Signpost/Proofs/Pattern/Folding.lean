import Signpost.Proofs.Pattern.Simple
import Signpost.Proofs.Unicode.CaseOrbit

/-!
# Matching without regard to case

Without regard to case a character of a pattern stands for more characters, and
a pattern matches more paths.  In general the same path may then be read in
another way.  Where every token reaches to the end of its segment, there is one
way to read a path, and it has nothing to do with case.
-/

namespace Signpost.Shape

open Segment (Cut isCut cut_nil cut_slash cut_question)

variable {insensitive : Bool}

def Unconstrained (shape : Shape insensitive) : Prop :=
  ∀ token ∈ shape.tokens, token.constraint = none

def folded : Shape insensitive → Shape true
  | done => done
  | plain c next => plain c next.folded
  | token name _ next => token name none next.folded
  | wildcard next => wildcard next.folded
  | optional inner next => optional inner.folded next.folded

theorem Unconstrained.token {name : List Char}
    {constraint : Option (Constraint insensitive)} {next : Shape insensitive}
    (h : (token name constraint next).Unconstrained) :
    constraint = none ∧ next.Unconstrained := by
  obtain ⟨hhead, hnext⟩ := List.forall_mem_cons.mp h
  exact ⟨Option.map_eq_none_iff.mp hhead, hnext⟩

theorem Unconstrained.optional {inner next : Shape insensitive}
    (h : (optional inner next).Unconstrained) : inner.Unconstrained ∧
    next.Unconstrained :=
  List.forall_mem_append.mp h

theorem text_folded {shape : Shape insensitive} (h : shape.Unconstrained) :
    shape.folded.text = shape.text := by
  induction shape with
  | done => rfl
  | plain c next ih => simp [folded, text, ih h]
  | token name constraint next ih =>
      obtain ⟨rfl, hnext⟩ := h.token
      simp [folded, text, ih hnext, tokenOf]
  | wildcard next ih => simp [folded, text, ih h]
  | optional inner next ihinner ihnext =>
      obtain ⟨hinner, hnext⟩ := h.optional
      simp [folded, text, ihinner hinner, ihnext hnext]

theorem tokens_folded {shape : Shape insensitive} (h : shape.Unconstrained) :
    shape.folded.tokens = shape.tokens := by
  induction shape with
  | done => rfl
  | plain c next ih => exact ih h
  | token name constraint next ih =>
      obtain ⟨rfl, hnext⟩ := h.token
      simp [folded, tokens, ih hnext, tokenOf]
  | wildcard next ih => exact ih h
  | optional inner next ihinner ihnext =>
      obtain ⟨hinner, hnext⟩ := h.optional
      simp [folded, tokens, ihinner hinner, ihnext hnext]

theorem Stands.folded {c d : Char} (h : Stands insensitive c d) :
    Stands true c d :=
  h.imp_right fun hmem => ⟨rfl, hmem.2⟩

theorem Derives.folded {shape : Shape insensitive} {word values}
    (h : shape.Derives word values) (hplain : shape.Unconstrained) :
    shape.folded.Derives word values := by
  induction h with
  | done => exact .done
  | plain hstands _ ih => exact .plain hstands.folded (ih hplain)
  | token hfills _ ih =>
      obtain ⟨rfl, hnext⟩ := hplain.token
      exact .token hfills (ih hnext)
  | nothing _ ih => exact .nothing (ih hplain)
  | remainder hline _ ih => exact .remainder hline (ih hplain)
  | kept _ _ ihinner ihnext =>
      obtain ⟨hinner, hnext⟩ := hplain.optional
      exact .kept (ihinner hinner) (ihnext hnext)
  | skipped _ ih =>
      obtain ⟨hinner, hnext⟩ := hplain.optional
      rw [← tokens_folded hinner]
      exact .skipped (ih hnext)

theorem Yields.folded {shape : Shape insensitive} {body values}
    (h : shape.Yields body values) (hplain : shape.Unconstrained) :
    shape.folded.Yields body values := by
  rw [Yields, text_folded hplain]
  refine h.imp (·.folded hplain) fun hslash => ?_
  split at hslash
  · next hlast =>
      rw [if_pos hlast]
      exact hslash.folded hplain
  · next hlast =>
      rw [if_neg hlast]
      obtain ⟨word, hbody, hderives⟩ := hslash
      exact ⟨word, hbody, hderives.folded hplain⟩

private theorem folded_append (first second : Shape insensitive) :
    (first.append second).folded = first.folded.append second.folded := by
  induction first with
  | done => rfl
  | plain c next ih => simp [append, folded, ih]
  | token name constraint next ih => simp [append, folded, ih]
  | wildcard next ih => simp [append, folded, ih]
  | optional inner next _ ih => simp [append, folded, ih]

theorem Stem.folded {stem shape : Shape insensitive} (h : stem.Stem shape)
    (hplain : shape.Unconstrained) : stem.folded.Stem shape.folded := by
  cases h with
  | slashed =>
      rw [folded_append]
      exact .slashed _
  | whole hlast => exact .whole (by rwa [text_folded hplain])

def beginsSegment : Shape insensitive → Bool
  | done | wildcard _ => true
  | plain c _ => c.val = '/'
  | token .. | optional .. => false

/--
No groups, wildcards at the end only, and every token at the end of a segment.
-/
def isSegmented : Shape insensitive → Bool
  | done | wildcard done => true
  | plain _ next => next.isSegmented
  | token _ _ next => next.beginsSegment && next.isSegmented
  | wildcard _ | optional .. => false

/--
What the tokens take of a text, each all of it up to the end of the segment.
-/
def parts : Shape insensitive → List Char → List (Option (List Char))
  | done, _ | wildcard _, _ | optional .., _ => []
  | plain _ next, text => next.parts text.tail
  | token _ _ next, text =>
    some (text.takeWhile fun c => !isCut c) :: next.parts
      (text.dropWhile fun c => !isCut c)

theorem isSegmented_folded (shape : Shape insensitive) :
    shape.folded.isSegmented = shape.isSegmented := by
  have hbegins : ∀ shape : Shape insensitive, shape.folded.beginsSegment =
      shape.beginsSegment :=
    fun shape => by cases shape <;> rfl
  induction shape with
  | done => rfl
  | plain c next ih => exact ih
  | token name constraint next ih => simp [folded, isSegmented, hbegins, ih]
  | wildcard next => cases next <;> rfl
  | optional inner next => rfl

theorem parts_folded (shape : Shape insensitive) :
    shape.folded.parts = shape.parts := by
  induction shape with
  | plain c next ih => simp only [folded, parts, ih]
  | token name constraint next ih => simp only [folded, parts, ih]
  | _ => rfl

private theorem eq_slash_of_stands {d : Char} (h : Stands insensitive '/' d) :
    d = '/' := by
  rcases h with heq | ⟨-, hmem⟩
  · exact heq
  · have halpha := Unicode.CaseOrbit.isAlpha_of_mem_companions hmem (by decide)
    cases halpha

theorem Derives.cut {shape : Shape insensitive} {word values}
    (h : shape.Derives word values)
    (hbegins : shape.beginsSegment) (hsegmented : shape.isSegmented)
    {tail : List Char} (htail : Cut tail) : Cut (word ++ tail) := by
  cases h with
  | done => exact htail
  | @plain c d _ _ _ hstands _ =>
      have hc : c.val = '/' := of_decide_eq_true hbegins
      rw [hc] at hstands
      rw [eq_slash_of_stands hstands]
      exact cut_slash _
  | @nothing next _ _ hnext =>
      cases next with
      | done =>
          cases hnext
          exact htail
      | _ => cases hsegmented
  | remainder => exact cut_slash _
  | _ => cases hbegins

/-- The values of a segmented shape are what its tokens take of the text. -/
theorem Derives.parts_eq {shape : Shape insensitive} {word values}
    (h : shape.Derives word values) (hplain : shape.Unconstrained)
    (hsegmented : shape.isSegmented) {tail : List Char} (htail : Cut tail) :
    shape.parts (word ++ tail) = values := by
  induction h with
  | done => rfl
  | plain _ _ ih => exact ih hplain hsegmented
  | @token name constraint filling next word values hfills hnext ih =>
      obtain ⟨rfl, hunconstrained⟩ := hplain.token
      obtain ⟨hbegins, hsegmented⟩ := Bool.and_eq_true_iff.mp hsegmented
      obtain ⟨-, hslash, hquestion⟩ := hfills
      have hcut := hnext.cut hbegins hsegmented htail
      have htaken := hcut.takeWhile_eq hslash hquestion
      have hleft : (filling ++ (word ++ tail)).dropWhile (fun c => !isCut c) =
          word ++ tail := by
        have hsplit := @List.takeWhile_append_dropWhile _ (fun c => !isCut c)
          (filling ++ (word ++ tail))
        rw [htaken] at hsplit
        exact List.append_cancel_left hsplit
      rw [parts, List.append_assoc, htaken, hleft, ih hunconstrained hsegmented]
  | @nothing next _ _ hnext _ =>
      cases next with
      | done =>
          cases hnext
          rfl
      | _ => cases hsegmented
  | @remainder next _ _ _ _ hnext _ =>
      cases next with
      | done =>
          cases hnext
          rfl
      | _ => cases hsegmented
  | kept _ _ _ _ => cases hsegmented
  | skipped _ _ => cases hsegmented

private theorem isSegmented_of_append_slash {stem : Shape insensitive}
    (h : (stem.append (plain slash done)).isSegmented) : stem.isSegmented := by
  induction stem with
  | done => rfl
  | plain c next ih => exact ih h
  | token name constraint next ih =>
      obtain ⟨hbegins, hnext⟩ := Bool.and_eq_true_iff.mp h
      refine Bool.and_eq_true_iff.mpr ⟨?_, ih hnext⟩
      cases next with
      | done => rfl
      | _ => exact hbegins
  | wildcard next _ => cases next <;> cases h
  | optional inner next _ _ => cases h

theorem Stem.parts_of_yields {stem shape : Shape insensitive}
    (hstem : stem.Stem shape)
    (hplain : shape.Unconstrained) (hsegmented : shape.isSegmented)
    {body query : List Char} {values : List (Option (List Char))}
    (hyields : shape.Yields body values) (hquery : IsQuery query) :
    stem.parts (body ++ query) = values := by
  obtain ⟨word, slash, rfl, hslash, hderives⟩ := hstem.yields_iff.mp hyields
  have hcut : Cut (slash ++ query) := by
    apply Segment.IsWild.cut _ hquery
    exact hslash.imp_right fun heq => ⟨[], heq, List.not_mem_nil⟩
  have hstemSegmented : stem.isSegmented := by
    cases hstem with
    | slashed => exact isSegmented_of_append_slash hsegmented
    | whole => exact hsegmented
  rw [Unconstrained, hstem.tokens_eq] at hplain
  rw [List.append_assoc]
  exact hderives.parts_eq hplain hstemSegmented hcut

private theorem values_folded {shape : Shape insensitive}
    (hformed : shape.Formed)
    (hplain : shape.Unconstrained) (hsegmented : shape.isSegmented)
    {body body' query query' : List Char} {values values' :
      List (Option (List Char))}
    (hyields : shape.Yields body values) (hquery : IsQuery query)
    (hyields' : shape.folded.Yields body' values') (hquery' : IsQuery query')
    (hpath : body ++ query = body' ++ query') : values = values' := by
  obtain ⟨stem, hstem⟩ := exists_stem hformed
  have hvalues := hstem.parts_of_yields hplain hsegmented hyields hquery
  have hplain' :
      shape.folded.Unconstrained := by rwa [Unconstrained, tokens_folded hplain]
  have hsegmented' : shape.folded.isSegmented := by rwa [isSegmented_folded]
  have hvalues' :=
    (hstem.folded hplain).parts_of_yields hplain' hsegmented' hyields' hquery'
  rw [← hvalues, ← hvalues', hpath, parts_folded]

/--
A pattern without constraints matches no fewer paths when case is ignored.  If
it is segmented, the values are the same for every path that it matches by case.
-/
theorem captures_folded {shape : Shape false} (hplain : shape.Unconstrained)
    {pattern : String}
    {exact folded : CompiledPattern} (hpattern : pattern.toList = shape.text)
    (htokens : (Template.ofText pattern.toList).tokens = shape.tokens)
    (hexact : CompiledPattern.compile pattern true = .ok exact)
    (hfolded : CompiledPattern.compile pattern false = .ok folded)
    (path : String) :
    ((exact.captures path).isSome → (folded.captures path).isSome) ∧
      (shape.isSegmented → ∀ params, exact.captures path = some params →
        folded.captures path = some params) := by
  have h : shape.Compiles exact := by
    refine ⟨by rw [← hpattern, htokens], ?_⟩
    rw [← hpattern, String.ofList_toList]
    exact hexact
  have h' : shape.folded.Compiles folded := by
    refine ⟨by rw [text_folded hplain, tokens_folded hplain, h.tokens], ?_⟩
    rw [text_folded hplain, ← hpattern, String.ofList_toList]
    exact hfolded
  have hsome : ∀ params, exact.captures path = some params →
      (folded.captures path).isSome := by
    intro params hcaptures
    obtain ⟨body, query, values, hpath, hquery, hyields, -⟩ :=
      h.yields_of_captures hcaptures
    exact h'.captures_of_yields hpath hquery (hyields.folded hplain)
  refine ⟨fun hmatch => ?_, fun hsegmented params hcaptures => ?_⟩
  · obtain ⟨params, hcaptures⟩ := Option.isSome_iff_exists.mp hmatch
    exact hsome params hcaptures
  · obtain ⟨params', hcaptures'⟩ :=
      Option.isSome_iff_exists.mp (hsome params hcaptures)
    obtain ⟨body, query, values, hpath, hquery, hyields, rfl⟩ :=
      h.yields_of_captures hcaptures
    obtain ⟨body', query', values', hpath', hquery', hyields', rfl⟩ :=
      h'.yields_of_captures hcaptures'
    have hvalues :=
      values_folded h.formed hplain hsegmented hyields hquery hyields' hquery'
      (hpath.symm.trans hpath')
    rw [hcaptures', ← hvalues, text_folded hplain, named, named, names, names,
      tokens_folded hplain]

def branching : Shape false :=
  single.append (optional (wildcard done)
    (optional
      (plain slash (token ['x'] none (plain slash (plain ⟨'b', b_plain⟩ done))))
      done))

def remaining : Shape false :=
  single.append (plain slash (token ['x'] none (wildcard done)))

theorem captures_folded_remainder :
    (∃ exact folded, CompiledPattern.compile "/a(/*)(/@x/b)" true = .ok exact ∧
      CompiledPattern.compile "/a(/*)(/@x/b)" false = .ok folded ∧
      (folded.captures "/a/u/v/b").isSome) ∧
    ∃ exact folded params, CompiledPattern.compile "/a/@x/*" true = .ok exact ∧
      CompiledPattern.compile "/a/@x/*" false = .ok folded ∧
      params.named = [("x", some "B")] ∧ params.splat = some "c/D?q" ∧
      exact.captures "/a/B/c/D?q" = some params ∧
      folded.captures "/a/B/c/D?q" = some params := by
  have hbranching :
      branching.Unconstrained := by simp [Unconstrained,
        branching, single, append,
    tokens, tokenOf]
  have hremaining :
      remaining.Unconstrained := by simp [Unconstrained,
        remaining, single, append,
    tokens, tokenOf]
  obtain ⟨exact, folded, hexact, hfolded, hsome⟩ : ∃ exact folded,
      CompiledPattern.compile "/a(/*)(/@x/b)" true = .ok exact ∧
        CompiledPattern.compile "/a(/*)(/@x/b)" false = .ok folded ∧
        (exact.captures "/a/u/v/b").isSome := ⟨_, _, rfl, rfl, rfl⟩
  obtain ⟨exact', folded', params, hexact', hfolded', hparams, hnamed, hsplat⟩ :
      ∃ exact folded params, CompiledPattern.compile "/a/@x/*" true =
        .ok exact ∧
        CompiledPattern.compile "/a/@x/*" false = .ok folded ∧
        exact.captures "/a/B/c/D?q" = some params ∧
        params.named = [("x", some "B")] ∧
        params.splat = some "c/D?q" := ⟨_, _, _, rfl, rfl, rfl, rfl, rfl⟩
  refine ⟨⟨exact, folded, hexact, hfolded, ?_⟩,
    exact', folded', params, hexact', hfolded', hnamed, hsplat, hparams, ?_⟩
  · exact (captures_folded hbranching rfl rfl hexact hfolded "/a/u/v/b").1 hsome
  · exact (captures_folded hremaining rfl rfl hexact' hfolded' "/a/B/c/D?q").2
      rfl params hparams

end Signpost.Shape
