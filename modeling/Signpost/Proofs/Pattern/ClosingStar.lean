import Signpost.Proofs.Pattern.Entries
import Signpost.Proofs.Pattern.Filling
import Signpost.Proofs.Pattern.Wildcard

/-!
# Patterns that end in a repetition

The star at the end of a constraint repeats what stands before it.  Building
knows it as a part of the token, but a pattern counts as one with a wildcard
whenever its last character is a star: then a match takes a remainder besides
the values of the tokens, unless nothing is left behind the slashes counted.
-/

namespace Signpost

open Template Utf8

/--
Texts that a count of slashes stops behind.  The count looks at the number of
slashes after every byte, so that a count of none stops behind the first one.
-/
inductive CountEnds : Nat → List Char → Prop
  | slash {count : Nat} {before : List Char}
      (hcount : before.count '/' = count) :
      CountEnds (count + 1) (before ++ ['/'])
  | byte {c : Char} (hascii : c.toNat < 128) (hslash : c ≠ '/') :
      CountEnds 0 [c]

private theorem afterSeparators_past {count seen : Nat}
    (h : count < seen) (bytes : List UInt8) :
    ∀ passed, afterSeparators count seen passed bytes = none := by
  induction bytes generalizing seen with
  | nil => exact fun passed => rfl
  | cons b bytes ih =>
      intro passed
      rw [afterSeparators]
      split <;> rw [if_neg (by omega), ih (by omega)]

theorem splatStart_zero_cons (c : Char) (rest : List Char) :
    splatStart (c :: rest) 0 = if c = '/' then none else some 1 := by
  obtain ⟨b, bytes, hbytes⟩ :=
    List.exists_cons_of_length_pos (length_encodeChar_pos c)
  rw [splatStart, encode_cons, hbytes, List.cons_append, afterSeparators]
  by_cases hc : c = '/'
  · subst hc
    obtain ⟨rfl, rfl⟩ := List.cons_eq_cons.mp hbytes
    rw [if_pos rfl, if_neg (by omega), afterSeparators_past
      (by omega), if_pos rfl]
  · have hb : b ≠ byte '/'.toNat := by
      rintro rfl
      exact hc
        ((mem_encodeChar_iff (by decide)).mp (hbytes ▸ List.mem_cons_self))
    rw [if_neg hb, if_pos rfl, if_neg hc]

private theorem dropBytes?_one_cons (c : Char) (rest : List Char) :
    dropBytes? 1 (c :: rest) = if c.toNat < 128 then some rest else none := by
  rw [dropBytes?, if_neg (by omega)]
  by_cases hc : c.toNat < 128
  · rw [encodeChar_ascii hc, if_pos hc]
    cases rest <;> rfl
  · have hlong : 1 < (encodeChar c).length := by
      rw [encodeChar]
      split_ifs <;> simp
    rw [if_neg hc]
    exact if_neg (by omega)

theorem splatOf_zero_eq_some_iff {path : List Char} {rest : String} :
    splatOf path 0 = some rest ↔
      rest ≠ "" ∧ ∃ c, c.toNat < 128 ∧ c ≠ '/' ∧ path = c :: rest.toList := by
  cases path with
  | nil => simp [splatOf, splatStart, afterSeparators]
  | cons c path =>
      have hsplat : splatOf (c :: path) 0 =
          if c.toNat < 128 ∧ c ≠ '/' ∧ path ≠ [] then some (String.ofList path)
          else none := by
        rw [splatOf, splatStart_zero_cons]
        by_cases hslash : c = '/'
        · simp [hslash]
        rw [if_neg hslash, Option.bind_some, dropBytes?_one_cons]
        by_cases hascii : c.toNat < 128
        · cases path <;> simp [hascii, hslash]
        · simp [hascii]
      rw [hsplat]
      constructor
      · intro h
        split at h
        · next hc =>
            cases h
            exact ⟨by simpa using hc.2.2, c, hc.1, hc.2.1, by simp⟩
        · cases h
      · rintro ⟨hrest, d, hascii, hslash, heq⟩
        obtain ⟨rfl, rfl⟩ := List.cons_eq_cons.mp heq
        rw [if_pos ⟨hascii, hslash, by simpa using hrest⟩, String.ofList_toList]

theorem splatOf_eq_some_iff {path : List Char} {count : Nat} {rest : String} :
    splatOf path count = some rest ↔
      rest ≠ "" ∧ ∃ before, CountEnds count before ∧
        path = before ++ rest.toList := by
  cases count with
  | zero =>
      rw [splatOf_zero_eq_some_iff]
      constructor
      · rintro ⟨hrest, c, hascii, hslash, rfl⟩
        exact ⟨hrest, [c], .byte hascii hslash, rfl⟩
      · rintro ⟨hrest, before, hends, rfl⟩
        cases hends with
        | byte hascii hslash => exact ⟨hrest, _, hascii, hslash, rfl⟩
  | succ count =>
      constructor
      · intro h
        obtain ⟨before, rfl, hcount⟩ := exists_of_splatOf h
        rw [splatOf_append hcount] at h
        refine ⟨?_, before ++ ['/'], .slash hcount, by simp⟩
        rintro rfl
        simp at h
      · rintro ⟨hrest, _, hends, rfl⟩
        cases hends with
        | slash hcount =>
            have hnonempty : rest.toList ≠ [] := by simpa using hrest
            rw [List.append_assoc, List.singleton_append, splatOf_append hcount,
              if_neg hnonempty, String.ofList_toList]

private theorem Token.endsBefore_congr {token : Token}
    {first second : List Char}
    (h : first.head? = second.head?) : token.EndsBefore first ↔
      token.EndsBefore second := by
  simp only [Token.EndsBefore, h]

namespace Template

def endingIn (lead : List Char) (front : List (Token × List Char))
    (name constraint : List Char) : Template :=
  { lead, parts := front ++ [(⟨name, some constraint⟩, [])] }

variable {lead : List Char} {front : List (Token × List Char)}
    {name constraint text : List Char}

theorem text_endingIn (lead : List Char) (front : List (Token × List Char))
    (name constraint : List Char) (c : Char) :
    (endingIn lead front name (constraint ++ [c])).text =
      (endingIn lead front name constraint).text ++ [c] := by
  simp [endingIn, Template.text, Token.text]

theorem literals_endingIn (lead : List Char) (front : List (Token × List Char))
    (name constraint : List Char) :
    (endingIn lead front name constraint).literals =
      lead :: front.map Prod.snd ++ [[]] := by
  simp [endingIn, literals]

private theorem formed_endingIn {c : Char}
    (h : ∀ token ∈ (endingIn lead front name (constraint ++ [c])).tokens,
      token.WellFormed) :
    ∀ token ∈ (endingIn lead front name constraint).tokens,
      token.WellFormed := by
  simp only [tokens, endingIn, List.map_append, List.forall_mem_append,
    List.map_cons, List.map_nil, List.forall_mem_singleton] at h ⊢
  obtain ⟨hfront, hlast⟩ := h
  refine ⟨hfront, hlast.starts, hlast.name, fun text htext d hd => ?_⟩
  cases htext
  exact hlast.constraint _ rfl d (List.mem_append_left _ hd)

private theorem endsBefore_endingIn {token : Token} {literal : List Char}
    {between : List (Token × List Char)} {c : Char}
    (h : token.EndsBefore
      (literal ++ (endingIn [] between name (constraint ++ [c])).text)) :
    token.EndsBefore
      (literal ++ (endingIn [] between name constraint).text) := by
  have hbehind :
      literal ++ (endingIn [] between name constraint).text ≠ [] := by
    simp [endingIn, Template.text, Token.text]
  rwa [text_endingIn, ← List.append_assoc,
    Token.endsBefore_congr (List.head?_append_of_ne_nil _ hbehind)] at h

theorem ofText_endingIn {c : Char}
    (h : ofText (text ++ [c]) = endingIn lead front name (constraint ++ [c])) :
    ofText text = endingIn lead front name constraint := by
  have hcuts := cuts_iff.mpr h.symm
  refine (cuts_iff.mp ⟨?_, formed_endingIn hcuts.formed, ?_, ?_⟩).symm
  · have htext := hcuts.text
    rw [text_endingIn] at htext
    exact List.append_cancel_right htext
  · intro literal hliteral
    rw [literals_endingIn] at hliteral
    exact hcuts.free literal (by rwa [literals_endingIn])
  · intro before token literal after hparts
    rcases List.eq_nil_or_concat after with rfl | ⟨between, last, rfl⟩
    · obtain ⟨-, hlast⟩ := List.append_inj' hparts rfl
      cases hlast
      simp [Token.EndsBefore, Template.text]
    · rw [List.concat_eq_append] at hparts ⊢
      rw [endingIn, ← List.cons_append, ← List.append_assoc] at hparts
      obtain ⟨rfl, hlast⟩ := List.append_inj' hparts rfl
      cases hlast
      exact endsBefore_endingIn
        (hcuts.ends before token literal _ (List.append_assoc before _ _))

end Template

private theorem Router.make_congr {pattern other : String} {values : List Json}
    (h : (ofText other.toList).literals = (ofText pattern.toList).literals) :
    (make other values).1 = (make pattern values).1 := by
  have hlength := length_tokens_of_literals h
  rcases Nat.lt_or_ge values.length
    (ofText pattern.toList).tokens.length with hshort | henough
  · rw [make_short hshort, make_short (hlength ▸ hshort)]
  · rw [make_enough henough, make_enough (hlength ▸ henough), spliced_congr h]

namespace CompiledPattern

variable {pattern path : String} {caseSensitive : Bool}
    {compiled : CompiledPattern}
  {params : Params} {lead : List Char} {front : List (Token × List Char)}
  {name constraint : List Char}

theorem dropLast_append_of_endingIn
    (hpattern :
      ofText pattern.toList = endingIn lead front name (constraint ++ ['*'])) :
    pattern.toList.dropLast ++ ['*'] = pattern.toList := by
  have htext := (cuts_iff.mpr hpattern.symm).text
  rw [text_endingIn] at htext
  rw [← htext, List.dropLast_concat]

theorem splat_of_star (hstar : pattern.toList.getLast? = some '*')
    (hcompile : compile pattern caseSensitive = .ok compiled)
    (hcaptures : compiled.captures path = some params) :
    params.splat = splatOf path.toList (pattern.toList.count '/') := by
  obtain ⟨found, -, rfl⟩ := Option.map_eq_some_iff.mp hcaptures
  rw [(names_of_compile hcompile).2, separators, if_pos hstar]
  rfl

private theorem splat_of_constraint
    (hpattern :
      ofText pattern.toList = endingIn lead front name (constraint ++ ['*']))
    (hcompile : compile pattern caseSensitive = .ok compiled)
    (hcaptures : compiled.captures path = some params) (rest : String) :
    params.splat = some rest ↔ rest ≠ "" ∧ ∃ before,
      CountEnds (pattern.toList.count '/') before ∧
      path.toList = before ++ rest.toList := by
  have hstar : pattern.toList.getLast? = some '*' := by
    rw [← dropLast_append_of_endingIn hpattern]
    simp
  rw [splat_of_star hstar hcompile hcaptures]
  exact splatOf_eq_some_iff

/--
A star that ends a constraint is no wildcard where a path is built: without it
the same paths are built.  A match takes it for one: there are values for the
tokens only exactly when nothing is left behind the slashes counted in the path.
-/
theorem closing_star
    (hpattern :
      ofText pattern.toList = endingIn lead front name (constraint ++ ['*']))
    (hcompile : compile pattern caseSensitive = .ok compiled)
    (hcaptures : compiled.captures path = some params) :
    params.named.map Prod.fst = tokenNames pattern ∧
      (∀ rest, params.splat = some rest ↔ rest ≠ "" ∧ ∃ before,
        CountEnds (pattern.toList.count '/') before ∧
        path.toList = before ++ rest.toList) ∧
      (params.splat = none ∧ params.values.length =
        (tokenNames pattern).length ↔
        ∀ before rest, CountEnds (pattern.toList.count '/') before →
          path.toList = before ++ rest → rest = []) ∧
      ∀ values, (Router.make (String.ofList pattern.toList.dropLast) values).1 =
        (Router.make pattern values).1 := by
  have hnamed := map_fst_named hcompile hcaptures
  have hsplat := splat_of_constraint hpattern hcompile hcaptures
  refine ⟨hnamed, hsplat,
    ⟨fun ⟨hnone, _⟩ before rest hends hpath => ?_, fun h => ?_⟩, ?_⟩
  · by_contra hrest
    have hsome := (hsplat (String.ofList rest)).mpr
      ⟨by simpa using hrest, before, hends, by rw [hpath, String.toList_ofList]⟩
    rw [hnone] at hsome
    cases hsome
  · have hnone : params.splat = none := by
      rw [Option.eq_none_iff_forall_ne_some]
      intro rest hsome
      obtain ⟨hrest, before, hends, hpath⟩ := (hsplat rest).mp hsome
      exact hrest (by simpa using h before rest.toList hends hpath)
    refine ⟨hnone, ?_⟩
    rw [Params.values_of_splat hnone, List.length_map,
      ← hnamed, List.length_map]
  · have hdropped : ofText (String.ofList pattern.toList.dropLast).toList =
        endingIn lead front name constraint := by
      rw [String.toList_ofList]
      apply @ofText_endingIn _ _ _ _ _ '*'
      rwa [dropLast_append_of_endingIn hpattern]
    intro values
    apply Router.make_congr
    rw [hdropped, hpattern, literals_endingIn, literals_endingIn]

theorem closing_star_repeated :
    ofText "/@a/@b:x*".toList =
        endingIn ['/'] [(⟨['a'], none⟩, ['/'])] ['b'] (['x'] ++ ['*']) ∧
      (∃ compiled params, compile "/@a/@b:x*" false = .ok compiled ∧
        compiled.captures "/u/xX" = some params ∧
        params.named.map Prod.fst = ["a", "b"] ∧ params.splat = some "xX" ∧
        params.values.length ≠ 2) ∧
      (∃ compiled params, compile "/@a/@b:x*" true = .ok compiled ∧
        compiled.captures "/u/" = some params ∧ params.values.length = 2 ∧
        ∀ before rest, CountEnds 2 before → "/u/".toList =
          before ++ rest → rest = []) ∧
      (Router.make "/@a/@b:x" [.string "u", .string "xx", .string "y"]).1 =
        (Router.make "/@a/@b:x*" [.string "u", .string "xx",
          .string "y"]).1 := by
  have hpattern : ofText "/@a/@b:x*".toList =
      endingIn ['/'] [(⟨['a'], none⟩, ['/'])] ['b']
        (['x'] ++ ['*']) := by decide
  obtain ⟨repeated, params, hrepeated, hparams⟩ : ∃ compiled params,
      compile "/@a/@b:x*" false = .ok compiled ∧
      compiled.captures "/u/xX" = some params :=
    ⟨_, _, rfl, rfl⟩
  obtain ⟨ending, params', hending, hparams', hempty, hlength⟩ :
      ∃ compiled params,
      compile "/@a/@b:x*" true = .ok compiled ∧
      compiled.captures "/u/" = some params ∧
        params.splat = none ∧ params.values.length = 2 :=
          ⟨_, _, rfl, rfl, rfl, rfl⟩
  obtain ⟨hnamed, hsplat, hvalues, hmake⟩ :=
    closing_star hpattern hrepeated hparams
  obtain ⟨-, -, hvalues', -⟩ := closing_star hpattern hending hparams'
  have hrest :=
    (hsplat "xX").mpr
      ⟨by decide, "/u/".toList, @CountEnds.slash 1 "/u".toList rfl, rfl⟩
  refine ⟨hpattern,
    ⟨repeated, params, hrepeated, hparams, hnamed, hrest, fun hlength => ?_⟩,
    ⟨ending, params', hending, hparams', hlength,
      hvalues'.mp ⟨hempty, hlength⟩⟩, hmake _⟩
  have hcount : params.named.length = ["a", "b"].length := by
    rw [← List.length_map Prod.fst, hnamed]
    rfl
  rw [Params.values_eq, hrest, List.length_append, List.length_map, hcount]
    at hlength
  cases hlength

/-- Repetition of a digit at the end of a pattern gives the digits twice. -/
theorem closing_star_twice :
    ofText "/@id:[0-9]*".toList = endingIn ['/'] [] "id".toList
      ("[0-9]".toList ++ ['*']) ∧
      ∃ compiled params, compile "/@id:[0-9]*" true = .ok compiled ∧
        compiled.captures "/12" = some params ∧ params.splat = some "12" ∧
        params.values = [some "12", some "12"] ∧
        tokenNames "/@id:[0-9]*" = ["id"] ∧
        Router.make "/@id:[0-9]*" [.string "12", .string "x"] =
          (some "/12", []) :=
  ⟨by decide, _, _, rfl, rfl, rfl, rfl, rfl, rfl⟩

end CompiledPattern

end Signpost
