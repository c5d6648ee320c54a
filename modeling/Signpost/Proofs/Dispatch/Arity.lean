import Signpost.Dispatch.Stock
import Signpost.Proofs.Dispatch.Calling
import Signpost.Proofs.Dispatch.Firing

/-!
# Closures that fit their pattern

Without a star at its end, a pattern that takes values from a path takes one for
each of its tokens, absent ones included.  A closure with as many arguments is
called with them.  The path that is the pattern itself is matched without taking
values, so that a closure that wants some is refused there.
-/

namespace Signpost

def tokenNames (pattern : String) : List String :=
  (Template.ofText pattern.toList).tokens.map fun token =>
    String.ofList token.name

variable {pattern path : String} {caseSensitive : Bool} {params : Params}

theorem CompiledPattern.names_of_compile {compiled : CompiledPattern}
    (h : compile pattern caseSensitive = .ok compiled) :
    compiled.names = tokenNames pattern ∧
      compiled.splatSeparators = separators pattern.toList := by
  simp only [compile] at h
  split at h
  · nomatch h
  · obtain rfl := Except.ok.inj h
    exact ⟨rfl, rfl⟩

theorem CompiledPattern.named_of_captures {compiled : CompiledPattern}
    (h : compiled.captures path = some params) :
    params.named.map Prod.fst = compiled.names ∧
      (compiled.splatSeparators = none → params.splat = none) := by
  obtain ⟨found, -, rfl⟩ := Option.map_eq_some_iff.mp h
  refine ⟨?_, fun hnone => ?_⟩
  · rw [namedValues, List.map_map]
    exact List.map_id _
  · simp [hnone]

theorem Router.values?_named
    (h : values? pattern path caseSensitive = some params)
    (hstar : pattern.toList.getLast? ≠ some '*') :
    params = {} ∧ pattern = path ∨
      pattern ≠ path ∧ params.splat = none ∧ params.named.map Prod.fst =
        tokenNames pattern := by
  have hlone : pattern ≠ "*" := by
    rintro rfl
    exact hstar rfl
  rw [values?] at h
  by_cases hsame : pattern = path
  · rw [if_pos (.inr hsame)] at h
    exact .inl ⟨(Option.some.inj h).symm, hsame⟩
  · rw [if_neg (not_or.mpr ⟨hlone, hsame⟩)] at h
    split at h
    · cases h
    · rename_i compiled hcompile
      obtain ⟨hnames, hseparators⟩ := CompiledPattern.names_of_compile hcompile
      obtain ⟨hnamed, hsplat⟩ := CompiledPattern.named_of_captures h
      rw [CompiledPattern.separators, if_neg hstar] at hseparators
      exact .inr ⟨hsame, hsplat hseparators, hnamed.trans hnames⟩

theorem Params.values_of_splat (h : params.splat = none) :
    params.values = params.named.map Prod.snd := by
  simp [values, h]

namespace Closure

variable {closure : Closure} {values : List Param}

private theorem invoke_of_fits
    (harity : closure.convention = .discrete values.length)
    (hfew : values.length ≤ Args.spreadLimit) :
    closure.invoke (Args.ofValues values) =
      ((closure.respond closure.calls (.spread values)).mapError .output,
        { closure with calls := closure.calls ++ [.spread values] }) := by
  rw [Args.ofValues_of_le hfew]
  apply runsOn_iff.mpr
  rw [harity, Convention.accept_discrete_eq_ok_iff]
  simp [Args.isPacked, Args.size, Args.values]

private theorem invoke_of_short {arity : Nat}
    (harity : closure.convention = .discrete arity)
    (hshort : values.length < arity) (hfew : values.length ≤ Args.spreadLimit) :
    closure.invoke (Args.ofValues values) =
      (.error (.tooFewArguments arity values.length), closure) := by
  rw [Args.ofValues_of_le hfew]
  apply refuses_iff.mpr
  rw [harity, Convention.accept_discrete_eq_error_iff]
  simp [Args.isPacked, Args.size, Args.values, hshort]

end Closure

namespace Dispatcher

variable {dispatcher : Dispatcher} {closure : Closure}

theorem fires_single (h : dispatcher.router.Coherent) {handler : Handler}
    (htable : dispatcher.table.routes = [⟨pattern, handler⟩])
    (hvalues : dispatcher.valuesFor? pattern = some params) :
    dispatcher.Fires ⟨pattern, handler⟩ (Args.ofValues params.values) := by
  obtain ⟨haccepts, rfl⟩ := valuesFor?_eq_some_iff.mp hvalues
  have hroutes : dispatcher.table.routes = [] ++ ⟨pattern, handler⟩ :: [] :=
    htable
  exact fires_of_split h hroutes (fun _ hmem => nomatch hmem) haccepts

theorem Fires.calls {values : List Param}
    (h : dispatcher.Fires ⟨pattern, .closure closure⟩ (Args.ofValues values))
    (harity : closure.convention = .discrete values.length)
    (hfew : values.length ≤ Args.spreadLimit)
    (hserial : ∃ value, closure.respond closure.calls (.spread values) =
      .ok value) :
    ∃ value, closure.respond closure.calls (.spread values) = .ok value ∧
      dispatcher.run.1 = true ∧ dispatcher.run.2.1.result = some value ∧
      dispatcher.run.2.1.table.get? pattern =
        some (.closure { closure with calls := closure.calls ++
          [.spread values] }) := by
  obtain ⟨value, hvalue⟩ := hserial
  have hinvoke := Closure.invoke_of_fits harity hfew
  rw [hvalue] at hinvoke
  refine ⟨value, hvalue, ?_, ?_, ?_⟩
  · rw [h.succeeds, Handler.invoke, hinvoke]
    rfl
  · rw [h.result, Handler.invoke, hinvoke]
    rfl
  · rw [h.handler, Handler.invoke, hinvoke]

private theorem Fires.refuses {values : List Param} {arity : Nat}
    (h : dispatcher.Fires ⟨pattern, .closure closure⟩ (Args.ofValues values))
    (harity : closure.convention = .discrete arity)
    (hshort : values.length < arity) (hfew : values.length ≤ Args.spreadLimit) :
    dispatcher.run.1 = false ∧ dispatcher.run.2.1.result = dispatcher.result ∧
      dispatcher.run.2.1.table.get? pattern = some (.closure closure) ∧
      dispatcher.run.2.2.getLast? = some (.handlerFailed dispatcher.path pattern
        (HandlerError.tooFewArguments arity values.length).message) := by
  have hinvoke := Closure.invoke_of_short harity hshort hfew
  refine ⟨?_, ?_, ?_, ?_⟩
  · rw [h.succeeds, Handler.invoke, hinvoke]
    rfl
  · rw [h.result, Handler.invoke, hinvoke]
    rfl
  · rw [h.handler, Handler.invoke, hinvoke]
  · rw [h.reported, Handler.invoke, hinvoke]
    rfl

/--
A closure with one argument for each token of its pattern, at most five, is
called with the values of the tokens, and what it answers is the result.  Only
where the path is the pattern itself are there no values, and a closure that
wants some is refused.
-/
theorem arity_fits (hrouter : dispatcher.router.Reachable)
    (htable : dispatcher.table.routes = [⟨pattern, .closure closure⟩])
    (hstar : pattern.toList.getLast? ≠ some '*')
    (hfew : (tokenNames pattern).length ≤ 5)
    (harity : closure.convention = .discrete (tokenNames pattern).length)
    (hserial : ∀ earlier args, ∃ value,
      closure.respond earlier args = .ok value)
    (hmatch : dispatcher.accepts pattern = true) :
    let after := dispatcher.run.2.1
    ∃ params, dispatcher.valuesFor? pattern = some params ∧
      (¬ (pattern = dispatcher.path ∧ tokenNames pattern ≠ []) →
        params.named.map Prod.fst = tokenNames pattern ∧ params.splat = none ∧
        ∃ value,
          closure.respond closure.calls (.spread (params.named.map Prod.snd)) =
            .ok value ∧
          dispatcher.run.1 = true ∧ after.result = some value ∧
          after.table.get? pattern = some (.closure
            { closure with
              calls :=
                closure.calls ++ [.spread (params.named.map Prod.snd)] })) ∧
      (pattern = dispatcher.path ∧ tokenNames pattern ≠ [] →
        params = {} ∧ dispatcher.run.1 = false ∧
        after.result = dispatcher.result ∧
        after.table.get? pattern = some (.closure closure) ∧
        dispatcher.run.2.2.getLast? =
          some (.handlerFailed dispatcher.path pattern
            (HandlerError.tooFewArguments
              (tokenNames pattern).length 0).message)) := by
  intro after
  obtain ⟨params, hvalues⟩ :
      ∃ params, dispatcher.valuesFor? pattern = some params :=
    ⟨_, valuesFor?_eq_some_iff.mpr ⟨hmatch, rfl⟩⟩
  have hfires := fires_single hrouter.coherent htable hvalues
  have hshape := hvalues
  rw [valuesFor?_eq hrouter.coherent] at hshape
  replace hshape := Router.values?_named hshape hstar
  refine ⟨params, hvalues, fun hplain => ?_, fun ⟨hliteral, hsome⟩ => ?_⟩
  · have hnamed : params.splat = none ∧ params.named.map Prod.fst =
        tokenNames pattern := by
      -- the pattern may be its own path as long as no token waits for a value
      rcases hshape with ⟨rfl, hsame⟩ | ⟨-, hnamed⟩
      · have hnone : tokenNames pattern = [] := by
          by_contra hsome
          exact hplain ⟨hsame, hsome⟩
        exact ⟨rfl, hnone.symm⟩
      · exact hnamed
    obtain ⟨hsplat, hnames⟩ := hnamed
    have hlength : (params.named.map Prod.snd).length =
        (tokenNames pattern).length := by
      rw [← hnames, List.length_map, List.length_map]
    rw [Params.values_of_splat hsplat] at hfires
    exact ⟨hnames, hsplat, hfires.calls (hlength ▸ harity)
      (hlength ▸ hfew) (hserial _ _)⟩
  · obtain ⟨rfl, -⟩ : params = {} ∧ pattern = dispatcher.path := by
      rcases hshape with hempty | ⟨hne, -⟩
      · exact hempty
      · exact absurd hliteral hne
    exact ⟨rfl, hfires.refuses harity (List.length_pos_iff.mpr hsome)
      (Nat.zero_le _)⟩

theorem arity_fits_absent :
    let dispatcher : Dispatcher :=
      { path := "/a", caseSensitive := true
        table := ⟨[⟨"/a(/@x)", .closure (.listing 1)⟩]⟩ }
    dispatcher.router.Reachable ∧ "/a(/@x)".toList.getLast? ≠ some '*' ∧
      (tokenNames "/a(/@x)").length ≤ 5 ∧
      (Closure.listing 1).convention = .discrete (tokenNames "/a(/@x)").length ∧
      (∀ earlier args, ∃ value, (Closure.listing 1).respond earlier args =
        .ok value) ∧
      dispatcher.accepts "/a(/@x)" = true ∧
      ∃ params, dispatcher.valuesFor? "/a(/@x)" = some params ∧
        params.named.map Prod.fst = ["x"] ∧ dispatcher.run.1 = true := by
  intro dispatcher
  have hfew : (tokenNames "/a(/@x)").length ≤ 5 := by decide
  have harity : (Closure.listing 1).convention =
      .discrete (tokenNames "/a(/@x)").length := by decide
  have hserial (earlier : List Args) (args : Args) :
      ∃ value, (Closure.listing 1).respond earlier args = .ok value := ⟨_, rfl⟩
  have hmatch : dispatcher.accepts "/a(/@x)" = true := by decide +kernel
  obtain ⟨params, hvalues, hcalls, -⟩ :=
    @arity_fits _ dispatcher _ .withCache rfl
      (by decide) hfew harity hserial hmatch
  obtain ⟨hnames, -, _, -, hrun, -⟩ := hcalls (by decide)
  exact ⟨.withCache, by decide, hfew, harity, hserial, hmatch, params,
    hvalues, hnames, hrun⟩

/--
The path that is the pattern itself gives a closure for its token no value.
-/
theorem literal_path_refused :
    let dispatcher : Dispatcher :=
      { path := "/@name", table := ⟨[⟨"/@name", .closure (.listing 1)⟩]⟩ }
    dispatcher.router.Reachable ∧ "/@name".toList.getLast? ≠ some '*' ∧
      tokenNames "/@name" = ["name"] ∧ (Closure.listing 1).convention =
        .discrete 1 ∧
      (∀ earlier args, ∃ value, (Closure.listing 1).respond earlier args =
        .ok value) ∧
      dispatcher.accepts "/@name" = true ∧ dispatcher.run.1 = false ∧
      dispatcher.run.2.2 =
        [.handlerFailed "/@name" "/@name"
          (HandlerError.tooFewArguments 1 0).message] := by
  refine ⟨.withCache, by decide, by decide, rfl,
    fun _ _ => ⟨_, rfl⟩, ?_, ?_, ?_⟩
  · decide
  · rfl
  · rfl

end Dispatcher

end Signpost
