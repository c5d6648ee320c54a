import Signpost.Dispatch.Closure

/-!
# Which closures run, and on what

A closure either runs, once and on what its convention lets through, or it is
refused and stays as it was.  Which of the two it is depends only on the shape
and the number of the values, and so does the error.  The values that reach a
closure are the first ones, in their order.
-/

namespace Signpost

namespace Args

theorem values_ofValues (values : List Param) :
    (ofValues values).values = values := by
  unfold ofValues
  split <;> rfl

theorem ofValues_of_le {values : List Param} (h : values.length ≤ spreadLimit) :
    ofValues values = .spread values :=
  if_neg (Nat.not_lt.mpr h)

theorem isPacked_ofValues (values : List Param) :
    (ofValues values).isPacked = true ↔ spreadLimit < values.length := by
  unfold ofValues
  split <;> simp_all [isPacked]

end Args

namespace Convention

variable {args seen : Args} {error : HandlerError} {arity : Nat}

def passed? (convention : Convention) (args : Args) : Option Args :=
  (convention.accept args).toOption

theorem accept_discrete_eq_ok_iff :
    (discrete arity).accept args = .ok seen ↔
      (arity = 0 ∨ args.isPacked = false ∧ arity ≤ args.size) ∧
        seen = .spread (args.values.take arity) := by
  cases args with
  | spread values =>
      by_cases henough : arity ≤ values.length
      · simp only [accept, henough, Args.isPacked, Args.size,
          Args.values, if_true, Except.ok.injEq, and_self, or_true, true_and]
        apply eq_comm
      · have hpos : arity ≠ 0 := by omega
        simp [accept, henough, hpos, Args.size, Args.values]
  | packed values =>
      cases arity with
      | zero =>
          simp only [accept, Except.ok.injEq, List.take_zero, true_or, true_and]
          apply eq_comm
      | succ arity => simp [accept, Args.isPacked]

theorem accept_discrete_eq_error_iff :
    (discrete arity).accept args = .error error ↔
      args.isPacked = false ∧ args.size < arity ∧
          error = .tooFewArguments arity args.size ∨
        args.isPacked = true ∧ 0 < arity ∧
        error = .unexpectedPacked args.size := by
  cases args with
  | spread values =>
      by_cases henough : arity ≤ values.length
      · have hnot : ¬ values.length < arity := by omega
        simp [accept, henough, hnot, Args.isPacked, Args.size, Args.values]
      · have hshort : values.length < arity := by omega
        simp [accept, henough, hshort, Args.isPacked, Args.size,
          Args.values, eq_comm]
  | packed values =>
      cases arity with
      | zero => simp [accept, Args.isPacked]
      | succ arity =>
          simp [accept, Args.isPacked, Args.size, Args.values, eq_comm]

theorem accept_packed_eq_ok_iff :
    packed.accept args = .ok seen ↔ args.isPacked = true ∧ seen = args := by
  cases args <;> simp [accept, Args.isPacked, eq_comm]

theorem accept_packed_eq_error_iff :
    packed.accept args = .error error ↔
      args.isPacked = false ∧ error = .unexpectedSpread args.size := by
  cases args <;> simp [accept, Args.isPacked, Args.size, Args.values, eq_comm]

end Convention

namespace Closure

variable {closure : Closure} {args seen : Args} {error : HandlerError}

/-- The body runs once, and `seen` is what it gets. -/
def RunsOn (closure : Closure) (args seen : Args) : Prop :=
  closure.invoke args =
    ((closure.respond closure.calls seen).mapError .output,
      { closure with calls := closure.calls ++ [seen] })

/-- The body does not run, and the closure is what it was. -/
def Refuses (closure : Closure) (args : Args) (error : HandlerError) : Prop :=
  closure.invoke args = (.error error, closure)

theorem ne_of_calls (closure : Closure) (seen : Args) :
    closure ≠ { closure with calls := closure.calls ++ [seen] } := by
  intro hsame
  have hcalls := congrArg (List.length ∘ Closure.calls) hsame
  simp at hcalls

theorem runsOn_iff : closure.RunsOn args seen ↔
    closure.convention.accept args = .ok seen := by
  unfold RunsOn invoke
  cases closure.convention.accept args with
  | error error =>
      simp only [Prod.mk.injEq, reduceCtorEq, iff_false, not_and]
      intro _
      apply ne_of_calls
  | ok passed =>
      simp only [Except.ok.injEq]
      constructor
      · intro hruns
        have hcalls := congrArg (fun outcome => outcome.2.calls) hruns
        simpa using hcalls
      · rintro rfl
        rfl

theorem refuses_iff :
    closure.Refuses args error ↔ closure.convention.accept args =
      .error error := by
  unfold Refuses invoke
  cases closure.convention.accept args with
  | error error => simp
  | ok passed =>
      simp only [Prod.mk.injEq, reduceCtorEq, iff_false, not_and]
      intro _ hsame
      apply ne_of_calls closure passed hsame.symm

def after (closure : Closure) (invocations : List Args) : Closure :=
  invocations.foldl (fun closure args => (closure.invoke args).2) closure

theorem invoke_snd (closure : Closure) (args : Args) :
    (closure.invoke args).2 =
      { closure with calls := closure.calls ++
        (closure.convention.passed? args).toList } := by
  unfold invoke Convention.passed?
  cases closure.convention.accept args <;> simp [Except.toOption]

/-- Only invocations that run leave a trace in the closure. -/
theorem after_eq (closure : Closure) (invocations : List Args) :
    closure.after invocations =
      { closure with
        calls := closure.calls ++
          invocations.filterMap closure.convention.passed? } := by
  induction invocations generalizing closure with
  | nil => simp [after]
  | cons args invocations ih =>
      have hrest := ih (closure.invoke args).2
      rw [after, List.foldl_cons, ← after, hrest, invoke_snd]
      cases hpassed : closure.convention.passed? args <;> simp [hpassed]

/--
Which closures run on which arguments, and what they get to see.  A closure that
does not run is left as it is and answers with the number of the values and what
is wrong with them; so over any invocations it remembers those that ran.
-/
theorem runs_by_convention
    (respond : List Args → Args → Except OutputFault Json) (calls : List Args) :
    (∀ arity args,
      let closure : Closure := ⟨.discrete arity, respond, calls⟩
      (∀ seen, closure.RunsOn args seen ↔
        (arity = 0 ∨ args.isPacked = false ∧ arity ≤ args.size) ∧
          seen = .spread (args.values.take arity)) ∧
      ∀ error, closure.Refuses args error ↔
        args.isPacked = false ∧ args.size < arity ∧
            error = .tooFewArguments arity args.size ∨
          args.isPacked = true ∧ 0 < arity ∧
          error = .unexpectedPacked args.size) ∧
    (∀ args,
      let closure : Closure := ⟨.packed, respond, calls⟩
      (∀ seen, closure.RunsOn args seen ↔ args.isPacked = true ∧ seen = args) ∧
      ∀ error, closure.Refuses args error ↔
        args.isPacked = false ∧ error = .unexpectedSpread args.size) ∧
    (∀ args,
      let closure : Closure := ⟨.whole, respond, calls⟩
      (∀ seen, closure.RunsOn args seen ↔ seen = args) ∧
      ∀ error, ¬ closure.Refuses args error) ∧
    (∀ values : List Param,
      (Args.ofValues values).values = values ∧
      ((Args.ofValues values).isPacked = true ↔ 5 < values.length) ∧
      ∀ arity, (∃ seen, RunsOn ⟨.discrete arity, respond, calls⟩
        (.ofValues values) seen) ↔
        arity = 0 ∨ arity ≤ values.length ∧ values.length ≤ 5) ∧
    ∀ convention invocations,
      after ⟨convention, respond, calls⟩ invocations =
        ⟨convention, respond,
          calls ++ invocations.filterMap convention.passed?⟩ := by
  refine ⟨fun arity args => ⟨fun seen => ?_, fun error => ?_⟩,
    fun args => ⟨fun seen => ?_, fun error => ?_⟩,
    fun args => ⟨fun seen => ?_, fun error => ?_⟩, fun values => ?_,
    fun convention => ?_⟩
  · rw [runsOn_iff, Convention.accept_discrete_eq_ok_iff]
  · rw [refuses_iff, Convention.accept_discrete_eq_error_iff]
  · rw [runsOn_iff, Convention.accept_packed_eq_ok_iff]
  · rw [refuses_iff, Convention.accept_packed_eq_error_iff]
  · rw [runsOn_iff]
    simp [Convention.accept, eq_comm]
  · rw [refuses_iff]
    simp [Convention.accept]
  · have hpacked : (Args.ofValues values).isPacked = true ↔ 5 < values.length :=
      Args.isPacked_ofValues values
    refine ⟨Args.values_ofValues values, hpacked, fun arity => ?_⟩
    have hspread : (Args.ofValues values).isPacked = false ↔
        values.length ≤ 5 := by
      rw [← Bool.not_eq_true, hpacked, Nat.not_lt]
    simp only [runsOn_iff, Convention.accept_discrete_eq_ok_iff,
      exists_and_left, exists_eq, and_true, hspread, Args.size,
      Args.values_ofValues]
    rw [and_comm]
  · apply after_eq

end Closure

end Signpost
