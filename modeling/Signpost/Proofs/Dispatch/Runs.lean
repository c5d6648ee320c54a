import Signpost.Dispatch.Stock
import Signpost.Proofs.Dispatch.FirstMatch

/-!
# Runs

What a run does, whatever has been done to the dispatcher before: the handler of
the first route that matches is called, and its answer becomes the result if it
succeeds.  Over a whole history the result is what the last successful run
answered.
-/

namespace Signpost.Dispatcher

/-- What can be done with a dispatcher, others that share its cache included. -/
inductive Action where
  | set (pattern : String) (handler : Handler)
  | remove (pattern : String)
  | setCaseSensitive (caseSensitive : Bool)
  | registerClass (name : String) (controller : ControllerClass)
  | removeClass (name : String)
  | compileElsewhere (pattern : String) (caseSensitive : Bool)
  | clearCache
  | run

def perform (dispatcher : Dispatcher) : Action → Dispatcher
  | .set pattern handler => (dispatcher.set pattern handler).1
  | .remove pattern => (dispatcher.remove pattern).2
  | .setCaseSensitive caseSensitive => { dispatcher with caseSensitive }
  | .registerClass name controller =>
    { dispatcher with classes := dispatcher.classes.register name controller }
  | .removeClass name =>
      { dispatcher with classes := (dispatcher.classes.remove name).2 }
  | .compileElsewhere pattern caseSensitive =>
    { dispatcher with router :=
      (dispatcher.router.compile pattern caseSensitive).2.1 }
  | .clearCache => { dispatcher with router := dispatcher.router.clearCache }
  | .run => dispatcher.run.2.1

def performAll (dispatcher : Dispatcher) (actions : List Action) : Dispatcher :=
  actions.foldl perform dispatcher

def answerTo? (dispatcher : Dispatcher) : Action → Option Json
  | .run => dispatcher.answer?
  | _ => none

def answers (dispatcher : Dispatcher) : List Action → List Json
  | [] => []
  | action :: actions =>
    (dispatcher.answerTo? action).toList ++ answers
      (dispatcher.perform action) actions

/--
The path, the case flag, the patterns, the targets and the classes are the same.
-/
structure SameSetup (before after : Dispatcher) : Prop where
  path : after.path = before.path
  caseSensitive : after.caseSensitive = before.caseSensitive
  patterns : after.table.patterns = before.table.patterns
  targets : after.table.routes.map (·.handler.target?) =
    before.table.routes.map (·.handler.target?)
  classes : after.classes.methods = before.classes.methods

structure Sound (dispatcher : Dispatcher) : Prop where
  router : dispatcher.router.Coherent
  classes : dispatcher.classes.Distinct

variable {dispatcher : Dispatcher}

theorem Sound.run (h : dispatcher.Sound) :
    dispatcher.run.2.1.Sound ∧ SameSetup dispatcher dispatcher.run.2.1 := by
  rcases RouteMatch.isFirst_or_none dispatcher.valuesFor?
    dispatcher.table.routes with
    hnone | ⟨hit, params, hfirst⟩
  · obtain ⟨-, router, hcoherent, hrun⟩ := run_of_none h.router hnone
    rw [hrun]
    exact ⟨⟨hcoherent, h.classes⟩, ⟨rfl, rfl, rfl, rfl, rfl⟩⟩
  · obtain ⟨router, events, hcoherent, hrun, -⟩ :=
      run_of_isFirst h.router hfirst
    obtain ⟨htarget, hdistinct, hmethods⟩ :=
      hit.route.handler.invoke_frame h.classes (Args.ofValues params.values)
    rw [hrun]
    refine ⟨⟨hcoherent, hdistinct⟩, ⟨rfl, rfl, ?_, ?_, hmethods⟩⟩
    · simp [RouteTable.patterns, outcome, RouteMatch.tableAfter,
        hfirst.routes_eq]
    · simp [outcome, RouteMatch.tableAfter, RouteMatch.invoke,
        hfirst.routes_eq, htarget]

theorem Sound.run_result (h : dispatcher.Sound) :
    dispatcher.run.1 = dispatcher.answer?.isSome ∧
      dispatcher.run.2.1.result = dispatcher.answer?.or dispatcher.result := by
  rcases RouteMatch.isFirst_or_none dispatcher.valuesFor?
    dispatcher.table.routes with
    hnone | ⟨hit, params, hfirst⟩
  · obtain ⟨hfails, router, -, hrun⟩ := run_of_none h.router hnone
    rw [hfails, hrun, answer?_of_none hnone]
    exact ⟨rfl, rfl⟩
  · obtain ⟨router, events, -, hrun, -⟩ := run_of_isFirst h.router hfirst
    rw [hrun]
    exact ⟨rfl, rfl⟩

theorem sound_new {router : Router} (h : router.Reachable) (path : String) :
    Sound { router, path } :=
  ⟨h.coherent, List.nodup_nil⟩

theorem Sound.perform (h : dispatcher.Sound) (action : Action) :
    (dispatcher.perform action).Sound := by
  cases action with
  | set pattern handler => exact ⟨h.router, h.classes⟩
  | remove pattern => exact ⟨h.router, h.classes⟩
  | setCaseSensitive caseSensitive => exact ⟨h.router, h.classes⟩
  | registerClass name controller =>
      exact ⟨h.router, h.classes.register name controller⟩
  | removeClass name => exact ⟨h.router, h.classes.remove name⟩
  | compileElsewhere pattern caseSensitive =>
      exact ⟨(h.router.compile pattern caseSensitive).2.1, h.classes⟩
  | clearCache => exact ⟨dispatcher.router.coherent_clearCache, h.classes⟩
  | run => exact h.run.1

theorem Sound.performAll (h : dispatcher.Sound) (actions : List Action) :
    (dispatcher.performAll actions).Sound := by
  induction actions generalizing dispatcher with
  | nil => exact h
  | cons action actions ih => exact ih (h.perform action)

private theorem Sound.perform_result (h : dispatcher.Sound) (action : Action) :
    (dispatcher.perform action).result =
      (dispatcher.answerTo? action).or dispatcher.result := by
  cases action with
  | run => exact h.run_result.2
  | _ => rfl

private theorem Sound.performAll_result (h : dispatcher.Sound)
    (actions : List Action) :
    (dispatcher.performAll actions).result =
      (dispatcher.answers actions).getLast?.or dispatcher.result := by
  induction actions generalizing dispatcher with
  | nil => rfl
  | cons action actions ih =>
      have hlast : (dispatcher.answerTo? action).toList.getLast? =
          dispatcher.answerTo? action := by
        cases dispatcher.answerTo? action <;> rfl
      rw [answers, List.getLast?_append, Option.or_assoc, hlast,
        ← h.perform_result action]
      exact ih (h.perform action)

theorem answer?_eq_some_iff {value : Json} :
    dispatcher.answer? = some value ↔ ∃ (hit : RouteMatch) (params : Params),
      hit.IsFirst dispatcher.valuesFor? dispatcher.table.routes params ∧
        (hit.invoke dispatcher.classes params).1 = .ok value := by
  have hok : ∀ {outcome : Except HandlerError Json},
      outcome.toOption = some value ↔ outcome = .ok value := by
    rintro (error | value) <;> simp [Except.toOption]
  constructor
  · intro hanswer
    rcases RouteMatch.isFirst_or_none dispatcher.valuesFor?
      dispatcher.table.routes with
      hnone | ⟨hit, params, hfirst⟩
    · rw [answer?_of_none hnone] at hanswer
      cases hanswer
    · rw [answer?_of_isFirst hfirst] at hanswer
      exact ⟨hit, params, hfirst, hok.mp hanswer⟩
  · rintro ⟨hit, params, hfirst, hvalue⟩
    rw [answer?_of_isFirst hfirst]
    exact hok.mpr hvalue

/--
A run after any history: it succeeds if the first route that matches does, whose
value becomes the result; else the result stays.  No handler but that of this
route is called, and no later route is tried.
-/
theorem run_after_history {router : Router} (hrouter : router.Reachable)
    (path : String) (actions : List Action) :
    let dispatcher := performAll { router, path } actions
    let after := dispatcher.run.2.1
    (dispatcher.run.1 = true ↔
      ∃ (hit : RouteMatch) (params : Params) (value : Json),
      hit.IsFirst dispatcher.valuesFor? dispatcher.table.routes params ∧
        (hit.invoke dispatcher.classes params).1 = .ok value) ∧
    (∀ (hit : RouteMatch) (params : Params) (value : Json),
      hit.IsFirst dispatcher.valuesFor? dispatcher.table.routes params →
      (hit.invoke dispatcher.classes params).1 = .ok value →
        after.result = some value) ∧
    (dispatcher.run.1 = false → after.result = dispatcher.result) ∧
    (∀ (hit : RouteMatch) (params : Params),
      hit.IsFirst dispatcher.valuesFor? dispatcher.table.routes params →
        after.table = hit.tableAfter dispatcher.classes params hit.after ∧
        after.classes = (hit.invoke dispatcher.classes params).2.2 ∧
        ∀ rest,
          run { dispatcher with table := ⟨hit.before ++ hit.route :: rest⟩ } =
          (dispatcher.run.1,
            { after with table :=
              hit.tableAfter dispatcher.classes params rest },
            dispatcher.run.2.2)) ∧
    ((∀ route ∈ dispatcher.table.routes,
      dispatcher.valuesFor? route.pattern = none) →
      after.table = dispatcher.table ∧ after.classes = dispatcher.classes) ∧
    SameSetup dispatcher after ∧
    dispatcher.result = (answers { router, path } actions).getLast? := by
  intro dispatcher after
  have hsound : dispatcher.Sound := (sound_new hrouter path).performAll actions
  obtain ⟨hanswer, hresult⟩ := hsound.run_result
  refine ⟨?_, ?_, ?_, ?_, ?_, hsound.run.2, ?_⟩
  · rw [hanswer, Option.isSome_iff_exists]
    constructor
    · rintro ⟨value, hvalue⟩
      obtain ⟨hit, params, hfirst, hok⟩ := answer?_eq_some_iff.mp hvalue
      exact ⟨hit, params, value, hfirst, hok⟩
    · rintro ⟨hit, params, value, hfirst, hok⟩
      exact ⟨value, answer?_eq_some_iff.mpr ⟨hit, params, hfirst, hok⟩⟩
  · intro hit params value hfirst hok
    rw [hresult, answer?_eq_some_iff.mpr ⟨hit, params, hfirst, hok⟩,
      Option.some_or]
  · intro hfails
    rw [hanswer, Option.isSome_eq_false_iff, Option.isNone_iff_eq_none]
      at hfails
    rw [hresult, hfails, Option.none_or]
  · intro hit params hfirst
    -- the run with other routes behind differs in the table alone
    obtain ⟨_, _, -, hrun, hrest⟩ := run_of_isFirst hsound.router hfirst
    refine ⟨congrArg (·.2.1.table) hrun, congrArg (·.2.1.classes) hrun,
      fun rest => ?_⟩
    dsimp only [after]
    rw [hrest rest, hrun]
    rfl
  · intro hnone
    obtain ⟨-, _, -, hrun⟩ := run_of_none hsound.router hnone
    exact ⟨congrArg (·.table) hrun, congrArg (·.classes) hrun⟩
  · rw [(sound_new hrouter path).performAll_result actions, Option.or_none]

theorem run_after_history_twice :
    (Router.withCache {}).Reachable ∧
      (performAll { router := .withCache {}, path := "/a" }
        [.set "/a" (.closure .counter), .run, .run]).result = some (.ofNat 2) :=
  ⟨.withCache, (run_after_history .withCache "/a"
    [.set "/a" (.closure .counter), .run, .run]).2.2.2.2.2.2⟩

end Signpost.Dispatcher
