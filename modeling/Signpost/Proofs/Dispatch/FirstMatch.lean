import Signpost.Dispatch.Dispatcher
import Signpost.Proofs.Dispatch.Classes
import Signpost.Proofs.Router.Coherence

/-!
# The first route that matches

A run asks one route after the other and stops at the first whose pattern takes
values from the path.  What is asked before changes the cache at most, so that
whether a route matches does not depend on when it is asked.
-/

namespace Signpost

namespace RouteMatch

variable {values : String → Option Params} {routes : List Route}
    {hit : RouteMatch}
  {params : Params}

/-- The route is the first of the routes that takes values. -/
structure IsFirst (hit : RouteMatch) (values : String → Option Params)
    (routes : List Route) (params : Params) : Prop where
  routes_eq : routes = hit.before ++ hit.route :: hit.after
  earlier : ∀ route ∈ hit.before, values route.pattern = none
  found : values hit.route.pattern = some params

theorem isFirst_or_none (values : String → Option Params)
    (routes : List Route) :
    (∀ route ∈ routes, values route.pattern = none) ∨
      ∃ (hit : RouteMatch) (params : Params),
        hit.IsFirst values routes params := by
  induction routes with
  | nil => exact .inl fun route hroute => nomatch hroute
  | cons route rest ih =>
      cases hvalues : values route.pattern with
      | some params =>
          exact .inr ⟨⟨[], route, rest⟩, params, rfl,
            fun _ h => (nomatch h), hvalues⟩
      | none =>
          rcases ih with hnone | ⟨hit, params, hfirst⟩
          · exact .inl (List.forall_mem_cons.mpr ⟨hvalues, hnone⟩)
          · refine .inr ⟨{ hit with before := route :: hit.before },
              params, ?_, ?_, hfirst.found⟩
            · rw [hfirst.routes_eq]
              rfl
            · exact List.forall_mem_cons.mpr ⟨hvalues, hfirst.earlier⟩

def invoke (hit : RouteMatch) (classes : Registry) (params : Params) :
    Except HandlerError Json × Handler × Registry :=
  hit.route.handler.invoke classes (Args.ofValues params.values)

/--
The routes with the handler as it is after the call, and others behind it.
-/
def tableAfter (hit : RouteMatch) (classes : Registry) (params : Params)
    (rest : List Route) : RouteTable :=
  ⟨hit.before ++
    { hit.route with handler := (hit.invoke classes params).2.1 } :: rest⟩

end RouteMatch

namespace Dispatcher

variable {dispatcher : Dispatcher} {router : Router} {path : String}
  {caseSensitive : Bool}

theorem firstMatch_of_isFirst {hit : RouteMatch} {params : Params}
    {routes : List Route}
    (hfirst : hit.IsFirst (Router.values? · path caseSensitive) routes params)
    (h : router.Coherent) :
    ∃ (found : Router) (events : List Event), found.Coherent ∧
      found.params = params ∧
      ∀ rest, firstMatch path caseSensitive router
        (hit.before ++ hit.route :: rest) =
        (some { hit with after := rest }, found, events) := by
  obtain ⟨before, route, after⟩ := hit
  obtain ⟨-, hearlier, hfound⟩ := hfirst
  dsimp only at hearlier hfound ⊢
  induction before generalizing router with
  | nil =>
      obtain ⟨hanswer, hparams, hcoherent⟩ :=
        h.matchPath route.pattern path caseSensitive
      rw [hfound] at hanswer hparams
      refine ⟨_, (router.matchPath route.pattern path caseSensitive).2.2,
        hcoherent, hparams, fun rest => ?_⟩
      simp only [List.nil_append, firstMatch, hanswer]
      rfl
  | cons first before ih =>
      obtain ⟨hfirst, hbefore⟩ := List.forall_mem_cons.mp hearlier
      obtain ⟨hanswer, -, hcoherent⟩ :=
        h.matchPath first.pattern path caseSensitive
      rw [hfirst] at hanswer
      obtain ⟨found, events, hfinal, hparams, hlater⟩ := ih hcoherent hbefore
      refine ⟨found, (router.matchPath first.pattern path caseSensitive).2.2 ++
        events,
        hfinal, hparams, fun rest => ?_⟩
      simp only [List.cons_append, firstMatch, hanswer, hlater]
      rfl

theorem firstMatch_of_none {routes : List Route} (h : router.Coherent)
    (hnone : ∀ route ∈ routes, Router.values? route.pattern path caseSensitive =
      none) :
    (firstMatch path caseSensitive router routes).1 = none ∧
      (firstMatch path caseSensitive router routes).2.1.Coherent := by
  induction routes generalizing router with
  | nil => exact ⟨rfl, h⟩
  | cons route rest ih =>
      obtain ⟨hroute, hrest⟩ := List.forall_mem_cons.mp hnone
      obtain ⟨hanswer, -, hcoherent⟩ :=
        h.matchPath route.pattern path caseSensitive
      rw [hroute] at hanswer
      obtain ⟨hhit, hlater⟩ := ih hcoherent hrest
      simp only [firstMatch, hanswer]
      exact ⟨by simp [hhit], hlater⟩

def valuesFor? (dispatcher : Dispatcher) (pattern : String) : Option Params :=
  let (found, router, _) :=
    dispatcher.router.matchPath pattern dispatcher.path dispatcher.caseSensitive
  if found then some router.params else none

theorem valuesFor?_eq (h : dispatcher.router.Coherent) :
    dispatcher.valuesFor? =
      (Router.values? · dispatcher.path dispatcher.caseSensitive) := by
  funext pattern
  obtain ⟨hanswer, hparams, -⟩ :=
    h.matchPath pattern dispatcher.path dispatcher.caseSensitive
  simp only [valuesFor?, hanswer, hparams]
  cases Router.values? pattern dispatcher.path dispatcher.caseSensitive <;> rfl

def answer? (dispatcher : Dispatcher) : Option Json :=
  (dispatcher.table.routes.findSome? fun route =>
    (dispatcher.valuesFor? route.pattern).map fun params =>
      (route.handler.invoke dispatcher.classes
        (Args.ofValues params.values)).1.toOption).join

theorem answer?_of_none
    (hnone : ∀ route ∈ dispatcher.table.routes,
      dispatcher.valuesFor? route.pattern = none) :
    dispatcher.answer? = none := by
  rw [answer?, List.findSome?_eq_none_iff.mpr fun route hroute => by
    rw [hnone route hroute, Option.map_none]]
  rfl

theorem answer?_of_isFirst {hit : RouteMatch} {params : Params}
    (hfirst :
      hit.IsFirst dispatcher.valuesFor? dispatcher.table.routes params) :
    dispatcher.answer? = (hit.invoke dispatcher.classes params).1.toOption := by
  rw [answer?, hfirst.routes_eq, List.findSome?_append,
    List.findSome?_eq_none_iff.mpr fun route hroute => by
      rw [hfirst.earlier route hroute, Option.map_none],
    Option.none_or, List.findSome?_cons, hfirst.found]
  rfl

theorem run_of_none (h : dispatcher.router.Coherent)
    (hnone : ∀ route ∈ dispatcher.table.routes,
      dispatcher.valuesFor? route.pattern = none) :
    dispatcher.run.1 = false ∧ ∃ router : Router, router.Coherent ∧
      dispatcher.run.2.1 = { dispatcher with router } := by
  rw [valuesFor?_eq h] at hnone
  obtain ⟨hhit, hcoherent⟩ := firstMatch_of_none h hnone
  simp only [run, hhit]
  exact ⟨trivial, _, hcoherent, rfl⟩

/-- What a run comes to when the handler of the match has been called. -/
def outcome (dispatcher : Dispatcher) (hit : RouteMatch) (params : Params)
    (router : Router) (rest : List Route) : Dispatcher :=
  { dispatcher with
    router
    table := hit.tableAfter dispatcher.classes params rest
    classes := (hit.invoke dispatcher.classes params).2.2
    result := dispatcher.answer?.or dispatcher.result }

private theorem run_with_routes (h : dispatcher.router.Coherent)
    {hit : RouteMatch} {params : Params}
    (hfirst :
      hit.IsFirst dispatcher.valuesFor? dispatcher.table.routes params) :
    ∃ (router : Router) (events : List Event), router.Coherent ∧
      ∀ rest,
        run { dispatcher with table := ⟨hit.before ++ hit.route :: rest⟩ } =
        (dispatcher.answer?.isSome, dispatcher.outcome hit params router rest,
          events) := by
  simp only [outcome, answer?_of_isFirst hfirst]
  rw [valuesFor?_eq h] at hfirst
  obtain ⟨found, events, hcoherent, hparams, hfound⟩ :=
    firstMatch_of_isFirst hfirst h
  simp only [run, hfound, Router.takeParams, hparams, RouteMatch.tableAfter,
    RouteMatch.invoke]
  cases (hit.route.handler.invoke dispatcher.classes
    (Args.ofValues params.values)).1 with
  | ok value => exact ⟨_, _, hcoherent.takeParams, fun rest => rfl⟩
  | error error => exact ⟨_, _, hcoherent.takeParams, fun rest => rfl⟩

theorem run_of_isFirst (h : dispatcher.router.Coherent) {hit : RouteMatch}
    {params : Params}
    (hfirst :
      hit.IsFirst dispatcher.valuesFor? dispatcher.table.routes params) :
    ∃ (router : Router) (events : List Event), router.Coherent ∧
      dispatcher.run = (dispatcher.answer?.isSome,
        dispatcher.outcome hit params router hit.after, events) ∧
      ∀ rest,
        run { dispatcher with table := ⟨hit.before ++ hit.route :: rest⟩ } =
        (dispatcher.answer?.isSome, dispatcher.outcome hit params router rest,
          events) := by
  have htable :
      { dispatcher with table := ⟨hit.before ++ hit.route :: hit.after⟩ } =
        dispatcher := by
    rw [← hfirst.routes_eq]
  obtain ⟨router, events, hcoherent, hrun⟩ := run_with_routes h hfirst
  refine ⟨router, events, hcoherent, ?_, hrun⟩
  rw [← hrun hit.after, htable]

end Dispatcher

end Signpost
