import Signpost.Proofs.Config.Binding
import Signpost.Proofs.Dispatch.Overlay

/-!
# Configurations bound over routes

A configuration need not be valid to be bound, and the dispatcher may have
routes. The routes with targets are laid over those that are there; the others
are passed over, whatever their patterns are.
-/

namespace Signpost.DispatchConfig

variable {dispatcher : Dispatcher}

def wellFormed (config : DispatchConfig) : List RouteConfig :=
  config.routes.filter fun route => (Target.parse? route.handler).isSome

def lastTarget? (config : DispatchConfig) (pattern : String) : Option Target :=
  config.routes.reverse.findSome? fun route =>
    if route.pattern = pattern then Target.parse? route.handler else none

theorem bindRoutes_fst (dispatcher : Dispatcher) (routes : List RouteConfig) :
    (bindRoutes dispatcher routes).1 =
      (routes.filter fun route =>
        (Target.parse? route.handler).isSome).length := by
  induction routes generalizing dispatcher with
  | nil => rfl
  | cons route rest ih =>
      cases htarget : Target.parse? route.handler with
      | none => simp [bindRoutes, htarget, ih]
      | some target => simp [bindRoutes, htarget, ih]

private theorem bindRoutes_overlay (dispatcher : Dispatcher)
    (routes : List RouteConfig) :
    (bindRoutes dispatcher routes).2.1 =
      { dispatcher with
        table :=
          dispatcher.table.overlay (routes.filterMap RouteConfig.bound?) } := by
  induction routes generalizing dispatcher with
  | nil => rfl
  | cons route rest ih =>
      cases htarget : Target.parse? route.handler with
      | none =>
          have hbound :
              route.bound? = none := by simp [RouteConfig.bound?, htarget]
          simp [bindRoutes, htarget, ih, hbound]
      | some target =>
          have hbound := RouteConfig.bound?_eq htarget
          simp [bindRoutes, htarget, ih, hbound, Dispatcher.set,
            RouteTable.overlay_cons]

theorem bind_overlay (config : DispatchConfig) (dispatcher : Dispatcher) :
    (config.bind dispatcher).2.1 =
      { dispatcher with
        caseSensitive := config.caseSensitive
        table := dispatcher.table.overlay config.table.routes } := by
  rw [bind, bindRoutes_overlay]
  rfl

private theorem map_pattern_table (config : DispatchConfig) :
    config.table.routes.map Route.pattern =
      config.wellFormed.map RouteConfig.pattern :=
  map_pattern_bound config.routes

private theorem findSome?_table (config : DispatchConfig) (pattern : String) :
    (config.table.routes.reverse.findSome? fun route =>
        if route.pattern = pattern then some route.handler else none) =
      (config.lastTarget? pattern).map Handler.method := by
  unfold table lastTarget?
  rw [← List.filterMap_reverse, List.map_findSome?]
  induction config.routes.reverse with
  | nil => rfl
  | cons route rest ih =>
      by_cases hsame : route.pattern = pattern
      · cases htarget : Target.parse? route.handler with
        | none => simp [RouteConfig.bound?, htarget, ih]
        | some target => simp [RouteConfig.bound?, htarget, hsame]
      · cases htarget : Target.parse? route.handler with
        | none => simp [RouteConfig.bound?, htarget, ih]
        | some target => simp [RouteConfig.bound?, htarget, hsame, ih]

/--
Any configuration on any dispatcher: the patterns that were there keep their
places, new ones follow in the order in which they first come with a target, and
under each pattern the last target decides.  The number is that of the routes
with targets. Nothing else changes but the case flag, and nothing at all the
second time.
-/
theorem bind_over_any (config : DispatchConfig) (dispatcher : Dispatcher) :
    let after := (config.bind dispatcher).2.1
    after.table.patterns =
        dispatcher.table.patterns ++
          ((config.wellFormed.map RouteConfig.pattern).filter
            (· ∉ dispatcher.table.patterns)).eraseDups ∧
      (∀ pattern, after.table.get? pattern =
        ((config.lastTarget? pattern).map Handler.method).or
          (dispatcher.table.get? pattern)) ∧
      (config.bind dispatcher).1 = config.wellFormed.length ∧
      after.caseSensitive = config.caseSensitive ∧
      after.path = dispatcher.path ∧ after.classes = dispatcher.classes ∧
      after.result = dispatcher.result ∧ after.router = dispatcher.router ∧
      (config.bind after).1 = (config.bind dispatcher).1 ∧
      (config.bind after).2.1 = after := by
  intro after
  have hafter : after = _ := config.bind_overlay dispatcher
  have hcount (dispatcher : Dispatcher) :
      (config.bind dispatcher).1 = config.wellFormed.length := by
    rw [bind, bindRoutes_fst]
    rfl
  refine ⟨?_, fun pattern => ?_, hcount dispatcher, ?_, ?_, ?_, ?_, ?_, ?_, ?_⟩
  · rw [hafter, RouteTable.patterns_overlay, map_pattern_table]
  · rw [hafter, RouteTable.get?_overlay, findSome?_table]
  · rw [hafter]
  · rw [hafter]
  · rw [hafter]
  · rw [hafter]
  · rw [hafter]
  · rw [hcount, hcount]
  · rw [bind_overlay, hafter, RouteTable.overlay_overlay]

end Signpost.DispatchConfig
