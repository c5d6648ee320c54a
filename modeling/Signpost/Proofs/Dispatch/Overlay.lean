import Signpost.Proofs.Dispatch.Ordering

/-!
# Routes laid over a table

Routes that are inserted one after the other keep the patterns of the table in
front, and bring in those that are new in the order in which they come first.
Under each pattern the last of them decides, and the table only where there is
none.  A second round changes nothing.
-/

namespace Signpost.RouteTable

variable {table : RouteTable} {first second : String} {handler other : Handler}

def overlay (table : RouteTable) (routes : List Route) : RouteTable :=
  routes.foldl
    (fun table route => (table.insert route.pattern route.handler).2) table

theorem overlay_cons (table : RouteTable) (route : Route) (rest : List Route) :
    table.overlay (route :: rest) =
      (table.insert route.pattern route.handler).2.overlay rest :=
  List.foldl_cons ..

private theorem overlay_append (table : RouteTable) (routes more : List Route) :
    table.overlay (routes ++ more) = (table.overlay routes).overlay more :=
  List.foldl_append

theorem overlay_concat (table : RouteTable) (routes : List Route)
    (route : Route) :
    table.overlay (routes ++ [route]) =
      ((table.overlay routes).insert route.pattern route.handler).2 := by
  rw [overlay_append]
  rfl

theorem patterns_overlay (table : RouteTable) (routes : List Route) :
    (table.overlay routes).patterns =
      table.patterns ++
        ((routes.map Route.pattern).filter (· ∉ table.patterns)).eraseDups := by
  induction routes generalizing table with
  | nil => simp [overlay]
  | cons route rest ih =>
      rw [overlay_cons, ih, patterns_insert, List.map_cons]
      by_cases hmem : route.pattern ∈ table.patterns
      · simp [hmem]
      · have hlater : (rest.map Route.pattern).filter
            (· ∉ table.patterns ++ [route.pattern]) =
            ((rest.map Route.pattern).filter (· ∉ table.patterns)).filter
              (fun pattern => !pattern == route.pattern) := by
          rw [List.filter_filter]
          apply List.filter_congr
          intro pattern _
          by_cases hsame : pattern = route.pattern <;> simp [hsame]
        rw [if_neg hmem, hlater, List.filter_cons_of_pos (by simpa using hmem),
          List.eraseDups_cons, List.append_assoc, List.singleton_append]

private theorem get?_insert_of_ne (table : RouteTable) (hne : first ≠ second)
    (handler : Handler) :
    (table.insert second handler).2.get? first = table.get? first :=
  @get?_perform_of_ne _ table (.insert second handler) hne

theorem get?_overlay (table : RouteTable) (routes : List Route)
    (pattern : String) :
    (table.overlay routes).get? pattern =
      (routes.reverse.findSome? fun route =>
        if route.pattern = pattern then some route.handler else none).or
          (table.get? pattern) := by
  induction routes generalizing table with
  | nil => rfl
  | cons route rest ih =>
      rw [overlay_cons, ih, List.reverse_cons, List.findSome?_append,
        Option.or_assoc]
      congr 1
      by_cases hsame : route.pattern = pattern
      · subst hsame
        simp [get?_insert_self]
      · simp [hsame, get?_insert_of_ne table (Ne.symm hsame)]

theorem mem_patterns_overlay {routes : List Route} {pattern : String} :
    pattern ∈ (table.overlay routes).patterns ↔
      pattern ∈ table.patterns ∨ pattern ∈ routes.map Route.pattern := by
  rw [patterns_overlay, List.mem_append, List.mem_eraseDups, List.mem_filter]
  by_cases hmem : pattern ∈ table.patterns <;> simp [hmem]

theorem insert_insert_self (table : RouteTable) (pattern : String)
    (handler other : Handler) :
    ((table.insert pattern handler).2.insert pattern other).2 =
      (table.insert pattern other).2 := by
  rcases table.absent_or_hasAt pattern with habsent | ⟨before, old, after, h⟩
  · have hat : HasAt ⟨table.routes ++ [⟨pattern, handler⟩]⟩ pattern
        table.routes handler [] :=
      ⟨rfl, ne_of_not_mem habsent⟩
    rw [insert_of_absent habsent, insert_of_absent habsent, hat.insert]
  · have hat : HasAt ⟨before ++ ⟨pattern, handler⟩ :: after⟩ pattern
        before handler after :=
      ⟨rfl, h.earlier⟩
    rw [h.insert, h.insert, hat.insert]

theorem insert_insert_of_ne (hne : first ≠ second)
    (hmem : second ∈ table.patterns) (handler other : Handler) :
    ((table.insert second other).2.insert first handler).2 =
      ((table.insert first handler).2.insert second other).2 := by
  obtain ⟨routes⟩ := table
  simp only [insert]
  congr 1
  induction routes with
  | nil => simp [patterns] at hmem
  | cons route rest ih =>
      by_cases hfirst : route.pattern = first
      · have hsecond : route.pattern ≠ second := by
          rintro rfl
          exact hne hfirst.symm
        simp [insertInto, hfirst, hne]
      · by_cases hsecond : route.pattern = second
        · simp [insertInto, hsecond, hne.symm]
        · have hrest : second ∈ patterns ⟨rest⟩ := by
            simpa [patterns, Ne.symm hsecond] using hmem
          simp [insertInto, hfirst, hsecond, ih hrest]

/--
Behind routes that have their places, another pattern can as well be inserted
last.
-/
theorem overlay_insert_of_ne {routes : List Route}
    (hne : ∀ route ∈ routes, route.pattern ≠ first)
    (hmem : ∀ route ∈ routes, route.pattern ∈ table.patterns) :
    (table.insert first handler).2.overlay routes =
      ((table.overlay routes).insert first handler).2 := by
  induction routes generalizing table with
  | nil => rfl
  | cons route rest ih =>
      obtain ⟨hroute, hrest⟩ := List.forall_mem_cons.mp hne
      obtain ⟨hpresent, hlater⟩ := List.forall_mem_cons.mp hmem
      rw [overlay_cons, overlay_cons,
        ← insert_insert_of_ne hroute.symm hpresent]
      apply ih hrest
      intro later hmem
      rw [patterns_insert, if_pos hpresent]
      exact hlater later hmem

private theorem overlay_insert_of_mem {routes : List Route}
    (hmem : first ∈ routes.map Route.pattern)
    (hpresent : first ∈ table.patterns) :
    (table.insert first handler).2.overlay routes = table.overlay routes := by
  induction routes generalizing table with
  | nil => simp at hmem
  | cons route rest ih =>
      rw [overlay_cons, overlay_cons]
      by_cases hsame : route.pattern = first
      · subst hsame
        rw [insert_insert_self]
      · have hrest : first ∈ rest.map Route.pattern := by
          simpa [Ne.symm hsame] using hmem
        rw [insert_insert_of_ne hsame hpresent]
        apply ih hrest
        rw [patterns_insert]
        split_ifs <;> simp [hpresent]

theorem overlay_overlay (table : RouteTable) (routes : List Route) :
    (table.overlay routes).overlay routes = table.overlay routes := by
  induction routes using List.reverseRecOn with
  | nil => rfl
  | append_singleton routes route ih =>
      -- the last route replaces an earlier one with its pattern, or comes last
      rw [overlay_concat, overlay_concat]
      by_cases hmem : route.pattern ∈ routes.map Route.pattern
      · have hpresent : route.pattern ∈ (table.overlay routes).patterns :=
          mem_patterns_overlay.mpr (.inr hmem)
        rw [overlay_insert_of_mem hmem hpresent, ih]
      · have hne : ∀ other ∈ routes, other.pattern ≠ route.pattern := by
          simpa using hmem
        have hpresent : ∀ other ∈ routes, other.pattern ∈
            (table.overlay routes).patterns := by
          intro other hother
          apply mem_patterns_overlay.mpr
          exact .inr (List.mem_map_of_mem hother)
        rw [overlay_insert_of_ne hne hpresent, ih, insert_insert_self]

end Signpost.RouteTable
