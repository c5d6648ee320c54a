import Mathlib.Data.List.Induction
import Mathlib.Data.List.Nodup
import Signpost.Dispatch.Table
import Signpost.Proofs.Data.List

/-!
# Route tables as ordered maps

What a table holds after any sequence of requests can be read off the sequence:
under each pattern the handler that was inserted last, and the patterns in the
order in which they came in.  A pattern comes in when it is inserted while the
table does not have it, so that a new handler leaves it where it is, and one
that was removed comes in again behind all others.
-/

namespace Signpost

/-! ## Requests -/

inductive TableRequest where
  | insert (pattern : String) (handler : Handler)
  | remove (pattern : String)
  | get (pattern : String)
  | contains (pattern : String)

namespace TableRequest

def pattern : TableRequest → String
  | insert pattern _ | remove pattern | get pattern
  | contains pattern => pattern

def changed? : TableRequest → Option String
  | insert pattern _ | remove pattern => some pattern
  | get _ | contains _ => none

end TableRequest

namespace RouteTable

def perform (table : RouteTable) : TableRequest → RouteTable
  | .insert pattern handler => (table.insert pattern handler).2
  | .remove pattern => (table.remove pattern).2
  | .get _ | .contains _ => table

def after (requests : List TableRequest) : RouteTable :=
  requests.foldl perform {}

def others (table : RouteTable) (pattern : String) : List Route :=
  table.routes.filter fun route => route.pattern ≠ pattern

/-- The first route of a pattern, and the routes around it. -/
structure HasAt (table : RouteTable) (pattern : String) (before : List Route)
    (handler : Handler) (after : List Route) : Prop where
  routes_eq : table.routes = before ++ ⟨pattern, handler⟩ :: after
  earlier : ∀ route ∈ before, route.pattern ≠ pattern

variable {table : RouteTable} {pattern other : String} {handler old : Handler}
  {before after : List Route}

theorem absent_or_hasAt (table : RouteTable) (pattern : String) :
    pattern ∉ table.patterns ∨
      ∃ before handler after, table.HasAt pattern before handler after := by
  obtain ⟨routes⟩ := table
  induction routes with
  | nil => exact .inl List.not_mem_nil
  | cons route rest ih =>
      by_cases hroute : route.pattern = pattern
      · subst hroute
        exact .inr ⟨[], route.handler, rest, rfl, fun _ h => nomatch h⟩
      · rcases ih with habsent | ⟨before, handler, after, hroutes, hearlier⟩
        · left
          simpa [patterns, Ne.symm hroute] using habsent
        · refine .inr ⟨route :: before, handler, after, ?_, ?_⟩
          · simpa using hroutes
          · simpa [hroute] using hearlier

theorem insertInto_append (hbefore : ∀ route ∈ before, route.pattern ≠ pattern)
    (handler : Handler) (rest : List Route) :
    insertInto pattern handler (before ++ rest) =
      ((insertInto pattern handler rest).1,
        before ++ (insertInto pattern handler rest).2) := by
  induction before with
  | nil => rfl
  | cons route before ih =>
      obtain ⟨hroute, hbefore⟩ := List.forall_mem_cons.mp hbefore
      simp [insertInto, hroute, ih hbefore]

theorem removeFrom_append (hbefore : ∀ route ∈ before, route.pattern ≠ pattern)
    (rest : List Route) :
    removeFrom pattern (before ++ rest) =
      ((removeFrom pattern rest).1, before ++ (removeFrom pattern rest).2) := by
  induction before with
  | nil => rfl
  | cons route before ih =>
      obtain ⟨hroute, hbefore⟩ := List.forall_mem_cons.mp hbefore
      simp [removeFrom, hroute, ih hbefore]

theorem ne_of_not_mem (h : pattern ∉ table.patterns) :
    ∀ route ∈ table.routes, route.pattern ≠ pattern := by
  rintro route hroute rfl
  exact h (List.mem_map_of_mem hroute)

theorem insert_of_absent (h : pattern ∉ table.patterns) (handler : Handler) :
    table.insert pattern handler =
      (none, ⟨table.routes ++ [⟨pattern, handler⟩]⟩) := by
  have hinsert := insertInto_append (ne_of_not_mem h) handler []
  rw [List.append_nil] at hinsert
  rw [insert, hinsert]
  rfl

theorem HasAt.insert (h : table.HasAt pattern before old after)
    (handler : Handler) :
    table.insert pattern handler =
      (some old, ⟨before ++ ⟨pattern, handler⟩ :: after⟩) := by
  rw [RouteTable.insert, h.routes_eq, insertInto_append h.earlier]
  simp [insertInto]

theorem remove_of_absent (h : pattern ∉ table.patterns) :
    table.remove pattern = (none, table) := by
  have hremove := removeFrom_append (ne_of_not_mem h) []
  rw [List.append_nil] at hremove
  rw [remove, hremove, removeFrom, List.append_nil]

theorem HasAt.remove (h : table.HasAt pattern before old after) :
    table.remove pattern = (some old, ⟨before ++ after⟩) := by
  rw [RouteTable.remove, h.routes_eq, removeFrom_append h.earlier]
  simp [removeFrom]

theorem get?_of_absent (h : pattern ∉ table.patterns) :
    table.get? pattern = none := by
  rw [get?, Option.map_eq_none_iff, List.find?_eq_none]
  simpa using ne_of_not_mem h

theorem HasAt.get? (h : table.HasAt pattern before old after) :
    table.get? pattern = some old := by
  have hbefore :
      before.find? (fun route => route.pattern = pattern) = none := by
    rw [List.find?_eq_none]
    simpa using h.earlier
  simp [RouteTable.get?, h.routes_eq, hbefore]

theorem HasAt.mem (h : table.HasAt pattern before old after) :
    pattern ∈ table.patterns := by
  simp [patterns, h.routes_eq]

theorem get?_isSome_iff : (table.get? pattern).isSome ↔
    pattern ∈ table.patterns := by
  rcases table.absent_or_hasAt pattern with habsent | ⟨_, _, _, h⟩
  · simp [get?_of_absent habsent, habsent]
  · simp [h.get?, h.mem]

theorem contains_iff : table.contains pattern = true ↔
    pattern ∈ table.patterns := by
  simp [contains, patterns]

theorem insert_fst (table : RouteTable) (pattern : String) (handler : Handler) :
    (table.insert pattern handler).1 = table.get? pattern := by
  rcases table.absent_or_hasAt pattern with habsent | ⟨_, _, _, h⟩
  · rw [insert_of_absent habsent, get?_of_absent habsent]
  · rw [h.insert, h.get?]

theorem remove_fst (table : RouteTable) (pattern : String) :
    (table.remove pattern).1 = table.get? pattern := by
  rcases table.absent_or_hasAt pattern with habsent | ⟨_, _, _, h⟩
  · rw [remove_of_absent habsent, get?_of_absent habsent]
  · rw [h.remove, h.get?]

theorem others_perform (table : RouteTable) (request : TableRequest) :
    (table.perform request).others request.pattern =
      table.others request.pattern := by
  cases request with
  | insert pattern handler =>
      simp only [perform, others, TableRequest.pattern]
      rcases table.absent_or_hasAt
        pattern with habsent | ⟨before, old, after, h⟩
      · simp [insert_of_absent habsent]
      · simp [h.insert, h.routes_eq]
  | remove pattern =>
      simp only [perform, others, TableRequest.pattern]
      rcases table.absent_or_hasAt
        pattern with habsent | ⟨before, old, after, h⟩
      · rw [remove_of_absent habsent]
      · simp [h.remove, h.routes_eq]
  | get pattern => rfl
  | contains pattern => rfl

theorem get?_others (hne : other ≠ pattern) :
    table.get? other = RouteTable.get? ⟨table.others pattern⟩ other := by
  rw [get?, get?, others, List.find?_filter]
  congr 2
  funext route
  by_cases hroute : route.pattern = other
  · simp [hroute, hne]
  · simp [hroute]

theorem get?_perform_of_ne (table : RouteTable) {request : TableRequest}
    (hne : other ≠ request.pattern) : (table.perform request).get? other =
      table.get? other := by
  rw [get?_others hne, others_perform, ← get?_others hne]

theorem get?_insert_self (table : RouteTable) (pattern : String)
    (handler : Handler) :
    (table.insert pattern handler).2.get? pattern = some handler := by
  rcases table.absent_or_hasAt pattern with habsent | ⟨before, old, after, h⟩
  · rw [insert_of_absent habsent]
    exact HasAt.get? ⟨rfl, ne_of_not_mem habsent⟩
  · rw [h.insert]
    exact HasAt.get? ⟨rfl, h.earlier⟩

theorem patterns_insert (table : RouteTable) (pattern : String)
    (handler : Handler) :
    (table.insert pattern handler).2.patterns =
      if pattern ∈ table.patterns then table.patterns
      else table.patterns ++ [pattern] := by
  rcases table.absent_or_hasAt pattern with habsent | ⟨before, old, after, h⟩
  · rw [if_neg habsent, insert_of_absent habsent]
    simp [patterns]
  · rw [if_pos h.mem, h.insert, patterns, patterns, h.routes_eq]
    simp

theorem patterns_remove (table : RouteTable) (pattern : String) :
    (table.remove pattern).2.patterns = table.patterns.erase pattern := by
  rcases table.absent_or_hasAt pattern with habsent | ⟨before, old, after, h⟩
  · rw [remove_of_absent habsent, List.erase_of_not_mem habsent]
  · have hbefore : pattern ∉ before.map Route.pattern := by
      simpa using h.earlier
    simp [h.remove, patterns, h.routes_eq, List.erase_append_right _ hbefore]

theorem get?_remove_self (hdistinct : table.patterns.Nodup) :
    (table.remove pattern).2.get? pattern = none := by
  apply get?_of_absent
  rw [patterns_remove]
  exact hdistinct.not_mem_erase

/-! ## Histories -/

/--
The handler came with the latest insertion of the pattern, which has not been
removed since.
-/
def Stands (requests : List TableRequest) (pattern : String)
    (handler : Handler) : Prop :=
  ∃ earlier later, requests = earlier ++ .insert pattern handler :: later ∧
    ∀ request ∈ later, request.changed? ≠ some pattern

/--
The request at a moment inserts the pattern, which is absent at that moment.
-/
def EntersAt (requests : List TableRequest) (pattern : String)
    (moment : Nat) : Prop :=
  (∃ handler, requests[moment]? = some (.insert pattern handler)) ∧
    ∀ handler, ¬ Stands (requests.take moment) pattern handler

/-- The moment is the last at which the pattern was inserted while absent. -/
def EnteredAt (requests : List TableRequest) (pattern : String)
    (moment : Nat) : Prop :=
  EntersAt requests pattern moment ∧
    ∀ later, moment < later → ¬ EntersAt requests pattern later

def EnteredBefore (requests : List TableRequest)
    (first second : String) : Prop :=
  ∃ moment later, EnteredAt requests first moment ∧
    EnteredAt requests second later ∧
    moment < later

variable {requests : List TableRequest} {request : TableRequest} {moment : Nat}

theorem stands_concat :
    Stands (requests ++ [request]) pattern handler ↔
      request = .insert pattern handler ∨
        request.changed? ≠ some pattern ∧ Stands requests pattern handler := by
  constructor
  · rintro ⟨earlier, later, hsplit, hlater⟩
    rcases concat_eq_split_iff.mp hsplit with
      ⟨-, hlast, -⟩ | ⟨later, rfl, hrequests⟩
    · exact .inl hlast.symm
    · simp only [List.mem_append, List.mem_singleton] at hlater
      exact .inr ⟨hlater _ (.inr rfl), earlier, later, hrequests,
        fun request hrequest => hlater request (.inl hrequest)⟩
  · rintro (rfl | ⟨hrequest, earlier, later, rfl, hlater⟩)
    · exact ⟨requests, [], rfl, fun _ h => nomatch h⟩
    · refine ⟨earlier, later ++ [request], by simp, fun other hother => ?_⟩
      rcases List.mem_append.mp hother with hold | hnew
      · exact hlater other hold
      · rwa [List.mem_singleton.mp hnew]

theorem entersAt_concat :
    EntersAt (requests ++ [request]) pattern moment ↔
      EntersAt requests pattern moment ∨
        moment = requests.length ∧
        (∃ handler, request = .insert pattern handler) ∧
          ∀ handler, ¬ Stands requests pattern handler := by
  rcases Nat.lt_trichotomy moment requests.length with hlt | rfl | hgt
  · have hle : moment ≤ requests.length := Nat.le_of_lt hlt
    have hne : moment ≠ requests.length := Nat.ne_of_lt hlt
    simp [EntersAt, List.getElem?_append_left hlt,
      List.take_append_of_le_length hle, hne]
  · simp [EntersAt]
  · have hnone : (requests ++ [request])[moment]? = none := by
      rw [List.getElem?_eq_none_iff, List.length_append, List.length_singleton]
      omega
    have hearlier : requests[moment]? = none :=
      List.getElem?_eq_none (Nat.le_of_lt hgt)
    have hne : moment ≠ requests.length := Nat.ne_of_gt hgt
    simp [EntersAt, hnone, hearlier, hne]

theorem EntersAt.lt_length (h : EntersAt requests pattern moment) :
    moment < requests.length := by
  obtain ⟨⟨handler, hrequest⟩, -⟩ := h
  exact (List.getElem?_eq_some_iff.mp hrequest).1

theorem enteredAt_concat
    (h : (∃ handler, request = .insert pattern handler) →
      ∃ handler, Stands requests pattern handler) :
    EnteredAt (requests ++ [request]) pattern moment ↔
      EnteredAt requests pattern moment := by
  have henters (moment : Nat) :
      EntersAt (requests ++ [request]) pattern moment ↔
      EntersAt requests pattern moment := by
    rw [entersAt_concat]
    refine or_iff_left ?_
    rintro ⟨-, hinsert, habsent⟩
    obtain ⟨handler, hstands⟩ := h hinsert
    exact habsent handler hstands
  simp only [EnteredAt, henters]

theorem enteredAt_length (h : ∀ handler, ¬ Stands requests pattern handler)
    (handler : Handler) :
    EnteredAt (requests ++ [.insert pattern handler]) pattern
      requests.length := by
  refine ⟨entersAt_concat.mpr (.inr ⟨rfl, ⟨handler, rfl⟩, h⟩),
    fun later hlater henters => ?_⟩
  have hbound := henters.lt_length
  simp only [List.length_append, List.length_singleton] at hbound
  omega

structure Follows (table : RouteTable) (requests : List TableRequest) :
    Prop where
  distinct : table.patterns.Nodup
  get?_iff : ∀ pattern handler,
    table.get? pattern = some handler ↔ Stands requests pattern handler
  entered : ∀ pattern ∈ table.patterns, ∃ moment,
    EnteredAt requests pattern moment
  ordered : table.patterns.Pairwise (EnteredBefore requests)

theorem Follows.mem_iff (h : table.Follows requests) (pattern : String) :
    pattern ∈ table.patterns ↔ ∃ handler, Stands requests pattern handler := by
  rw [← get?_isSome_iff, Option.isSome_iff_exists]
  simp only [h.get?_iff]

theorem Follows.of_sublist (h : table.Follows requests) {next : RouteTable}
    (hsublist : next.patterns.Sublist table.patterns)
    (hget : ∀ pattern handler,
      next.get? pattern = some handler ↔
        Stands (requests ++ [request]) pattern handler)
    (hinsert : ∀ pattern ∈ next.patterns,
      (∃ handler, request = .insert pattern handler) →
        ∃ handler, Stands requests pattern handler) :
    next.Follows (requests ++ [request]) := by
  refine ⟨h.distinct.sublist hsublist, hget, fun pattern hpattern => ?_, ?_⟩
  · obtain ⟨moment, hmoment⟩ := h.entered pattern (hsublist.subset hpattern)
    exact ⟨moment, (enteredAt_concat (hinsert pattern hpattern)).mpr hmoment⟩
  · refine (h.ordered.sublist hsublist).imp_of_mem ?_
    rintro first second hfirst hsecond ⟨moment, later, hmoment, hlater, hlt⟩
    exact ⟨moment, later, (enteredAt_concat (hinsert first hfirst)).mpr hmoment,
      (enteredAt_concat (hinsert second hsecond)).mpr hlater, hlt⟩

theorem Follows.get?_perform_iff (h : table.Follows requests)
    (request : TableRequest) (pattern : String) (handler : Handler) :
    (table.perform request).get? pattern = some handler ↔
      Stands (requests ++ [request]) pattern handler := by
  rw [stands_concat]
  by_cases hpattern : pattern = request.pattern
  · subst hpattern
    cases request with
    | insert pattern new =>
        simp [perform, TableRequest.pattern, TableRequest.changed?,
          get?_insert_self]
    | remove pattern =>
        simp [perform, TableRequest.pattern, TableRequest.changed?,
          get?_remove_self h.distinct]
    | get pattern => simp [perform, TableRequest.changed?, h.get?_iff]
    | contains pattern => simp [perform, TableRequest.changed?, h.get?_iff]
  · rw [get?_perform_of_ne table hpattern, h.get?_iff]
    cases request <;>
      simp_all [TableRequest.pattern, TableRequest.changed?, eq_comm]

private theorem Follows.insert_absent (h : table.Follows requests)
    (habsent : pattern ∉ table.patterns) (handler : Handler) :
    (table.insert pattern handler).2.Follows
      (requests ++ [.insert pattern handler]) := by
  have hnot : ∀ handler, ¬ Stands requests pattern handler := by
    simpa [h.mem_iff] using habsent
  have hlast := enteredAt_length hnot handler
  have hkept {first : String} {moment : Nat} (hfirst : first ∈ table.patterns)
      (hmoment : EnteredAt requests first moment) :
      EnteredAt (requests ++ [.insert pattern handler]) first moment := by
    refine (enteredAt_concat ?_).mpr hmoment
    exact fun _ => (h.mem_iff first).mp hfirst
  have hpatterns : (table.insert pattern handler).2.patterns =
      table.patterns ++ [pattern] := by
    rw [patterns_insert, if_neg habsent]
  refine ⟨?_, h.get?_perform_iff (.insert pattern handler), ?_, ?_⟩
  · rw [hpatterns]
    simpa [List.nodup_append] using ⟨h.distinct, fun first hfirst hsame =>
      habsent (hsame ▸ hfirst)⟩
  · rw [hpatterns]
    intro first hfirst
    rcases List.mem_append.mp hfirst with hold | hnew
    · obtain ⟨moment, hmoment⟩ := h.entered first hold
      exact ⟨moment, hkept hold hmoment⟩
    · rw [List.mem_singleton.mp hnew]
      exact ⟨_, hlast⟩
  · rw [hpatterns, List.pairwise_append]
    refine ⟨?_, List.pairwise_singleton _ _,
      fun first hfirst second hsecond => ?_⟩
    · refine h.ordered.imp_of_mem ?_
      rintro first second hfirst hsecond ⟨moment, later, hmoment, hlater, hlt⟩
      exact ⟨moment, later, hkept hfirst hmoment, hkept hsecond hlater, hlt⟩
    · rw [List.mem_singleton.mp hsecond]
      obtain ⟨moment, hmoment⟩ := h.entered first hfirst
      exact ⟨moment, _, hkept hfirst hmoment, hlast, hmoment.1.lt_length⟩

theorem Follows.perform (h : table.Follows requests) (request : TableRequest) :
    (table.perform request).Follows (requests ++ [request]) := by
  cases request with
  | insert pattern handler =>
      -- only a pattern that is absent comes in, behind all others
      by_cases hmem : pattern ∈ table.patterns
      · refine h.of_sublist ?_ (h.get?_perform_iff (.insert pattern handler)) ?_
        · simp [RouteTable.perform, patterns_insert, hmem]
        · rintro other - ⟨_, hsame⟩
          obtain ⟨rfl, -⟩ := TableRequest.insert.inj hsame
          exact (h.mem_iff pattern).mp hmem
      · exact h.insert_absent hmem handler
  | remove pattern =>
      refine h.of_sublist ?_ (h.get?_perform_iff (.remove pattern)) ?_
      · simp only [RouteTable.perform, patterns_remove]
        exact List.erase_sublist
      · rintro other - ⟨_, hsame⟩
        nomatch hsame
  | get pattern =>
      exact h.of_sublist (List.Sublist.refl _)
        (h.get?_perform_iff (.get pattern))
        (fun _ _ ⟨_, hsame⟩ => nomatch hsame)
  | contains pattern =>
      exact h.of_sublist (List.Sublist.refl _)
        (h.get?_perform_iff (.contains pattern))
        (fun _ _ ⟨_, hsame⟩ => nomatch hsame)

private theorem follows_after (requests : List TableRequest) :
    (RouteTable.after requests).Follows requests := by
  -- a history grows at its end, where the table is read
  induction requests using List.reverseRecOn with
  | nil =>
      refine ⟨List.nodup_nil, fun pattern handler => ?_, fun _ h => (nomatch h),
        List.Pairwise.nil⟩
      simp [RouteTable.after, get?, Stands]
  | append_singleton requests request ih =>
      rw [RouteTable.after, List.foldl_append]
      exact ih.perform request

/--
After any requests the patterns are distinct, are those that stand by the
history, and have the order in which they came in; look-ups, insertions and
removals answer with the handler that stands, and a request does nothing to
other patterns.
-/
theorem insertion_ordered (requests : List TableRequest) :
    let table := RouteTable.after requests
    table.patterns.Nodup ∧
    (∀ pattern, pattern ∈ table.patterns ↔ ∃ handler,
      Stands requests pattern handler) ∧
    table.patterns.Pairwise (EnteredBefore requests) ∧
    (∀ pattern handler,
      table.get? pattern = some handler ↔ Stands requests pattern handler) ∧
    (∀ pattern,
      table.contains pattern = true ↔ ∃ handler,
        Stands requests pattern handler) ∧
    (∀ pattern new old,
      (table.insert pattern new).1 = some old ↔ Stands requests pattern old) ∧
    (∀ pattern old, (table.remove pattern).1 = some old ↔
      Stands requests pattern old) ∧
    ∀ request : TableRequest,
      (table.perform request).others request.pattern =
        table.others request.pattern := by
  intro table
  have h : table.Follows requests := follows_after requests
  refine ⟨h.distinct, h.mem_iff, h.ordered, h.get?_iff, ?_, ?_,
    ?_, table.others_perform⟩
  · intro pattern
    rw [contains_iff, h.mem_iff]
  · intro pattern new old
    rw [insert_fst, h.get?_iff]
  · intro pattern old
    rw [remove_fst, h.get?_iff]

example (handler : Handler) :
    (RouteTable.after [.insert "/a" handler, .insert "/b" handler, .remove "/a",
      .insert "/a" handler, .insert "/b" handler]).patterns = ["/b", "/a"] :=
  rfl

end RouteTable

end Signpost
