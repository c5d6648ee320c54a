import Mathlib.Data.List.Induction
import Signpost.Proofs.Router.Requests

/-!
# Whose values a router has

A router has the values of its own last match, or none if that match found none
or they have been taken.  Before any match it has the values of the router that
it was copied from, as they were then.  What is done with other routers makes no
difference, whatever they share with it.
-/

namespace Signpost

/--
The values that a request leaves a router with, if it matches through it or
takes them.
-/
def RouterRequest.leaves? (router : Nat) : RouterRequest → Option Params
  | .matchPath number pattern path caseSensitive =>
    if number = router then some
      ((Router.values? pattern path caseSensitive).getD {}) else none
  | .accepts number pattern path =>
    if number = router then some ((Router.values? pattern path false).getD {})
    else none
  | .takeParams number => if number = router then some {} else none
  | _ => none

theorem Router.compile_params (router : Router) (pattern : String)
    (caseSensitive : Bool) :
    (router.compile pattern caseSensitive).2.1.params = router.params := by
  cases hcache : router.cache <;> simp [Router.compile, hcache]

namespace RouterPool

variable {pool : RouterPool} {request : RouterRequest} {router : Nat}

/--
The values of the router that a request opens: none, or those of the one it
copies.
-/
def starts? (pool : RouterPool) : RouterRequest → Option Params
  | .openOwn | .openCommon | .openUncached => some {}
  | .copy origin => pool.params? origin
  | _ => none

theorem starts?_eq (pool : RouterPool) (request : RouterRequest) :
    pool.starts? request = (pool.opened? request).map Seat.params := by
  cases request <;> rfl

theorem params?_of_opening {seat : Seat} {after : RouterPool}
    (h : Opening pool seat after) :
    (∀ router < pool.seats.length, after.params? router = pool.params? router) ∧
      after.params? pool.seats.length = some seat.params := by
  constructor
  · intro router hlt
    simp [params?, h.seats, List.getElem?_append_left hlt]
  · simp [params?, h.seats]

theorem update_params?_of_idle {number : Nat} {change : Router → Router}
    (h : number = router → ∀ user, (change user).params = user.params) :
    (pool.update number change).params? router = pool.params? router := by
  rw [update_params?]
  split
  · next heq =>
      subst heq
      simp only [RouterPool.router?, Option.map_map, params?, Function.comp_def]
      simp [h rfl]
  · rfl

theorem Coherent.answer_matchPath_params? (h : pool.Coherent)
    (hlt : router < pool.seats.length) (number : Nat) (pattern path : String)
    (caseSensitive : Bool) :
    (pool.answer (.matchPath number pattern path caseSensitive)).2.1.params?
      router =
      (RouterRequest.leaves? router
        (.matchPath number pattern path caseSensitive)).or
        (pool.params? router) := by
  rw [answer_matchPath, update_params?, RouterRequest.leaves?]
  by_cases heq : number = router
  · subst heq
    obtain ⟨user, huser⟩ : ∃ user, pool.router? number = some user := by
      simp [RouterPool.router?, hlt]
    simp [huser, ((h.router? huser).matchPath pattern path caseSensitive).2.1]
  · simp [heq, Ne.symm heq]

theorem answer_compile_params? (pool : RouterPool) (number : Nat)
    (pattern : String) (caseSensitive : Bool) (router : Nat) :
    (pool.answer (.compile number pattern caseSensitive)).2.1.params? router =
      pool.params? router := by
  rw [answer_compile]
  exact update_params?_of_idle fun _ user =>
    user.compile_params pattern caseSensitive

theorem Coherent.answer_params? (h : pool.Coherent)
    (hlt : router < pool.seats.length) (request : RouterRequest) :
    (pool.answer request).2.1.params? router =
      (request.leaves? router).or (pool.params? router) := by
  cases hopened : pool.opened? request with
  | some seat =>
      rw [(params?_of_opening (answer_opening hopened)).1 router hlt]
      cases request <;> simp_all [opened?, RouterRequest.leaves?]
  | none =>
      cases request <;> simp only [opened?, reduceCtorEq] at hopened
      case copy number =>
        simp [RouterPool.answer, hopened, RouterRequest.leaves?]
      case matchPath number pattern path caseSensitive =>
        exact h.answer_matchPath_params? hlt number pattern path caseSensitive
      case accepts number pattern path =>
        rw [answer_accepts]
        exact h.answer_matchPath_params? hlt number pattern path false
      case takeParams number =>
        simp only [RouterPool.answer, use_eq_update, update_params?,
          RouterRequest.leaves?]
        by_cases heq : number = router
        · simp [heq, RouterPool.router?, hlt, Router.takeParams]
        · simp [heq, Ne.symm heq]
      case compile number pattern caseSensitive =>
        exact pool.answer_compile_params? number pattern caseSensitive router
      case same number other pattern caseSensitive otherCase =>
        rw [answer_same]
        split <;> simp [answer_compile_params?, RouterRequest.leaves?]
      all_goals
        simp only [RouterPool.answer, use_eq_update]
        exact update_params?_of_idle fun _ _ => rfl

theorem Coherent.answer_matchPath (h : pool.Coherent)
    (hlt : router < pool.seats.length)
    (pattern path : String) (caseSensitive : Bool) :
    (pool.answer (.matchPath router pattern path caseSensitive)).1 =
      .matched (Router.values? pattern path caseSensitive).isSome
        ((Router.values? pattern path caseSensitive).getD {}) := by
  obtain ⟨user, huser⟩ : ∃ user, pool.router? router = some user := by
    simp [RouterPool.router?, hlt]
  obtain ⟨hfound, hvalues, -⟩ :=
    (h.router? huser).matchPath pattern path caseSensitive
  simp [RouterPool.answer, RouterPool.use, huser, hfound, hvalues]

private theorem Coherent.after_params? (h : pool.Coherent)
    (hlt : router < pool.seats.length) (requests : List RouterRequest) :
    (pool.after requests).params? router =
      (requests.filterMap (RouterRequest.leaves? router)).getLast?.or
        (pool.params? router) := by
  induction requests generalizing pool with
  | nil => rfl
  | cons request requests ih =>
      have hnext := (answer_cacheNumber? hlt request).1
      have hstep := h.answer_params? hlt request
      have hrest := ih (h.answer request).coherent hnext
      rw [hstep] at hrest
      refine hrest.trans ?_
      cases hleft : request.leaves? router with
      | none => simp [hleft]
      | some params =>
          cases hlast :
            (requests.filterMap (RouterRequest.leaves? router)).getLast? <;>
            simp [hleft, hlast, List.getLast?_cons]

private theorem seats_of_starts? (hstart : pool.starts? request = none) :
    (pool.answer request).2.1.seats.length = pool.seats.length := by
  rw [starts?_eq, Option.map_eq_none_iff] at hstart
  exact (answer_frame hstart).seats

private theorem exists_opening (requests : List RouterRequest)
    (hlt : router < (after {} requests).seats.length) :
    ∃ earlier opening later start, requests = earlier ++ opening :: later ∧
      (after {} earlier).starts? opening = some start ∧
      router = (after {} earlier).seats.length := by
  induction requests using List.reverseRecOn with
  | nil => simp [after] at hlt
  | append_singleton requests request ih =>
      by_cases hearlier : router < (after {} requests).seats.length
      · obtain ⟨earlier, opening, later, start, rfl, hstart, hrouter⟩ :=
          ih hearlier
        exact ⟨earlier, opening, later ++ [request], start,
          by simp, hstart, hrouter⟩
      · rw [after_append] at hlt
        cases hstart : (after {} requests).starts? request with
        | none =>
            have hseats := seats_of_starts? hstart
            simp only [after, List.foldl_cons, List.foldl_nil]
              at hlt hseats hearlier
            omega
        | some start =>
            obtain ⟨seat, hseat, rfl⟩ :=
              Option.map_eq_some_iff.mp (starts?_eq _ _ ▸ hstart)
            have hseats := congrArg List.length (answer_opening hseat).seats
            simp only [List.length_append, List.length_singleton] at hseats
            refine ⟨requests, request, [], seat.params, rfl, hstart, ?_⟩
            simp only [after, List.foldl_cons, List.foldl_nil]
              at hlt hseats hearlier ⊢
            omega

/--
A router has, at every moment, what its last match extracted, nothing if that
match failed or took a short way or its values have been taken, and what it was
opened with if there was none of these.  Every other request leaves it what it
has.
-/
theorem params_of_last_match :
    (∀ (earlier later : List RouterRequest) (opening : RouterRequest)
      (start : Params),
      let pool := after {} earlier
      let router := pool.seats.length
      pool.starts? opening = some start →
      (after {} (earlier ++ opening :: later)).params? router =
        some ((later.filterMap (RouterRequest.leaves? router)).getLast?.getD
          start)) ∧
    (∀ (requests : List RouterRequest) (router : Nat),
      router < (after {} requests).seats.length →
      ∃ earlier opening later start, requests = earlier ++ opening :: later ∧
        (after {} earlier).starts? opening = some start ∧
        router = (after {} earlier).seats.length) ∧
    (∀ (requests : List RouterRequest) (router : Nat),
      let pool := after {} requests
      router < pool.seats.length →
      (∀ request : RouterRequest, request.leaves? router = none →
        (pool.answer request).2.1.params? router = pool.params? router) ∧
      ∀ (pattern path : String) (caseSensitive : Bool),
        (pool.answer (.matchPath router pattern path caseSensitive)).1 =
          .matched (Router.values? pattern path caseSensitive).isSome
            ((Router.values? pattern path caseSensitive).getD {})) := by
  refine ⟨?_, fun requests router hlt => exists_opening requests hlt, ?_⟩
  · intro earlier later opening start pool router hstart
    obtain ⟨seat, hseat, rfl⟩ :=
      Option.map_eq_some_iff.mp (starts?_eq _ _ ▸ hstart)
    have hopening := answer_opening hseat
    have hlt : router < (pool.answer opening).2.1.seats.length := by
      simp [hopening.seats, router]
    have hcoherent := ((coherent_empty.after earlier).answer opening).coherent
    have hafter := hcoherent.after_params? hlt later
    rw [(params?_of_opening hopening).2] at hafter
    rw [after_append]
    refine hafter.trans ?_
    cases (later.filterMap (RouterRequest.leaves? router)).getLast? <;> rfl
  · intro requests router pool hlt
    have hcoherent := coherent_empty.after requests
    refine ⟨fun request hleaves => ?_, fun pattern path caseSensitive => ?_⟩
    · rw [hcoherent.answer_params? hlt, hleaves, Option.none_or]
    · exact hcoherent.answer_matchPath hlt pattern path caseSensitive

theorem params_of_last_match_copied :
    let taken : Params := { named := [("_", some "7")] }
    let earlier := [RouterRequest.openOwn, .matchPath 0 "/@_" "/7" true]
    let later :=
      [RouterRequest.matchPath 0 "/b" "/c" true, .takeParams 0,
        .compile 1 "/a" true]
    (after {} earlier).starts? (.copy 0) = some taken ∧
      (after {} (earlier ++ .copy 0 :: later)).params? 1 = some taken := by
  intro taken earlier later
  have hstart : (after {} earlier).starts? (.copy 0) = some taken := rfl
  exact ⟨hstart, params_of_last_match.1 earlier later (.copy 0) taken hstart⟩

end RouterPool

end Signpost
