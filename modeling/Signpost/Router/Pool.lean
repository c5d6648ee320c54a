import Signpost.Router.Basic

/-!
# Routers that share caches

A pool holds numbered routers and numbered caches.  A router has a cache of its
own, the common cache of the pool, the cache of the router it was copied from,
or none.  Requests are answered one after the other.
-/

namespace Signpost

/-- A router of a pool: the number of its cache and its values. -/
structure Seat where
  cache : Option Nat := none
  params : Params := {}
  deriving DecidableEq, Repr

structure RouterPool where
  caches : List PatternCache := []
  seats : List Seat := []
  /-- The number of the common cache, once a router has asked for it. -/
  common : Option Nat := none
  deriving DecidableEq, Repr

inductive RouterRequest where
  | openOwn
  | openCommon
  | openUncached
  | copy (router : Nat)
  | matchPath (router : Nat) (pattern path : String) (caseSensitive : Bool)
  | accepts (router : Nat) (pattern path : String)
  | params (router : Nat)
  | takeParams (router : Nat)
  | compile (router : Nat) (pattern : String) (caseSensitive : Bool)
  | make (router : Nat) (pattern : String) (values : List Json)
  | same (router other : Nat) (pattern : String)
      (caseSensitive otherCase : Bool)
  | cacheSize (router : Nat)
  | cacheIsEmpty (router : Nat)
  | cacheClear (router : Nat)
  deriving Repr

inductive RouterAnswer where
  | opened (router : Nat)
  | matched (found : Bool) (params : Params)
  | flag (value : Bool)
  | params (params : Params)
  | compiled (compiled : CompiledPattern)
  | rejected (error : PatternError)
  | path (path : Option String)
  | size (entries : Option Nat)
  | empty (isEmpty : Option Bool)
  | unknownRouter
  deriving Repr

namespace RouterPool

def addSeat (pool : RouterPool) (seat : Seat) : RouterAnswer × RouterPool :=
  (.opened pool.seats.length, { pool with seats := pool.seats ++ [seat] })

def addCache (pool : RouterPool) : Nat × RouterPool :=
  (pool.caches.length, { pool with caches := pool.caches ++ [{}] })

def cacheOf? (pool : RouterPool) (seat : Seat) : Option PatternCache :=
  seat.cache.bind fun number => pool.caches[number]?

def router? (pool : RouterPool) (number : Nat) : Option Router :=
  pool.seats[number]?.map fun seat => ⟨pool.cacheOf? seat, seat.params⟩

def storeCache (pool : RouterPool) (number : Option Nat)
    (cache : Option PatternCache) :
    RouterPool :=
  match number, cache with
  | some number, some cache =>
      { pool with caches := pool.caches.set number cache }
  | _, _ => pool

/-- Puts back a router after use, for all that share its cache. -/
def store (pool : RouterPool) (number : Nat) (router : Router) : RouterPool :=
  match pool.seats[number]? with
  | none => pool
  | some seat =>
    let pool := pool.storeCache seat.cache router.cache
    { pool with seats :=
      pool.seats.set number { seat with params := router.params } }

def use (pool : RouterPool) (number : Nat)
    (action : Router → RouterAnswer × Router × List Event) :
    RouterAnswer × RouterPool × List Event :=
  match pool.router? number with
  | none => (.unknownRouter, pool, [])
  | some router =>
    let (answer, router, events) := action router
    (answer, pool.store number router, events)

def compileWith (pool : RouterPool) (number : Nat) (pattern : String)
    (caseSensitive : Bool) :
    Option (Except PatternError Compilation) × RouterPool × List Event :=
  match pool.router? number with
  | none => (none, pool, [])
  | some router =>
    let (result, router, events) := router.compile pattern caseSensitive
    (some result, pool.store number router, events)

/--
Whether two lookups met one entry: the caches are the same, and so are the
numbers.
-/
def sameEntry (pool : RouterPool) (router other : Nat)
    (first second : Compilation) : Bool :=
  let cacheNumber (number : Nat) := pool.seats[number]?.bind Seat.cache
  match first.serial, second.serial with
  | some serial, some otherSerial =>
    cacheNumber router = cacheNumber other ∧ serial = otherSerial
  | _, _ => false

def answer (pool : RouterPool) :
    RouterRequest → RouterAnswer × RouterPool × List Event
  | .openOwn =>
    let (number, pool) := pool.addCache
    let (answer, pool) := pool.addSeat { cache := some number }
    (answer, pool, [])
  | .openCommon =>
    match pool.common with
    | some number =>
      let (answer, pool) := pool.addSeat { cache := some number }
      (answer, pool, [])
    | none =>
      let (number, pool) := pool.addCache
      let (answer, pool) :=
        { pool with common := some number }.addSeat { cache := some number }
      (answer, pool, [])
  | .openUncached =>
    let (answer, pool) := pool.addSeat {}
    (answer, pool, [])
  | .copy number =>
    match pool.seats[number]? with
    | none => (.unknownRouter, pool, [])
    | some seat =>
      let (answer, pool) := pool.addSeat seat
      (answer, pool, [])
  | .matchPath number pattern path caseSensitive =>
    pool.use number fun router =>
      let (found, router, events) := router.matchPath pattern path caseSensitive
      (.matched found router.params, router, events)
  | .accepts number pattern path =>
    pool.use number fun router =>
      let (found, router, events) := router.accepts pattern path
      (.flag found, router, events)
  | .params number => pool.use number fun router =>
      (.params router.params, router, [])
  | .takeParams number =>
    pool.use number fun router =>
      let (params, router) := router.takeParams
      (.params params, router, [])
  | .compile number pattern caseSensitive =>
    pool.use number fun router =>
      let (result, router, events) := router.compile pattern caseSensitive
      match result with
      | .ok compilation => (.compiled compilation.compiled, router, events)
      | .error error => (.rejected error, router, events)
  | .make number pattern values =>
    pool.use number fun router =>
      let (path, events) := Router.make pattern values
      (.path path, router, events)
  | .same number other pattern caseSensitive otherCase =>
    let (first, pool, events) := pool.compileWith number pattern caseSensitive
    match first with
    | none => (.unknownRouter, pool, events)
    | some (.error error) => (.rejected error, pool, events)
    | some (.ok first) =>
      let (second, pool, more) := pool.compileWith other pattern otherCase
      match second with
      | none => (.unknownRouter, pool, events ++ more)
      | some (.error error) => (.rejected error, pool, events ++ more)
      | some (.ok second) =>
        (.flag (pool.sameEntry number other first second), pool, events ++ more)
  | .cacheSize number =>
    pool.use number fun router =>
      (.size (router.cache.map PatternCache.size), router, [])
  | .cacheIsEmpty number =>
    pool.use number fun router =>
      (.empty (router.cache.map fun cache => cache.size = 0), router, [])
  | .cacheClear number =>
    pool.use number fun router =>
      (.flag router.cache.isSome,
        { router with cache := router.cache.map PatternCache.clear }, [])

end RouterPool

end Signpost
