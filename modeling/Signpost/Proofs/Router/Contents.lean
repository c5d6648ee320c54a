import Mathlib.Data.List.Nodup
import Mathlib.Tactic.Tauto
import Signpost.Proofs.Router.Requests

/-!
# What caches hold

A cache holds one entry for each pattern and case flag that has been compiled
through it with success since it was last emptied, and nothing besides.  Numbers
of entries are given once, so two compilations meet the same entry just when
they ask for the same pattern and case flag and nobody has emptied the cache
between them.
-/

namespace Signpost

def CacheEntry.key (entry : CacheEntry) : String × Bool :=
  (entry.pattern, entry.caseSensitive)

def Compilable (key : String × Bool) : Prop :=
  ∃ compiled, CompiledPattern.compile key.1 key.2 = .ok compiled

namespace PatternCache

variable {cache old new last : PatternCache} {key : String × Bool}

/-! ## One cache -/

def keys (cache : PatternCache) : List (String × Bool) :=
  cache.entries.map CacheEntry.key

structure Tidy (cache : PatternCache) : Prop where
  keys : cache.keys.Nodup
  serials : (cache.entries.map CacheEntry.serial).Nodup
  given : ∀ entry ∈ cache.entries, entry.serial < cache.nextSerial

theorem tidy_empty : ({} : PatternCache).Tidy :=
  ⟨by simp [PatternCache.keys], by simp, by simp⟩

theorem key_of_find? {pattern : String} {caseSensitive : Bool}
    {entry : CacheEntry} (h : cache.find? pattern caseSensitive = some entry) :
    entry ∈ cache.entries ∧ entry.key = (pattern, caseSensitive) := by
  refine ⟨List.mem_of_find?_eq_some h, ?_⟩
  simpa [CacheEntry.key] using List.find?_some h

theorem not_mem_keys_of_find? {pattern : String} {caseSensitive : Bool}
    (h : cache.find? pattern caseSensitive = none) :
    (pattern, caseSensitive) ∉ cache.keys := by
  intro hmem
  obtain ⟨entry, hentry, hkey⟩ := List.mem_map.mp hmem
  have hne := List.find?_eq_none.mp h entry hentry
  simp_all [CacheEntry.key]

theorem Tidy.insert (h : cache.Tidy) {pattern : String} {caseSensitive : Bool}
    (hnew : (pattern, caseSensitive) ∉ cache.keys)
    (compiled : CompiledPattern) :
    (cache.insert pattern caseSensitive compiled).Tidy := by
  refine ⟨?_, ?_, ?_⟩
  · simp only [PatternCache.keys, PatternCache.insert, List.map_append,
      List.nodup_append]
    refine ⟨h.keys, by simp, ?_⟩
    intro key hkey other hother heq
    simp only [List.map_cons, List.map_nil, List.mem_singleton] at hother
    subst hother heq
    exact hnew hkey
  · simp only [PatternCache.insert, List.map_append, List.nodup_append]
    refine ⟨h.serials, by simp, ?_⟩
    intro serial hserial other hother
    obtain ⟨entry, hentry, rfl⟩ := List.mem_map.mp hserial
    have hlt := h.given entry hentry
    simp only [List.map_cons, List.map_nil, List.mem_singleton] at hother
    omega
  · intro entry hentry
    simp only [PatternCache.insert, List.mem_append, List.mem_singleton]
      at hentry
    rcases hentry with hold | rfl
    · exact Nat.lt_succ_of_lt (h.given entry hold)
    · exact Nat.lt_succ_self _

/--
From one moment to a later one keys have come into a cache, and it has been
emptied or not: which keys it holds then, and which of its entries are old.
-/
structure Evolves (compiled : String × Bool → Prop) (emptied : Prop)
    (old new : PatternCache) : Prop where
  tidy : old.Tidy → new.Tidy
  mem_keys_iff : ∀ key, key ∈ new.keys ↔ key ∈ old.keys ∧
    ¬ emptied ∨ compiled key
  nextSerial_le : old.nextSerial ≤ new.nextSerial
  kept : ¬ emptied → ∀ entry ∈ old.entries, entry ∈ new.entries
  fresh : ∀ entry ∈ new.entries,
    entry ∈ old.entries ∧ ¬ emptied ∨ old.nextSerial ≤ entry.serial

theorem Evolves.refl (cache : PatternCache) :
    Evolves (fun _ => False) False cache cache :=
  ⟨id, by simp, Nat.le_refl _, fun _ _ h => h, fun _ h => .inl ⟨h, id⟩⟩

theorem evolves_clear (cache : PatternCache) :
    Evolves (fun _ => False) True cache cache.clear :=
  ⟨fun _ => ⟨by simp [keys, clear], by simp [clear], by simp [clear]⟩,
    by simp [keys, clear], Nat.le_refl _, by simp, by simp [clear]⟩

theorem Evolves.trans {first second : String × Bool → Prop}
    {cleared emptied : Prop} (h : Evolves first cleared old new)
    (hnext : Evolves second emptied new last) :
    Evolves (fun key => first key ∧ ¬ emptied ∨ second key)
      (cleared ∨ emptied) old last := by
  refine ⟨hnext.tidy ∘ h.tidy, fun key => ?_,
    Nat.le_trans h.nextSerial_le hnext.nextSerial_le,
    fun hkept entry hentry => ?_, fun entry hentry => ?_⟩
  · rw [hnext.mem_keys_iff, h.mem_keys_iff]
    tauto
  · exact hnext.kept (by tauto) entry (h.kept (by tauto) entry hentry)
  · rcases hnext.fresh entry hentry with ⟨hold, hemptied⟩ | hle
    · rcases h.fresh entry hold with ⟨horiginal, hcleared⟩ | hle
      · exact .inl ⟨horiginal, by tauto⟩
      · exact .inr hle
    · exact .inr (Nat.le_trans h.nextSerial_le hle)

theorem Evolves.congr {first second : String × Bool → Prop}
    {cleared emptied : Prop} (h : Evolves first cleared old new)
    (hcompiled : ∀ key, first key ↔ second key)
    (hemptied : cleared ↔ emptied) : Evolves second emptied old new := by
  rw [← propext hemptied, ← funext fun key => propext (hcompiled key)]
  exact h

theorem evolves_getOrCompile (cache : PatternCache) (pattern : String)
    (caseSensitive : Bool) :
    Evolves (fun key => key = (pattern, caseSensitive) ∧ Compilable key)
      False cache
      (cache.getOrCompile pattern caseSensitive).2.1 := by
  -- a key comes in only when its pattern is absent and compiles
  rw [getOrCompile]
  cases hfind : cache.find? pattern caseSensitive with
  | some entry =>
      obtain ⟨hentry, hkey⟩ := key_of_find? hfind
      have hmem : (pattern, caseSensitive) ∈ cache.keys :=
        List.mem_map.mpr ⟨entry, hentry, hkey⟩
      refine ⟨id, fun key => ?_, Nat.le_refl _, fun _ _ h => h,
        fun _ h => .inl ⟨h, id⟩⟩
      simp only [not_false_eq_true, and_true, iff_self_or, and_imp]
      rintro rfl -
      exact hmem
  | none =>
      have habsent := not_mem_keys_of_find? hfind
      cases hcompile : CompiledPattern.compile pattern caseSensitive with
      | error error =>
          refine ⟨id, fun key => ?_, Nat.le_refl _, fun _ _ h => h,
            fun _ h => .inl ⟨h, id⟩⟩
          simp only [not_false_eq_true, and_true, iff_self_or, and_imp]
          rintro rfl ⟨compiled, hcompiled⟩
          simp [hcompile] at hcompiled
      | ok compiled =>
          refine ⟨fun h => h.insert habsent compiled,
            fun key => ?_, Nat.le_succ _, fun _ _ h => List.mem_append_left _ h,
            fun entry hentry => ?_⟩
          · have hcompilable : Compilable (pattern, caseSensitive) :=
              ⟨compiled, hcompile⟩
            simp only [keys, insert, List.map_append,
              List.mem_append, List.map_cons,
              List.map_nil, List.mem_singleton, CacheEntry.key,
              not_false_eq_true, and_true]
            exact or_congr_right ⟨fun h => ⟨h, h ▸ hcompilable⟩, And.left⟩
          · simp only [insert, List.mem_append, List.mem_singleton] at hentry
            rcases hentry with hold | rfl
            · exact .inl ⟨hold, id⟩
            · exact .inr (Nat.le_refl _)

theorem exists_entry_of_getOrCompile {pattern : String} {caseSensitive : Bool}
    {compilation : Compilation}
    (h : (cache.getOrCompile pattern caseSensitive).1 = .ok compilation) :
    ∃ entry ∈ (cache.getOrCompile pattern caseSensitive).2.1.entries,
      entry.key = (pattern, caseSensitive) ∧ compilation.serial =
        some entry.serial := by
  rw [getOrCompile] at h ⊢
  cases hfind : cache.find? pattern caseSensitive with
  | some entry =>
      obtain ⟨hentry, hkey⟩ := key_of_find? hfind
      simp only [hfind, Except.ok.injEq] at h
      exact ⟨entry, hentry, hkey, by simp [← h]⟩
  | none =>
      simp only [hfind] at h ⊢
      cases hcompile : CompiledPattern.compile pattern caseSensitive with
      | error error => simp [hcompile] at h
      | ok compiled =>
          simp only [hcompile, Except.ok.injEq] at h
          exact ⟨⟨pattern, caseSensitive, cache.nextSerial, compiled⟩,
            by simp [insert], rfl, by simp [← h]⟩

theorem Evolves.serial_eq_iff {compiled : String × Bool → Prop} {emptied : Prop}
    (h : Evolves compiled emptied old new) (htidy : old.Tidy)
    {first second : CacheEntry}
    (hfirst : first ∈ old.entries) (hsecond : second ∈ new.entries) :
    first.serial = second.serial ↔ first.key = second.key ∧ ¬ emptied := by
  constructor
  · intro hserial
    rcases h.fresh second hsecond with ⟨hold, hemptied⟩ | hle
    · exact ⟨congrArg CacheEntry.key
        (List.inj_on_of_nodup_map htidy.serials hfirst hold hserial), hemptied⟩
    · have hlt := htidy.given first hfirst
      omega
  · rintro ⟨hkey, hemptied⟩
    exact congrArg CacheEntry.serial
      (List.inj_on_of_nodup_map (h.tidy htidy).keys
      (h.kept hemptied first hfirst) hsecond hkey)

end PatternCache

/-! ## Pools -/

namespace RouterPool

variable {pool : RouterPool} {request : RouterRequest}
    {requests : List RouterRequest}
  {number router : Nat} {key : String × Bool}

/--
The request has a router look the pattern and the case flag up.  Matching does
so unless the pattern is `*` or the path itself.
-/
inductive LooksUp (pool : RouterPool) : RouterRequest → Nat →
    String × Bool → Prop
  | matchPath {router pattern path caseSensitive} :
      ¬ (pattern = "*" ∨ pattern = path) →
      LooksUp pool (.matchPath router pattern path caseSensitive) router
        (pattern, caseSensitive)
  | accepts {router pattern path} : ¬ (pattern = "*" ∨ pattern = path) →
      LooksUp pool (.accepts router pattern path) router (pattern, false)
  | compile {router pattern caseSensitive} :
      LooksUp pool (.compile router pattern caseSensitive) router
        (pattern, caseSensitive)
  | same {router other pattern caseSensitive otherCase} :
      LooksUp pool (.same router other pattern caseSensitive otherCase) router
        (pattern, caseSensitive)
  | other {router other pattern caseSensitive otherCase} :
      router < pool.seats.length → Compilable (pattern, caseSensitive) →
      LooksUp pool (.same router other pattern caseSensitive otherCase) other
        (pattern, otherCase)

def CompilesThrough (pool : RouterPool) (number : Nat) (request : RouterRequest)
    (key : String × Bool) : Prop :=
  Compilable key ∧
    ∃ router, pool.LooksUp request router key ∧
      pool.cacheNumber? router = some number

def Clears (pool : RouterPool) (number : Nat)
    (request : RouterRequest) : Prop :=
  ∃ router, request = .cacheClear router ∧
    pool.cacheNumber? router = some number

def Occurs (happens : RouterPool → RouterRequest → List RouterRequest → Prop)
    (pool : RouterPool) (requests : List RouterRequest) : Prop :=
  ∃ earlier request later, requests = earlier ++ request :: later ∧
    happens (pool.after earlier) request later

def Emptied (pool : RouterPool) (number : Nat) : List RouterRequest → Prop :=
  Occurs (fun pool request _ => pool.Clears number request) pool

/--
One of the requests compiles the pattern, and none behind it empties the cache.
-/
def Keeps (pool : RouterPool) (number : Nat) (requests : List RouterRequest)
    (key : String × Bool) : Prop :=
  Occurs (fun pool request later => pool.CompilesThrough number request key ∧
    ¬ (pool.answer request).2.1.Emptied number later) pool requests

theorem not_occurs_nil
    {happens : RouterPool → RouterRequest → List RouterRequest → Prop} :
    ¬ Occurs happens pool [] := by
  rintro ⟨earlier, request, later, hsplit, -⟩
  simp at hsplit

theorem occurs_cons
    {happens : RouterPool → RouterRequest → List RouterRequest → Prop} :
    Occurs happens pool (request :: requests) ↔
      happens pool request requests ∨
      Occurs happens (pool.answer request).2.1 requests := by
  constructor
  · rintro ⟨_ | ⟨first, earlier⟩, middle, later, hsplit, hhappens⟩
    · obtain ⟨rfl, rfl⟩ := List.cons_eq_cons.mp hsplit
      exact .inl hhappens
    · obtain ⟨rfl, rfl⟩ := List.cons_eq_cons.mp hsplit
      exact .inr ⟨earlier, middle, later, rfl, hhappens⟩
  · rintro (hhappens | ⟨earlier, middle, later, rfl, hhappens⟩)
    · exact ⟨[], request, requests, rfl, hhappens⟩
    · exact ⟨request :: earlier, middle, later, rfl, hhappens⟩

/-! ## One request -/

structure Sound (pool : RouterPool) : Prop where
  linked : pool.Linked
  coherent : pool.Coherent

theorem sound_empty : ({} : RouterPool).Sound := ⟨linked_empty, coherent_empty⟩

theorem Sound.answer (h : pool.Sound) (request : RouterRequest) :
    (pool.answer request).2.1.Sound :=
  ⟨h.linked.answer request, (h.coherent.answer request).coherent⟩

theorem Sound.after (h : pool.Sound) (requests : List RouterRequest) :
    (pool.after requests).Sound :=
  ⟨h.linked.after requests, h.coherent.after requests⟩

theorem Sound.compileWith (h : pool.Sound) (hlt : router < pool.seats.length)
    (pattern : String) (caseSensitive : Bool) :
    ∃ result, (pool.compileWith router pattern caseSensitive).1 = some result ∧
      result.map Compilation.compiled =
        CompiledPattern.compile pattern caseSensitive := by
  obtain ⟨user, huser⟩ : ∃ user, pool.router? router = some user := by
    simp [RouterPool.router?, hlt]
  refine ⟨_, by rw [compileWith_fst, huser]; rfl, ?_⟩
  exact ((h.coherent.router? huser).compile pattern caseSensitive).1

theorem Sound.exists_ok_iff (h : pool.Sound) {pattern : String}
    {caseSensitive : Bool} :
    (∃ compilation, (pool.compileWith router pattern caseSensitive).1 =
        some (.ok compilation)) ↔
      router < pool.seats.length ∧ Compilable (pattern, caseSensitive) := by
  by_cases hlt : router < pool.seats.length
  · obtain ⟨result, hresult, hcompile⟩ :=
      h.compileWith hlt pattern caseSensitive
    cases result <;> simp [Compilable, hresult, ← hcompile, hlt, Except.map]
  · have hnone : pool.router? router = none := by
      simpa [RouterPool.router?] using hlt
    simp [compileWith_fst, hnone, hlt]

variable {change : Router → Router}

theorem Linked.evolves_idle (h : pool.Linked)
    (hchange : ∀ router, (change router).cache = router.cache)
    (router number : Nat) :
    PatternCache.Evolves (fun _ => False) False (pool.cacheAt number)
      ((pool.update router change).cacheAt number) := by
  have heffect : ∀ router, (change router).cache = router.cache.map id := by
    simpa using hchange
  rw [h.update_cacheAt heffect, id, ite_self]
  exact .refl _

theorem Linked.evolves_lookup (h : pool.Linked) {pattern : String}
    {caseSensitive : Bool}
    (hchange : ∀ router, (change router).cache =
      (router.compile pattern caseSensitive).2.1.cache) (router number : Nat) :
    PatternCache.Evolves
      (fun key => key = (pattern, caseSensitive) ∧ Compilable key ∧
        pool.cacheNumber? router = some number) False (pool.cacheAt number)
      ((pool.update router change).cacheAt number) := by
  simp only [Router.compile_cache] at hchange
  rw [h.update_cacheAt hchange]
  split
  · next hnumber =>
      refine (PatternCache.evolves_getOrCompile _ pattern caseSensitive).congr
        (fun key => ?_)
        Iff.rfl
      simp [hnumber]
  · next hnumber =>
      refine (PatternCache.Evolves.refl _).congr (fun key => ?_) Iff.rfl
      simp [hnumber]

theorem Linked.evolves_compile (h : pool.Linked) (router number : Nat)
    (pattern : String) (caseSensitive : Bool) :
    PatternCache.Evolves
      (fun key => key = (pattern, caseSensitive) ∧ Compilable key ∧
        pool.cacheNumber? router = some number) False (pool.cacheAt number)
      ((pool.answer (.compile router pattern caseSensitive)).2.1.cacheAt
        number) := by
  rw [answer_compile]
  exact h.evolves_lookup (fun _ => rfl) router number

theorem looksUp_same_iff {router other user : Nat} {pattern : String}
    {caseSensitive otherCase : Bool} :
    pool.LooksUp (.same router other pattern caseSensitive otherCase) user key ↔
      user = router ∧ key = (pattern, caseSensitive) ∨
        user = other ∧ key = (pattern, otherCase) ∧
          router < pool.seats.length ∧ Compilable (pattern, caseSensitive) := by
  constructor
  · rintro (_ | _ | _ | _ | ⟨hlt, hcompilable⟩)
    · exact .inl ⟨rfl, rfl⟩
    · exact .inr ⟨rfl, rfl, hlt, hcompilable⟩
  · rintro (⟨rfl, rfl⟩ | ⟨rfl, rfl, hlt, hcompilable⟩)
    · exact .same
    · exact .other hlt hcompilable

theorem Sound.evolves_same (h : pool.Sound) (router other number : Nat)
    (pattern : String) (caseSensitive otherCase : Bool) :
    PatternCache.Evolves
      (pool.CompilesThrough number
        (.same router other pattern caseSensitive otherCase)) False
      (pool.cacheAt number)
      ((pool.answer
        (.same router other pattern caseSensitive otherCase)).2.1.cacheAt
          number) := by
  have hfirst := h.linked.evolves_compile router number pattern caseSensitive
  rw [answer_same]
  split
  · next compilation hok =>
      obtain ⟨hlt, hcompilable⟩ := h.exists_ok_iff.mp ⟨compilation, hok⟩
      have hsecond :=
        (h.answer
          (.compile router pattern caseSensitive)).linked.evolves_compile
        other number pattern otherCase
      refine (hfirst.trans hsecond).congr (fun key => ?_) (or_self_iff)
      have hframe :=
        @answer_frame pool (.compile router pattern caseSensitive) rfl
      simp only [CompilesThrough, looksUp_same_iff, hframe.cacheNumber?,
        hlt, hcompilable]
      grind
  · next hfails =>
      have hnot :
          ¬ (router < pool.seats.length ∧
            Compilable (pattern, caseSensitive)) := by
        rw [← h.exists_ok_iff]
        rintro ⟨compilation, hok⟩
        exact hfails compilation hok
      refine hfirst.congr (fun key => ?_) Iff.rfl
      simp only [CompilesThrough, looksUp_same_iff, hnot]
      grind

theorem Linked.evolves_match (h : pool.Linked) (router number : Nat)
    (pattern path : String) (caseSensitive : Bool) :
    PatternCache.Evolves
      (fun key => ¬ (pattern = "*" ∨ pattern = path) ∧
        key = (pattern, caseSensitive) ∧
        Compilable key ∧ pool.cacheNumber? router = some number) False
          (pool.cacheAt number)
      ((pool.answer (.matchPath router pattern path caseSensitive)).2.1.cacheAt
        number) := by
  rw [answer_matchPath]
  by_cases hplain : pattern = "*" ∨ pattern = path
  · have hidle : ∀ router : Router,
        (router.matchPath pattern path caseSensitive).2.1.cache =
          router.cache := by
      simp [Router.matchPath_cache, hplain]
    exact (h.evolves_idle hidle router number).congr (by simp [hplain]) Iff.rfl
  · have hlookup : ∀ router : Router,
      (router.matchPath pattern path caseSensitive).2.1.cache =
        (router.compile pattern caseSensitive).2.1.cache := by
      simp [Router.matchPath_cache, hplain]
    exact (h.evolves_lookup hlookup router number).congr
      (by simp [hplain]) Iff.rfl

private theorem Linked.evolves_cacheClear (h : pool.Linked)
    (router number : Nat) :
    PatternCache.Evolves (fun _ => False)
      (pool.cacheNumber? router = some number)
      (pool.cacheAt number)
      ((pool.answer (.cacheClear router)).2.1.cacheAt number) := by
  have hclear : ∀ router : Router, router.clearCache.cache =
      router.cache.map PatternCache.clear := fun _ => rfl
  rw [answer_cacheClear, h.update_cacheAt hclear]
  split
  · next hnumber =>
      exact (PatternCache.evolves_clear _).congr (fun _ => Iff.rfl)
        (by simp [hnumber])
  · next hnumber =>
      exact (PatternCache.Evolves.refl _).congr (fun _ => Iff.rfl)
        (by simp [hnumber])

theorem evolves_of_idle (hlooks : ∀ user key, ¬ pool.LooksUp request user key)
    (hclear : ∀ router, request ≠ .cacheClear router)
    (h : PatternCache.Evolves (fun _ => False) False (pool.cacheAt number)
      ((pool.answer request).2.1.cacheAt number)) :
    PatternCache.Evolves (pool.CompilesThrough number request)
      (pool.Clears number request)
      (pool.cacheAt number) ((pool.answer request).2.1.cacheAt number) := by
  refine h.congr (fun key => ?_) ?_
  · simp [CompilesThrough, hlooks]
  · simp [Clears, hclear]

private theorem Linked.evolves_use (h : pool.Linked)
    {action : Router → RouterAnswer × Router × List Event}
    (haction : ∀ router, (action router).2.1.cache = router.cache)
    (router number : Nat) :
    PatternCache.Evolves (fun _ => False) False (pool.cacheAt number)
      ((pool.use router action).2.1.cacheAt number) := by
  rw [use_eq_update]
  exact h.evolves_idle haction router number

private theorem copy_cacheAt (pool : RouterPool) (router number : Nat) :
    (pool.answer (.copy router)).2.1.cacheAt number = pool.cacheAt number := by
  cases hopened : pool.opened? (.copy router) with
  | some seat => exact (answer_opening hopened).cacheAt number
  | none =>
      simp only [opened?] at hopened
      simp [answer, hopened]

theorem Sound.evolves_answer (h : pool.Sound) (request : RouterRequest)
    (number : Nat) :
    PatternCache.Evolves (pool.CompilesThrough number request)
      (pool.Clears number request)
      (pool.cacheAt number) ((pool.answer request).2.1.cacheAt number) := by
  cases request with
  | matchPath router pattern path caseSensitive =>
      refine (h.linked.evolves_match router number pattern
        path caseSensitive).congr
        (fun key => ?_) (by simp [Clears])
      constructor
      · rintro ⟨hplain, rfl, hcompilable, hnumber⟩
        exact ⟨hcompilable, router, .matchPath hplain, hnumber⟩
      · rintro ⟨hcompilable, _, ⟨hplain⟩, hnumber⟩
        exact ⟨hplain, rfl, hcompilable, hnumber⟩
  | accepts router pattern path =>
      rw [answer_accepts]
      refine (h.linked.evolves_match router number pattern path false).congr
        (fun key => ?_) (by simp [Clears])
      constructor
      · rintro ⟨hplain, rfl, hcompilable, hnumber⟩
        exact ⟨hcompilable, router, .accepts hplain, hnumber⟩
      · rintro ⟨hcompilable, _, hlooks, hnumber⟩
        cases hlooks with
        | accepts hplain => exact ⟨hplain, rfl, hcompilable, hnumber⟩
  | compile router pattern caseSensitive =>
      refine (h.linked.evolves_compile router number pattern
        caseSensitive).congr (fun key => ?_)
        (by simp [Clears])
      constructor
      · rintro ⟨rfl, hcompilable, hnumber⟩
        exact ⟨hcompilable, router, .compile, hnumber⟩
      · rintro ⟨hcompilable, _, ⟨⟩, hnumber⟩
        exact ⟨rfl, hcompilable, hnumber⟩
  | same router other pattern caseSensitive otherCase =>
      exact (h.evolves_same router other number pattern
        caseSensitive otherCase).congr
        (fun _ => Iff.rfl) (by simp [Clears])
  | cacheClear router =>
      refine (h.linked.evolves_cacheClear router number).congr (fun key => ?_)
        (by simp [Clears])
      simp only [CompilesThrough, false_iff, not_and, not_exists]
      rintro - _ ⟨⟩
  | openOwn | openCommon | openUncached =>
      refine evolves_of_idle (by rintro _ _ ⟨⟩) (by simp) ?_
      rw [(answer_opening rfl).cacheAt]
      exact .refl _
  | copy router =>
      refine evolves_of_idle (by rintro _ _ ⟨⟩) (by simp) ?_
      rw [copy_cacheAt]
      exact .refl _
  | params router | takeParams router | make router | cacheSize router
  | cacheIsEmpty router =>
      exact evolves_of_idle (by rintro _ _ ⟨⟩) (by simp)
        (h.linked.evolves_use (fun _ => rfl) router number)

/-! ## Whole histories -/

theorem not_emptied_nil : ¬ pool.Emptied number [] := not_occurs_nil

theorem emptied_cons :
    pool.Emptied number (request :: requests) ↔
      pool.Clears number request ∨
      (pool.answer request).2.1.Emptied number requests :=
  occurs_cons

private theorem keeps_cons :
    pool.Keeps number (request :: requests) key ↔
      pool.CompilesThrough number request key ∧
          ¬ (pool.answer request).2.1.Emptied number requests ∨
        (pool.answer request).2.1.Keeps number requests key :=
  occurs_cons

theorem Sound.evolves_after (h : pool.Sound) (requests : List RouterRequest)
    (number : Nat) :
    PatternCache.Evolves (pool.Keeps number requests)
      (pool.Emptied number requests)
      (pool.cacheAt number) ((pool.after requests).cacheAt number) := by
  induction requests generalizing pool with
  | nil =>
      refine (PatternCache.Evolves.refl _).congr (fun key => ?_) ?_
      · simp [Keeps, not_occurs_nil]
      · simp [not_emptied_nil]
  | cons request requests ih =>
      have hall :=
        (h.evolves_answer request number).trans (ih (h.answer request))
      exact hall.congr (fun key => keeps_cons.symm) emptied_cons.symm

private theorem Linked.serial_eq_none (h : pool.Linked) {pattern : String}
    {caseSensitive : Bool}
    {compilation : Compilation} (hnumber : pool.cacheNumber? router = none)
    (hok : (pool.compileWith router pattern caseSensitive).1 =
      some (.ok compilation)) :
    compilation.serial = none := by
  rw [compileWith_fst, h.router?_eq, hnumber] at hok
  simp only [Option.map_map, Option.map_eq_some_iff, Function.comp_apply,
    Option.map_none] at hok
  obtain ⟨params, -, hcompile⟩ := hok
  simp only [Router.compile] at hcompile
  cases hresult : CompiledPattern.compile pattern caseSensitive with
  | error error => simp [hresult, Except.map] at hcompile
  | ok compiled =>
      simp only [hresult, Except.map, Except.ok.injEq] at hcompile
      rw [← hcompile]

theorem Linked.exists_entry (h : pool.Linked) {pattern : String}
    {caseSensitive : Bool} {compilation : Compilation}
    (hnumber : pool.cacheNumber? router = some number)
    (hok : (pool.compileWith router pattern caseSensitive).1 =
      some (.ok compilation)) :
    ∃ entry ∈ ((pool.answer (.compile router pattern caseSensitive)).2.1.cacheAt
        number).entries,
      entry.key = (pattern, caseSensitive) ∧ compilation.serial =
        some entry.serial := by
  have hcaches :=
    h.update_cacheAt (fun user => user.compile_cache pattern caseSensitive)
      router
    number
  rw [if_pos hnumber] at hcaches
  rw [answer_compile, hcaches]
  rw [compileWith_fst, h.router?_eq, hnumber] at hok
  simp only [Option.map_map, Option.map_eq_some_iff, Function.comp_apply,
    Option.map_some] at hok
  obtain ⟨params, -, hcompile⟩ := hok
  exact PatternCache.exists_entry_of_getOrCompile hcompile

theorem sameEntry_iff {other : Nat} {first second : Compilation} :
    pool.sameEntry router other first second = true ↔
      pool.cacheNumber? router = pool.cacheNumber? other ∧
        ∃ serial, first.serial = some serial ∧ second.serial = some serial := by
  obtain ⟨compiled, _ | serial⟩ := first <;> obtain ⟨other, _ | found⟩ := second
  case some.some =>
    simp only [sameEntry, cacheNumber?, decide_eq_true_eq,
      Option.some.injEq, exists_eq_left']
    exact and_congr_right fun _ => eq_comm
  all_goals simp [sameEntry]

theorem tidy_after (requests : List RouterRequest) (number : Nat) :
    ((after {} requests).cacheAt number).Tidy :=
  (sound_empty.evolves_after requests number).tidy PatternCache.tidy_empty

/--
Two compilations meet one entry if they ask one cache for the same and it was
kept.
-/
theorem Sound.sameEntry_iff (h : pool.Sound)
    (htidy : ∀ number, (pool.cacheAt number).Tidy)
    {other : Nat} {pattern another : String} {caseSensitive otherCase : Bool}
    {between : List RouterRequest} {first second : Compilation} :
    let next := (pool.answer (.compile router pattern caseSensitive)).2.1
    let later := next.after between
    (pool.compileWith router pattern caseSensitive).1 = some (.ok first) →
    (later.compileWith other another otherCase).1 = some (.ok second) →
    (later.sameEntry router other first second = true ↔
      pattern = another ∧ caseSensitive = otherCase ∧
        ∃ number, later.cacheNumber? router = some number ∧
          later.cacheNumber? other = some number ∧
          ¬ next.Emptied number between) := by
  intro next later hfirst hsecond
  have hnext : next.Sound := h.answer _
  have hlater : later.Sound := hnext.after between
  have hopen : router < pool.seats.length :=
    (h.exists_ok_iff.mp ⟨first, hfirst⟩).1
  obtain ⟨hstill, hkept⟩ :=
    answer_cacheNumber? hopen (.compile router pattern caseSensitive)
  have hnumber : later.cacheNumber? router = pool.cacheNumber? router :=
    (after_cacheNumber? hstill between).2.trans hkept
  rw [RouterPool.sameEntry_iff, hnumber]
  cases hrouter : pool.cacheNumber? router with
  | none =>
      simp [h.linked.serial_eq_none hrouter hfirst]
  | some number =>
      by_cases hother : later.cacheNumber? other = some number
      · obtain ⟨entry, hentry, hkey, hserial⟩ :=
          h.linked.exists_entry hrouter hfirst
        obtain ⟨found, hfound, hfoundKey, hfoundSerial⟩ :=
          hlater.linked.exists_entry hother hsecond
        have hevolves := (hnext.evolves_after between number).trans
          (hlater.evolves_answer (.compile other another otherCase) number)
        have htidyNext :=
          ((h.evolves_answer (.compile router pattern caseSensitive)
          number).tidy (htidy number))
        have hclears :
            ¬ later.Clears number (.compile other another otherCase) := by
          simp [Clears]
        -- one evolution leads from the first lookup to behind the second
        have hiff := hevolves.serial_eq_iff htidyNext hentry hfound
        simp only [hkey, hfoundKey, Prod.mk.injEq] at hiff
        simp only [hother, hserial, hfoundSerial]
        simp [hiff, hclears, eq_comm, and_assoc]
      · simp [hother, Ne.symm hother]

/--
After any requests a cache has one entry for each pattern and case flag that has
been compiled through it since it was last emptied, and no other.  Compiling
gives what the pattern compiles to; and two compilations, whatever comes between
them, share an entry just when they ask for the same through one cache that has
not been emptied in between.
-/
theorem caches_follow_requests :
    (∀ (requests : List RouterRequest) (number : Nat) (cache : PatternCache),
      (after {} requests).caches[number]? = some cache →
        cache.keys.Nodup ∧ (∀ entry ∈ cache.entries, entry.Coherent) ∧
          ∀ key, key ∈ cache.keys ↔ Keeps {} number requests key) ∧
    (∀ (requests : List RouterRequest) (router : Nat) (pattern : String)
      (caseSensitive : Bool), router < (after {} requests).seats.length →
        ∃ result,
          ((after {} requests).compileWith router pattern caseSensitive).1 =
            some result ∧
            result.map Compilation.compiled =
              CompiledPattern.compile pattern caseSensitive) ∧
    ∀ (earlier between : List RouterRequest) (router other : Nat)
      (pattern another : String)
      (caseSensitive otherCase : Bool) (first second : Compilation),
      let pool := after {} earlier
      let next := (pool.answer (.compile router pattern caseSensitive)).2.1
      let later := next.after between
      (pool.compileWith router pattern caseSensitive).1 = some (.ok first) →
      (later.compileWith other another otherCase).1 = some (.ok second) →
      (later.sameEntry router other first second = true ↔
        pattern = another ∧ caseSensitive = otherCase ∧
          ∃ number, later.cacheNumber? router = some number ∧
            later.cacheNumber? other = some number ∧
            ¬ next.Emptied number between) := by
  refine ⟨fun requests number cache hcache => ?_, ?_, ?_⟩
  · have hevolves := sound_empty.evolves_after requests number
    have hat : (after {} requests).cacheAt number = cache := by
      simp [cacheAt, hcache]
    rw [hat] at hevolves
    refine ⟨(hevolves.tidy PatternCache.tidy_empty).keys,
      (sound_empty.after requests).coherent cache (List.mem_of_getElem? hcache),
      fun key => ?_⟩
    simpa [cacheAt, PatternCache.keys] using hevolves.mem_keys_iff key
  · intro requests router pattern caseSensitive hlt
    exact (sound_empty.after requests).compileWith hlt pattern caseSensitive
  · intro earlier between router other pattern another caseSensitive
      otherCase first second
    exact (sound_empty.after earlier).sameEntry_iff (tidy_after earlier)

theorem caches_follow_requests_common :
    let pool := after {} [.openCommon, .openCommon]
    let next := (pool.answer (.compile 0 "/a" true)).2.1
    let later := next.after [.matchPath 1 "/b" "/c" true, .make 1 "/a" []]
    ∃ first second, (pool.compileWith 0 "/a" true).1 = some (.ok first) ∧
      (later.compileWith 1 "/a" true).1 = some (.ok second) ∧
      later.sameEntry 0 1 first second = true := by
  intro pool next later
  obtain ⟨first, hfirst⟩ : ∃ first, (pool.compileWith 0 "/a" true).1 =
      some (.ok first) :=
    ⟨_, rfl⟩
  obtain ⟨second, hsecond⟩ : ∃ second, (later.compileWith 1 "/a" true).1 =
      some (.ok second) := ⟨_, rfl⟩
  have hkept :
      ¬ next.Emptied 0 [.matchPath 1 "/b" "/c" true, .make 1 "/a" []] := by
    simp [emptied_cons, not_emptied_nil, Clears]
  refine ⟨first, second, hfirst, hsecond, ?_⟩
  exact (caches_follow_requests.2.2 [.openCommon, .openCommon] _ 0 1
    "/a" "/a" true true first
    second hfirst hsecond).mpr ⟨rfl, rfl, 0, rfl, rfl, hkept⟩

end RouterPool

end Signpost
