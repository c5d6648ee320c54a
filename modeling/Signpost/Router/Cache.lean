import Signpost.Event

/-!
# Caches of compiled patterns

A cache keeps what has been compiled under the pattern and its case flag.  Every
entry carries a number that no other entry of the cache has or will have, so
that two lookups can be told to have met the same entry.  Patterns that do not
compile are not kept.
-/

namespace Signpost

structure CacheEntry where
  pattern : String
  caseSensitive : Bool
  serial : Nat
  compiled : CompiledPattern
  deriving DecidableEq, Repr

structure PatternCache where
  entries : List CacheEntry := []
  nextSerial : Nat := 0
  deriving DecidableEq, Repr

/-- A compiled pattern, with the number of its entry if a cache holds it. -/
structure Compilation where
  compiled : CompiledPattern
  serial : Option Nat := none
  deriving DecidableEq, Repr

namespace PatternCache

def find? (cache : PatternCache) (pattern : String) (caseSensitive : Bool) :
    Option CacheEntry :=
  cache.entries.find? fun entry =>
    entry.pattern = pattern ∧ entry.caseSensitive = caseSensitive

def insert (cache : PatternCache) (pattern : String) (caseSensitive : Bool)
    (compiled : CompiledPattern) : PatternCache :=
  { entries := cache.entries ++
    [⟨pattern, caseSensitive, cache.nextSerial, compiled⟩]
    nextSerial := cache.nextSerial + 1 }

def getOrCompile (cache : PatternCache) (pattern : String)
    (caseSensitive : Bool) :
    Except PatternError Compilation × PatternCache × List Event :=
  match cache.find? pattern caseSensitive with
  | some entry => (.ok ⟨entry.compiled, some entry.serial⟩, cache, [])
  | none =>
    match CompiledPattern.compile pattern caseSensitive with
    | .error error => (.error error, cache, [])
    | .ok compiled =>
      (.ok ⟨compiled, some cache.nextSerial⟩,
        cache.insert pattern caseSensitive compiled,
        [.patternCompiled pattern caseSensitive])

def size (cache : PatternCache) : Nat := cache.entries.length

/-- Forgets all entries, but not which numbers were given. -/
def clear (cache : PatternCache) : PatternCache := { cache with entries := [] }

end PatternCache

end Signpost
