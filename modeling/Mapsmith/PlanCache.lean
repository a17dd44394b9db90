/-!
# The plan cache

A memory of bounded size that forgets what was not used for the longest time. An entry is used when
it is stored and when it is found.
-/

namespace Mapsmith

/-- Entries by key, the least recently used first, with the counts of lookups that found something
and that did not. A capacity of zero stores nothing. -/
structure PlanCache (κ ν : Type) where
  /-- The greatest number of entries. -/
  capacity : Nat
  /-- The entries, the least recently used first. -/
  entries : List (κ × ν) := []
  /-- The lookups that found an entry. -/
  hits : Nat := 0
  /-- The lookups that found none. -/
  misses : Nat := 0
  deriving Repr

namespace PlanCache

variable {κ ν : Type} [DecidableEq κ]

/-- The entry of a key, without using it. -/
def peek (cache : PlanCache κ ν) (key : κ) : Option ν :=
  (cache.entries.find? (·.1 = key)).map (·.2)

/-- Is there an entry of the key? -/
def contains (cache : PlanCache κ ν) (key : κ) : Bool :=
  (cache.peek key).isSome

/-- The number of entries. -/
def size (cache : PlanCache κ ν) : Nat :=
  cache.entries.length

/-- The entries without that of a key. -/
def without (entries : List (κ × ν)) (key : κ) : List (κ × ν) :=
  entries.filter fun entry => entry.1 ≠ key

/-- Looks a key up, which uses its entry. -/
def get (cache : PlanCache κ ν) (key : κ) : Option ν × PlanCache κ ν :=
  match cache.peek key with
  | some value =>
    (some value,
      { cache with entries := without cache.entries key ++ [(key, value)], hits := cache.hits + 1 })
  | none => (none, { cache with misses := cache.misses + 1 })

/-- Stores an entry, forgetting the least recently used ones that have no room any more. -/
def put (cache : PlanCache κ ν) (key : κ) (value : ν) : PlanCache κ ν :=
  if cache.capacity = 0 then cache
  else
    let entries := without cache.entries key ++ [(key, value)]
    { cache with entries := entries.drop (entries.length - cache.capacity) }

/-- Forgets everything, the counts included. -/
def clear (cache : PlanCache κ ν) : PlanCache κ ν :=
  { cache with entries := [], hits := 0, misses := 0 }

end PlanCache

end Mapsmith
