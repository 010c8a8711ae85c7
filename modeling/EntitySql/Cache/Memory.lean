import Std.Data.HashMap
import EntitySql.Row.Snapshot

/-!
# The result cache

Query results are cached under a key made of the statement and its parameters. The cache keeps
at most `capacity` entries and forgets the least recently used first: storing, and finding an
entry on lookup, make it the most recent. It counts lookups that find a live entry (hits), those
that do not (misses), and entries pushed out (evictions).

The cache is kept in two parts that every operation updates together: a hash map from keys to
entries, and a queue of the keys, least recently used first. A key is moved to the back of the
queue by a lookup that finds it and by a store; an eviction takes keys from the front of the
queue until the map is small enough.

An entry expires once more than its lifetime has passed since it was stored. Lookups here come
within less than a millisecond of storing, and lifetimes are whole milliseconds, so an entry is
expired exactly when its lifetime is zero. A lookup finds an expired entry too, but counts it as
a miss.
-/

namespace EntitySql

def cacheKey (sql : String) (params : List Value) : String :=
  sql ++ " -- PARAMETERS: " ++ (Json.arr (params.map Value.toTagged)).render

/-- One stored result. -/
structure CacheEntry where
  identifier : String
  /-- Lifetime in nanoseconds. -/
  lifetime : Nat
  result : Json
  deriving Inhabited

def CacheEntry.isExpired (e : CacheEntry) : Bool := e.lifetime = 0

/-- The rows of a stored result. -/
def CacheEntry.rows (e : CacheEntry) : OrmResult (List Row) :=
  match Row.listOfSnapshot e.result with
  | .ok rows => .ok rows
  | .error m => .error (.serialization m)

/-- Counters of a cache. -/
structure CacheStats where
  hits : Nat
  misses : Nat
  evictions : Nat
  entries : Nat

/-- A least-recently-used cache of results. -/
structure ResultCache where
  capacity : Nat
  /-- The entries by key. -/
  map : Std.HashMap String CacheEntry := {}
  /-- The keys, least recently used first. -/
  order : List String := []
  hits : Nat := 0
  misses : Nat := 0
  evictions : Nat := 0
  deriving Inhabited

namespace ResultCache

def new (capacity : Nat) : ResultCache := { capacity }

def touch (c : ResultCache) (key : String) : ResultCache :=
  if key ∈ c.order then { c with order := c.order.erase key ++ [key] } else c

def removeKey (c : ResultCache) (key : String) : ResultCache :=
  if key ∈ c.map then { c with map := c.map.erase key, order := c.order.erase key } else c

/-- Take keys from the front of the queue while the map holds more than `capacity` entries,
counting those that had an entry. -/
def evictLoop (capacity : Nat) :
    Std.HashMap String CacheEntry → List String → Nat → Std.HashMap String CacheEntry × List String × Nat
  | map, [], n => (map, [], n)
  | map, oldest :: rest, n =>
    if map.size > capacity then
      if oldest ∈ map then evictLoop capacity (map.erase oldest) rest (n + 1)
      else evictLoop capacity map rest n
    else (map, oldest :: rest, n)

def evict (c : ResultCache) : ResultCache :=
  let (map, order, n) := evictLoop c.capacity c.map c.order 0
  { c with map, order, evictions := c.evictions + n }

/-- Look a key up, counting a hit for a live entry and a miss otherwise. -/
def get (c : ResultCache) (key : String) : Option CacheEntry × ResultCache :=
  match c.map[key]? with
  | some e =>
    let c := c.touch key
    (some e, if e.isExpired then { c with misses := c.misses + 1 } else { c with hits := c.hits + 1 })
  | none => (none, { c with misses := c.misses + 1 })

def forgetPrevious (c : ResultCache) (key : String) : Option CacheEntry → ResultCache
  | some p => if p.identifier ≠ key then c.removeKey p.identifier else c
  | none => c

/-- Put an entry under its key and make the key the most recent, without evicting. -/
def insert (c : ResultCache) (e : CacheEntry) : ResultCache :=
  if e.identifier ∈ c.map then
    ({ c with map := c.map.insert e.identifier e } : ResultCache).touch e.identifier
  else { c with map := c.map.insert e.identifier e, order := c.order ++ [e.identifier] }

def store (c : ResultCache) (key : String) (previous : Option CacheEntry) (result : Json)
    (lifetime : Nat) : ResultCache :=
  ((c.forgetPrevious key previous).insert ⟨key, lifetime, result⟩).evict

def remove (c : ResultCache) (keys : List String) : ResultCache := keys.foldl removeKey c

def clear (c : ResultCache) : ResultCache := { c with map := {}, order := [] }

def stats (c : ResultCache) : CacheStats := ⟨c.hits, c.misses, c.evictions, c.map.size⟩

def contains (c : ResultCache) (key : String) : Bool := c.map.contains key

end ResultCache

end EntitySql
