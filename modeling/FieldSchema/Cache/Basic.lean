import FieldSchema.LogEvent
import FieldSchema.Value.Call

/-!
# Caches

A cache keeps values under keys.  It may be bounded in two ways: by the number of its entries, of
which the one whose last use lies furthest back goes first, and by the time that an entry lives.
Entries that lived too long are not removed when their time is over but when something next looks
at them.

The entries are a list from the least to the most recently used, so that a use moves an entry to
the end and an eviction drops from the front.  The time is an argument of every operation.

* `CacheLimits`: the bounds; `CacheLimits.read`: the bounds that two values state.
* `Cache.get`, `Cache.set`, `Cache.contains`, `Cache.purge`, `Cache.clear`: the operations.
* `Cache.getOrCompile`: a kept value, or one that is made and kept.
-/

namespace FieldSchema

/-! ## Time -/

/-- The time after a span that a value states. -/
def Binary64.advancedBy (now : Binary64) (span : Value) : Except Raised Binary64 :=
  match span.numeric?.map Number.toBinary64? with
  | some (some x) => .ok (now.add x)
  | some none => .error .outOfRange
  | none => .error .wrongType

/-! ## Bounds -/

/-- The bounds of a cache. -/
structure CacheLimits where
  /-- The greatest number of entries, none when there is no bound. -/
  capacity : Option Nat
  /-- How long an entry lives, none when it lives for ever. -/
  lifetime : Option Number
  /-- The greatest number of entries as it was stated. -/
  statedSize : Value
  /-- The lifetime as it was stated. -/
  statedLifetime : Value
  deriving Inhabited

namespace CacheLimits

/-- The number of entries that a bound admits, none when it admits any number. -/
def entriesWithin : Number → Option Nat
  | .int n => some n.toNat
  | .float x => x.truncate?.map Int.toNat

/-- The number that a bound states, none for no bound. -/
def readBound : Value → Except Raised (Option Number)
  | .null => .ok none
  | v =>
    match v.numeric? with
    | some n => .ok (some n)
    | none => .error .wrongType

/-- The bounds that two values state. -/
def read (size lifetime : Value) : Except Raised CacheLimits := do
  let most ← readBound size
  if (most.map fun n => n.lt (.int 1)) == some true then
    throw (.badValue "max_size must be >= 1 or None")
  let longest ← readBound lifetime
  if (longest.map fun n => n.le (.int 0)) == some true then
    throw (.badValue "ttl_seconds must be > 0 or None")
  pure ⟨most.bind entriesWithin, longest, size, lifetime⟩

/-- Whether the time of an entry is over. -/
def isOver (limits : CacheLimits) (now storedAt : Binary64) : Bool :=
  match limits.lifetime with
  | some lifetime => lifetime.le (.float (now.sub storedAt))
  | none => false

/-- The number of entries above the capacity. -/
def excess (limits : CacheLimits) (count : Nat) : Nat :=
  match limits.capacity with
  | some capacity => count - capacity
  | none => 0

theorem excess_le (limits : CacheLimits) (count : Nat) : limits.excess count ≤ count := by
  unfold excess
  split <;> omega

theorem isOver_of_lifetime_none {limits : CacheLimits} (h : limits.lifetime = none)
    (now storedAt : Binary64) : limits.isOver now storedAt = false := by
  simp [isOver, h]

end CacheLimits

/-! ## Entries -/

/-- What is kept under a key.  It may be that nothing is kept there, which is an entry too. -/
structure CacheEntry (α : Type) where
  key : String
  storedAt : Binary64
  value : Option α
  deriving Inhabited

/-- A cache. -/
structure Cache (α : Type) where
  limits : CacheLimits
  /-- The entries from the least to the most recently used. -/
  entries : List (CacheEntry α) := []
  /-- How often a value was asked for and found. -/
  hits : Nat := 0
  /-- How often a value was asked for and had to be made. -/
  misses : Nat := 0
  deriving Inhabited

/-- What an operation returns, and what it leaves. -/
structure CacheStep (α β : Type) where
  result : β
  cache : Cache α
  events : List LogEvent := []

namespace Cache

variable {α : Type}

/-- The keys from the least to the most recently used. -/
def keys (cache : Cache α) : List String := cache.entries.map (·.key)

/-- The entry of a key. -/
def entry? (cache : Cache α) (key : String) : Option (CacheEntry α) :=
  cache.entries.find? fun entry => entry.key == key

/-- The entries of all other keys. -/
def others (cache : Cache α) (key : String) : List (CacheEntry α) :=
  cache.entries.filter fun entry => entry.key != key

/-- The start of a key, by which events name it. -/
def shownKey (key : String) : Value := .text (String.ofList (key.toList.take 12))

/-- An event about a key. -/
def event (name key : String) : LogEvent := ⟨.debug, name, [("key", shownKey key)]⟩

/-- The event that an entry had to go. -/
def evictedEvent (limits : CacheLimits) (entry : CacheEntry α) : LogEvent :=
  ⟨.debug, "schema_cache_evicted",
    [("key", shownKey entry.key), ("max_size", limits.statedSize)]⟩

/-! ## Operations -/

/-- The value of a key.  Looking it up is a use, and removes the entry if its time is over. -/
def get (now : Binary64) (key : String) (cache : Cache α) : CacheStep α (Option α) :=
  match cache.entry? key with
  | none => ⟨none, cache, []⟩
  | some entry =>
    if cache.limits.isOver now entry.storedAt then
      ⟨none, { cache with entries := cache.others key }, [event "schema_cache_expired" key]⟩
    else ⟨entry.value, { cache with entries := cache.others key ++ [entry] }, []⟩

/-- Whether there is a value for a key; this looks it up. -/
def contains (now : Binary64) (key : String) (cache : Cache α) : CacheStep α Bool :=
  let step := cache.get now key
  ⟨step.result.isSome, step.cache, step.events⟩

/-- Keeps a value under a key as the most recently used one, and evicts what is above the
capacity. -/
def set (now : Binary64) (key : String) (value : Option α) (cache : Cache α) :
    CacheStep α Unit :=
  let entries := cache.others key ++ [⟨key, now, value⟩]
  let excess := cache.limits.excess entries.length
  ⟨(), { cache with entries := entries.drop excess },
    (entries.take excess).map (evictedEvent cache.limits)⟩

/-- The cache without the entries whose time is over. -/
def purge (now : Binary64) (cache : Cache α) : Cache α :=
  { cache with
    entries := cache.entries.filter fun entry => !cache.limits.isOver now entry.storedAt }

/-- The number of entries, after those whose time is over are gone. -/
def size (now : Binary64) (cache : Cache α) : CacheStep α Nat :=
  let cache := cache.purge now
  ⟨cache.entries.length, cache, []⟩

/-- No entries and no counts. -/
def clear (cache : Cache α) : Cache α := ⟨cache.limits, [], 0, 0⟩

/-- The written form of a cache, after the entries whose time is over are gone. -/
def written (now : Binary64) (cache : Cache α) : CacheStep α String :=
  let step := cache.size now
  ⟨"BoundedSchemaCache(max_size=" ++ cache.limits.statedSize.displayed ++ ", ttl_seconds=" ++
    cache.limits.statedLifetime.displayed ++ ", size=" ++ toString step.result ++ ")",
    step.cache, step.events⟩

/-- Counts, after the entries whose time is over are gone. -/
def stats (now : Binary64) (cache : Cache α) : CacheStep α Value :=
  let step := cache.size now
  ⟨.ofFields [("size", .int step.result), ("hits", .int cache.hits),
    ("misses", .int cache.misses)], step.cache, step.events⟩

/-! ## Making values -/

/-- The value of a key, which is made and kept if there is none.  What makes it works on a state
and may fail; nothing is kept after a failure, and the state stays as it is when nothing has to be
made. -/
def getOrCompile {σ ε : Type} (now : Binary64) (key : String)
    (factory : σ → Logged ε (Option α) × σ) (cache : Cache α) (state : σ) :
    CacheStep α (Except ε (Option α)) × σ :=
  let found := cache.get now key
  match found.result with
  | some value =>
    let cache := { found.cache with hits := found.cache.hits + 1 }
    (⟨.ok (some value), cache, found.events ++ [event "schema_cache_hit" key]⟩, state)
  | none =>
    let cache := { found.cache with misses := found.cache.misses + 1 }
    let events := found.events ++ [event "schema_cache_miss" key]
    let (made, state) := factory state
    match made.result with
    | .error e => (⟨.error e, cache, events ++ made.events⟩, state)
    | .ok value =>
      let stored := cache.set now key value
      (⟨.ok value, stored.cache, events ++ made.events ++ stored.events⟩, state)

section

variable {σ ε : Type} {now : Binary64} {key : String}
  {factory : σ → Logged ε (Option α) × σ} {cache : Cache α} {state : σ}

/-- A value that is found is returned, and nothing is made. -/
theorem getOrCompile_of_found {value : α} (h : (cache.get now key).result = some value) :
    cache.getOrCompile now key factory state =
      (⟨.ok (some value),
        { (cache.get now key).cache with hits := (cache.get now key).cache.hits + 1 },
        (cache.get now key).events ++ [event "schema_cache_hit" key]⟩, state) := by
  simp only [getOrCompile, h]

/-- Nothing is kept when a value cannot be made. -/
theorem getOrCompile_of_failed {cause : ε} (h : (cache.get now key).result = none)
    (hmade : (factory state).1.result = .error cause) :
    cache.getOrCompile now key factory state =
      (⟨.error cause,
        { (cache.get now key).cache with misses := (cache.get now key).cache.misses + 1 },
        (cache.get now key).events ++ [event "schema_cache_miss" key] ++
          (factory state).1.events⟩, (factory state).2) := by
  simp only [getOrCompile, h, hmade]

/-- A value that is made is kept, in the cache that the look-up has left. -/
theorem getOrCompile_of_made {value : Option α} (h : (cache.get now key).result = none)
    (hmade : (factory state).1.result = .ok value) :
    cache.getOrCompile now key factory state =
      let left := { (cache.get now key).cache with misses := (cache.get now key).cache.misses + 1 }
      (⟨.ok value, (left.set now key value).cache,
        (cache.get now key).events ++ [event "schema_cache_miss" key] ++
          (factory state).1.events ++ (left.set now key value).events⟩, (factory state).2) := by
  simp only [getOrCompile, h, hmade]

end

/-! ## First facts -/

@[simp] theorem result_get_of_entry?_none {cache : Cache α} {key : String} (now : Binary64)
    (h : cache.entry? key = none) : cache.get now key = ⟨none, cache, []⟩ := by
  simp [get, h]

theorem length_entries_set_le {cache : Cache α} {capacity : Nat}
    (h : cache.limits.capacity = some capacity) (now : Binary64) (key : String)
    (value : Option α) : (cache.set now key value).cache.entries.length ≤ capacity := by
  simp only [set, CacheLimits.excess, h, List.length_drop]
  omega

@[simp] theorem limits_set (cache : Cache α) (now : Binary64) (key : String) (value : Option α) :
    (cache.set now key value).cache.limits = cache.limits := rfl

@[simp] theorem limits_get (cache : Cache α) (now : Binary64) (key : String) :
    (cache.get now key).cache.limits = cache.limits := by
  unfold get
  split
  · rfl
  · split <;> rfl

end Cache

end FieldSchema
