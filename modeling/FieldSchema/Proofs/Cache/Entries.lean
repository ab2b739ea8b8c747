import FieldSchema.Cache.Command

/-!
# The entries that operations leave

What a look-up, a value that is kept and a whole history leave of the entries of a cache, as far as
it does not matter what the cache is bounded by, and the bounds themselves, which never change.

## Moves

Of what a command does to the entries there are four kinds, the *moves*: a key is looked up, a value
is kept, what is too old is removed, or everything is.  Every command comes to one move or, when a
value is asked for and made, to two (`Cache.movesOf`).  An invariant of entries has to be shown for
the moves only (`Cache.entries_perform`).

* `Cache.mem_keys_iff`, `Cache.mem_entries_of_found`: entries and their keys.
* `Cache.mem_entries_of_mem_get`, `Cache.mem_entries_of_mem_set`: where entries come from.
* `CacheMove`, `Cache.movesOf`: what commands do to the entries.
* `Cache.limits_perform`, `Cache.limits_run`: the bounds of a cache.
-/

namespace FieldSchema

/-- What is done to the entries of a cache. -/
inductive CacheMove (α : Type) where
  /-- A key is looked up. -/
  | lookUp (key : String)
  /-- A value is kept under a key. -/
  | keep (key : String) (value : Option α)
  /-- The entries whose time is over are removed. -/
  | purge
  /-- All entries are removed. -/
  | clear

/-- The cache after a move. -/
def CacheMove.apply {α : Type} (now : Binary64) (cache : Cache α) : CacheMove α → Cache α
  | .lookUp key => (cache.get now key).cache
  | .keep key value => (cache.set now key value).cache
  | .purge => cache.purge now
  | .clear => cache.clear

namespace Cache

variable {σ ε α : Type}

/-! ## Entries and keys -/

theorem mem_keys_iff {cache : Cache α} {key : String} :
    key ∈ cache.keys ↔ ∃ entry, cache.entry? key = some entry := by
  rw [keys, List.mem_map, ← Option.isSome_iff_exists, entry?, List.find?_isSome]
  simp

theorem entry?_eq_none_iff {cache : Cache α} {key : String} :
    cache.entry? key = none ↔ key ∉ cache.keys := by
  rw [mem_keys_iff, ← Option.isSome_iff_exists, Option.not_isSome_iff_eq_none]

theorem mem_entries_of_found {cache : Cache α} {key : String} {entry : CacheEntry α}
    (h : cache.entry? key = some entry) : entry ∈ cache.entries ∧ entry.key = key :=
  ⟨List.mem_of_find?_eq_some h, by simpa using List.find?_some h⟩

theorem map_key_others (cache : Cache α) (key : String) :
    (cache.others key).map (·.key) = cache.keys.filter (· != key) := by
  rw [others, keys, List.filter_map]
  rfl

/-! ## Operations -/

/-- A look-up adds no entries. -/
theorem mem_entries_of_mem_get {now : Binary64} {key : String} {cache : Cache α}
    {entry : CacheEntry α} (h : entry ∈ (cache.get now key).cache.entries) :
    entry ∈ cache.entries := by
  unfold get at h
  split at h
  · exact h
  · rename_i found hfound
    have hothers : ∀ kept ∈ cache.others key, kept ∈ cache.entries := fun kept hkept =>
      (List.mem_filter.mp hkept).1
    split at h
    · exact hothers entry h
    · rcases List.mem_append.mp h with hkept | hlast
      · exact hothers entry hkept
      · rw [List.mem_singleton.mp hlast]
        exact (mem_entries_of_found hfound).1

/-- What is found under a key is in an entry of that key. -/
theorem exists_entry_of_result_get {now : Binary64} {key : String} {cache : Cache α} {value : α}
    (h : (cache.get now key).result = some value) :
    ∃ entry ∈ cache.entries, entry.key = key ∧ entry.value = some value := by
  unfold get at h
  split at h
  · contradiction
  · rename_i found hfound
    obtain ⟨hmem, hkey⟩ := mem_entries_of_found hfound
    split at h
    · contradiction
    · exact ⟨found, hmem, hkey, h⟩

/-- Keeping a value adds its entry and no other. -/
theorem mem_entries_of_mem_set {now : Binary64} {key : String} {value : Option α}
    {cache : Cache α} {entry : CacheEntry α} (h : entry ∈ (cache.set now key value).cache.entries) :
    entry = ⟨key, now, value⟩ ∨ entry ∈ cache.entries := by
  rcases List.mem_append.mp (List.mem_of_mem_drop h) with hkept | hlast
  · exact .inr (List.mem_filter.mp hkept).1
  · exact .inl (List.mem_singleton.mp hlast)

@[simp] theorem hits_get (cache : Cache α) (now : Binary64) (key : String) :
    (cache.get now key).cache.hits = cache.hits := by
  unfold get
  split
  · rfl
  · split <;> rfl

/-- A request that is counted as a hit has found a value, and answers with it. -/
theorem exists_of_hits_getOrCompile {now : Binary64} {key : String}
    {factory : σ → Logged ε (Option α) × σ} {cache : Cache α} {state : σ}
    (h : (perform now (.getOrCompile key factory) cache state).cache.hits = cache.hits + 1) :
    ∃ value, (cache.get now key).result = some value ∧
      (perform now (.getOrCompile key factory) cache state).reply = .value (some value) := by
  cases hfound : (cache.get now key).result with
  | some value =>
    refine ⟨value, rfl, ?_⟩
    simp only [perform, getOrCompile_of_found hfound]
  | none =>
    -- A miss leaves the count of hits as it is.
    have hsame : (perform now (.getOrCompile key factory) cache state).cache.hits = cache.hits := by
      rw [cache_perform_getOrCompile]
      cases hmade : (factory state).1.result with
      | error cause =>
        rw [getOrCompile_of_failed hfound hmade]
        exact hits_get cache now key
      | ok value =>
        rw [getOrCompile_of_made hfound hmade]
        exact hits_get cache now key
    omega

/-- What a look-up answers when entries have no lifetime. -/
theorem result_get_of_lifetime_none {cache : Cache α} (h : cache.limits.lifetime = none)
    (now : Binary64) (key : String) :
    (cache.get now key).result = (cache.entry? key).bind (·.value) := by
  unfold Cache.get
  cases cache.entry? key with
  | none => rfl
  | some entry => simp [CacheLimits.isOver_of_lifetime_none h]

/-! ## Moves -/

/-- The moves that a command comes to.  A value that is asked for is kept when none is found and it
can be made. -/
def movesOf (now : Binary64) (cache : Cache α) (state : σ) :
    CacheCommand σ ε α → List (CacheMove α)
  | .get key => [.lookUp key]
  | .contains key => [.lookUp key]
  | .set key value => [.keep key value]
  | .getOrCompile key factory =>
    match (cache.get now key).result, (factory state).1.result with
    | none, .ok value => [.lookUp key, .keep key value]
    | _, _ => [.lookUp key]
  | .size => [.purge]
  | .stats => [.purge]
  | .display => [.purge]
  | .clear => [.clear]

/-- The entries after a command are those after its moves. -/
theorem entries_perform (now : Binary64) (command : CacheCommand σ ε α) (cache : Cache α)
    (state : σ) :
    (perform now command cache state).cache.entries =
      ((cache.movesOf now state command).foldl (CacheMove.apply now) cache).entries := by
  cases command with
  | getOrCompile key factory =>
    rw [cache_perform_getOrCompile, movesOf]
    cases hfound : (cache.get now key).result with
    | some value =>
      rw [getOrCompile_of_found hfound]
      rfl
    | none =>
      cases hmade : (factory state).1.result with
      | error cause =>
        rw [getOrCompile_of_failed hfound hmade]
        rfl
      | ok value =>
        rw [getOrCompile_of_made hfound hmade]
        rfl
  | _ => rfl

/-! ## Bounds -/

@[simp] theorem limits_apply (now : Binary64) (cache : Cache α) (move : CacheMove α) :
    (move.apply now cache).limits = cache.limits := by
  cases move with
  | lookUp key => exact limits_get cache now key
  | _ => rfl

/-- The bounds of a cache never change. -/
@[simp] theorem limits_perform (now : Binary64) (command : CacheCommand σ ε α) (cache : Cache α)
    (state : σ) : (perform now command cache state).cache.limits = cache.limits := by
  cases command with
  | get key => exact limits_get cache now key
  | set key value => rfl
  | contains key => exact limits_get cache now key
  | size => rfl
  | stats => rfl
  | display => rfl
  | clear => rfl
  | getOrCompile key factory =>
    have hget := limits_get cache now key
    rw [cache_perform_getOrCompile]
    cases hfound : (cache.get now key).result with
    | some value => rw [getOrCompile_of_found hfound, hget]
    | none =>
      cases hmade : (factory state).1.result with
      | error cause => rw [getOrCompile_of_failed hfound hmade, hget]
      | ok value => rw [getOrCompile_of_made hfound hmade, limits_set, hget]

/-- A history keeps the limits. -/
theorem limits_run (cache : Cache α) (state : σ)
    (commands : List (Binary64 × CacheCommand σ ε α)) :
    (run cache state commands).1.limits = cache.limits := by
  induction commands generalizing cache state with
  | nil => rfl
  | cons step rest ih =>
    obtain ⟨now, command⟩ := step
    rw [run_cons, ih, limits_perform]

end Cache

end FieldSchema
