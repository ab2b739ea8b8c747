import FieldSchema.Proofs.Cache.Entries
import Mathlib.Data.Finset.Card
import Mathlib.Data.List.Dedup

/-!
# What a cache without a lifetime keeps

A cache that has no lifetime is governed by recency alone.  Its history is read as a list of
*uses*, the latest first: a value is stored under a key, or a look-up finds a key.  A look-up that
finds nothing is no use, and clearing the cache begins a new list.

## The history and the entries

`CacheUse.recent` lists the keys of a history without repetition, by their last use.  The whole
development is one equation, `Reflects.keys_eq`: read backwards, the keys of the cache are the first
`capacity` of that list.  Every command keeps it, since moving a key to the front and cutting off
behind the capacity can be done in either order (`newest_cons_filter`).

* `CacheUse`, `Cache.usesOf`: the uses that a history of commands makes.
* `Cache.Reflects`, `Cache.reflects_run`: the invariant of a run.
* `CacheUse.mem_take_recent_iff`: the place of a key among the recent ones is the number of other
  keys that were used since.
* `Cache.run_keepsRecent`: the exact contents of the cache after any history.
-/

namespace FieldSchema

/-! ## Uses of keys -/

/-- A use of a key.  A look-up that finds a key is a use whatever is kept there, be it nothing. -/
inductive CacheUse (α : Type) where
  /-- A value is kept under a key. -/
  | stored (key : String) (value : Option α)
  /-- A look-up finds a key. -/
  | found (key : String)

namespace CacheUse

variable {α : Type}

/-- The key that is used. -/
def key : CacheUse α → String
  | .stored key _ => key
  | .found key => key

/-- The keys that were used after the last use of a key, the latest first and with repetitions;
all keys that were used when the key itself never was. -/
def keysAfter (uses : List (CacheUse α)) (key : String) : List String :=
  (uses.map CacheUse.key).takeWhile (· != key)

/-- What was kept last under a key. -/
def lastStored? (key : String) : List (CacheUse α) → Option (Option α)
  | [] => none
  | .stored k value :: earlier => if k = key then some value else lastStored? key earlier
  | .found _ :: earlier => lastStored? key earlier

/-- The keys of uses without repetition, by their last use. -/
def recent : List (CacheUse α) → List String
  | [] => []
  | use :: earlier => use.key :: (recent earlier).filter (· != use.key)

@[simp] theorem recent_nil : recent ([] : List (CacheUse α)) = [] := rfl

@[simp] theorem recent_cons (use : CacheUse α) (earlier : List (CacheUse α)) :
    recent (use :: earlier) = use.key :: (recent earlier).filter (· != use.key) := rfl

theorem keysAfter_cons (use : CacheUse α) (earlier : List (CacheUse α)) (key : String) :
    keysAfter (use :: earlier) key =
      if use.key = key then [] else use.key :: keysAfter earlier key := by
  unfold keysAfter
  rw [List.map_cons, List.takeWhile_cons]
  by_cases h : use.key = key
  · simp [h]
  · simp [h]

/-- The recent keys are those that were used. -/
theorem mem_recent_iff {uses : List (CacheUse α)} {key : String} :
    key ∈ recent uses ↔ key ∈ uses.map CacheUse.key := by
  induction uses with
  | nil => simp
  | cons use earlier ih =>
    rw [recent_cons, List.mem_cons, List.map_cons, List.mem_cons, List.mem_filter, ih]
    by_cases h : key = use.key
    · simp [h]
    · simp [h]

theorem nodup_recent (uses : List (CacheUse α)) : (recent uses).Nodup := by
  induction uses with
  | nil => exact List.nodup_nil
  | cons use earlier ih =>
    rw [recent_cons]
    refine List.nodup_cons.mpr ⟨?_, ih.filter _⟩
    intro h
    simpa using (List.mem_filter.mp h).2

/-- The keys before a key among the recent ones are those that were used after it. -/
theorem toFinset_takeWhile_recent (uses : List (CacheUse α)) (key : String) :
    ((recent uses).takeWhile (· != key)).toFinset = (keysAfter uses key).toFinset := by
  induction uses with
  | nil => rfl
  | cons use earlier ih =>
    rw [recent_cons, keysAfter_cons, List.takeWhile_cons]
    by_cases h : use.key = key
    · simp [h]
    · have hswap : ((recent earlier).filter (· != use.key)).takeWhile (· != key) =
          ((recent earlier).takeWhile (· != key)).filter (· != use.key) := by
        rw [List.takeWhile_filter]
        congr 2
        funext k
        by_cases hk : k = use.key
        · simp [hk, h]
        · simp [hk]
      have hne : (use.key != key) = true := by simpa using h
      rw [if_pos hne, if_neg h, hswap, List.toFinset_cons, List.toFinset_cons, List.toFinset_filter,
        ih]
      ext k
      by_cases hk : k = use.key
      · simp [hk]
      · simp [hk]

/-- **The place of a key.**  A key is among the first few of the recent ones exactly when it was
used and fewer than so many other keys were used after it. -/
theorem mem_take_recent_iff {uses : List (CacheUse α)} {key : String} {count : Nat} :
    key ∈ (recent uses).take count ↔
      key ∈ recent uses ∧ (keysAfter uses key).toFinset.card < count := by
  have hplace : (keysAfter uses key).toFinset.card = (recent uses).idxOf key := by
    have hnodup : ((recent uses).takeWhile (· != key)).Nodup :=
      (nodup_recent uses).sublist (List.takeWhile_sublist _)
    rw [← toFinset_takeWhile_recent, List.toFinset_card_of_nodup hnodup]
    generalize recent uses = keys
    induction keys with
    | nil => rfl
    | cons k rest ih =>
      rw [List.takeWhile_cons, List.idxOf_cons]
      by_cases h : k = key
      · simp [h]
      · have hbeq : (k == key) = false := by simpa using h
        simp [h, hbeq, ih]
  constructor
  · intro h
    have hmem := List.mem_of_mem_take h
    exact ⟨hmem, hplace ▸ (List.mem_take_iff_idxOf_lt hmem).mp h⟩
  · rintro ⟨hmem, hlt⟩
    exact (List.mem_take_iff_idxOf_lt hmem).mpr (hplace ▸ hlt)

/-- Of two recent keys the first one was used after the last use of the other. -/
theorem pairwise_recent (uses : List (CacheUse α)) :
    (recent uses).Pairwise fun later earlier => later ∈ keysAfter uses earlier := by
  induction uses with
  | nil => exact List.Pairwise.nil
  | cons use earlier ih =>
    rw [recent_cons]
    refine List.pairwise_cons.mpr ⟨?_, ?_⟩
    · intro k hk
      have hne : k ≠ use.key := by simpa using (List.mem_filter.mp hk).2
      rw [keysAfter_cons, if_neg (Ne.symm hne)]
      exact List.mem_cons_self ..
    · refine (ih.sublist (List.filter_sublist ..)).imp_of_mem ?_
      intro a b _ hb hab
      have hne : b ≠ use.key := by simpa using (List.mem_filter.mp hb).2
      rw [keysAfter_cons, if_neg (Ne.symm hne)]
      exact List.mem_cons_of_mem _ hab

end CacheUse

/-! ## Cutting off behind the capacity -/

namespace CacheLimits

/-- The keys that a cache has room for, of keys from the most to the least recently used. -/
def newest (limits : CacheLimits) (keys : List String) : List String :=
  match limits.capacity with
  | some capacity => keys.take capacity
  | none => keys

theorem mem_of_mem_newest {limits : CacheLimits} {keys : List String} {key : String}
    (h : key ∈ limits.newest keys) : key ∈ keys := by
  unfold newest at h
  split at h
  · exact List.mem_of_mem_take h
  · exact h

/-- Of keys without repetition, all but one are the same within a bound when one more was let
pass before. -/
theorem take_filter_take {keys : List String} (hnodup : keys.Nodup) (key : String) (count : Nat) :
    ((keys.take (count + 1)).filter (· != key)).take count =
      (keys.filter (· != key)).take count := by
  induction keys generalizing count with
  | nil => simp
  | cons k rest ih =>
    obtain ⟨hk, hrest⟩ := List.nodup_cons.mp hnodup
    rw [List.take_succ_cons]
    by_cases hkey : k = key
    · subst hkey
      have hall : ∀ l : List String, k ∉ l → l.filter (· != k) = l := by
        intro l hl
        refine List.filter_eq_self.mpr fun a ha => ?_
        simpa using fun hak : a = k => hl (hak ▸ ha)
      rw [List.filter_cons, List.filter_cons, if_neg (by simp), if_neg (by simp), hall rest hk,
        hall _ fun hmem => hk (List.mem_of_mem_take hmem), List.take_take, Nat.min_self]
    · have hpos : (k != key) = true := by simpa using hkey
      rw [List.filter_cons, List.filter_cons, if_pos hpos, if_pos hpos]
      cases count with
      | zero => rfl
      | succ count => rw [List.take_succ_cons, List.take_succ_cons, ih hrest]

/-- **Moving and cutting off.**  A key moves to the front of the newest keys in the same way
whether or not the others were cut off before. -/
theorem newest_cons_filter (limits : CacheLimits) {keys : List String} (hnodup : keys.Nodup)
    (key : String) :
    limits.newest (key :: (limits.newest keys).filter (· != key)) =
      limits.newest (key :: keys.filter (· != key)) := by
  unfold newest
  cases limits.capacity with
  | none => rfl
  | some capacity =>
    cases capacity with
    | zero => rfl
    | succ count => simp only [List.take_succ_cons, take_filter_take hnodup]

/-- When the key is among the newest ones already, nothing has to be cut off. -/
theorem newest_cons_filter_of_mem (limits : CacheLimits) {keys : List String} {key : String}
    (h : key ∈ limits.newest keys) :
    limits.newest (key :: (limits.newest keys).filter (· != key)) =
      key :: (limits.newest keys).filter (· != key) := by
  unfold newest at h ⊢
  cases hcap : limits.capacity with
  | none => rfl
  | some capacity =>
    simp only [hcap] at h
    have hlt : ((keys.take capacity).filter (· != key)).length < (keys.take capacity).length :=
      List.length_filter_lt_length_iff_exists.mpr ⟨key, h, by simp⟩
    refine List.take_of_length_le ?_
    rw [List.length_cons]
    exact Nat.le_trans hlt (List.length_take_le ..)

end CacheLimits

/-! ## Histories of commands -/

namespace Cache

variable {σ ε α : Type}

/-- The use that a look-up of a key makes, if it finds the key. -/
def lookupUse (cache : Cache α) (key : String) : List (CacheUse α) :=
  if key ∈ cache.keys then [.found key] else []

/-- The uses after a command, given those before it.  A value that is asked for and not there is
stored when it can be made. -/
def usesAfter (cache : Cache α) (state : σ) (uses : List (CacheUse α)) :
    CacheCommand σ ε α → List (CacheUse α)
  | .get key => cache.lookupUse key ++ uses
  | .contains key => cache.lookupUse key ++ uses
  | .set key value => .stored key value :: uses
  | .getOrCompile key factory =>
    match (cache.entry? key).bind (·.value), (factory state).1.result with
    | none, .ok value => .stored key value :: (cache.lookupUse key ++ uses)
    | _, _ => cache.lookupUse key ++ uses
  | .size => uses
  | .stats => uses
  | .display => uses
  | .clear => []

/-- The uses after commands, each at its time. -/
def usesOf (cache : Cache α) (state : σ) (uses : List (CacheUse α)) :
    List (Binary64 × CacheCommand σ ε α) → List (CacheUse α)
  | [] => uses
  | (now, command) :: rest =>
    let turn := perform now command cache state
    usesOf turn.cache turn.state (usesAfter cache state uses command) rest

/-! ## The invariant -/

/-- The entries of a cache are those that its uses leave. -/
structure Reflects (cache : Cache α) (uses : List (CacheUse α)) : Prop where
  /-- Read backwards, the keys are the most recent ones. -/
  keys_eq : cache.keys.reverse = cache.limits.newest (CacheUse.recent uses)
  /-- Every entry holds what was stored last. -/
  value_eq : ∀ entry ∈ cache.entries, CacheUse.lastStored? entry.key uses = some entry.value
  /-- Every key that was used was stored. -/
  stored : ∀ key ∈ uses.map CacheUse.key, ∃ value, .stored key value ∈ uses

namespace Reflects

variable {cache : Cache α} {uses : List (CacheUse α)}

theorem empty (limits : CacheLimits) : Reflects (⟨limits, [], 0, 0⟩ : Cache α) [] where
  keys_eq := by
    rw [CacheUse.recent_nil, CacheLimits.newest]
    cases limits.capacity with
    | none => rfl
    | some capacity => exact List.take_nil.symm
  value_eq := fun _ h => absurd h List.not_mem_nil
  stored := fun _ h => absurd h List.not_mem_nil

/-- Counting hits and misses does not change what is kept. -/
theorem counted (h : Reflects cache uses) (hits misses : Nat) :
    Reflects { cache with hits := hits, misses := misses } uses :=
  ⟨h.keys_eq, h.value_eq, h.stored⟩

/-- A look-up that finds a key moves its entry to the end. -/
theorem moved (h : Reflects cache uses) {key : String} {entry : CacheEntry α}
    (hentry : cache.entry? key = some entry) :
    Reflects { cache with entries := cache.others key ++ [entry] } (.found key :: uses) where
  keys_eq := by
    obtain ⟨hmem, hkey⟩ := mem_entries_of_found hentry
    have hin : key ∈ cache.limits.newest (CacheUse.recent uses) := by
      rw [← h.keys_eq, List.mem_reverse, mem_keys_iff]
      exact ⟨entry, hentry⟩
    have hkeys : (cache.others key ++ [entry]).map (·.key) =
        cache.keys.filter (· != key) ++ [key] := by
      rw [List.map_append, map_key_others, List.map_singleton, hkey]
    calc ((cache.others key ++ [entry]).map (·.key)).reverse
        = key :: (cache.keys.reverse).filter (· != key) := by
          rw [hkeys, List.reverse_append, List.reverse_singleton, List.singleton_append,
            List.filter_reverse]
      _ = cache.limits.newest (key :: (CacheUse.recent uses).filter (· != key)) := by
          rw [h.keys_eq, ← CacheLimits.newest_cons_filter_of_mem _ hin,
            CacheLimits.newest_cons_filter _ (CacheUse.nodup_recent uses)]
  value_eq := by
    intro other hother
    rw [List.mem_append, List.mem_singleton] at hother
    rcases hother with hother | rfl
    · exact h.value_eq other (List.mem_filter.mp hother).1
    · exact h.value_eq other (mem_entries_of_found hentry).1
  stored := by
    intro k hk
    have hused : k ∈ uses.map CacheUse.key := by
      rw [List.map_cons, List.mem_cons] at hk
      rcases hk with hk | hk
      · rw [← CacheUse.mem_recent_iff, hk]
        have hin : key ∈ cache.limits.newest (CacheUse.recent uses) := by
          rw [← h.keys_eq, List.mem_reverse, mem_keys_iff]
          exact ⟨entry, hentry⟩
        exact CacheLimits.mem_of_mem_newest hin
      · exact hk
    obtain ⟨value, hvalue⟩ := h.stored k hused
    exact ⟨value, List.mem_cons_of_mem _ hvalue⟩

/-- A value that is kept comes last, and what is above the capacity goes first. -/
theorem set (h : Reflects cache uses) (now : Binary64) (key : String) (value : Option α) :
    Reflects (cache.set now key value).cache (.stored key value :: uses) where
  keys_eq := by
    let entries := cache.others key ++ [⟨key, now, value⟩]
    have hkeys : (entries.map (·.key)).reverse = key :: (cache.keys.reverse).filter (· != key) := by
      rw [List.map_append, map_key_others, List.map_singleton, List.reverse_append,
        List.reverse_singleton, List.singleton_append, List.filter_reverse]
    have hcut : ∀ keys : List String,
        (keys.drop (cache.limits.excess keys.length)).reverse =
          cache.limits.newest keys.reverse := by
      intro keys
      rw [List.reverse_drop, CacheLimits.excess, CacheLimits.newest]
      cases cache.limits.capacity with
      | none => exact List.take_of_length_le (by rw [List.length_reverse]; exact Nat.le_refl _)
      | some capacity =>
        refine List.take_eq_take_iff.mpr ?_
        simp only [List.length_reverse]
        omega
    calc ((entries.drop (cache.limits.excess entries.length)).map (·.key)).reverse
        = cache.limits.newest (entries.map (·.key)).reverse := by
          rw [List.map_drop, ← hcut, List.length_map]
      _ = cache.limits.newest (key :: (CacheUse.recent uses).filter (· != key)) := by
          rw [hkeys, h.keys_eq, CacheLimits.newest_cons_filter _ (CacheUse.nodup_recent uses)]
  value_eq := by
    intro other hother
    have hother := List.mem_of_mem_drop hother
    rw [List.mem_append, List.mem_singleton] at hother
    rcases hother with hother | rfl
    · obtain ⟨hmem, hne⟩ := List.mem_filter.mp hother
      have hne : key ≠ other.key := Ne.symm (by simpa using hne)
      rw [CacheUse.lastStored?, if_neg hne]
      exact h.value_eq other hmem
    · rw [CacheUse.lastStored?, if_pos rfl]
  stored := by
    intro k hk
    rw [List.map_cons, List.mem_cons] at hk
    rcases hk with rfl | hk
    · exact ⟨value, List.mem_cons_self ..⟩
    · obtain ⟨v, hv⟩ := h.stored k hk
      exact ⟨v, List.mem_cons_of_mem _ hv⟩

/-- A look-up in a cache without a lifetime is a use when it finds its key, and nothing else. -/
theorem get (h : Reflects cache uses) (hlifetime : cache.limits.lifetime = none) (now : Binary64)
    (key : String) : Reflects (cache.get now key).cache (cache.lookupUse key ++ uses) := by
  unfold Cache.get lookupUse
  cases hentry : cache.entry? key with
  | none =>
    rw [if_neg (entry?_eq_none_iff.mp hentry)]
    exact h
  | some entry =>
    have hkey : key ∈ cache.keys := mem_keys_iff.mpr ⟨entry, hentry⟩
    simp only [CacheLimits.isOver_of_lifetime_none hlifetime, if_pos hkey]
    exact h.moved hentry

/-- Nothing is removed for its age. -/
theorem purge (h : Reflects cache uses) (hlifetime : cache.limits.lifetime = none)
    (now : Binary64) : Reflects (cache.purge now) uses := by
  have hsame : cache.purge now = cache := by
    simp [Cache.purge, CacheLimits.isOver_of_lifetime_none hlifetime]
  rw [hsame]
  exact h

end Reflects

/-- **One command.**  Whatever is asked of a cache without a lifetime, its entries are afterwards
what the uses leave. -/
theorem reflects_perform {cache : Cache α} {uses : List (CacheUse α)} (h : Reflects cache uses)
    (hlifetime : cache.limits.lifetime = none) (now : Binary64) (command : CacheCommand σ ε α)
    (state : σ) :
    Reflects (perform now command cache state).cache (usesAfter cache state uses command) := by
  cases command with
  | get key => exact h.get hlifetime now key
  | set key value => exact h.set now key value
  | contains key => exact h.get hlifetime now key
  | size => exact h.purge hlifetime now
  | stats => exact h.purge hlifetime now
  | display => exact h.purge hlifetime now
  | clear => exact Reflects.empty cache.limits
  | getOrCompile key factory =>
    have hget := h.get hlifetime now key
    have hanswer := result_get_of_lifetime_none hlifetime now key
    rw [cache_perform_getOrCompile, usesAfter, ← hanswer]
    cases hfound : (cache.get now key).result with
    | some value =>
      rw [getOrCompile_of_found hfound]
      exact hget.counted _ _
    | none =>
      -- the look-up comes first, so a value that is made is stored in the cache it leaves
      cases hmade : (factory state).1.result with
      | error cause =>
        rw [getOrCompile_of_failed hfound hmade]
        exact hget.counted _ _
      | ok value =>
        rw [getOrCompile_of_made hfound hmade]
        exact (hget.counted _ _).set now key value

/-- A whole history. -/
theorem reflects_run {cache : Cache α} {uses : List (CacheUse α)} (h : Reflects cache uses)
    (hlifetime : cache.limits.lifetime = none) (state : σ)
    (commands : List (Binary64 × CacheCommand σ ε α)) :
    Reflects (run cache state commands).1 (usesOf cache state uses commands) := by
  induction commands generalizing cache state uses with
  | nil => exact h
  | cons step rest ih =>
    obtain ⟨now, command⟩ := step
    rw [run_cons, usesOf]
    refine ih (reflects_perform h hlifetime now command state) ?_ _
    rw [limits_perform]
    exact hlifetime

/-! ## The exact contents -/

/-- A cache keeps exactly what was used most recently. -/
structure KeepsRecent (cache : Cache α) (uses : List (CacheUse α)) : Prop where
  nodup : cache.keys.Nodup
  length_le : ∀ capacity, cache.limits.capacity = some capacity → cache.keys.length ≤ capacity
  /-- Of two keys the second one was used after the last use of the first. -/
  ordered : cache.keys.Pairwise fun earlier later => later ∈ CacheUse.keysAfter uses earlier
  /-- A key is kept when it was stored and fewer other keys than there is room for were used after
  its own last use. -/
  mem_iff : ∀ key, key ∈ cache.keys ↔
    (∃ value, .stored key value ∈ uses) ∧
      ∀ capacity, cache.limits.capacity = some capacity →
        (CacheUse.keysAfter uses key).toFinset.card < capacity
  /-- What is kept under a key is what was stored there last. -/
  value_eq : ∀ key entry, cache.entry? key = some entry →
    CacheUse.lastStored? key uses = some entry.value

theorem Reflects.keepsRecent {cache : Cache α} {uses : List (CacheUse α)}
    (h : Reflects cache uses) : KeepsRecent cache uses := by
  have hsub : cache.keys.reverse.Sublist (CacheUse.recent uses) := by
    rw [h.keys_eq, CacheLimits.newest]
    split
    · exact List.take_sublist ..
    · exact List.Sublist.refl _
  have hused : ∀ key, key ∈ CacheUse.recent uses ↔ ∃ value, .stored key value ∈ uses := by
    intro key
    rw [CacheUse.mem_recent_iff]
    refine ⟨h.stored key, ?_⟩
    rintro ⟨value, hvalue⟩
    exact List.mem_map.mpr ⟨_, hvalue, rfl⟩
  have hmem : ∀ key, key ∈ cache.keys ↔ key ∈ cache.limits.newest (CacheUse.recent uses) := by
    intro key
    rw [← h.keys_eq, List.mem_reverse]
  refine ⟨?_, ?_, ?_, ?_, ?_⟩
  · exact List.nodup_reverse.mp ((CacheUse.nodup_recent uses).sublist hsub)
  · intro capacity hcap
    have hlen := congrArg List.length h.keys_eq
    rw [List.length_reverse, CacheLimits.newest, hcap] at hlen
    rw [hlen]
    exact List.length_take_le ..
  · exact List.pairwise_reverse.mp ((CacheUse.pairwise_recent uses).sublist hsub)
  · intro key
    rw [hmem, CacheLimits.newest, ← hused]
    cases hcap : cache.limits.capacity with
    | none => simp
    | some capacity => simp [CacheUse.mem_take_recent_iff]
  · intro key entry hentry
    obtain ⟨hin, rfl⟩ := mem_entries_of_found hentry
    exact h.value_eq entry hin

/-- **Exactly the recent keys.**  After any history of a cache without a lifetime its limits are as
before, and its keys are different from each other, no more than it has room for, and ordered by
their last use; a key is among them if and only if it was stored since the cache was last cleared
and fewer different keys than there is room for were used after its own last use; and it holds what
was stored there last. -/
theorem run_keepsRecent (limits : CacheLimits) (hlifetime : limits.lifetime = none) (state : σ)
    (commands : List (Binary64 × CacheCommand σ ε α)) :
    (run (⟨limits, [], 0, 0⟩ : Cache α) state commands).1.limits = limits ∧
      KeepsRecent (run (⟨limits, [], 0, 0⟩ : Cache α) state commands).1
        (usesOf (⟨limits, [], 0, 0⟩ : Cache α) state [] commands) :=
  ⟨limits_run _ state commands,
    (reflects_run (Reflects.empty limits) hlifetime state commands).keepsRecent⟩

/-- A history of a cache with room for two keys: nothing is kept under the second one at first, a
value for the third one cannot be made, and then is given. -/
def crowdedHistory : List (Binary64 × CacheCommand Unit Unit Nat) :=
  [.set "a" (some 1), .set "b" none, .contains "a", .getOrCompile "c" fun _ => (.fail (), ()),
    .getOrCompile "b" fun _ => (.ok (some 2), ()), .get "d", .set "c" (some 3)].map
      fun command => (.zero, command)

/-- The key that was looked up last and then made is kept, the one looked up before it goes. -/
theorem run_keepsRecent_crowded :
    let limits : CacheLimits := ⟨some 2, none, .int 2, .null⟩
    let start : Cache Nat := ⟨limits, [], 0, 0⟩
    limits.lifetime = none ∧
      KeepsRecent (run start () crowdedHistory).1 (usesOf start () [] crowdedHistory) ∧
      (run start () crowdedHistory).1.keys = ["b", "c"] :=
  ⟨rfl, (run_keepsRecent ⟨some 2, none, .int 2, .null⟩ rfl () crowdedHistory).2, by decide⟩

end Cache

end FieldSchema
