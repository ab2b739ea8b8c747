import FieldSchema.Proofs.Cache.Entries
import Mathlib.Data.List.Nodup

/-!
# A smaller cache inside a larger one

Two caches without a lifetime are asked the same, and one has room for fewer entries than the
other.  The smaller one then keeps the last of the keys that the larger one keeps, in the same
order, and as many of them as it has room for.

The two runs are not alike.  A value that the smaller cache had to evict is found in the larger one
and made again for the smaller one, so that what makes values is called at different times in the
two runs, and the values in the two caches differ.  Even a key that both caches keep may be found in
one of them only, since nothing may be kept under it.

## Keys and moves

What a move does to the keys does not depend on the values (`CacheLimits.keysAfter`).  Keeping a
value under a key that is there already is the same move for the keys as looking it up
(`CacheLimits.foldl_keysAfter_keep`).  So when only one of the caches has to make a value, the
other one may be thought of as doing so, too, and the relation between the keys has to be shown only
for the same move on both sides (`CacheLimits.Nested.move`).

There is one thing that the two runs have to share: when both of them make the value for one
command, it is made in both or fails in both (`Cache.MakesAlike`).  Without it the larger cache may
be left without a key that the smaller one keeps, even if the same is called in both runs
(`Cache.run_not_nested`): what fails the third time it is called fails for different commands when
it is called more often in one of the runs.

* `CacheLimits.Within`: the bounds of the smaller cache and those of the larger one.
* `CacheLimits.Nested`: the relation between the keys.
* `Cache.run_nested`: the relation after every command of a run.
-/

namespace FieldSchema

/-! ## Keys -/

namespace CacheLimits

variable {α : Type} {limits small large : CacheLimits}

/-- As many of a number of entries as there is room for. -/
def atMost (limits : CacheLimits) (count : Nat) : Nat :=
  match limits.capacity with
  | some capacity => min capacity count
  | none => count

/-- The keys after a key was used, which is the last one then. -/
def moveToEnd (key : String) (keys : List String) : List String := keys.filter (· != key) ++ [key]

/-- The keys after a move of a cache without a lifetime. -/
def keysAfter (limits : CacheLimits) (keys : List String) : CacheMove α → List String
  | .lookUp key => if key ∈ keys then moveToEnd key keys else keys
  | .keep key _ => (moveToEnd key keys).drop (limits.excess (moveToEnd key keys).length)
  | .purge => keys
  | .clear => []

theorem filter_ne_of_notMem {keys : List String} {key : String} (h : key ∉ keys) :
    keys.filter (· != key) = keys := by
  refine List.filter_eq_self.mpr fun k hk => ?_
  have hne : k ≠ key := fun hsame => h (hsame ▸ hk)
  simpa using hne

theorem moveToEnd_moveToEnd (keys : List String) (key : String) :
    moveToEnd key (moveToEnd key keys) = moveToEnd key keys := by
  simp [moveToEnd, List.filter_append, List.filter_filter]

theorem nodup_moveToEnd {keys : List String} (h : keys.Nodup) (key : String) :
    (moveToEnd key keys).Nodup := by
  have hlast : key ∉ keys.filter (· != key) := by simp
  have hconcat := (h.filter (· != key)).concat hlast
  rwa [List.concat_eq_append] at hconcat

/-- A key that is moved is not counted twice. -/
theorem length_moveToEnd {keys : List String} (h : keys.Nodup) (key : String) :
    (moveToEnd key keys).length = if key ∈ keys then keys.length else keys.length + 1 := by
  rw [moveToEnd, List.length_append, List.length_singleton]
  split
  · rename_i hmem
    have herase : keys.filter (· != key) = keys.erase key := (h.erase_eq_filter key).symm
    have hpos : 0 < keys.length := List.length_pos_of_mem hmem
    rw [herase, List.length_erase_of_mem hmem]
    omega
  · rename_i hmem
    rw [filter_ne_of_notMem hmem]

/-- To keep a value under a key that is there already changes no more than to look it up. -/
theorem foldl_keysAfter_keep {keys : List String} {key : String} (hmem : key ∈ keys)
    (hnodup : keys.Nodup) (hroom : limits.excess keys.length = 0) (value : Option α) :
    [CacheMove.lookUp key, .keep key value].foldl limits.keysAfter keys =
      [(CacheMove.lookUp key : CacheMove α)].foldl limits.keysAfter keys := by
  have hlength : (moveToEnd key keys).length = keys.length := by
    rw [length_moveToEnd hnodup, if_pos hmem]
  simp only [List.foldl_cons, List.foldl_nil, keysAfter, if_pos hmem]
  rw [moveToEnd_moveToEnd, hlength, hroom, List.drop_zero]

/-! ## Numbers of entries -/

/-- The bounds of a smaller cache and those of a larger one, which may have none. -/
def Within (small large : CacheLimits) : Prop :=
  ∀ count, large.capacity = some count → ∃ fewer, small.capacity = some fewer ∧ fewer ≤ count

theorem length_drop_excess (limits : CacheLimits) (keys : List String) :
    (keys.drop (limits.excess keys.length)).length = limits.atMost keys.length := by
  rw [List.length_drop, excess, atMost]
  cases limits.capacity with
  | none => rfl
  | some capacity =>
    dsimp only
    omega

theorem excess_atMost (limits : CacheLimits) (count : Nat) :
    limits.excess (limits.atMost count) = 0 := by
  rw [excess, atMost]
  cases limits.capacity with
  | none => rfl
  | some capacity =>
    dsimp only
    omega

theorem atMost_atMost_self (limits : CacheLimits) (count : Nat) :
    limits.atMost (limits.atMost count) = limits.atMost count := by
  unfold atMost
  cases limits.capacity with
  | none => rfl
  | some capacity =>
    dsimp only
    omega

/-- One entry more makes no difference where there is no room for it. -/
theorem atMost_succ (limits : CacheLimits) (count : Nat) :
    limits.atMost (limits.atMost count + 1) = limits.atMost (count + 1) := by
  unfold atMost
  cases limits.capacity with
  | none => rfl
  | some capacity =>
    dsimp only
    omega

theorem atMost_succ_of_lt {count : Nat} (h : limits.atMost count < count) :
    limits.atMost (limits.atMost count + 1) = limits.atMost count := by
  unfold atMost at h ⊢
  cases hcapacity : limits.capacity with
  | none =>
    rw [hcapacity] at h
    exact absurd h (Nat.lt_irrefl count)
  | some capacity =>
    rw [hcapacity] at h
    dsimp only at h ⊢
    omega

theorem atMost_atMost (hwithin : small.Within large) (count : Nat) :
    small.atMost (large.atMost count) = small.atMost count := by
  unfold atMost
  cases hlarge : large.capacity with
  | none => rfl
  | some capacity =>
    obtain ⟨fewer, hfewer, hle⟩ := hwithin capacity hlarge
    rw [hfewer]
    dsimp only
    omega

/-- The entry that is too much for the larger cache is too much for the smaller one. -/
theorem excess_succ_atMost (hwithin : small.Within large) {count : Nat}
    (hroom : large.excess count = 0) (hexcess : large.excess (count + 1) ≠ 0) :
    large.excess (count + 1) = 1 ∧ small.excess (small.atMost count + 1) = 1 := by
  unfold excess atMost at *
  cases hlarge : large.capacity with
  | none =>
    rw [hlarge] at hexcess
    contradiction
  | some capacity =>
    obtain ⟨fewer, hfewer, hle⟩ := hwithin capacity hlarge
    rw [hlarge] at hroom hexcess
    rw [hfewer]
    dsimp only at hroom hexcess ⊢
    omega

/-! ## Nested keys -/

/-- The keys of a smaller cache are the ones used last of those of a larger one. -/
structure Nested (small large : CacheLimits) (keys keys' : List String) : Prop where
  sublist : keys.Sublist keys'
  length_eq : keys.length = small.atMost keys'.length
  nodup : keys'.Nodup
  hasRoom : large.excess keys'.length = 0

namespace Nested

variable {keys keys' : List String}

theorem nil (small large : CacheLimits) : Nested small large [] [] where
  sublist := List.Sublist.refl []
  length_eq := by
    have hnone := small.length_drop_excess []
    rwa [List.drop_nil] at hnone
  nodup := List.nodup_nil
  hasRoom := Nat.eq_zero_of_le_zero (large.excess_le 0)

/-- A key that only the larger cache keeps is one that the smaller one has no room for. -/
theorem length_lt (h : Nested small large keys keys') {key : String} (hmem : key ∈ keys')
    (hnot : key ∉ keys) : keys.length < keys'.length := by
  refine Nat.lt_of_le_of_ne h.sublist.length_le fun hlength => hnot ?_
  rw [h.sublist.eq_of_length hlength]
  exact hmem

theorem sublist_moveToEnd (h : Nested small large keys keys') (key : String) :
    (moveToEnd key keys).Sublist (moveToEnd key keys') :=
  (h.sublist.filter _).append (List.Sublist.refl [key])

/-- A look-up, which may find the key in the larger cache only. -/
theorem lookUp (h : Nested small large keys keys') (key : String) :
    Nested small large (small.keysAfter keys (.lookUp key : CacheMove α))
      (large.keysAfter keys' (.lookUp key : CacheMove α)) := by
  rw [keysAfter, keysAfter]
  by_cases hlarge : key ∈ keys'
  · have hlength' : (moveToEnd key keys').length = keys'.length := by
      rw [length_moveToEnd h.nodup, if_pos hlarge]
    rw [if_pos hlarge]
    by_cases hsmall : key ∈ keys
    · have hlength : (moveToEnd key keys).length = keys.length := by
        rw [length_moveToEnd (h.nodup.sublist h.sublist), if_pos hsmall]
      rw [if_pos hsmall]
      exact ⟨h.sublist_moveToEnd key, by rw [hlength, hlength', h.length_eq],
        nodup_moveToEnd h.nodup key, by rw [hlength', h.hasRoom]⟩
    · have hsublist : keys.Sublist (moveToEnd key keys') := by
        have hfilter := h.sublist.filter (· != key)
        rw [filter_ne_of_notMem hsmall] at hfilter
        exact hfilter.trans (List.sublist_append_left _ _)
      rw [if_neg hsmall]
      exact ⟨hsublist, by rw [hlength', h.length_eq], nodup_moveToEnd h.nodup key,
        by rw [hlength', h.hasRoom]⟩
  · have hsmall : key ∉ keys := fun hmem => hlarge (h.sublist.subset hmem)
    rw [if_neg hsmall, if_neg hlarge]
    exact h

/-- Both caches keep as many keys as they have room for when a value is kept. -/
theorem atMost_length_moveToEnd (h : Nested small large keys keys') (key : String) :
    small.atMost (moveToEnd key keys).length = small.atMost (moveToEnd key keys').length := by
  rw [length_moveToEnd h.nodup, length_moveToEnd (h.nodup.sublist h.sublist)]
  by_cases hlarge : key ∈ keys'
  · rw [if_pos hlarge]
    by_cases hsmall : key ∈ keys
    · rw [if_pos hsmall, h.length_eq, atMost_atMost_self]
    · have hlt := h.length_lt hlarge hsmall
      rw [h.length_eq] at hlt
      rw [if_neg hsmall, h.length_eq, atMost_succ_of_lt hlt]
  · have hsmall : key ∉ keys := fun hmem => hlarge (h.sublist.subset hmem)
    rw [if_neg hsmall, if_neg hlarge, h.length_eq, atMost_succ]

/-- When the larger cache has to evict a key, both of them evict one. -/
theorem excess_eq_one (hwithin : small.Within large) (h : Nested small large keys keys')
    {key : String} (hexcess : large.excess (moveToEnd key keys').length ≠ 0) :
    large.excess (moveToEnd key keys').length = 1 ∧
      small.excess (moveToEnd key keys).length = 1 := by
  have hlarge : key ∉ keys' := by
    intro hmem
    rw [length_moveToEnd h.nodup, if_pos hmem] at hexcess
    exact hexcess h.hasRoom
  have hsmall : key ∉ keys := fun hmem => hlarge (h.sublist.subset hmem)
  rw [length_moveToEnd h.nodup, if_neg hlarge] at hexcess ⊢
  rw [length_moveToEnd (h.nodup.sublist h.sublist), if_neg hsmall, h.length_eq]
  exact excess_succ_atMost hwithin h.hasRoom hexcess

/-- A value that both caches keep. -/
theorem keep (hwithin : small.Within large) (h : Nested small large keys keys') (key : String)
    (value : Option α) :
    Nested small large (small.keysAfter keys (.keep key value))
      (large.keysAfter keys' (.keep key value)) := by
  rw [keysAfter, keysAfter]
  refine ⟨?_, ?_, (nodup_moveToEnd h.nodup key).sublist (List.drop_sublist ..), ?_⟩
  · by_cases hexcess : large.excess (moveToEnd key keys').length = 0
    · rw [hexcess, List.drop_zero]
      exact (List.drop_sublist ..).trans (h.sublist_moveToEnd key)
    · obtain ⟨hone, hone'⟩ := h.excess_eq_one hwithin hexcess
      rw [hone, hone']
      exact (h.sublist_moveToEnd key).drop 1
  · rw [length_drop_excess, length_drop_excess, atMost_atMost hwithin, h.atMost_length_moveToEnd]
  · rw [length_drop_excess, excess_atMost]

/-- **One move.**  The same move keeps nested keys nested. -/
theorem move (hwithin : small.Within large) (h : Nested small large keys keys')
    (move : CacheMove α) :
    Nested small large (small.keysAfter keys move) (large.keysAfter keys' move) := by
  cases move with
  | lookUp key => exact h.lookUp key
  | keep key value => exact h.keep hwithin key value
  | purge => exact h
  | clear => exact nil small large

theorem moves (hwithin : small.Within large) (h : Nested small large keys keys')
    (moves : List (CacheMove α)) :
    Nested small large (moves.foldl small.keysAfter keys) (moves.foldl large.keysAfter keys') := by
  induction moves generalizing keys keys' with
  | nil => exact h
  | cons move rest ih => exact ih (h.move hwithin move)

end Nested

end CacheLimits

/-! ## Runs -/

/-- Whether a value can be made does not depend on the state in which it is asked for. -/
def CacheCommand.IsSteady {σ ε α : Type} : CacheCommand σ ε α → Prop
  | .getOrCompile _ factory => ∀ first second,
      (factory first).1.result.isOk = (factory second).1.result.isOk
  | _ => True

namespace Cache

variable {σ ε α : Type} {now : Binary64} {cache small large : Cache α} {state first second : σ}

/-! ### The keys of a cache -/

theorem keys_apply (hlifetime : cache.limits.lifetime = none) (move : CacheMove α) :
    (move.apply now cache).keys = cache.limits.keysAfter cache.keys move := by
  cases move with
  | lookUp key =>
    rw [CacheMove.apply, get, CacheLimits.keysAfter]
    cases hentry : cache.entry? key with
    | none => rw [if_neg (entry?_eq_none_iff.mp hentry)]
    | some entry =>
      have hmem : key ∈ cache.keys := mem_keys_iff.mpr ⟨entry, hentry⟩
      have hkeys : (cache.others key ++ [entry]).map (·.key) =
          CacheLimits.moveToEnd key cache.keys := by
        rw [List.map_append, map_key_others, List.map_singleton, (mem_entries_of_found hentry).2]
        rfl
      simp only [CacheLimits.isOver_of_lifetime_none hlifetime, if_pos hmem]
      exact hkeys
  | keep key value =>
    have hkeys : (cache.others key ++ [CacheEntry.mk key now value]).map (·.key) =
        CacheLimits.moveToEnd key cache.keys := by
      rw [List.map_append, map_key_others]
      rfl
    rw [CacheMove.apply, CacheLimits.keysAfter, ← hkeys, List.length_map]
    exact List.map_drop ..
  | purge =>
    rw [CacheMove.apply, CacheLimits.keysAfter, purge]
    simp [CacheLimits.isOver_of_lifetime_none hlifetime]
  | clear => rfl

theorem keys_foldl_apply (hlifetime : cache.limits.lifetime = none) (moves : List (CacheMove α)) :
    (moves.foldl (CacheMove.apply now) cache).keys =
      moves.foldl cache.limits.keysAfter cache.keys := by
  induction moves generalizing cache with
  | nil => rfl
  | cons move rest ih =>
    rw [List.foldl_cons, List.foldl_cons, ih (by rw [limits_apply, hlifetime]), limits_apply,
      keys_apply hlifetime]

/-- What a command does to the keys of a cache without a lifetime. -/
theorem keys_perform (hlifetime : cache.limits.lifetime = none)
    (command : CacheCommand σ ε α) :
    (perform now command cache state).cache.keys =
      (cache.movesOf now state command).foldl cache.limits.keysAfter cache.keys := by
  rw [← keys_foldl_apply hlifetime, keys, keys, entries_perform]

/-! ### Two runs -/

/-- When both caches have to make the value for a command, it is made in both or fails in both. -/
def MakesAlike (now : Binary64) (small large : Cache α) (first second : σ) :
    CacheCommand σ ε α → Prop
  | .getOrCompile key factory =>
    (small.get now key).result = none → (large.get now key).result = none →
      (factory first).1.result.isOk = (factory second).1.result.isOk
  | _ => True

/-- Two runs of the same commands in which values are made alike. -/
def RunsAlike (small large : Cache α) (first second : σ) :
    List (Binary64 × CacheCommand σ ε α) → Prop
  | [] => True
  | (now, command) :: rest =>
    let turn := perform now command small first
    let turn' := perform now command large second
    MakesAlike now small large first second command ∧
      RunsAlike turn.cache turn'.cache turn.state turn'.state rest

/-- Values are made alike whenever it does not depend on the state if they can be made. -/
theorem runsAlike_of_isSteady {commands : List (Binary64 × CacheCommand σ ε α)}
    (h : ∀ step ∈ commands, step.2.IsSteady) : RunsAlike small large first second commands := by
  induction commands generalizing small large first second with
  | nil => trivial
  | cons step rest ih =>
    obtain ⟨now, command⟩ := step
    obtain ⟨hsteady, hrest⟩ := List.forall_mem_cons.mp h
    refine ⟨?_, ih hrest⟩
    cases command with
    | getOrCompile key factory => exact fun _ _ => hsteady first second
    | _ => trivial

theorem runsAlike_of_append {commands more : List (Binary64 × CacheCommand σ ε α)}
    (h : RunsAlike small large first second (commands ++ more)) :
    RunsAlike small large first second commands := by
  induction commands generalizing small large first second with
  | nil => trivial
  | cons step rest ih =>
    obtain ⟨halike, hrest⟩ := h
    exact ⟨halike, ih hrest⟩

/-- A request for a value looks the key up, and keeps the value when it was made. -/
theorem movesOf_getOrCompile (now : Binary64) (cache : Cache α) (state : σ) (key : String)
    (factory : σ → Logged ε (Option α) × σ) :
    (∃ value, (cache.get now key).result = none ∧ (factory state).1.result.isOk = true ∧
        cache.movesOf now state (.getOrCompile key factory) = [.lookUp key, .keep key value]) ∨
      ((cache.get now key).result = none → (factory state).1.result.isOk = false) ∧
        cache.movesOf now state (.getOrCompile key factory) = [.lookUp key] := by
  rw [movesOf]
  cases (cache.get now key).result with
  | some value => exact .inr ⟨fun hmiss => absurd hmiss (Option.some_ne_none value), rfl⟩
  | none =>
    cases (factory state).1.result with
    | error cause => exact .inr ⟨fun _ => rfl, rfl⟩
    | ok value => exact .inl ⟨value, rfl, rfl, rfl⟩

theorem mem_keys_of_result_get {key : String} (h : (cache.get now key).result ≠ none) :
    key ∈ cache.keys := by
  obtain ⟨value, hvalue⟩ := Option.ne_none_iff_exists'.mp h
  obtain ⟨entry, hmem, hkey, -⟩ := exists_entry_of_result_get hvalue
  exact List.mem_map.mpr ⟨entry, hmem, hkey⟩

/-- A request for a value, which one of the caches may find and the other not. -/
theorem nested_getOrCompile (hwithin : small.limits.Within large.limits)
    (h : CacheLimits.Nested small.limits large.limits small.keys large.keys) {key : String}
    {factory : σ → Logged ε (Option α) × σ}
    (halike : (small.get now key).result = none → (large.get now key).result = none →
      (factory first).1.result.isOk = (factory second).1.result.isOk) :
    CacheLimits.Nested small.limits large.limits
      ((small.movesOf now first (.getOrCompile key factory)).foldl small.limits.keysAfter
        small.keys)
      ((large.movesOf now second (.getOrCompile key factory)).foldl large.limits.keysAfter
        large.keys) := by
  rcases movesOf_getOrCompile now small first key factory with
    ⟨value, hmiss, hmade, hmoves⟩ | ⟨hfailed, hmoves⟩ <;>
  rcases movesOf_getOrCompile now large second key factory with
    ⟨value', hmiss', hmade', hmoves'⟩ | ⟨hfailed', hmoves'⟩ <;>
  rw [hmoves, hmoves']
  · exact h.moves hwithin [.lookUp key, .keep key value]
  · -- The larger cache has found a value, since otherwise it would have been made there, too.
    have hfound : (large.get now key).result ≠ none := by
      intro hmiss'
      have hsame := halike hmiss hmiss'
      rw [hmade, hfailed' hmiss'] at hsame
      exact Bool.false_ne_true hsame.symm
    have hkey : key ∈ large.keys := mem_keys_of_result_get hfound
    rw [← CacheLimits.foldl_keysAfter_keep hkey h.nodup h.hasRoom value]
    exact h.moves hwithin [.lookUp key, .keep key value]
  · -- The smaller cache has found a value, so that the larger one keeps something there.
    have hfound : (small.get now key).result ≠ none := by
      intro hmiss
      have hsame := halike hmiss hmiss'
      rw [hmade', hfailed hmiss] at hsame
      exact Bool.false_ne_true hsame
    have hkey : key ∈ small.keys := mem_keys_of_result_get hfound
    rw [CacheLimits.foldl_keysAfter_keep (h.sublist.subset hkey) h.nodup h.hasRoom value']
    exact h.moves hwithin [.lookUp key]
  · exact h.moves hwithin [.lookUp key]

/-- **One command.**  Nested keys stay nested. -/
theorem nested_perform (hwithin : small.limits.Within large.limits)
    (hsmall : small.limits.lifetime = none) (hlarge : large.limits.lifetime = none)
    (h : CacheLimits.Nested small.limits large.limits small.keys large.keys)
    {command : CacheCommand σ ε α} (halike : MakesAlike now small large first second command) :
    CacheLimits.Nested small.limits large.limits
      (perform now command small first).cache.keys
      (perform now command large second).cache.keys := by
  rw [keys_perform hsmall, keys_perform hlarge]
  cases command with
  | getOrCompile key factory => exact nested_getOrCompile hwithin h halike
  | _ => exact h.moves hwithin _

theorem nested_run (hwithin : small.limits.Within large.limits)
    (hsmall : small.limits.lifetime = none) (hlarge : large.limits.lifetime = none)
    (h : CacheLimits.Nested small.limits large.limits small.keys large.keys)
    {commands : List (Binary64 × CacheCommand σ ε α)}
    (halike : RunsAlike small large first second commands) :
    CacheLimits.Nested small.limits large.limits (run small first commands).1.keys
      (run large second commands).1.keys := by
  induction commands generalizing small large first second with
  | nil => exact h
  | cons step rest ih =>
    obtain ⟨now, command⟩ := step
    obtain ⟨hcommand, hrest⟩ := halike
    have hnested := nested_perform hwithin hsmall hlarge h hcommand
    rw [run_cons, run_cons]
    rw [← limits_perform now command small first, ← limits_perform now command large second]
      at hwithin hnested ⊢
    refine ih hwithin ?_ ?_ hnested hrest
    · rw [limits_perform, hsmall]
    · rw [limits_perform, hlarge]

/-- **A smaller cache inside a larger one.**  After each of the same commands to two caches without
a lifetime, the keys of the smaller one are some of those of the larger one in the same order, as
many of them as it has room for; so whatever key it keeps, the larger one keeps as well. -/
theorem run_nested {small large : CacheLimits} (hwithin : small.Within large)
    (hsmall : small.lifetime = none) (hlarge : large.lifetime = none) (first second : σ)
    (commands : List (Binary64 × CacheCommand σ ε α))
    (halike : RunsAlike (⟨small, [], 0, 0⟩ : Cache α) ⟨large, [], 0, 0⟩ first second commands)
    {done : List (Binary64 × CacheCommand σ ε α)} (hdone : done <+: commands) :
    let keys := (run (⟨small, [], 0, 0⟩ : Cache α) first done).1.keys
    let keys' := (run (⟨large, [], 0, 0⟩ : Cache α) second done).1.keys
    keys.Sublist keys' ∧ keys.length = small.atMost keys'.length ∧ ∀ key ∈ keys, key ∈ keys' := by
  obtain ⟨more, rfl⟩ := hdone
  have hstart : CacheLimits.Nested small large (⟨small, [], 0, 0⟩ : Cache α).keys
      (⟨large, [], 0, 0⟩ : Cache α).keys := CacheLimits.Nested.nil small large
  have hnested := nested_run hwithin hsmall hlarge hstart (runsAlike_of_append halike)
  exact ⟨hnested.sublist, hnested.length_eq, fun key hkey => hnested.sublist.subset hkey⟩

/-- Commands to caches in which values count how often one was made before.  Nothing is kept under
the last key, for which no value can be made. -/
def countingCommands : List (Binary64 × CacheCommand Nat Unit Nat) :=
  let count (n : Nat) : Logged Unit (Option Nat) × Nat := (.ok (some n), n + 1)
  [.getOrCompile "a" count, .getOrCompile "b" count, .getOrCompile "a" count, .set "c" none,
    .getOrCompile "c" fun n => (.fail (), n)].map fun command => (.zero, command)

/-- Room for one key and room for two: the first value is made twice for the smaller cache only. -/
theorem run_nested_counting :
    let small : CacheLimits := ⟨some 1, none, .int 1, .null⟩
    let large : CacheLimits := ⟨some 2, none, .int 2, .null⟩
    let keys := (run (⟨small, [], 0, 0⟩ : Cache Nat) 0 countingCommands).1.keys
    let keys' := (run (⟨large, [], 0, 0⟩ : Cache Nat) 0 countingCommands).1.keys
    (keys.Sublist keys' ∧ keys.length = small.atMost keys'.length ∧ ∀ key ∈ keys, key ∈ keys') ∧
      keys = ["c"] ∧ keys' = ["a", "c"] ∧
      (run (⟨small, [], 0, 0⟩ : Cache Nat) 0 countingCommands).2 = 3 ∧
      (run (⟨large, [], 0, 0⟩ : Cache Nat) 0 countingCommands).2 = 2 := by
  have hwithin :
      CacheLimits.Within ⟨some 1, none, .int 1, .null⟩ ⟨some 2, none, .int 2, .null⟩ := by
    intro count hcount
    obtain rfl := Option.some.inj hcount
    exact ⟨1, rfl, by decide⟩
  have hsteady : ∀ step ∈ countingCommands, step.2.IsSteady := by
    simp [countingCommands, CacheCommand.IsSteady, Except.isOk, Except.toBool, Logged.ok,
      Logged.fail]
  refine ⟨run_nested hwithin rfl rfl 0 0 countingCommands (runsAlike_of_isSteady hsteady)
    (List.prefix_refl _), ?_⟩
  decide

/-- Commands to caches in which the third value that is asked for cannot be made. -/
def thirdFailingCommands : List (Binary64 × CacheCommand Nat Unit Nat) :=
  let make (n : Nat) : Logged Unit (Option Nat) × Nat :=
    (if n = 2 then .fail () else .ok (some n), n + 1)
  [.getOrCompile "a" make, .getOrCompile "b" make, .getOrCompile "a" make,
    .getOrCompile "c" make].map fun command => (.zero, command)

/-- Room for one key and room for two: in the smaller cache the third value is the one for a key
that was evicted, in the larger one it is the one for the last key, which only the smaller cache
keeps then. -/
theorem run_not_nested :
    let small : CacheLimits := ⟨some 1, none, .int 1, .null⟩
    let large : CacheLimits := ⟨some 2, none, .int 2, .null⟩
    let keys := (run (⟨small, [], 0, 0⟩ : Cache Nat) 0 thirdFailingCommands).1.keys
    let keys' := (run (⟨large, [], 0, 0⟩ : Cache Nat) 0 thirdFailingCommands).1.keys
    small.Within large ∧ small.lifetime = none ∧ large.lifetime = none ∧
      keys = ["c"] ∧ keys' = ["b", "a"] ∧
      ¬(keys.Sublist keys' ∧ keys.length = small.atMost keys'.length ∧
        ∀ key ∈ keys, key ∈ keys') := by
  refine ⟨?_, rfl, rfl, by decide, by decide, fun h => ?_⟩
  · intro count hcount
    obtain rfl := Option.some.inj hcount
    exact ⟨1, rfl, by decide⟩
  · exact absurd (h.2.2 "c" (by decide)) (by decide)

end Cache

end FieldSchema
