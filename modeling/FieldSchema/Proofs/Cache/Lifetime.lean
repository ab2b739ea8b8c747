import FieldSchema.Proofs.Cache.Entries
import FieldSchema.Proofs.Number.Order

/-!
# What a cache with a lifetime answers

An entry lives for a time that is counted from its store, however often it is looked up.  Entries
whose time is over linger until something looks at them: a look-up of their key, a count, or an
eviction.  None of this can be told from the answers.  A look-up only ever answers with the value
that was stored last under its key, and only while that is *young*, which is to say that it was
stored less than the lifetime ago.  Without a capacity it always does.

## The history

The history of a cache is read as the list of the entries that its stores made since it was last
cleared, the latest first (`Cache.storesOf`).  Every entry of the cache is the last one of its key
there (`Cache.Recalls`).  This is enough for the first half.  For the other half the entries that
were removed must have become too old for good: a clock that does not go back only ever makes
entries older (`CacheLimits.isOver_mono`), though their ages are rounded.

## What is no number

A lifetime that is not a number is not below or above any age.  It is taken for a bound, since it is
not at most zero, and nothing ever becomes too old for it (`CacheLimits.isYoung_of_notANumber`).

* `CacheLimits.IsYoung`, `CacheLimits.isOver_eq_false_iff`: young entries.
* `Cache.Recalls`, `Cache.KeepsYoung`: the invariants of a run.
* `Cache.run_answersByAge`: the answers after any history.
-/

namespace FieldSchema

/-! ## Ages -/

namespace CacheLimits

variable {limits : CacheLimits} {now storedAt : Binary64}

/-- Whether what was stored at a time is less old than the lifetime.  Where one of the two is not a
number it counts as young. -/
def IsYoung (limits : CacheLimits) (now storedAt : Binary64) : Prop :=
  ∀ lifetime, limits.lifetime = some lifetime →
    (Number.float (now.sub storedAt)).lt lifetime = true ∨
      lifetime.extended? = none ∨ now.sub storedAt = .notANumber

/-- Entries are dropped exactly when they are not young, at the very end of their lifetime, too. -/
theorem isOver_eq_false_iff : limits.isOver now storedAt = false ↔ limits.IsYoung now storedAt := by
  unfold isOver IsYoung
  cases limits.lifetime with
  | none => simp
  | some lifetime =>
    simp only [Option.some.injEq, forall_eq']
    constructor
    · intro h
      by_cases hlifetime : lifetime.extended? = none
      · exact .inr (.inl hlifetime)
      · by_cases hage : now.sub storedAt = .notANumber
        · exact .inr (.inr hage)
        · refine .inl (Number.lt_of_le_eq_false hlifetime ?_ h)
          exact fun hnone => hage (Binary64.extended?_eq_none_iff.mp hnone)
    · intro h
      refine Bool.eq_false_iff.mpr fun hle => ?_
      obtain ⟨x, y, hx, hy, hxy⟩ := Number.le_iff.mp hle
      rcases h with hlt | hnone | hnone
      · obtain ⟨y', x', hy', hx', hyx⟩ := Number.lt_iff.mp hlt
        obtain rfl := Option.some.inj (hx.symm.trans hx')
        obtain rfl := Option.some.inj (hy.symm.trans hy')
        exact hxy.not_gt hyx
      · rw [hnone] at hx
        contradiction
      · rw [hnone] at hy
        contradiction

/-- Nothing becomes too old for a lifetime that is not a number. -/
theorem isYoung_of_notANumber (h : limits.lifetime = some (.float .notANumber))
    (now storedAt : Binary64) : limits.IsYoung now storedAt := by
  intro lifetime hlifetime
  obtain rfl := Option.some.inj (h.symm.trans hlifetime)
  exact .inr (.inl rfl)

/-- Such a lifetime is taken for a bound like any other. -/
example : read .null (.float .notANumber) =
    .ok ⟨none, some (.float .notANumber), .null, .float .notANumber⟩ := rfl

/-- **Ages only grow.**  What is too old at one time is too old at every later one. -/
theorem isOver_mono {first second : Binary64}
    (hfirst : Number.le (.float storedAt) (.float first) = true)
    (hsecond : Number.le (.float first) (.float second) = true)
    (h : limits.isOver first storedAt = true) : limits.isOver second storedAt = true := by
  unfold isOver at h ⊢
  cases hlifetime : limits.lifetime with
  | none =>
    rw [hlifetime] at h
    contradiction
  | some lifetime =>
    rw [hlifetime] at h
    exact Number.le_sub_of_le hfirst hsecond h

end CacheLimits

/-! ## Stores -/

/-- The stores after a move, given those before it, the latest first. -/
def CacheMove.storesAfter {α : Type} (now : Binary64) (stores : List (CacheEntry α)) :
    CacheMove α → List (CacheEntry α)
  | .lookUp _ => stores
  | .keep key value => ⟨key, now, value⟩ :: stores
  | .purge => stores
  | .clear => []

namespace Cache

variable {σ ε α : Type} {now : Binary64} {cache : Cache α} {stores : List (CacheEntry α)}
  {key : String}

/-- The last store under a key. -/
def lastStore? (stores : List (CacheEntry α)) (key : String) : Option (CacheEntry α) :=
  stores.find? fun entry => entry.key == key

/-- The stores after commands, each at its time. -/
def storesOf (cache : Cache α) (state : σ) (stores : List (CacheEntry α)) :
    List (Binary64 × CacheCommand σ ε α) → List (CacheEntry α)
  | [] => stores
  | (now, command) :: rest =>
    let turn := perform now command cache state
    let after := (cache.movesOf now state command).foldl (CacheMove.storesAfter now) stores
    storesOf turn.cache turn.state after rest

theorem key_of_lastStore? {entry : CacheEntry α} (h : lastStore? stores key = some entry) :
    entry.key = key := by
  simpa using List.find?_some h

theorem lastStore?_cons_self (now : Binary64) (key : String) (value : Option α)
    (stores : List (CacheEntry α)) :
    lastStore? (⟨key, now, value⟩ :: stores) key = some ⟨key, now, value⟩ := by
  simp [lastStore?]

theorem lastStore?_cons_of_ne {key' : String} (h : key ≠ key') (now : Binary64)
    (value : Option α) (stores : List (CacheEntry α)) :
    lastStore? (⟨key, now, value⟩ :: stores) key' = lastStore? stores key' := by
  simp [lastStore?, h]

/-! ### What entries are -/

/-- Every entry is the last store of its key. -/
def Recalls (entries stores : List (CacheEntry α)) : Prop :=
  ∀ entry ∈ entries, lastStore? stores entry.key = some entry

theorem Recalls.apply (h : Recalls cache.entries stores) (move : CacheMove α) :
    Recalls (move.apply now cache).entries (move.storesAfter now stores) := by
  cases move with
  | lookUp key => exact fun entry hentry => h entry (mem_entries_of_mem_get hentry)
  | keep key value =>
    intro entry hentry
    rcases List.mem_append.mp (List.mem_of_mem_drop hentry) with hother | hlast
    · obtain ⟨hmem, hne⟩ := List.mem_filter.mp hother
      have hne : key ≠ entry.key := Ne.symm (by simpa using hne)
      rw [CacheMove.storesAfter, lastStore?_cons_of_ne hne]
      exact h entry hmem
    · rw [List.mem_singleton.mp hlast]
      exact lastStore?_cons_self now key value stores
  | purge => exact fun entry hentry => h entry (List.mem_filter.mp hentry).1
  | clear => exact fun entry hentry => absurd hentry List.not_mem_nil

theorem Recalls.moves (h : Recalls cache.entries stores) (moves : List (CacheMove α)) :
    Recalls (moves.foldl (CacheMove.apply now) cache).entries
      (moves.foldl (CacheMove.storesAfter now) stores) := by
  induction moves generalizing cache stores with
  | nil => exact h
  | cons move rest ih => exact ih (h.apply move)

/-- After any history every entry is the last store of its key. -/
theorem recalls_run (h : Recalls cache.entries stores) (state : σ)
    (commands : List (Binary64 × CacheCommand σ ε α)) :
    Recalls (run cache state commands).1.entries (storesOf cache state stores commands) := by
  induction commands generalizing cache state stores with
  | nil => exact h
  | cons step rest ih =>
    obtain ⟨now, command⟩ := step
    rw [run_cons, storesOf]
    refine ih ?_ _
    rw [entries_perform]
    exact h.moves _

/-! ### What is kept -/

/-- The last store of a key is kept, unless it will be too old at some time. -/
def KeepsYoung (limits : CacheLimits) (atLast : Binary64) (entries stores : List (CacheEntry α)) :
    Prop :=
  ∀ key entry, lastStore? stores key = some entry →
    limits.isOver atLast entry.storedAt = false → entry ∈ entries

/-- A look-up drops no entry but one that is too old. -/
theorem Recalls.mem_entries_get (h : Recalls cache.entries stores) {entry : CacheEntry α}
    (hmem : entry ∈ cache.entries) (hyoung : cache.limits.isOver now entry.storedAt = false)
    (key : String) : entry ∈ (cache.get now key).cache.entries := by
  rw [get]
  cases hfound : cache.entry? key with
  | none => exact hmem
  | some found =>
    obtain ⟨hfoundMem, hfoundKey⟩ := mem_entries_of_found hfound
    dsimp only
    by_cases hkey : entry.key = key
    · -- Both are the last store of the key.
      have hsame := h found hfoundMem
      rw [hfoundKey, ← hkey, h entry hmem] at hsame
      obtain rfl := Option.some.inj hsame
      rw [hyoung]
      exact List.mem_append_right _ List.mem_cons_self
    · have hother : entry ∈ cache.others key := List.mem_filter.mpr ⟨hmem, by simpa using hkey⟩
      split
      · exact hother
      · exact List.mem_append_left _ hother

section

variable {atLast : Binary64} (hlast : Number.le (.float now) (.float atLast) = true)

include hlast

/-- A cache without a capacity drops nothing but what will be too old. -/
theorem KeepsYoung.apply (h : KeepsYoung cache.limits atLast cache.entries stores)
    (hrecalls : Recalls cache.entries stores) (hcapacity : cache.limits.capacity = none)
    (hearlier : ∀ entry ∈ stores, Number.le (.float entry.storedAt) (.float now) = true)
    (move : CacheMove α) :
    KeepsYoung cache.limits atLast (move.apply now cache).entries
      (move.storesAfter now stores) := by
  intro key entry hstore hyoung
  have hnotOver (hmem : entry ∈ stores) : cache.limits.isOver now entry.storedAt = false := by
    refine Bool.eq_false_iff.mpr fun hover => ?_
    rw [CacheLimits.isOver_mono (hearlier entry hmem) hlast hover] at hyoung
    contradiction
  cases move with
  | lookUp key' =>
    exact hrecalls.mem_entries_get (h key entry hstore hyoung)
      (hnotOver (List.mem_of_find?_eq_some hstore)) key'
  | keep key' value =>
    have hentries : (CacheMove.apply now cache (.keep key' value)).entries =
        cache.others key' ++ [⟨key', now, value⟩] := by
      simp [CacheMove.apply, Cache.set, CacheLimits.excess, hcapacity]
    rw [hentries]
    by_cases hkey : key' = key
    · subst hkey
      rw [CacheMove.storesAfter, lastStore?_cons_self] at hstore
      rw [← Option.some.inj hstore]
      exact List.mem_append_right _ List.mem_cons_self
    · rw [CacheMove.storesAfter, lastStore?_cons_of_ne hkey] at hstore
      refine List.mem_append_left _ (List.mem_filter.mpr ⟨h key entry hstore hyoung, ?_⟩)
      simpa [key_of_lastStore? hstore] using Ne.symm hkey
  | purge =>
    refine List.mem_filter.mpr ⟨h key entry hstore hyoung, ?_⟩
    rw [hnotOver (List.mem_of_find?_eq_some hstore)]
    rfl
  | clear => contradiction

/-- The stores after a move were made before it or at its time. -/
theorem storedAt_le_of_storesAfter
    (hearlier : ∀ entry ∈ stores, Number.le (.float entry.storedAt) (.float now) = true)
    (move : CacheMove α) :
    ∀ entry ∈ move.storesAfter now stores,
      Number.le (.float entry.storedAt) (.float now) = true := by
  intro entry hentry
  cases move with
  | keep key value =>
    rcases List.mem_cons.mp hentry with rfl | hmem
    · exact Number.le_self hlast
    · exact hearlier entry hmem
  | clear => exact absurd hentry List.not_mem_nil
  | _ => exact hearlier entry hentry

theorem KeepsYoung.moves (h : KeepsYoung cache.limits atLast cache.entries stores)
    (hrecalls : Recalls cache.entries stores) (hcapacity : cache.limits.capacity = none)
    (hearlier : ∀ entry ∈ stores, Number.le (.float entry.storedAt) (.float now) = true)
    (moves : List (CacheMove α)) :
    KeepsYoung cache.limits atLast (moves.foldl (CacheMove.apply now) cache).entries
        (moves.foldl (CacheMove.storesAfter now) stores) ∧
      ∀ entry ∈ moves.foldl (CacheMove.storesAfter now) stores,
        Number.le (.float entry.storedAt) (.float now) = true := by
  induction moves generalizing cache stores with
  | nil => exact ⟨h, hearlier⟩
  | cons move rest ih =>
    have hmove := h.apply hlast hrecalls hcapacity hearlier move
    rw [← limits_apply now cache move] at hmove hcapacity ⊢
    exact ih hmove (hrecalls.apply move) hcapacity (storedAt_le_of_storesAfter hlast hearlier move)

end

/-- After any history of a cache without a capacity the last store of every key is kept, unless it
is too old at a time that is not before the end of the history. -/
theorem keepsYoung_run {atLast : Binary64}
    (h : KeepsYoung cache.limits atLast cache.entries stores)
    (hrecalls : Recalls cache.entries stores) (hcapacity : cache.limits.capacity = none)
    (state : σ) {commands : List (Binary64 × CacheCommand σ ε α)}
    (htimes : (commands.map (·.1) ++ [atLast]).Pairwise fun first second =>
      Number.le (.float first) (.float second) = true)
    (hearlier : ∀ entry ∈ stores, ∀ time ∈ commands.map (·.1),
      Number.le (.float entry.storedAt) (.float time) = true) :
    KeepsYoung cache.limits atLast (run cache state commands).1.entries
      (storesOf cache state stores commands) := by
  induction commands generalizing cache state stores with
  | nil => exact h
  | cons step rest ih =>
    obtain ⟨now, command⟩ := step
    obtain ⟨hlater, hrestTimes⟩ := List.pairwise_cons.mp htimes
    have hlast : Number.le (.float now) (.float atLast) = true :=
      hlater atLast (List.mem_append_right _ List.mem_cons_self)
    obtain ⟨hmoves, hstored⟩ := h.moves hlast hrecalls hcapacity
      (fun entry hentry => hearlier entry hentry now List.mem_cons_self)
      (cache.movesOf now state command)
    have hafter : Recalls (perform now command cache state).cache.entries
        ((cache.movesOf now state command).foldl (CacheMove.storesAfter now) stores) := by
      rw [entries_perform]
      exact hrecalls.moves _
    rw [run_cons, storesOf]
    rw [← entries_perform] at hmoves
    rw [← limits_perform now command cache state] at hmoves hcapacity ⊢
    refine ih hmoves hafter hcapacity _ hrestTimes fun entry hentry time htime => ?_
    exact Number.le_trans (hstored entry hentry) (hlater time (List.mem_append_left _ htime))

/-! ## Answers -/

/-- There is a value for a key: it was stored there last, not longer ago than it lives. -/
def HasYoung (limits : CacheLimits) (now : Binary64) (stores : List (CacheEntry α)) (key : String)
    (value : α) : Prop :=
  ∃ entry, lastStore? stores key = some entry ∧ entry.value = some value ∧
    limits.IsYoung now entry.storedAt

/-- What a cache answers at a time, after the stores of a history. -/
structure AnswersByAge (limits : CacheLimits) (now : Binary64) (stores : List (CacheEntry α))
    (cache : Cache α) : Prop where
  /-- A look-up answers with the value that was stored last, while it is young. -/
  get_some : ∀ {key value}, (cache.get now key).result = some value →
    HasYoung limits now stores key value
  contains_true : ∀ {key}, (cache.contains now key).result = true →
    ∃ value, HasYoung limits now stores key value
  /-- A request that is counted as a hit answers with that value. -/
  hit : ∀ {σ ε : Type} {key : String} {factory : σ → Logged ε (Option α) × σ} {state : σ},
    (perform now (.getOrCompile key factory) cache state).cache.hits = cache.hits + 1 →
      ∃ value, (perform now (.getOrCompile key factory) cache state).reply = .value (some value) ∧
        HasYoung limits now stores key value
  /-- Without a capacity a value that is young is always found. -/
  get_of_hasYoung : limits.capacity = none → ∀ {key value},
    HasYoung limits now stores key value → (cache.get now key).result = some value

/-- A look-up answers with the last store of its key, which is young. -/
theorem hasYoung_of_get (h : Recalls cache.entries stores) {value : α}
    (hget : (cache.get now key).result = some value) :
    HasYoung cache.limits now stores key value := by
  unfold get at hget
  split at hget
  · contradiction
  · rename_i found hfound
    obtain ⟨hmem, hkey⟩ := mem_entries_of_found hfound
    have hlast := h found hmem
    rw [hkey] at hlast
    split at hget
    · contradiction
    · rename_i hover
      exact ⟨found, hlast, hget, CacheLimits.isOver_eq_false_iff.mp (Bool.eq_false_iff.mpr hover)⟩

/-- An entry that is kept and young is found. -/
theorem get_of_mem (h : Recalls cache.entries stores) {entry : CacheEntry α}
    (hmem : entry ∈ cache.entries) (hyoung : cache.limits.isOver now entry.storedAt = false) :
    (cache.get now entry.key).result = entry.value := by
  rw [get]
  cases hfound : cache.entry? entry.key with
  | none => exact absurd (List.mem_map_of_mem hmem) (entry?_eq_none_iff.mp hfound)
  | some found =>
    obtain ⟨hfoundMem, hkey⟩ := mem_entries_of_found hfound
    have hsame := h found hfoundMem
    rw [hkey, h entry hmem] at hsame
    obtain rfl := Option.some.inj hsame
    simp [hyoung]

/-- **Answers by age.**  After any history, with a clock that does not go back, a look-up, a test or
a hit comes from the last store of its key since the cache was cleared, and only while less time
than the lifetime has gone by since then; and if the cache has no capacity, what was stored last is
found all that time. -/
theorem run_answersByAge (limits : CacheLimits) (state : σ)
    (commands : List (Binary64 × CacheCommand σ ε α)) (now : Binary64)
    (htimes : (commands.map (·.1) ++ [now]).Pairwise fun first second =>
      Number.le (.float first) (.float second) = true) :
    AnswersByAge limits now (storesOf (⟨limits, [], 0, 0⟩ : Cache α) state [] commands)
      (run (⟨limits, [], 0, 0⟩ : Cache α) state commands).1 := by
  have hstart : Recalls (⟨limits, [], 0, 0⟩ : Cache α).entries [] :=
    fun entry hentry => absurd hentry List.not_mem_nil
  have hrecalls := recalls_run hstart state commands
  have hlimits : (run (⟨limits, [], 0, 0⟩ : Cache α) state commands).1.limits = limits :=
    limits_run _ state commands
  have hget {key : String} {value : α}
      (h : ((run (⟨limits, [], 0, 0⟩ : Cache α) state commands).1.get now key).result =
        some value) := hlimits ▸ hasYoung_of_get hrecalls h
  refine ⟨hget, ?_, ?_, ?_⟩
  · intro key htrue
    obtain ⟨value, hvalue⟩ := Option.isSome_iff_exists.mp htrue
    exact ⟨value, hget hvalue⟩
  · intro σ ε key factory state hhits
    obtain ⟨value, hfound, hreply⟩ := exists_of_hits_getOrCompile hhits
    exact ⟨value, hreply, hget hfound⟩
  · rintro hcapacity key value ⟨entry, hlast, hvalue, hyoung⟩
    have hstartKept : KeepsYoung limits now (⟨limits, [], 0, 0⟩ : Cache α).entries [] :=
      fun key entry hnone => nomatch hnone
    have hkept := keepsYoung_run hstartKept hstart hcapacity state htimes
      (fun entry hentry => absurd hentry List.not_mem_nil)
    have hnotOver := CacheLimits.isOver_eq_false_iff.mpr hyoung
    have hmem := hkept key entry hlast hnotOver
    rw [← hlimits] at hnotOver
    rw [← hvalue, ← key_of_lastStore? hlast]
    exact get_of_mem hrecalls hmem hnotOver

/-- The first seconds of a clock, as doubles. -/
def seconds (count : Nat) : Binary64 := .ofInt count

/-- A history in which a value is stored, looked up and counted. -/
def agingHistory : List (Binary64 × CacheCommand Unit Unit Nat) :=
  [(seconds 0, .set "a" (some 1)), (seconds 2, .get "a"), (seconds 3, .size)]

/-- With a lifetime of five seconds the value is found in the fifth second and not after it. -/
theorem run_answersByAge_aging :
    let limits : CacheLimits := ⟨none, some (.int 5), .null, .int 5⟩
    let start : Cache Nat := ⟨limits, [], 0, 0⟩
    let left := (run start () agingHistory).1
    AnswersByAge limits (seconds 4) (storesOf start () [] agingHistory) left ∧
      AnswersByAge limits (seconds 5) (storesOf start () [] agingHistory) left ∧
      (left.get (seconds 4) "a").result = some 1 ∧ (left.get (seconds 5) "a").result = none :=
  ⟨run_answersByAge ⟨none, some (.int 5), .null, .int 5⟩ () agingHistory (seconds 4)
      (by decide +kernel),
    run_answersByAge ⟨none, some (.int 5), .null, .int 5⟩ () agingHistory (seconds 5)
      (by decide +kernel),
    by decide +kernel, by decide +kernel⟩

end Cache

end FieldSchema
