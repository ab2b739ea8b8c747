import FieldSchema.Proofs.Cache.Entries
import Mathlib.Data.List.DropRight

/-!
# The accounts of a cache

A cache counts the requests for which it found a value and those for which one had to be made.  Both
counts begin anew when it is cleared.

## Making values

What the second count counts cannot be seen in the cache: it says how often a factory was run.  So
the state that the factories work on gets a number beside it, which goes up whenever one of them is
run, whether or not it can make a value (`CacheCommand.watched`).  The cache cannot tell the
difference (`Cache.perform_watched`), and after any history the number is that of the misses.

## Failures

The miss is counted before the value is made, so a value that cannot be made is counted like any
other.  Nothing else is left of it: the entries are those that the look-up has left, which may have
removed an entry whose time is over.

* `Cache.ends_perform`: the three ways in which a request for a value ends.
* `Cache.requestsIn`, `Cache.sinceCleared`: the requests since the cache was last cleared.
* `Cache.run_keepsAccounts`: the counts after any history, and what the next command does to them.
-/

namespace FieldSchema

/-! ## Commands -/

namespace CacheCommand

variable {σ ε α : Type}

/-- Whether a value is asked for that is made if there is none. -/
def isRequest : CacheCommand σ ε α → Bool
  | .getOrCompile _ _ => true
  | _ => false

/-- Whether the cache is cleared. -/
def isClear : CacheCommand σ ε α → Bool
  | .clear => true
  | _ => false

/-- The command on a state with a number beside it, which goes up when a value is made. -/
def watched : CacheCommand σ ε α → CacheCommand (σ × Nat) ε α
  | .get key => .get key
  | .set key value => .set key value
  | .contains key => .contains key
  | .getOrCompile key factory =>
    .getOrCompile key fun pair => ((factory pair.1).1, (factory pair.1).2, pair.2 + 1)
  | .size => .size
  | .stats => .stats
  | .display => .display
  | .clear => .clear

end CacheCommand

namespace Cache

variable {σ ε α : Type} (now : Binary64) (cache : Cache α) (state : σ)

/-! ## Requests for values -/

@[simp] theorem misses_get (cache : Cache α) (now : Binary64) (key : String) :
    (cache.get now key).cache.misses = cache.misses := by
  unfold get
  split
  · rfl
  · split <;> rfl

/-- How a request for a value ends: one is found, none can be made, or one is made and kept. -/
inductive Ends (now : Binary64) (key : String) (factory : σ → Logged ε (Option α) × σ)
    (cache : Cache α) (state : σ) (turn : CacheTurn σ ε α) : Prop
  | found (value : α) (hfound : (cache.get now key).result = some value)
      (hreply : turn.reply = .value (some value)) (hstate : turn.state = state)
      (hhits : turn.cache.hits = cache.hits + 1) (hmisses : turn.cache.misses = cache.misses)
      (hentries : turn.cache.entries = (cache.get now key).cache.entries)
  | failed (cause : ε) (hfound : (cache.get now key).result = none)
      (hmade : (factory state).1.result = .error cause) (hreply : turn.reply = .failed cause)
      (hstate : turn.state = (factory state).2)
      (hhits : turn.cache.hits = cache.hits) (hmisses : turn.cache.misses = cache.misses + 1)
      (hentries : turn.cache.entries = (cache.get now key).cache.entries)
  | made (value : Option α) (hfound : (cache.get now key).result = none)
      (hmade : (factory state).1.result = .ok value) (hreply : turn.reply = .value value)
      (hstate : turn.state = (factory state).2)
      (hhits : turn.cache.hits = cache.hits) (hmisses : turn.cache.misses = cache.misses + 1)
      (hentries : turn.cache.entries =
        ((cache.get now key).cache.set now key value).cache.entries)

/-- **A request for a value** ends in one of three ways. -/
theorem ends_perform (now : Binary64) (key : String) (factory : σ → Logged ε (Option α) × σ)
    (cache : Cache α) (state : σ) :
    Ends now key factory cache state (perform now (.getOrCompile key factory) cache state) := by
  have hhits := hits_get cache now key
  have hmisses := misses_get cache now key
  cases hfound : (cache.get now key).result with
  | some value =>
    refine .found value hfound ?_ ?_ ?_ ?_ ?_ <;>
      simp only [perform, getOrCompile_of_found hfound, hhits, hmisses]
  | none =>
    cases hmade : (factory state).1.result with
    | error cause =>
      refine .failed cause hfound hmade ?_ ?_ ?_ ?_ ?_ <;>
        simp only [perform, getOrCompile_of_failed hfound hmade, hhits, hmisses]
    | ok value =>
      refine .made value hfound hmade ?_ ?_ ?_ ?_ ?_ <;>
        simp only [perform, getOrCompile_of_made hfound hmade, Cache.set, others, hhits, hmisses]

/-- Watching how often values are made changes neither the answer nor what is left. -/
theorem perform_watched (command : CacheCommand σ ε α) (runs : Nat) :
    let turn := perform now command cache state
    let turn' := perform now command.watched cache (state, runs)
    turn'.reply = turn.reply ∧ turn'.cache = turn.cache ∧ turn'.state.1 = turn.state := by
  cases command with
  | getOrCompile key factory =>
    simp only [perform, CacheCommand.watched, getOrCompile]
    cases (cache.get now key).result with
    | some value => exact ⟨rfl, rfl, rfl⟩
    | none => cases hmade : (factory state).1.result <;> exact ⟨rfl, rfl, rfl⟩
  | _ => exact ⟨rfl, rfl, rfl⟩

/-- A history in which it is watched how often values are made. -/
def watched (commands : List (Binary64 × CacheCommand σ ε α)) :
    List (Binary64 × CacheCommand (σ × Nat) ε α) :=
  commands.map fun step => (step.1, step.2.watched)

theorem watched_cons (now : Binary64) (command : CacheCommand σ ε α)
    (rest : List (Binary64 × CacheCommand σ ε α)) :
    watched ((now, command) :: rest) = (now, command.watched) :: watched rest := rfl

/-- Watching how often values are made changes nothing about a whole history. -/
theorem run_watched (commands : List (Binary64 × CacheCommand σ ε α)) (runs : Nat) :
    (run cache (state, runs) (watched commands)).1 = (run cache state commands).1 ∧
      (run cache (state, runs) (watched commands)).2.1 = (run cache state commands).2 := by
  induction commands generalizing cache state runs with
  | nil => exact ⟨rfl, rfl⟩
  | cons step rest ih =>
    obtain ⟨now, command⟩ := step
    obtain ⟨-, hcache, hstate⟩ := perform_watched now cache state command runs
    rw [watched_cons, run_cons, run_cons, ← hcache, ← hstate]
    exact ih _ _ _

/-! ## Counts -/

/-- The requests for values that a list of commands holds. -/
def requestsIn (commands : List (Binary64 × CacheCommand σ ε α)) : Nat :=
  commands.countP fun step => step.2.isRequest

theorem requestsIn_cons (now : Binary64) (command : CacheCommand σ ε α)
    (rest : List (Binary64 × CacheCommand σ ε α)) :
    requestsIn ((now, command) :: rest) =
      requestsIn rest + (if command.isRequest then 1 else 0) :=
  List.countP_cons

/-- Whatever else is asked of a cache, the counts stay and no value is made. -/
theorem counts_of_isRequest_eq_false {command : CacheCommand σ ε α}
    (hrequest : command.isRequest = false) (hclear : command.isClear = false) (runs : Nat) :
    (perform now command cache state).cache.hits = cache.hits ∧
      (perform now command cache state).cache.misses = cache.misses ∧
      (perform now command.watched cache (state, runs)).state.2 = runs := by
  cases command with
  | getOrCompile key factory => contradiction
  | clear => contradiction
  | get key | contains key => exact ⟨hits_get cache now key, misses_get cache now key, rfl⟩
  | _ => exact ⟨rfl, rfl, rfl⟩

/-- What a command other than clearing adds to the counts: a request adds one to the hits or to the
misses, and to the misses when a value is made. -/
theorem counts_perform {command : CacheCommand σ ε α} (hclear : command.isClear = false)
    (runs : Nat) :
    (perform now command cache state).cache.hits + (perform now command cache state).cache.misses =
        cache.hits + cache.misses + (if command.isRequest then 1 else 0) ∧
      (perform now command cache state).cache.misses + runs =
        cache.misses + (perform now command.watched cache (state, runs)).state.2 := by
  cases hrequest : command.isRequest with
  | false =>
    obtain ⟨hhits, hmisses, hruns⟩ :=
      counts_of_isRequest_eq_false now cache state hrequest hclear runs
    rw [hhits, hmisses, hruns]
    exact ⟨rfl, rfl⟩
  | true =>
    rw [← (perform_watched now cache state command runs).2.1, if_pos rfl]
    cases command with
    | getOrCompile key factory =>
      rw [CacheCommand.watched]
      cases ends_perform now key _ cache (state, runs) with
      | found value hfound hreply hstate hhits hmisses =>
        rw [hstate, hhits, hmisses]
        omega
      | failed cause hfound hmade hreply hstate hhits hmisses =>
        rw [hstate, hhits, hmisses]
        dsimp only
        omega
      | made value hfound hmade hreply hstate hhits hmisses =>
        rw [hstate, hhits, hmisses]
        dsimp only
        omega
    | _ => contradiction

/-- What a history without clearing adds to the counts. -/
theorem counts_run {commands : List (Binary64 × CacheCommand σ ε α)}
    (h : ∀ step ∈ commands, step.2.isClear = false) (runs : Nat) :
    (run cache state commands).1.hits + (run cache state commands).1.misses =
        cache.hits + cache.misses + requestsIn commands ∧
      (run cache state commands).1.misses + runs =
        cache.misses + (run cache (state, runs) (watched commands)).2.2 := by
  induction commands generalizing cache state runs with
  | nil => exact ⟨rfl, rfl⟩
  | cons step rest ih =>
    obtain ⟨now, command⟩ := step
    obtain ⟨hclear, hrest⟩ : command.isClear = false ∧ ∀ step ∈ rest, step.2.isClear = false :=
      List.forall_mem_cons.mp h
    obtain ⟨htotal, hmisses⟩ := counts_perform now cache state hclear runs
    obtain ⟨-, hcache, hstate⟩ := perform_watched now cache state command runs
    obtain ⟨hrestTotal, hrestMisses⟩ := ih (perform now command cache state).cache
      (perform now command cache state).state hrest
      (perform now command.watched cache (state, runs)).state.2
    rw [requestsIn_cons, watched_cons, run_cons, run_cons, hcache]
    rw [← hstate] at hrestMisses hrestTotal ⊢
    dsimp only [Prod.eta] at hrestMisses
    omega

/-! ## Since the cache was cleared -/

/-- The commands up to the last one that clears the cache, none when there is no such command. -/
def untilCleared (commands : List (Binary64 × CacheCommand σ ε α)) :
    List (Binary64 × CacheCommand σ ε α) :=
  commands.rdropWhile fun step => !step.2.isClear

/-- The commands after the last one that clears the cache. -/
def sinceCleared (commands : List (Binary64 × CacheCommand σ ε α)) :
    List (Binary64 × CacheCommand σ ε α) :=
  commands.rtakeWhile fun step => !step.2.isClear

theorem run_append (first second : List (Binary64 × CacheCommand σ ε α)) :
    run cache state (first ++ second) =
      run (run cache state first).1 (run cache state first).2 second := by
  induction first generalizing cache state with
  | nil => rfl
  | cons step rest ih => exact ih _ _

/-- Clearing leaves no counts. -/
theorem counts_untilCleared (limits : CacheLimits) (state : σ)
    (commands : List (Binary64 × CacheCommand σ ε α)) :
    let cleared := (run (⟨limits, [], 0, 0⟩ : Cache α) state (untilCleared commands)).1
    cleared.hits = 0 ∧ cleared.misses = 0 := by
  induction commands using List.reverseRecOn with
  | nil => exact ⟨rfl, rfl⟩
  | append_singleton past step ih =>
    obtain ⟨now, command⟩ := step
    rw [untilCleared, List.rdropWhile_concat]
    split
    · exact ih
    · rename_i hclear
      rw [run_append]
      cases command with
      | clear => exact ⟨rfl, rfl⟩
      | _ => exact absurd rfl hclear

/-! ## The accounts -/

/-- What a request for a value comes to. -/
structure ServesRequest (now : Binary64) (key : String)
    (factory : σ → Logged ε (Option α) × σ) (cache : Cache α) (state : σ) : Prop where
  /-- A value is made, and once, when a look-up finds none, and otherwise not. -/
  runs_eq : ∀ runs, (perform now (CacheCommand.getOrCompile key factory).watched cache
    (state, runs)).state.2 = runs + if (cache.get now key).result.isNone then 1 else 0
  /-- A failure to make it is the answer, and leaves the entries that a look-up leaves. -/
  failed : ∀ cause, (cache.get now key).result = none → (factory state).1.result = .error cause →
    let turn := perform now (.getOrCompile key factory) cache state
    turn.reply = .failed cause ∧ turn.cache.entries = (cache.get now key).cache.entries

theorem servesRequest (now : Binary64) (key : String) (factory : σ → Logged ε (Option α) × σ)
    (cache : Cache α) (state : σ) : ServesRequest now key factory cache state where
  runs_eq runs := by
    rw [CacheCommand.watched]
    cases ends_perform now key _ cache (state, runs) with
    | found value hfound hreply hstate => rw [hstate, hfound]; rfl
    | failed cause hfound hmade hreply hstate => rw [hstate, hfound]; rfl
    | made value hfound hmade hreply hstate => rw [hstate, hfound]; rfl
  failed cause hnone hfails := by
    cases ends_perform now key factory cache state with
    | found value hfound => exact absurd (hfound.symm.trans hnone) (Option.some_ne_none value)
    | failed cause' hfound hmade hreply hstate hhits hmisses hentries =>
      obtain rfl := Except.error.inj (hfails.symm.trans hmade)
      exact ⟨hreply, hentries⟩
    | made value hfound hmade => exact nomatch hfails.symm.trans hmade

/-- **The accounts of a cache.**  After any history the hits and misses together are the requests
for values since the cache was last cleared, and the misses are the values that were made since
then, those that could not be made among them.  For the next request a value is made exactly when a
look-up finds none, and a failure to make it is reported and leaves the entries that a look-up
leaves.  No other command but clearing changes the counts. -/
theorem run_keepsAccounts (limits : CacheLimits) (state : σ)
    (commands : List (Binary64 × CacheCommand σ ε α)) :
    let fresh : Cache α := ⟨limits, [], 0, 0⟩
    let cleared := run fresh state (untilCleared commands)
    let reached := run fresh state commands
    let counted := run cleared.1 (cleared.2, 0) (watched (sinceCleared commands))
    reached.1.hits + reached.1.misses = requestsIn (sinceCleared commands) ∧
      counted.1 = reached.1 ∧ reached.1.misses = counted.2.2 ∧
      (∀ now key factory, ServesRequest (ε := ε) now key factory reached.1 reached.2) ∧
      ∀ now (command : CacheCommand σ ε α), command.isRequest = false → command.isClear = false →
        let turn := perform now command reached.1 reached.2
        turn.cache.hits = reached.1.hits ∧ turn.cache.misses = reached.1.misses := by
  intro fresh cleared reached counted
  have hsplit : reached = run cleared.1 cleared.2 (sinceCleared commands) := by
    rw [← run_append, untilCleared, sinceCleared, List.rdropWhile_append_rtakeWhile]
  have hsince : ∀ step ∈ sinceCleared commands, step.2.isClear = false := fun step hstep => by
    simpa using List.mem_rtakeWhile_imp hstep
  obtain ⟨hhits, hmisses⟩ := counts_untilCleared limits state commands
  obtain ⟨htotal, hmade⟩ := counts_run cleared.1 cleared.2 hsince 0
  refine ⟨?_, ?_, ?_, fun now key factory => servesRequest now key factory _ _,
    fun now command hrequest hclear => ?_⟩
  · rw [hsplit, htotal, hhits, hmisses, Nat.zero_add]
  · rw [hsplit]
    exact (run_watched cleared.1 cleared.2 (sinceCleared commands) 0).1
  · rw [hsplit, ← Nat.add_zero (Cache.misses _), hmade, hmisses, Nat.zero_add]
  · obtain ⟨hhits, hmisses, -⟩ := counts_of_isRequest_eq_false now _ _ hrequest hclear 0
    exact ⟨hhits, hmisses⟩

/-- A history of a cache in which entries live for five seconds: nothing is kept under the second
key at first, and no value can be made for it the first and the last time. -/
def bookedHistory : List (Binary64 × CacheCommand Unit Unit Nat) :=
  [(.zero, .getOrCompile "a" fun _ => (.ok (some 1), ())), (.zero, .clear), (.zero, .set "b" none),
    (.ofInt 1, .getOrCompile "b" fun _ => (.fail (), ())),
    (.ofInt 2, .getOrCompile "b" fun _ => (.ok (some 2), ())),
    (.ofInt 3, .getOrCompile "b" fun _ => (.ok (some 3), ())), (.ofInt 4, .stats),
    (.ofInt 7, .getOrCompile "b" fun _ => (.fail (), ()))]

/-- Of the four requests after clearing one is a hit, and the last one finds the entry too old. -/
theorem run_keepsAccounts_booked :
    let limits : CacheLimits := ⟨none, some (.int 5), .null, .int 5⟩
    let reached := (run (⟨limits, [], 0, 0⟩ : Cache Nat) () bookedHistory).1
    reached.hits + reached.misses = requestsIn (sinceCleared bookedHistory) ∧
      reached.hits = 1 ∧ reached.misses = 3 ∧ reached.keys = [] :=
  ⟨(run_keepsAccounts ⟨none, some (.int 5), .null, .int 5⟩ () bookedHistory).1, by decide +kernel,
    by decide +kernel, by decide +kernel⟩

end Cache

end FieldSchema
