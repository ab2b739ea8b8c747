import FieldSchema.Cache.Basic

/-!
# Commands to a cache

Everything that can be asked of a cache, as one type of commands, so that a history of a cache is
a list of commands with times.

* `CacheCommand`, `CacheReply`: what is asked and what is answered.
* `Cache.perform`: one command.
* `Cache.run`: a history.
-/

namespace FieldSchema

/-- What can be asked of a cache whose values are made by working on a state. -/
inductive CacheCommand (σ ε α : Type) where
  | get (key : String)
  | set (key : String) (value : Option α)
  | contains (key : String)
  | getOrCompile (key : String) (factory : σ → Logged ε (Option α) × σ)
  | size
  | stats
  | display
  | clear

/-- What a cache answers. -/
inductive CacheReply (ε α : Type) where
  | value (found : Option α)
  | failed (cause : ε)
  | truth (b : Bool)
  | count (n : Nat)
  | report (v : Value)
  | shown (s : String)
  | done

/-- An answer with the cache and the state after it. -/
structure CacheTurn (σ ε α : Type) where
  reply : CacheReply ε α
  cache : Cache α
  state : σ
  events : List LogEvent := []

namespace CacheStep

variable {σ ε α β : Type}

/-- A step as a turn that leaves the state as it is. -/
def toTurn (step : CacheStep α β) (state : σ) (reply : β → CacheReply ε α) :
    CacheTurn σ ε α :=
  ⟨reply step.result, step.cache, state, step.events⟩

end CacheStep

namespace Cache

variable {σ ε α : Type}

/-- One command at a time. -/
def perform (now : Binary64) (command : CacheCommand σ ε α) (cache : Cache α) (state : σ) :
    CacheTurn σ ε α :=
  match command with
  | .get key => (cache.get now key).toTurn state .value
  | .set key value => (cache.set now key value).toTurn state fun _ => .value none
  | .contains key => (cache.contains now key).toTurn state .truth
  | .size => (cache.size now).toTurn state .count
  | .stats => (cache.stats now).toTurn state .report
  | .display => (cache.written now).toTurn state .shown
  | .clear => ⟨.done, cache.clear, state, []⟩
  | .getOrCompile key factory =>
    let (step, state) := cache.getOrCompile now key factory state
    match step.result with
    | .ok value => ⟨.value value, step.cache, state, step.events⟩
    | .error cause => ⟨.failed cause, step.cache, state, step.events⟩

/-- A request for a value leaves the cache that the request itself leaves. -/
theorem cache_perform_getOrCompile (now : Binary64) (key : String)
    (factory : σ → Logged ε (Option α) × σ) (cache : Cache α) (state : σ) :
    (perform now (.getOrCompile key factory) cache state).cache =
      (cache.getOrCompile now key factory state).1.cache := by
  obtain ⟨⟨step, left⟩, hstep⟩ : ∃ pair, cache.getOrCompile now key factory state = pair :=
    ⟨_, rfl⟩
  rw [perform, hstep]
  cases hresult : step.result with
  | ok value => simp only [hresult]
  | error cause => simp only [hresult]

/-- The cache and the state after commands, each at its time. -/
def run (cache : Cache α) (state : σ) :
    List (Binary64 × CacheCommand σ ε α) → Cache α × σ
  | [] => (cache, state)
  | (now, command) :: rest =>
    let turn := perform now command cache state
    run turn.cache turn.state rest

@[simp] theorem run_nil (cache : Cache α) (state : σ) :
    run cache state ([] : List (Binary64 × CacheCommand σ ε α)) = (cache, state) := rfl

@[simp] theorem run_cons (cache : Cache α) (state : σ) (now : Binary64)
    (command : CacheCommand σ ε α) (rest : List (Binary64 × CacheCommand σ ε α)) :
    run cache state ((now, command) :: rest) =
      run (perform now command cache state).cache (perform now command cache state).state rest :=
  rfl

end Cache

end FieldSchema
