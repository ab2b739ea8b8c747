import FieldSchema.Value.Basic

/-!
# Log events

Work that is worth noting leaves events: a level, a name and named values.  Events are returned
beside the result and are there also when the work fails, so that nothing has to be printed where
the work is done.

* `LogEvent`: an event.
* `Logged`: a result, or a failure, with the events on the way to it.
-/

namespace FieldSchema

/-- How much an event matters. -/
inductive LogLevel where
  | debug | info | warning | error | critical
  deriving DecidableEq, Repr, Inhabited

namespace LogLevel

/-- The name of a level in lower case. -/
def name : LogLevel → String
  | .debug => "debug"
  | .info => "info"
  | .warning => "warning"
  | .error => "error"
  | .critical => "critical"

end LogLevel

/-- Something worth noting. -/
structure LogEvent where
  level : LogLevel
  name : String
  fields : List (String × Value) := []
  deriving Inhabited

/-- A result or a failure, with the events on the way to it. -/
structure Logged (ε α : Type) where
  events : List LogEvent
  result : Except ε α

namespace Logged

variable {ε α β : Type}

/-- A result without events. -/
def ok (a : α) : Logged ε α := ⟨[], .ok a⟩

/-- A failure without events. -/
def fail (e : ε) : Logged ε α := ⟨[], .error e⟩

/-- A result or failure without events. -/
def ofExcept (result : Except ε α) : Logged ε α := ⟨[], result⟩

/-- An event and nothing else. -/
def note (event : LogEvent) : Logged ε Unit := ⟨[event], .ok ()⟩

/-- Goes on with a result; the events of both parts are kept in order. -/
def andThen (first : Logged ε α) (next : α → Logged ε β) : Logged ε β :=
  match first.result with
  | .ok a => ⟨first.events ++ (next a).events, (next a).result⟩
  | .error e => ⟨first.events, .error e⟩

instance : Monad (Logged ε) where
  pure := ok
  bind := andThen

@[simp] theorem result_ok (a : α) : (ok a : Logged ε α).result = .ok a := rfl

@[simp] theorem result_fail (e : ε) : (fail e : Logged ε α).result = .error e := rfl

@[simp] theorem result_ofExcept (r : Except ε α) : (ofExcept r).result = r := rfl

@[simp] theorem result_note (event : LogEvent) : (note event : Logged ε Unit).result = .ok () :=
  rfl

@[simp] theorem pure_eq_ok (a : α) : (pure a : Logged ε α) = ok a := rfl

@[simp] theorem bind_eq_andThen (first : Logged ε α) (next : α → Logged ε β) :
    first >>= next = first.andThen next := rfl

/-- A computation in two steps succeeds when both steps do. -/
theorem bind_eq_ok_iff {first : Except ε α} {next : α → Except ε β} {b : β} :
    (first >>= next) = .ok b ↔ ∃ a, first = .ok a ∧ next a = .ok b := by
  cases first with
  | error e => simp [bind, Except.bind]
  | ok a => simp [bind, Except.bind]

/-- Events do not change results. -/
theorem result_andThen (first : Logged ε α) (next : α → Logged ε β) :
    (first.andThen next).result = first.result.bind fun a => (next a).result := by
  unfold andThen
  cases h : first.result <;> simp [Except.bind]

/-- Work in two steps has a result when both steps have one. -/
theorem result_andThen_eq_ok_iff {first : Logged ε α} {next : α → Logged ε β} {b : β} :
    (first.andThen next).result = .ok b ↔
      ∃ a, first.result = .ok a ∧ (next a).result = .ok b := by
  rw [result_andThen]
  exact bind_eq_ok_iff

end Logged

end FieldSchema
