import FieldSchema.Value.Call

/-!
# Outcomes

Callers that prefer values to failures get an outcome: a value, or an error that is a value too.
Both sides can be read, changed by a function, and brought together again.

* `Outcome`: a value or an error.
* `Outcome.map`, `Outcome.mapErr`, `Outcome.fold`: the sides under functions.
* `Outcome.unwrap`, `Outcome.unwrapErr`: one side, or the failure that it is the other one.
-/

namespace FieldSchema

/-- A value, or an error in its place. -/
inductive Outcome where
  | ok (value : Value)
  | err (error : Value)
  deriving Inhabited

namespace Outcome

/-- Whether there is a value. -/
def isOk : Outcome → Bool
  | .ok _ => true
  | .err _ => false

/-- The name of the side. -/
def sideName : Outcome → String
  | .ok _ => "Ok"
  | .err _ => "Err"

/-- The written form. -/
def written : Outcome → String
  | .ok value => "Ok(value=" ++ value.written ++ ")"
  | .err error => "Err(error=" ++ error.written ++ ")"

/-- The value, or the failure that there is none. -/
def unwrap : Outcome → Except Raised Value
  | .ok value => .ok value
  | .err error => .error (.badValue ("Called unwrap on Err: " ++ error.displayed))

/-- The error, or the failure that there is none. -/
def unwrapErr : Outcome → Except Raised Value
  | .ok value => .error (.badValue ("Called unwrap_err on Ok: " ++ value.written))
  | .err error => .ok error

/-- The value, or another one in its place. -/
def unwrapOr (default : Value) : Outcome → Value
  | .ok value => value
  | .err _ => default

/-- The values, of which there is at most one. -/
def toList : Outcome → List Value
  | .ok value => [value]
  | .err _ => []

/-- The outcome with its value under a function. -/
def map (f : Value) : Outcome → Calling Outcome
  | .ok value => (f.call [value]).andThen fun v => .value (.ok v)
  | .err error => .value (.err error)

/-- The outcome with its error under a function. -/
def mapErr (f : Value) : Outcome → Calling Outcome
  | .ok value => .value (.ok value)
  | .err error => (f.call [error]).andThen fun v => .value (.err v)

/-- What one of two functions makes of the side that is there. -/
def fold (onOk onErr : Value) : Outcome → Calling Value
  | .ok value => onOk.call [value]
  | .err error => onErr.call [error]

/-- Equality of sides and contents. -/
def equals : Outcome → Outcome → Bool
  | .ok a, .ok b => a.equals b
  | .err a, .err b => a.equals b
  | _, _ => false

@[simp] theorem map_err (f error : Value) : (err error).map f = Calling.value (.err error) := rfl

@[simp] theorem mapErr_ok (f value : Value) : (ok value).mapErr f = Calling.value (.ok value) := rfl

theorem unwrapOr_eq_of_unwrap {outcome : Outcome} {value : Value} (default : Value)
    (h : outcome.unwrap = .ok value) : outcome.unwrapOr default = value := by
  cases outcome with
  | ok a => simpa [unwrap, unwrapOr] using h
  | err e => simp [unwrap] at h

end Outcome

end FieldSchema
