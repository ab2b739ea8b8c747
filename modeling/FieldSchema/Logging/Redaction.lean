import FieldSchema.Text.Casing
import FieldSchema.Value.Basic

/-!
# Redaction

Events may carry secrets, which must not reach a log.  Values under sensitive keys are replaced,
whatever the case of the letters of the key.  Mappings and lists are searched down to a bounded
depth; what lies deeper, and what stands in containers of other kinds, is left as it is.

* `Redaction.isSensitive`: the keys whose values are replaced.
* `Redaction.within`: values with some levels of containers searched.
* `Redaction.ofEvent`: the event that may be logged.
-/

namespace FieldSchema

namespace Redaction

/-- The names of sensitive keys in lower case. -/
def sensitiveNames : List String :=
  ["password", "token", "secret", "authorization", "cookie", "hashed_password"]

/-- Whether the values under a key are secret. -/
def isSensitive (key : Value) : Bool :=
  match key.asText? with
  | some name => sensitiveNames.contains (Text.lowercase name)
  | none => false

/-- What stands in the place of a secret. -/
def mark : Value := .text "[REDACTED]"

/-- The number of levels of containers that are searched. -/
def levels : Nat := 6

/-- A value with its secrets replaced, down to a number of levels. -/
def within : Nat → Value → Value
  | 0, v => v
  | n + 1, .map entries =>
    .map (entries.map fun entry =>
      (entry.1, if isSensitive entry.1 then mark else within n entry.2))
  | n + 1, .list items => .list (items.map (within n))
  | _ + 1, v => v

/-- An event with its secrets replaced. -/
def ofEvent (event : Value) : Value := within levels event

@[simp] theorem within_zero (v : Value) : within 0 v = v := by
  cases v <;> rfl

@[simp] theorem within_mark (n : Nat) : within n mark = mark := by
  cases n <;> rfl

/-- Redaction keeps the keys of a mapping. -/
theorem keys_within (n : Nat) (entries : Entries) :
    (entries.map fun entry =>
      (entry.1, if isSensitive entry.1 then mark else within n entry.2)).map (·.1) =
      entries.map (·.1) := by
  simp [Function.comp_def]

end Redaction

end FieldSchema
