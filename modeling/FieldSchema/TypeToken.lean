import FieldSchema.Definition.Failure
import FieldSchema.Text.Casing

/-!
# Type tokens

A field names its category by a token: the category itself, a type, or a text that is one of a
few aliases in any letter case.  Validation needs a category and fails without one; storage takes
an unknown token as it is, and holds objects as values of any kind.

* `Value.category?`: the category of a token.
* `Value.categoryFor`: the category, or the failure for a field.
* `Value.storageType`: what storage makes of a token.
-/

namespace FieldSchema

namespace CanonicalType

/-- The category of an alias in lower case. -/
def ofAlias? (name : String) : Option CanonicalType :=
  if name == "string" then some .string
  else if name == "number" then some .number
  else if name == "boolean" then some .boolean
  else if name == "date" then some .date
  else if name == "array" then some .array
  else if name == "objectid" then some .objectId
  else if name == "object_id" then some .objectId
  else if name == "mixed" then some .mixed
  else if name == "object" then some .object
  else if name == "map" then some .map
  else none

end CanonicalType

/-- The category of a type. -/
def TypeName.category? : TypeName → Option CanonicalType
  | .text => some .string
  | .int => some .number
  | .float => some .number
  | .bool => some .boolean
  | .dateTime => some .date
  | .date => some .date
  | .list => some .array
  | .dict => some .object
  | .objectId => some .objectId
  | .any => some .mixed
  | .object => some .mixed
  | .mapping => some .map
  | _ => none

namespace Value

/-- The category of a token. -/
def category? : Value → Option CanonicalType
  | .canonical t => some t
  | .text s => CanonicalType.ofAlias? (Text.lowercase s)
  | .typeName t => t.category?
  | _ => none

/-- The category of the token of a field. -/
def categoryFor (token : Value) (field : Option TextValue) : Except DefinitionError CanonicalType :=
  match token.category? with
  | some t => .ok t
  | none => .error (.unsupportedType token field)

/-- What storage makes of a token: objects are values of any kind, an unknown token stays. -/
def storageType (token : Value) : Value :=
  match token.category? with
  | some .object => .canonical .mixed
  | some t => .canonical t
  | none => token

@[simp] theorem category?_canonical (t : CanonicalType) : (canonical t).category? = some t := rfl

theorem categoryFor_eq_ok_iff (token : Value) (field : Option TextValue) (t : CanonicalType) :
    token.categoryFor field = .ok t ↔ token.category? = some t := by
  unfold categoryFor
  cases token.category? <;> simp

end Value

end FieldSchema
