/-!
# Canonical types

The closed set of categories that every type token resolves to.
-/

namespace FieldSchema

/-- A category of field values. -/
inductive CanonicalType where
  | string | number | boolean | date | array | object | objectId | mixed | map
  deriving DecidableEq, Repr, Inhabited

namespace CanonicalType

/-- All categories. -/
def all : List CanonicalType :=
  [.string, .number, .boolean, .date, .array, .object, .objectId, .mixed, .map]

/-- The name under which definitions refer to a category. -/
def label : CanonicalType → String
  | .string => "String"
  | .number => "Number"
  | .boolean => "Boolean"
  | .date => "Date"
  | .array => "Array"
  | .object => "Object"
  | .objectId => "ObjectId"
  | .mixed => "Mixed"
  | .map => "Map"

/-- The name of a category as a constant. -/
def constantName : CanonicalType → String
  | .string => "STRING"
  | .number => "NUMBER"
  | .boolean => "BOOLEAN"
  | .date => "DATE"
  | .array => "ARRAY"
  | .object => "OBJECT"
  | .objectId => "OBJECT_ID"
  | .mixed => "MIXED"
  | .map => "MAP"

/-- A category as diagnostics show it. -/
def displayed (t : CanonicalType) : String := "CanonicalType." ++ t.constantName

/-- A category as it is written, with its label. -/
def written (t : CanonicalType) : String := "<" ++ t.displayed ++ ": '" ++ t.label ++ "'>"

/-- The category with a given label. -/
def ofLabel? (label : String) : Option CanonicalType := all.find? (·.label == label)

theorem ofLabel?_label (t : CanonicalType) : ofLabel? t.label = some t := by
  cases t <;> decide

end CanonicalType

end FieldSchema
