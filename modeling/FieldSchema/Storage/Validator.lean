import FieldSchema.Storage.Schema

/-!
# Collection validators

A collection can check documents itself.  The validator of a storage schema states for every
field the type and the bounds that the collection understands.  Fields that are not required may
be null, and the times of writing are dates.

* `StoredField.property`: what the validator states about one field.
* `StorageSchema.validator`: the validator of a schema.
-/

namespace FieldSchema

/-- The name that collections have for a category, if they have one. -/
def CanonicalType.storageName? : CanonicalType → Option String
  | .string => some "string"
  | .number => some "number"
  | .boolean => some "bool"
  | .date => some "date"
  | .array => some "array"
  | .object => some "object"
  | .objectId => some "objectId"
  | .mixed => none
  | .map => some "object"

namespace FormatCheck

/-- The pattern of a check as one text: the flags for case, lines, dots and layout stand in front
of it. -/
def inlinePattern (check : FormatCheck) : TextValue :=
  let letters := check.flags.letters
  if letters.isEmpty then check.pattern
  else .plain ("(?" ++ String.ofList letters ++ ")" ++ check.pattern.displayed)

end FormatCheck

namespace StoredField

/-- The name that collections have for the type of a value. -/
def storageTypeName? : Value → Option String
  | .canonical t => t.storageName?
  | _ => none

/-- The type that the validator states, and the type of the items. -/
def propertyType (field : StoredField) : List (String × Value) :=
  let orNull := fun (name : String) =>
    if field.flagged .required then Value.text name else .list [.text name, .text "null"]
  if field.isArray then
    [("bsonType", orNull "array")] ++
      ((storageTypeName? field.itemType).map fun name =>
        ("items", Value.ofFields [("bsonType", .text name)])).toList
  else ((storageTypeName? field.type).map fun name => ("bsonType", orNull name)).toList

/-- A bound that the validator states, if the hint holds a number. -/
def propertyBound (field : StoredField) (hint : StorageHint) (keyword : String) :
    List (String × Value) :=
  ((field.hint? hint).bind Value.asNumber?).toList.map fun n => (keyword, Value.ofNumber n)

/-- What the validator states about a field. -/
def property (field : StoredField) : List (String × Value) :=
  field.propertyType ++ field.propertyBound .minLength "minLength" ++
    field.propertyBound .maxLength "maxLength" ++ field.propertyBound .min "minimum" ++
    field.propertyBound .max "maximum" ++
    (match field.check? with
      | some check =>
        [("pattern", .ofTextValue check.inlinePattern), ("description", .text check.message)]
      | none => [])

end StoredField

namespace StorageSchema

/-- The names of the required fields. -/
def requiredFields (schema : StorageSchema) : List Value :=
  (schema.fields.filter fun entry => entry.2.flagged .required).map fun entry =>
    .ofTextValue entry.1

/-- The statement about a time of writing. -/
def timestampProperty : Value := .ofFields [("bsonType", .text "date")]

/-- What the validator states about all fields; a declared field keeps its statement when it has
the name of a time of writing. -/
def properties (schema : StorageSchema) : Entries :=
  schema.timestampFields.foldl (fun stated name =>
      if (stated.getText? name.text).isSome then stated
      else stated ++ [(.ofTextValue name, timestampProperty)])
    (schema.fields.map fun entry => (.ofTextValue entry.1, .ofFields entry.2.property))

/-- The validator of a schema. -/
def validator (schema : StorageSchema) : Value :=
  let required := schema.requiredFields
  .ofFields [("$jsonSchema", .ofFields ([("bsonType", .text "object"),
      ("properties", .map schema.properties)] ++
    if required.isEmpty then [] else [("required", .list required)]))]

end StorageSchema

end FieldSchema
