import FieldSchema.Text.Order
import FieldSchema.Value.Conversion

/-!
# Index models

Index models come from pymongo, which is no part of the program.  What is assumed of it:

* A model is made of keys with directions and of options by name.  There has to be a key; a key is a
  text, and its direction is a text, a whole number or a mapping.
* The model has the name that the options give, and else one that is made of its keys and their
  directions in words.
* The other options are kept as they are, but for those that the model has places for itself: keys
  given as an option are overwritten, and a collation has to be a mapping and is dropped when there
  is none.
* Names of options have to be texts, and two of them are taken by the parameters of the model.

Anything else is refused, with a failure that says that types do not fit, or, for no keys, that a
value cannot be used.

* `IndexModel.make`: the model of keys and options, or why there is none.
-/

namespace FieldSchema

/-- An index of a collection. -/
structure IndexModel where
  /-- Indexed names with their directions. -/
  keys : List (Value × Value)
  name : Value
  options : Entries := []
  deriving Inhabited

namespace IndexModel

/-- The name of an index that is given none: keys and directions. -/
def defaultName (keys : List (Value × Value)) : String :=
  "_".intercalate (keys.map fun key => key.1.displayed ++ "_" ++ key.2.displayed)

/-- Whether a key may be indexed in a direction. -/
def isIndexable (key : Value × Value) : Bool :=
  key.1.isText &&
    match key.2 with
    | .bool _ => true
    | .int _ => true
    | .map _ => true
    | v => v.isText

/-- Names of options that belong to the model itself. -/
def isReserved (name : String) : Bool := name == "keys" || name == "self"

/-- Whether an option may be given. -/
def isOption (entry : Value × Value) : Bool :=
  match entry.1.asText? with
  | some name => !isReserved name
  | none => false

/-- Whether a collation is a mapping, or absent. -/
def isCollation : Value → Bool
  | .null => true
  | .map _ => true
  | _ => false

/-- The options that a model keeps: name and keys have places of their own, and an empty
collation is dropped. -/
def keptOptions (options : Entries) : Entries :=
  options.filter fun entry =>
    match entry.1.asText? with
    | some "name" => false
    | some "key" => false
    | some "collation" => !entry.2.isNull
    | _ => true

/-- The options of a model in the order of their names. -/
def sortedOptions (model : IndexModel) : Entries :=
  model.options.mergeSort fun a b =>
    Text.precedes (a.1.asText?.getD "") (b.1.asText?.getD "")

/-- The failure of a model without keys. -/
def noKeys : Raised := .badValue "key_or_list must not be empty"

/-- The model of keys and options. -/
def make (keys : List (Value × Value)) (options : Entries) : Except Raised IndexModel :=
  if !options.all isOption then .error .wrongType
  else if keys.isEmpty then .error noKeys
  else if !keys.all isIndexable then .error .wrongType
  else if !isCollation (Entries.getText options "collation") then .error .wrongType
  else
    let stated := Entries.getText options "name"
    .ok {
      keys
      name := if stated.isNull then .text (defaultName keys) else stated
      options := keptOptions options }

end IndexModel

end FieldSchema
