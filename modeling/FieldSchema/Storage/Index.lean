import FieldSchema.Storage.IndexModel
import FieldSchema.Storage.Schema

/-!
# Indexes

Hints of fields and declared indexes become index models: keys with directions, a name, and
options.  A text hint wins over all others; a field that is unique or has a direction gets an
index of its own; declared indexes follow in order.

* `IndexModel.ofDeclaration`, `IndexModel.ofField?`: the model of a declared index, or of hints.
* `StorageSchema.indexModels`: the models of a schema.
-/

namespace FieldSchema

namespace IndexModel

/-- The direction that a value states, if it states one. -/
def direction? : Value → Option Value
  | .bool true => some (.int 1)
  | .int n => if n == 1 || n == -1 then some (.int n) else none
  | v => if (v.asText?.map String.isEmpty) == some false then some v else none

/-- The direction that a value states; the default is ascending. -/
def direction (v : Value) : Value := (direction? v).getD (.int 1)

/-- The model of a declared index.  A mapping states names and directions; anything else is one
name, whose direction stands in the options or is the option. -/
def ofDeclaration (keys options : Value) : Except Raised IndexModel :=
  match keys, options with
  | .map entries, .map options => make entries options
  | .map entries, _ => make entries []
  | name, .map options =>
    let stated := (Entries.getText? options "direction").getD (.bool true)
    make [(name, direction stated)] (Entries.eraseText options "direction")
  | name, stated => make [(name, direction stated)] []

/-- The model that the hints of a field ask for. -/
def ofField? (name : TextValue) (field : StoredField) : Option (Except Raised IndexModel) :=
  if field.flagged .text then some (make [(.ofTextValue name, .text "text")] [])
  else
    let stated := (field.hint? .index).bind direction?
    if stated.isNone && !field.flagged .unique then none
    else
      let flags := [StorageHint.unique, .sparse].filter field.flagged
      some (make [(.ofTextValue name, stated.getD (.int 1))]
        (Entries.ofFields (flags.map fun flag => (flag.name, .bool true))))

end IndexModel

namespace StorageSchema

/-- The models of a schema: those of hints in the order of the fields, then the declared ones. -/
def indexModels (schema : StorageSchema) : Except Raised (List IndexModel) := do
  let hinted ← (schema.fields.filterMap fun entry => IndexModel.ofField? entry.1 entry.2).mapM id
  let declared ← schema.indexes.mapM fun index => IndexModel.ofDeclaration index.1 index.2
  pure (hinted ++ declared)

end StorageSchema

end FieldSchema
