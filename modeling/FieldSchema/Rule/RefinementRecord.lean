import FieldSchema.Rule.Refinement

/-!
# Refinements as records

A refinement is written down by its name and its attributes.  Attributes that a record leaves out
have their usual values, and some have none; attributes that a refinement does not know are
refused.

* `Refinement.recordName`, `Refinement.attributes`: the record of a refinement.
* `Refinement.ofRecord`: the refinement of a record.
* `Refinement.isNamed`: whether a refinement goes by a name.
-/

namespace FieldSchema

namespace Measure

/-- The name of bounds on a measure. -/
def recordName : Measure → String
  | .length => "LengthBound"
  | .number => "NumericBound"
  | .count => "ItemCountBound"

/-- The attribute of the lower bound. -/
def leastAttribute : Measure → String
  | .length => "min_length"
  | .number => "minimum"
  | .count => "min_items"

/-- The attribute of the upper bound. -/
def mostAttribute : Measure → String
  | .length => "max_length"
  | .number => "maximum"
  | .count => "max_items"

end Measure

namespace RefinementKind

/-- All kinds of refinements. -/
def all : List RefinementKind :=
  [.bounds .length, .bounds .number, .bounds .count, .pattern, .email, .objectId, .lowercase,
    .oneOf]

/-- The name of a kind. -/
def recordName : RefinementKind → String
  | .bounds measure => measure.recordName
  | .pattern => "PatternMatch"
  | .email => "EmailFormat"
  | .objectId => "ObjectIdFormat"
  | .lowercase => "CaseFold"
  | .oneOf => "Membership"

/-- The kind of a name. -/
def ofName? (name : String) : Option RefinementKind := all.find? fun kind => kind.recordName == name

theorem ofName?_recordName (kind : RefinementKind) : ofName? kind.recordName = some kind := by
  cases kind with
  | bounds measure => cases measure <;> decide
  | _ => decide

/-- The attributes of a kind in order, with their usual values; some have to be given. -/
def attributes : RefinementKind → List (String × Option Value)
  | .bounds measure =>
    [(measure.leastAttribute, some .null), (measure.mostAttribute, some .null),
      ("message", some (.text ""))]
  | .pattern => [("pattern", none), ("flags", some (.int 0)), ("message", some (.text ""))]
  | .email => [("message", some (.text "Invalid email format"))]
  | .objectId =>
    [("length_message", some (.text "Invalid ObjectId")),
      ("format_message", some (.text "Invalid ObjectId format"))]
  | .lowercase => []
  | .oneOf => [("allowed", none), ("message", some (.text ""))]

end RefinementKind

namespace Refinement

/-- The name of a refinement. -/
def recordName (r : Refinement) : String := r.kind.recordName

/-- The attributes of a refinement. -/
def attributes : Refinement → List (String × Value)
  | .bounds measure least most message =>
    [(measure.leastAttribute, least), (measure.mostAttribute, most), ("message", message)]
  | .pattern source flags message =>
    [("pattern", source), ("flags", flags), ("message", message)]
  | .email message => [("message", message)]
  | .objectId lengthMessage formatMessage =>
    [("length_message", lengthMessage), ("format_message", formatMessage)]
  | .lowercase => []
  | .oneOf allowed message =>
    [("allowed", .tuple (allowed.map Value.ofTextValue)), ("message", message)]

/-! ## Reading records -/

/-- The names that stand for what every refinement is. -/
def familyNames : List String := ["Refinement", "ABC"]

/-- The names beside those of refinements that are known: no refinement goes by them. -/
def otherNames : List String := ["ValidationResult", "ErrorCode", "ObjectId"]

/-- Whether some refinement goes by a name; other names may not be asked for. -/
def isNamed (rs : List Refinement) (name : String) : Except Raised Bool :=
  if familyNames.contains name then .ok (!rs.isEmpty)
  else if otherNames.contains name then .ok false
  else
    match RefinementKind.ofName? name with
    | some kind => .ok (rs.any fun r => r.kind == kind)
    | none => .error .noSuchPart

/-- The allowed texts of an attribute: its items, which all have to be texts. -/
def allowedOf (v : Value) : Except Raised (List TextValue) := do
  match (← v.items).mapM Value.asTextValue? with
  | some allowed => pure allowed
  | none => .error .wrongType

/-- The refinement of a kind, from the values of all its attributes in order. -/
def ofAttributes (kind : RefinementKind) (values : List Value) : Except Raised Refinement :=
  match kind, values with
  | .bounds measure, [least, most, message] => .ok (.bounds measure least most message)
  | .pattern, [source, flags, message] => .ok (.pattern source flags message)
  | .email, [message] => .ok (.email message)
  | .objectId, [lengthMessage, formatMessage] => .ok (.objectId lengthMessage formatMessage)
  | .lowercase, [] => .ok .lowercase
  | .oneOf, [allowed, message] => do return .oneOf (← allowedOf allowed) message
  | _, _ => .error .wrongType

/-- The value of an attribute: the given one or the usual one. -/
def attributeOf (given : List (String × Value)) (slot : String × Option Value) :
    Except Raised Value :=
  match (given.lookup slot.1).or slot.2 with
  | some v => .ok v
  | none => .error .wrongType

/-- The refinement of a name and attributes. -/
def ofRecord (name : String) (given : List (String × Value)) : Except Raised Refinement := do
  match RefinementKind.ofName? name with
  | none =>
    .error (if familyNames.contains name || otherNames.contains name then .wrongType
      else .noSuchPart)
  | some kind =>
    if given.all fun entry => (kind.attributes.lookup entry.1).isSome then
      ofAttributes kind (← kind.attributes.mapM (attributeOf given))
    else .error .wrongType

end Refinement

end FieldSchema
