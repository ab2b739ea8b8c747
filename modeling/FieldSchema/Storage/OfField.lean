import FieldSchema.Definition.Field
import FieldSchema.LogEvent
import FieldSchema.Storage.Field

/-!
# Stored fields of definitions

Storage reads the modifiers of a field in order.  Each one fills a place of its own, and the last
one for a place counts; mail checks and patterns share one place.  Nothing is refused for what a
modifier holds: an unknown type stays as it is, and a pattern that is none leaves a warning.

* `StoredField.applyModifier`: what one modifier changes.
* `StoredField.ofForm`, `StoredField.ofValue`: the stored field of a definition.
-/

namespace FieldSchema

/-- What a definition makes for storage, with the events on the way. -/
abbrev Storing (α : Type) := Logged CompileFailure α

namespace FormatCheck

/-- The warning that a modifier holds no usable pattern. -/
def warning (details : List (String × Value)) : LogEvent :=
  ⟨.warning, "persistence_pattern_invalid", details⟩

/-- The check of a pattern text under flags, or a warning when the text is no pattern. -/
def ofSource (field source : TextValue) (flags : Flags) : Storing (Option FormatCheck) :=
  match Regex.compile source.text flags with
  | .ok _ => .ok (some (ofPattern source flags))
  | .error (.fault fault position) =>
    let diagnostic := (PatternFailure.fault fault position).describe source.text
    (Logged.note (warning [("field", .ofTextValue field), ("pattern", .ofTextValue source),
      ("error", .text diagnostic)])).andThen fun _ => .ok none
  | .error failure => .fail (.pattern failure)

/-- The check that a modifier for patterns states. -/
def ofModifier (field : TextValue) (v : Value) : Storing (Option FormatCheck) :=
  match v with
  | .text source => ofSource field source .none
  | .canonical t => ofSource field (.category t) .none
  | .pattern source flags => ofSource field source flags.withoutUnicode
  | .bytesPattern _ _ =>
    (Logged.note (warning [("field", .ofTextValue field),
      ("error", .text "bytes patterns cannot check text values")])).andThen fun _ => .ok none
  | _ => .ok none

end FormatCheck

namespace StoredField

/-- The field as an array of items; items that are object identifiers bring the collection that
they refer to. -/
def withItems (stored : StoredField) (item : FieldSpec) : StoredField :=
  let itemType := item.type.storageType
  let typed := { stored with type := .list [itemType] }
  match itemType, item.get? "ref" with
  | .canonical .objectId, some ref => typed.withHint .ref ref
  | _, _ => typed

/-- The field with a check, if there is one. -/
def withCheck? (stored : StoredField) : Option FormatCheck → StoredField
  | some check => stored.withCheck check
  | none => stored

/-- Whether a name that is no text can be looked up; a set of names is looked up as it is. -/
def isLookup (key : Value) : Bool :=
  match key with
  | .set _ => true
  | key => key.isHashable

/-- The field after one modifier. -/
def applyModifier (field : TextValue) (isArrayType : Bool) (stored : StoredField)
    (modifier : Value × Value) : Storing StoredField :=
  match modifier.1.asText? with
  | none => if isLookup modifier.1 then .ok stored else .fail (.raised .wrongType)
  | some name =>
    if name == "items" then
      match isArrayType, FieldSpec.ofValue? modifier.2 with
      | true, some item => .ok (stored.withItems item)
      | _, _ => .ok stored
    else if name == "email" then
      .ok (if modifier.2.isTrue then stored.withCheck .email else stored)
    else if name == "regex" then
      (FormatCheck.ofModifier field modifier.2).andThen fun check => .ok (stored.withCheck? check)
    else
      match StorageHint.ofName? name with
      | some hint => .ok (stored.withHint hint modifier.2)
      | none => .ok stored

/-- The field after modifiers in order. -/
def applyModifiers (field : TextValue) (isArrayType : Bool) :
    StoredField → List (Value × Value) → Storing StoredField
  | stored, [] => .ok stored
  | stored, modifier :: rest =>
    (applyModifier field isArrayType stored modifier).andThen fun stored =>
      applyModifiers field isArrayType stored rest

/-- Whether a type is the category of arrays. -/
def isArrayCategory : Value → Bool
  | .canonical .array => true
  | _ => false

/-- The stored field of a type and modifiers. -/
def ofSpec (field : TextValue) (spec : FieldSpec) : Storing StoredField :=
  let type := spec.type.storageType
  applyModifiers field (isArrayCategory type) { type } spec.modifiers

/-- The stored field of a described field.  An array that is given by its items alone has no
modifiers. -/
def ofForm (field : TextValue) : FieldForm → Storing StoredField
  | .single spec => ofSpec field spec
  | .arrayOf item => .ok (withItems { type := .null } item)

/-- The stored field of the value that describes it. -/
def ofValue (field : TextValue) (raw : Value) : Storing StoredField :=
  match FieldForm.read (some field) raw with
  | .ok form => ofForm field form
  | .error cause => .fail (.definition cause)

end StoredField

end FieldSchema
