import FieldSchema.Pattern.Named
import FieldSchema.TypeToken

/-!
# Stored fields

What storage keeps of a field: a type, hints that are copied as they are given, and one check of
the format of texts.  A hint that was never given is absent, which is not the same as null.

* `StorageHint`: the hints.
* `StoredField`: a stored field; `StoredField.toValue`: its record, in a fixed order.
* `FormatCheck.accepts`: the check of a value.
-/

namespace FieldSchema

/-! ## Hints -/

/-- A hint that storage copies from a definition. -/
inductive StorageHint where
  | required | unique | minLength | maxLength | min | max | default | ref | select | sparse | index
  | text | immutable | transform | get | set
  deriving DecidableEq, Repr, Inhabited

namespace StorageHint

/-- The hints that come before the format check in a record. -/
def beforeCheck : List StorageHint :=
  [.required, .unique, .minLength, .maxLength, .min, .max, .default, .ref]

/-- The hints that come after the format check in a record. -/
def afterCheck : List StorageHint :=
  [.select, .sparse, .index, .text, .immutable, .transform, .get, .set]

/-- All hints. -/
def all : List StorageHint := beforeCheck ++ afterCheck

/-- The name of a hint, which is that of the modifier it is copied from. -/
def name : StorageHint → String
  | .required => "required"
  | .unique => "unique"
  | .minLength => "minlength"
  | .maxLength => "maxlength"
  | .min => "min"
  | .max => "max"
  | .default => "default"
  | .ref => "ref"
  | .select => "select"
  | .sparse => "sparse"
  | .index => "index"
  | .text => "text"
  | .immutable => "immutable"
  | .transform => "transform"
  | .get => "get"
  | .set => "set"

/-- The hint of a name. -/
def ofName? (name : String) : Option StorageHint := all.find? fun hint => hint.name == name

theorem mem_all (hint : StorageHint) : hint ∈ all := by
  cases hint <;> decide

theorem ofName?_name (hint : StorageHint) : ofName? hint.name = some hint := by
  cases hint <;> decide

theorem name_of_ofName? {name : String} {hint : StorageHint} (h : ofName? name = some hint) :
    hint.name = name := by
  simpa using List.find?_some h

end StorageHint

/-! ## Format checks -/

namespace FormatCheck

/-- Whether a check accepts a value: null, or a text that holds a match of the pattern. -/
def accepts (check : FormatCheck) (v : Value) : Except PatternFailure Bool :=
  if v.isNull then .ok true
  else
    match v.asText? with
    | some s => Regex.hasMatch check.pattern.text check.flags s
    | none => .ok false

/-- The check of mail addresses. -/
def email : FormatCheck := ⟨emailPattern, .none, "Invalid email format"⟩

/-- The check of a pattern that a definition gives. -/
def ofPattern (source : TextValue) (flags : Flags) : FormatCheck :=
  ⟨source, flags, "Invalid format"⟩

/-- A check as a record. -/
def toValue (check : FormatCheck) : Value :=
  .ofFields [("pattern", .ofTextValue check.pattern), ("flags", .int check.flags.toNat),
    ("message", .text check.message)]

end FormatCheck

/-! ## Fields -/

/-- What storage keeps of a field. -/
structure StoredField where
  /-- A category, a list of one for typed arrays, or an unknown token. -/
  type : Value
  check? : Option FormatCheck := none
  hints : StorageHint → Option Value := fun _ => none
  deriving Inhabited

namespace StoredField

/-- A hint, if it was given. -/
def hint? (field : StoredField) (hint : StorageHint) : Option Value := field.hints hint

/-- Whether a hint is exactly true. -/
def flagged (field : StoredField) (hint : StorageHint) : Bool :=
  ((field.hint? hint).map Value.isTrue).getD false

/-- The field with a hint, which replaces the one before. -/
def withHint (field : StoredField) (hint : StorageHint) (v : Value) : StoredField :=
  { field with hints := fun asked => if asked = hint then some v else field.hints asked }

/-- The field with a format check, which replaces the one before. -/
def withCheck (field : StoredField) (check : FormatCheck) : StoredField :=
  { field with check? := some check }

/-- Whether the type is a list. -/
def isArray (field : StoredField) : Bool :=
  match field.type with
  | .list _ => true
  | _ => false

/-- The type of the items, null when there is none. -/
def itemType (field : StoredField) : Value :=
  match field.type with
  | .list (item :: _) => item
  | _ => .null

/-- The given hints of a list, in order. -/
def givenHints (field : StoredField) (hints : List StorageHint) : List (String × Value) :=
  hints.filterMap fun hint => (field.hint? hint).map fun v => (hint.name, v)

/-- The parts of a field that were given, in a fixed order. -/
def parts (field : StoredField) : List (String × Value) :=
  [("type", field.type)] ++ field.givenHints StorageHint.beforeCheck ++
    (field.check?.map fun check => ("validate", Value.formatCheck check)).toList ++
    field.givenHints StorageHint.afterCheck

/-- What every stored field has beside its parts. -/
def memberNames : List String :=
  ["is_array", "item_type", "is_set", "to_dict", "__annotations__", "__class__",
    "__dataclass_fields__", "__dataclass_params__", "__delattr__", "__dir__", "__doc__", "__eq__",
    "__format__", "__ge__", "__getattribute__", "__getstate__", "__gt__", "__hash__", "__init__",
    "__init_subclass__", "__le__", "__lt__", "__match_args__", "__module__", "__ne__", "__new__",
    "__reduce__", "__reduce_ex__", "__repr__", "__setattr__", "__setstate__", "__sizeof__",
    "__slots__", "__str__", "__subclasshook__"]

/-- Whether a field has something of a name: a part that was given, or what all fields have. -/
def isSet (field : StoredField) (name : String) : Bool :=
  (field.parts.lookup name).isSome || memberNames.contains name

/-- A field as a record. -/
def toValue (field : StoredField) : Value := .ofFields field.parts

@[simp] theorem hint?_withHint_self (field : StoredField) (hint : StorageHint) (v : Value) :
    (field.withHint hint v).hint? hint = some v := by
  simp [withHint, hint?]

theorem hint?_withHint_of_ne (field : StoredField) {asked hint : StorageHint} (v : Value)
    (h : asked ≠ hint) : (field.withHint hint v).hint? asked = field.hint? asked := by
  simp [withHint, hint?, h]

@[simp] theorem type_withHint (field : StoredField) (hint : StorageHint) (v : Value) :
    (field.withHint hint v).type = field.type := rfl

@[simp] theorem check?_withHint (field : StoredField) (hint : StorageHint) (v : Value) :
    (field.withHint hint v).check? = field.check? := rfl

@[simp] theorem hint?_withCheck (field : StoredField) (check : FormatCheck) (asked : StorageHint) :
    (field.withCheck check).hint? asked = field.hint? asked := rfl

end StoredField

end FieldSchema
