import FieldSchema.Definition.Failure

/-!
# Field definitions

A field is described by a mapping, which holds a type token and modifiers, or by a sequence whose
first item describes the items of an array.  Modifiers keep the order of the description.  A
modifier that has several spellings is known under one of them, so that a mapping with two
spellings yields the same modifier twice.

* `FieldSpec.ofEntries`: the field that a mapping describes.
* `FieldForm.read`: the field that a value describes.
* `Definition.read`: the fields of a whole definition.
-/

namespace FieldSchema

/-- A type token with modifiers in order. -/
structure FieldSpec where
  type : Value := .null
  modifiers : List (Value × Value) := []
  deriving Inhabited

/-- How a field is described. -/
inductive FieldForm where
  /-- By a type and modifiers. -/
  | single (spec : FieldSpec)
  /-- As an array, by what describes its items. -/
  | arrayOf (item : FieldSpec)
  deriving Inhabited

namespace FieldSpec

/-! ## Modifiers -/

/-- The one name of a modifier that has several. -/
def canonicalName (name : String) : String :=
  if name == "minLength" then "minlength"
  else if name == "maxLength" then "maxlength"
  else if name == "match" then "regex"
  else name

/-- The key of a modifier under its one name; a key that is no text stays. -/
def canonicalKey : Value → Value
  | .text name => .text (canonicalName name)
  | key => key

/-- Whether a key names the type of a field. -/
def isTypeKey (key : Value) : Bool := key.asText? = some "type"

/-- The field that a mapping describes. -/
def ofEntries (entries : Entries) : FieldSpec where
  type := entries.getText "type"
  modifiers :=
    (entries.filter fun entry => !isTypeKey entry.1).map fun entry =>
      (canonicalKey entry.1, entry.2)

/-- Whether a modifier occurs. -/
def has (spec : FieldSpec) (name : String) : Bool :=
  spec.modifiers.any fun modifier => modifier.1.asText? == some name

/-- The value of the last occurrence of a modifier. -/
def get? (spec : FieldSpec) (name : String) : Option Value :=
  (spec.modifiers.reverse.find? fun modifier => modifier.1.asText? == some name).map (·.2)

/-- The value of the last occurrence of a modifier, null when there is none. -/
def get (spec : FieldSpec) (name : String) : Value := (spec.get? name).getD .null

/-- The field that a value describes without the array form. -/
def ofValue? : Value → Option FieldSpec
  | .spec type modifiers => some ⟨type, modifiers⟩
  | .map entries => some (ofEntries entries)
  | _ => none

/-- What describes the items of an array field. -/
def items? (spec : FieldSpec) : Option FieldSpec := ofValue? (spec.get "items")

/-- The definition of the parts of an object field. -/
def schema? (spec : FieldSpec) : Option Entries := (spec.get "schema").asEntries?

/-- Whether a modifier refers back to a mapping that the field is a part of. -/
def refersBack (spec : FieldSpec) (name : String) : Bool :=
  match spec.get name with
  | .enclosing _ isMapping => isMapping
  | _ => false

/-- A field as a value. -/
def toValue (spec : FieldSpec) : Value := .spec spec.type spec.modifiers

theorem has_eq_isSome_get? (spec : FieldSpec) (name : String) :
    spec.has name = (spec.get? name).isSome := by
  rw [Bool.eq_iff_iff]
  simp [has, get?, List.find?_isSome]

end FieldSpec

namespace FieldForm

/-- What describes the items of an array; items without a type are texts. -/
def itemSpec (first : Value) : FieldSpec :=
  let item : FieldSpec :=
    match first with
    | .map entries => .ofEntries entries
    | token => ⟨token, []⟩
  if item.type.isNull then { item with type := .canonical .string } else item

/-- The field that a value describes. -/
def read (field : Option TextValue) (raw : Value) : Except DefinitionError FieldForm :=
  match raw with
  | .spec type modifiers => .ok (.single ⟨type, modifiers⟩)
  | .shorthand type modifiers => .ok (.arrayOf ⟨type, modifiers⟩)
  | .map entries => .ok (.single (.ofEntries entries))
  | .list items => .ok (.arrayOf (itemSpec (items.head?.getD (.map []))))
  | .tuple items => .ok (.arrayOf (itemSpec (items.head?.getD (.map []))))
  | .deque items => .ok (.arrayOf (itemSpec (items.head?.getD (.map []))))
  | raw => .error (.undescribedField raw field)

/-- A field as a value. -/
def toValue : FieldForm → Value
  | .single spec => spec.toValue
  | .arrayOf item => .shorthand item.type item.modifiers

/-- The part of a field that carries modifiers: the field itself, or the items of an array. -/
def described : FieldForm → FieldSpec
  | .single spec => spec
  | .arrayOf item => item

end FieldForm

namespace Definition

/-- The fields of the entries of a definition, in order. -/
def readEntries : Entries → Except DefinitionError (List (TextValue × FieldForm))
  | [] => .ok []
  | (key, raw) :: rest =>
    match key.asTextValue? with
    | none => .error (.nameNotText key)
    | some name => do
      let form ← FieldForm.read (some name) raw
      let fields ← readEntries rest
      pure ((name, form) :: fields)

/-- The fields of a definition, in order. -/
def read (definition : Value) : Except DefinitionError (List (TextValue × FieldForm)) :=
  match definition with
  | .map entries => readEntries entries
  | found => .error (.notMapping "Schema definition" found)

end Definition

end FieldSchema
