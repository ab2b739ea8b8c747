import FieldSchema.Definition.Depth
import FieldSchema.LogEvent
import FieldSchema.Rule.Modifier
import FieldSchema.TypeToken

/-!
# Rules of definitions

The rule of a field starts from its type: arrays take the rule of their items and objects those of
their parts.  The modifiers are applied to it in order.  Items of a type that is not known may be
anything.

* `Rule.ofForm`: the rule of a field.
* `Rule.ofFields`, `Rule.ofDefinition`: the rule of a definition.
-/

namespace FieldSchema

/-- What all fields of a definition share. -/
structure ValidationOptions where
  /-- Whether objects may hold nothing but their fields. -/
  strict : Bool := false
  overrides : Overrides := .none
  deriving Inhabited

/-- A rule in the making, or why there is none. -/
abbrev Compiling (α : Type) := Logged CompileFailure α

/-- Fails because of a definition. -/
def Compiling.ofDefinition {α : Type} : Except DefinitionError α → Compiling α
  | .ok a => .ok a
  | .error cause => .fail (.definition cause)

namespace Rule

/-- The rule of a category that holds nothing else. -/
def ofCategory : CanonicalType → Rule
  | .string => ofKind .string []
  | .number => ofKind .number []
  | .boolean => ofKind .boolean []
  | .date => ofKind .date []
  | .array => ofKind .array []
  | .object => ofKind .object []
  | .objectId => ofKind .string [objectId]
  | .mixed => ofKind .any []
  | .map => ofKind .map []

/-- Notes that the items of an array may be anything. -/
def anyItems (field : TextValue) (token : Value) : Compiling Unit :=
  Logged.note ⟨.debug, "array_items_unconstrained",
    [("field", .ofTextValue field), ("item_type", .text token.written)]⟩

/-- Notes the number of rules of a definition. -/
def rulesMade (count : Nat) : Compiling Unit :=
  Logged.note ⟨.debug, "validation_rules_compiled", [("fields", .int count)]⟩

/-- The rule of a field that names no part; one that is a part of itself has none. -/
def orEndless (spec : FieldSpec) (part : String) (rule : Rule) : Compiling Rule :=
  if spec.refersBack part then .fail (.raised .endless) else .ok rule

mutual

/-- The rule of a type with what its items or parts are. -/
def ofType (overrides : Overrides) (field : TextValue) (t : CanonicalType) (spec : FieldSpec) :
    Compiling Rule :=
  match t with
  | .array =>
    match _h : spec.items? with
    | some item => (ofItemSpec overrides field item).andThen fun rule => .ok (ofItem rule)
    | none => orEndless spec "items" (ofCategory .array)
  | .object =>
    match _h : spec.schema? with
    | some entries =>
      match _hread : Definition.readEntries entries with
      | .ok parts => ofParts overrides parts
      | .error cause => .fail (.definition cause)
    | none => orEndless spec "schema" (ofCategory .object)
  | t => .ok (ofCategory t)
termination_by (spec.depth, 0)
decreasing_by
  · exact Prod.Lex.left _ _ (FieldSpec.depth_items? _h)
  · have := Definition.depth_readEntries _hread
    have := FieldSpec.depth_schema? _h
    exact Prod.Lex.left _ _ (by omega)

/-- The rule of the items of an array, none when they may be anything. -/
def ofItemSpec (overrides : Overrides) (field : TextValue) (item : FieldSpec) :
    Compiling (Option Rule) :=
  match item.type.category? with
  | some t => (ofType overrides field t item).andThen fun rule => .ok (some rule)
  | none => (anyItems field item.type).andThen fun _ => .ok none
termination_by (item.depth, 1)

/-- The rule of a field. -/
def ofForm (overrides : Overrides) (field : TextValue) (form : FieldForm) : Compiling Rule :=
  match form with
  | .arrayOf item =>
    (ofItemSpec overrides field item).andThen fun rule =>
      (Compiling.ofDefinition (allowedValues? field (item.get "enum"))).andThen fun allowed =>
        match allowed with
        | some allowed => .ok (ofItem (some (oneOf overrides field allowed)))
        | none => .ok (ofItem rule)
  | .single spec =>
    (Compiling.ofDefinition (spec.type.categoryFor (some field))).andThen fun t =>
      (ofType overrides field t spec).andThen fun rule =>
        (Logged.ofExcept (applyModifiers overrides field rule spec.modifiers)).andThen fun rule =>
          .ok (finish field spec rule)
termination_by (form.depth, 2)
decreasing_by
  · exact Prod.Lex.right _ (by omega)
  · exact Prod.Lex.right _ (by omega)

/-- The rules of fields, in order. -/
def ofForms (overrides : Overrides) (fields : List (TextValue × FieldForm)) :
    Compiling (List (TextValue × Rule)) :=
  match fields with
  | [] => .ok []
  | (field, form) :: rest =>
    (ofForm overrides field form).andThen fun rule =>
      (ofForms overrides rest).andThen fun rules => .ok ((field, rule) :: rules)
termination_by (Definition.depth fields, fields.length + 2)
decreasing_by
  all_goals
    simp only [Definition.depth, Prod.lex_def, List.length_cons]
    omega

/-- The rule of an object with the given parts. -/
def ofParts (overrides : Overrides) (fields : List (TextValue × FieldForm)) : Compiling Rule :=
  (ofForms overrides fields).andThen fun rules =>
    (rulesMade rules.length).andThen fun _ => .ok (ofFields rules)
termination_by (Definition.depth fields, fields.length + 3)

end

/-- The rule of a field that a value describes. -/
def ofField (overrides : Overrides) (field : TextValue) (raw : Value) : Compiling Rule :=
  (Compiling.ofDefinition (FieldForm.read (some field) raw)).andThen (ofForm overrides field)

/-- The rule of a definition. -/
def ofDefinition (overrides : Overrides) (definition : Value) : Compiling Rule :=
  (Compiling.ofDefinition (Definition.read definition)).andThen (ofParts overrides)

end Rule

end FieldSchema
