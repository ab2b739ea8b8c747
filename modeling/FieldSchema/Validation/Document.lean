import FieldSchema.Validation.Check
import FieldSchema.Value.JsonForm

/-!
# Documented schemas

A schema can be shown as a JSON Schema document.  Models inside it are described apart, by name,
and referred to.  A field says the type of its values, what its refinements add, its default if
that has a JSON form, and a title made from its name.

* `Rule.document`: the document of a schema.
-/

namespace FieldSchema

namespace Rule

/-- What a document says about a value and which models it refers to. -/
structure Described where
  entries : List (String × Value)
  models : List (String × Value) := []
  deriving Inhabited

/-- What a document says about fields and which models it refers to. -/
structure DescribedFields where
  properties : Entries := []
  models : List (String × Value) := []
  deriving Inhabited

/-- The title made from the name of a field. -/
def title (name : String) : String :=
  Text.trim (Text.replaceAll "_" " " (Text.titlecase name))

/-- What a document says about values of a kind. -/
def describeKind : RuleKind → List (String × Value)
  | .string => [("type", .text "string")]
  | .number => [("anyOf", .list [
      .ofFields [("type", .text "integer")], .ofFields [("type", .text "number")]])]
  | .boolean => [("type", .text "boolean")]
  | .date => [("type", .text "string"), ("format", .text "date-time")]
  | .array => [("type", .text "array"), ("items", .map [])]
  | .object => [("type", .text "object"), ("additionalProperties", .bool true)]
  | .any => []
  | .map =>
    [("type", .text "object"),
      ("additionalProperties", .ofFields [("type", .text "string")])]

/-- A description with what refinements add to it. -/
def addHints (refinements : List Refinement) (entries : List (String × Value)) :
    List (String × Value) :=
  entries ++ refinements.flatMap Refinement.hints

/-- What a document says about a default. -/
def describeDefault : Option Value → List (String × Value)
  | none => []
  | some v =>
    if v.isCallable then []
    else (v.jsonForm?.map fun form => ("default", form)).toList

/-- Whether a field may be left out. -/
def mayBeAbsent (rule : Rule) : Bool := rule.facts.isOptional || rule.facts.default?.isSome

/-- The names of the fields that may not be left out. -/
def requiredNames (fields : List (TextValue × Rule)) : List Value :=
  (fields.filter fun field => !field.2.mayBeAbsent).map fun field => .ofTextValue field.1

/-- Entries that are said one after the other, later ones in place of earlier ones. -/
def saying (entries : List (String × Value)) : Value :=
  .map (Entries.ofPairs (Entries.ofFields entries))

/-- The document of a model, from what is said about its fields. -/
def modelDocument (strict : Bool) (name : String) (properties : Entries)
    (required : List Value) : Value :=
  saying (
    [("type", .text "object"), ("properties", .map (Entries.ofPairs properties))]
      ++ (if required.isEmpty then [] else [("required", .list required)])
      ++ [("title", .text name)]
      ++ (if strict then [("additionalProperties", .bool false)] else []))

/-- What a document says about a field beside its values: default and title.  What refers to a
model has no title. -/
def describeField (name : TextValue) (default : Option Value) (described : Described) : Value :=
  let isReference := described.entries.any fun entry => entry.1 == "$ref"
  saying (described.entries ++ describeDefault default ++
    (if isReference then [] else [("title", .text (title name.text))]))

mutual

/-- What a document says about the values of a rule. -/
def describe (policy : ObjectPolicy) (rule : Rule) (path : String) (done : Nat) : Described :=
  match rule with
  | .leaf facts kind => ⟨addHints facts.refinements (describeKind kind), []⟩
  | .array facts item =>
    let described := describe policy item path done
    ⟨addHints facts.refinements
      [("type", .text "array"), ("items", saying described.entries)], described.models⟩
  | .object facts fields =>
    let name := modelName policy.name path (done + modelCountOfFields fields + 1)
    let parts := describeFields policy fields path done
    let document := modelDocument policy.strict name parts.properties (requiredNames fields)
    ⟨addHints facts.refinements [("$ref", .text ("#/$defs/" ++ name))],
      parts.models ++ [(name, document)]⟩

/-- What a document says about fields. -/
def describeFields (policy : ObjectPolicy) (fields : List (TextValue × Rule)) (path : String)
    (done : Nat) : DescribedFields :=
  match fields with
  | [] => {}
  | (name, rule) :: rest =>
    let described := describe policy rule (fieldPath path name) done
    let others := describeFields policy rest path (done + modelCount rule)
    ⟨(.ofTextValue name, describeField name rule.facts.default? described) :: others.properties,
      described.models ++ others.models⟩

end

/-- What a document says about fields of which nothing is required. -/
def describeGivenFields (policy : ObjectPolicy) (fields : List (TextValue × Rule)) (done : Nat) :
    DescribedFields :=
  match fields with
  | [] => {}
  | (name, rule) :: rest =>
    let described := describe policy rule (fieldPath "" name) done
    let others := describeGivenFields policy rest (done + modelCount rule)
    ⟨(.ofTextValue name, describeField name none described) :: others.properties,
      described.models ++ others.models⟩

/-- The document of a schema. -/
def document (policy : ObjectPolicy) (isPartial : Bool) (rule : Rule) : Value :=
  let fields := rule.fields?.getD []
  let parts :=
    if isPartial then describeGivenFields policy fields 0 else describeFields policy fields "" 0
  let required := if isPartial then [] else requiredNames fields
  let root := modelDocument policy.strict policy.name parts.properties required
  let whole :=
    match root with
    | .map entries =>
      if parts.models.isEmpty then root
      else .map ((.text "$defs", saying parts.models) :: entries)
    | root => root
  Value.sortKeys "" whole

end Rule

end FieldSchema
