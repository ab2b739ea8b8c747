import FieldSchema.Rule.OfDefinition
import FieldSchema.Validation.Document

/-!
# Validation schemas

A validation schema is a rule for whole inputs with a name.  It accepts an input and gives out the
fields that the input supplied or that have a default, or it rejects the input with issues.  A
partial schema has the same fields, none of which is required and none of which has a default.

* `ValidationSchema.ofDefinition`: the schema of a definition.
* `ValidationSchema.parse`: the accepted part of an input, or why there is none.
* `ValidationSchema.asPartial`, `ValidationSchema.document`: the partial schema, and the document.
-/

namespace FieldSchema

/-- A schema that inputs are checked against. -/
structure ValidationSchema where
  rule : Rule
  options : ValidationOptions := {}
  name : String := "ValidationModel"
  isPartial : Bool := false
  deriving Inhabited

/-- Why an input is not accepted. -/
inductive ParseFailure where
  /-- Something is wrong with the input. -/
  | rejected (r : Rejected)
  /-- The check stopped. -/
  | stopped (cause : Raised)
  deriving Inhabited

namespace ValidationSchema

/-- The schema of a definition. -/
def ofDefinition (options : ValidationOptions) (definition : Value) :
    Compiling ValidationSchema :=
  (Rule.ofDefinition options.overrides definition).andThen fun rule => .ok { rule, options }

/-- The names of the fields. -/
def fieldNames (schema : ValidationSchema) : List TextValue := schema.rule.fieldNames

/-- How the objects of a schema are checked. -/
def policy (schema : ValidationSchema) : Rule.ObjectPolicy := ⟨schema.name, schema.options.strict⟩

/-- The kind of values that the rules expect at a path. -/
def expectedAt (rule : Rule) (path : Path) : Option String :=
  (rule.at? path).map fun part => part.kind.name

/-- The verdict on an input. -/
def check (schema : ValidationSchema) (data : Value) : Checking (Verdict Entries) :=
  Rule.checkObject schema.policy schema.isPartial schema.rule data

/-- What is wrong with an input, from the findings of its check. -/
def rejectedFor (schema : ValidationSchema) (findings : List Finding) : Rejected :=
  ⟨findings.map (Finding.toIssue (expectedAt schema.rule) schema.options.overrides)⟩

/-- Notes that an input was rejected. -/
def rejectionNote (schema : ValidationSchema) (r : Rejected) : LogEvent :=
  ⟨.debug, "validation_failed",
    [("schema", .text schema.name), ("issues", .int r.issues.length)]⟩

/-- The accepted part of an input, or why there is none. -/
def parse (schema : ValidationSchema) (data : Value) (history : CallHistory) :
    Logged ParseFailure Entries × CallHistory :=
  match schema.check data history with
  | (.ok (.accepted output), history) => (.ok output, history)
  | (.ok (.rejected findings), history) =>
    let r := schema.rejectedFor findings
    (⟨[schema.rejectionNote r], .error (.rejected r)⟩, history)
  | (.error cause, history) => (.fail (.stopped cause), history)

/-- The schema of which nothing is required and that fills nothing in. -/
def asPartial (schema : ValidationSchema) : ValidationSchema :=
  { schema with name := schema.name ++ "Partial", isPartial := true }

/-- The document of a schema. -/
def document (schema : ValidationSchema) : Value :=
  schema.rule.document schema.policy schema.isPartial

/-- A schema in words. -/
def displayed (schema : ValidationSchema) : String :=
  "ValidationSchema(fields=" ++ (Value.list (schema.fieldNames.map .ofTextValue)).written ++
    ", strict=" ++ Value.boolText schema.options.strict ++ ")"

end ValidationSchema

end FieldSchema
