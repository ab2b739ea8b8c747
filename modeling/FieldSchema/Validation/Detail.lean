import FieldSchema.Rule.Basic
import FieldSchema.Validation.Issue

/-!
# Details of other checks

A check that is not one of this library reports failures as details: mappings with a location, a
kind, a message, the input and a context.  Details become findings, and findings become issues in
the words and codes that callers see.  A detail whose parts are of a kind that does not fit is
refused.

* `Finding.ofDetail`: the finding of a detail.
* `Finding.issueUnder`: the issue of a finding, given the rule of the whole input.
* `Rejected.ofDetails`: all details as a rejected input.
-/

namespace FieldSchema

namespace Value

/-- What is kept under a name in a mapping, or in the modifiers of a field specification, of which
the last one counts. -/
def consult (source : Value) (name : String) : Except Raised (Option Value) :=
  match source with
  | .map entries => .ok (Entries.getText? entries name)
  | .spec _ modifiers => .ok (Entries.getText? modifiers.reverse name)
  | _ => .error .noSuchPart

/-- What is kept under a name, null when there is nothing. -/
def consultOrNull (source : Value) (name : String) : Except Raised Value :=
  (source.consult name).map fun found => found.getD .null

end Value

namespace Finding

/-- The kind of failure that a detail states. -/
def kindOfDetail : Option Value → Except Raised TextValue
  | none => .ok Path.unknown
  | some (.bytes _) => .error .wrongType
  | some v =>
    match v.asTextValue? with
    | some kind => .ok kind
    | none => .error .noSuchPart

/-- The context of a detail; what counts as false is an empty one. -/
def contextOfDetail (v : Value) : Value := if v.truthy then v else .map []

/-- The finding of a detail.  Neither a field that is left out nor one that is too many asks for
the context. -/
def ofDetail (detail : Value) : Except Raised Finding := do
  let location ← ((← detail.consult "loc").getD (.tuple [])).items
  let stated ← detail.consult "type"
  let context := contextOfDetail (← detail.consultOrNull "ctx")
  let finding : Finding := {
    path := location.map PathSegment.ofValue
    kind := ← kindOfDetail stated
    message := ← detail.consult "msg"
    input := ← detail.consultOrNull "input" }
  if finding.isMissing || finding.isExtra then pure finding
  else
    pure { finding with
      expected := ← context.consultOrNull "expected"
      format := ← context.consultOrNull "format" }

/-- The kind of values that a rule expects at a path. -/
def expectedUnder (rule : Option Rule) (path : Path) : Except Raised (Option String) :=
  match rule with
  | none => .ok none
  | some rule => (rule.find path).map fun part => part.map fun part => part.kind.name

/-- The issue of a finding; the expectation is looked up where the issue has to state it. -/
def issueUnder (rule : Option Rule) (overrides : Overrides) (finding : Finding) :
    Except Raised Issue := do
  let expected ← if finding.asksExpectation then expectedUnder rule finding.path else pure none
  pure (finding.toIssue (fun _ => expected) overrides)

end Finding

namespace Rejected

/-- Details as a rejected input. -/
def ofDetails (rule : Option Rule) (overrides : Overrides) (details : List Value) :
    Except Raised Rejected :=
  (details.mapM fun detail => do
    (← Finding.ofDetail detail).issueUnder rule overrides).map Rejected.mk

end Rejected

end FieldSchema
