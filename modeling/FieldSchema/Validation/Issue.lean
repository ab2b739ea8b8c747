import FieldSchema.AppError
import FieldSchema.Message
import FieldSchema.Path

/-!
# Issues

An input that is rejected comes with issues: for each part that failed, where it is, what is
wrong and what was there.  A check first reports findings, which know the kind of failure; an
issue puts a finding into the words and codes that callers see.

* `Finding.toIssue`: the issue of a finding.
* `Rejected`: all issues of an input, as a text, grouped by field and as a record.
-/

namespace FieldSchema

/-! ## Findings and issues -/

/-- A failure as a check reports it. -/
structure Finding where
  path : Path
  /-- The kind of failure. -/
  kind : TextValue
  message : Option Value := none
  input : Value := .null
  expected : Value := .null
  format : Value := .null
  deriving Inhabited

/-- A failure as callers see it. -/
structure Issue where
  path : Path
  message : Value
  code : Value
  input : Value := .null
  expected : Value := .null
  format : Value := .null
  deriving Inhabited

/-- What is said when nothing better is known. -/
def validationFailed : String := "Validation failed"

namespace Finding

/-- The finding with a step in front of its path. -/
def under (segment : PathSegment) (finding : Finding) : Finding :=
  { finding with path := segment :: finding.path }

/-- Whether a failure is that a field is left out. -/
def isMissing (finding : Finding) : Bool := finding.kind.text == "missing"

/-- Whether a failure is that there is more than the fields. -/
def isExtra (finding : Finding) : Bool := finding.kind.text == "extra_forbidden"

/-- Whether the value is of the wrong type, by the name of the kind. -/
def isWrongType (finding : Finding) : Bool :=
  "_type".toList.isSuffixOf finding.kind.text.toList

/-- Whether the words of an issue say what is expected at the path of the finding: where a field
is left out, and where a value of a wrong type comes without an expectation of its own. -/
def asksExpectation (finding : Finding) : Bool :=
  finding.isMissing ||
    (!finding.isExtra && finding.isWrongType && !finding.expected.truthy)

/-- The issue of a finding, given what is expected at a path. -/
def toIssue (expectedAt : Path → Option String) (overrides : Overrides) (finding : Finding) :
    Issue :=
  let path := finding.path
  let message := finding.message.getD (.text validationFailed)
  if finding.isMissing then
    ⟨path, Message.ofRule overrides path.leafName "required" .null none, .text "invalid_type",
      .null, .ofText? (expectedAt path), .null⟩
  else if finding.isExtra then
    ⟨path, .text ("Unrecognized key: '" ++ path.leafName ++ "'"), .text "unrecognized_keys",
      finding.input, .null, .null⟩
  else if finding.isWrongType then
    ⟨path, message, .text "invalid_type", finding.input,
      if finding.expected.truthy then finding.expected else .ofText? (expectedAt path), .null⟩
  else
    ⟨path, message, .ofTextValue finding.kind, finding.input, finding.expected, finding.format⟩

@[simp] theorem path_toIssue (expectedAt : Path → Option String) (overrides : Overrides)
    (finding : Finding) : (finding.toIssue expectedAt overrides).path = finding.path := by
  unfold toIssue
  dsimp only
  split
  · rfl
  · split
    · rfl
    · split <;> rfl

end Finding

namespace Issue

/-- The field of an issue in words. -/
def field (issue : Issue) : String := issue.path.dotted

/-- The error code of a code in words. -/
def errorCodeOf (code : String) : ErrorCode :=
  if code == "invalid_type" then .invalidType
  else if code == "too_small" then .outOfRange
  else if code == "too_big" then .outOfRange
  else if code == "invalid_format" then .invalidFormat
  else if code == "invalid_value" then .constraintViolation
  else if code == "invalid_date" then .invalidFormat
  else if code == "unrecognized_keys" then .constraintViolation
  else .validationGeneric

/-- The error code of an issue. -/
def errorCode (issue : Issue) : ErrorCode :=
  (issue.code.asText?.map errorCodeOf).getD .validationGeneric

/-- An issue as named values. -/
def attributes (issue : Issue) : List (String × Value) :=
  [("path", issue.path.toValue), ("message", issue.message), ("code", issue.code),
    ("input", issue.input), ("expected", issue.expected), ("format", issue.format)]

/-- An issue as a mapping. -/
def toValue (issue : Issue) : Value := .ofFields issue.attributes

/-- An issue as an object. -/
def asRecord (issue : Issue) : Value :=
  .record 0 (("path", .tuple (issue.path.map PathSegment.toValue)) :: issue.attributes.drop 1)

/-- An issue in words. -/
def displayed (issue : Issue) : String := issue.field ++ ": " ++ issue.message.displayed

end Issue

/-! ## Rejected inputs -/

/-- An input that was rejected, with everything that is wrong with it. -/
structure Rejected where
  issues : List Issue
  deriving Inhabited

namespace Rejected

/-- All issues in one line. -/
def summary (r : Rejected) : String :=
  if r.issues.isEmpty then validationFailed else "; ".intercalate (r.issues.map Issue.displayed)

/-- A message added to those of its field; fields keep the order in which they occurred. -/
def addMessage (groups : List (String × List Value)) (field : String) (message : Value) :
    List (String × List Value) :=
  match groups with
  | [] => [(field, [message])]
  | (name, messages) :: rest =>
    if name == field then (name, messages ++ [message]) :: rest
    else (name, messages) :: addMessage rest field message

/-- The messages of every field. -/
def fieldErrors (r : Rejected) : List (String × List Value) :=
  r.issues.foldl (fun groups issue => addMessage groups issue.field issue.message) []

/-- The messages of every field as a value. -/
def fieldErrorsValue (r : Rejected) : Value :=
  .ofFields (r.fieldErrors.map fun (name, messages) => (name, .list messages))

/-- The error codes of all issues; a code that cannot be looked up is refused. -/
def errorCodes (r : Rejected) : Except Raised (List ErrorCode) :=
  if r.issues.all fun issue => issue.code.isHashable then .ok (r.issues.map Issue.errorCode)
  else .error .wrongType

/-- The issues as a value. -/
def issuesValue (r : Rejected) : Value := .list (r.issues.map Issue.toValue)

/-- The code of a rejection: that of its issue, or the general one when there are more. -/
def code (r : Rejected) : ErrorCode :=
  match r.issues with
  | [issue] => issue.errorCode
  | _ => .validationGeneric

/-- A rejection as a record. -/
def toAppError (r : Rejected) : AppError :=
  ⟨r.code, r.summary, Entries.ofFields [("issues", r.issuesValue)]⟩

/-- A rejection as a mapping. -/
def toValue (r : Rejected) : Value := .ofFields [("issues", r.issuesValue)]

/-- A rejection as a failure that can be read. -/
def asFailure (r : Rejected) : Value := .rejection r.summary (r.issues.map Issue.asRecord)

end Rejected

end FieldSchema
