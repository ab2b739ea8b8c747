import FieldSchema.ObjectId
import FieldSchema.Pattern.Named
import FieldSchema.Text.Casing
import FieldSchema.Value.Pattern

/-!
# Refinements

A refinement is one condition on a value whose kind is already known: bounds on its length, its
number or its count of items, a format, or membership in a set of texts.  A refinement may change
the value before it looks at it, and it says what is wrong in the words it was given.

Bounds, patterns and messages are kept as they are given, whatever values they are.  Whether they
can be used shows only when a value is checked.

* `Refinement`: the conditions.
* `Refinement.transform`, `Refinement.check`: what a refinement does to a value, and whether it
  accepts it.
* `Refinement.constraintName`, `Refinement.hints`: how a refinement is named and documented.
-/

namespace FieldSchema

/-! ## Conditions -/

/-- What bounds are about. -/
inductive Measure where
  /-- The number of characters of a text. -/
  | length
  /-- The number itself. -/
  | number
  /-- The number of items of an array. -/
  | count
  deriving DecidableEq, Repr, Inhabited

/-- A condition on a value. -/
inductive Refinement where
  /-- Bounds on a measure, both inclusive. -/
  | bounds (measure : Measure) (least most : Value) (message : Value)
  /-- Some part of a text matches a pattern. -/
  | pattern (source flags message : Value)
  | email (message : Value)
  /-- A text that an object identifier can be made of. -/
  | objectId (lengthMessage formatMessage : Value)
  /-- Brings a text to lower case. -/
  | lowercase
  /-- A text is one of some, whatever the case of the letters. -/
  | oneOf (allowed : List TextValue) (message : Value)
  deriving Inhabited

/-- The kinds of refinements. -/
inductive RefinementKind where
  | bounds (measure : Measure) | pattern | email | objectId | lowercase | oneOf
  deriving DecidableEq, Repr, Inhabited

/-- What is wrong with a value that a refinement rejects. -/
structure Rejection where
  message : Value
  code : ErrorCode
  /-- The name of the kind of failure. -/
  constraint : String
  expected : Option String := none
  format : Option String := none
  deriving Inhabited

/-- Why a refinement has no answer. -/
inductive CheckFailure where
  /-- Its pattern cannot be used. -/
  | pattern (cause : PatternFailure)
  /-- Its bound is no number. -/
  | boundNotNumber
  deriving DecidableEq, Repr, Inhabited

namespace CheckFailure

/-- What is wrong in words, when what is given to a refinement is of a kind that fits. -/
def refusal? : CheckFailure → Option String
  | .pattern (.conflict cause) => some cause.message
  | _ => none

/-- A failure as one that is raised. -/
def toRaised : CheckFailure → Raised
  | .boundNotNumber => .wrongType
  | .pattern cause => cause.toRaised

end CheckFailure

namespace Rejection

/-- What is wrong in words, when no coding has the message, so that it cannot be given out. -/
def refusal? (r : Rejection) : Option String :=
  match r.message with
  | .brokenText broken => some broken.refusal
  | _ => none

/-- A value of the wrong kind. -/
def wrongKind (expected : String) (v : Value) : Rejection where
  message := .text ("Expected " ++ expected ++ ", got " ++ v.typeLabel)
  code := .invalidType
  constraint := "invalid_type"
  expected := some expected

/-- A rejection as a record. -/
def toValue (r : Rejection) : Value :=
  .ofFields [("valid", .bool false), ("message", r.message), ("code", .text r.constraint),
    ("error_code", .text r.code.name), ("expected", .ofText? r.expected),
    ("format", .ofText? r.format)]

end Rejection

namespace Measure

/-- The kind of values that have a measure. -/
def expected : Measure → String
  | .length => "string"
  | .number => "number"
  | .count => "array"

/-- The measure of a value, none when the value is of another kind. -/
def of? (measure : Measure) (v : Value) : Option Number :=
  match measure with
  | .length => v.asText?.map fun text => .int text.length
  | .number => v.asNumber?
  | .count =>
    match v with
    | .list items => some (.int items.length)
    | _ => none

/-- The name of the lower bound. -/
def leastName : Measure → String
  | .length => "minlength"
  | .number => "min"
  | .count => "min_items"

/-- The name of the upper bound. -/
def mostName : Measure → String
  | .length => "maxlength"
  | .number => "max"
  | .count => "max_items"

/-- The keyword of the lower bound in a documented schema. -/
def leastKeyword : Measure → String
  | .length => "minLength"
  | .number => "minimum"
  | .count => "minItems"

/-- The keyword of the upper bound in a documented schema. -/
def mostKeyword : Measure → String
  | .length => "maxLength"
  | .number => "maximum"
  | .count => "maxItems"

end Measure

namespace Refinement

/-- The kind of a refinement. -/
def kind : Refinement → RefinementKind
  | .bounds measure _ _ _ => .bounds measure
  | .pattern _ _ _ => .pattern
  | .email _ => .email
  | .objectId _ _ => .objectId
  | .lowercase => .lowercase
  | .oneOf _ _ => .oneOf

/-! ## Checking values -/

/-- The value that a refinement hands on. -/
def transform : Refinement → Value → Value
  | .lowercase, .text s => .text (Text.lowercase s)
  | .lowercase, .canonical t => .text (Text.lowercase t.label)
  | _, v => v

/-- The number of a bound; null is no bound. -/
def boundNumber (bound : Value) : Except CheckFailure (Option Number) :=
  if bound.isNull then .ok none
  else
    match bound.numeric? with
    | some n => .ok (some n)
    | none => .error .boundNotNumber

/-- What bounds say about a measured value.  The upper one is looked at only when the lower one is
kept. -/
def checkBounds (measure : Measure) (least most message : Value) (size : Number) :
    Except CheckFailure (Option Rejection) := do
  if (← boundNumber least).any size.lt then
    pure (some ⟨message, .outOfRange, "too_small", some measure.expected, none⟩)
  else if (← boundNumber most).any fun bound => bound.lt size then
    pure (some ⟨message, .outOfRange, "too_big", some measure.expected, none⟩)
  else pure none

/-- What the format of object identifiers says about a text, given which texts are taken for
identifiers.  The length is looked at first. -/
def checkObjectId (isValid : String → Bool) (lengthMessage formatMessage : Value) (text : String) :
    Option Rejection :=
  if text.length != 24 then
    some ⟨lengthMessage, .invalidObjectId, "invalid_format", none, some "objectid"⟩
  else if !isValid text then
    some ⟨formatMessage, .invalidObjectId, "invalid_format", none, some "objectid"⟩
  else none

/-- Whether a text is one of some, whatever the case of the letters. -/
def isOneOf (allowed : List TextValue) (text : String) : Bool :=
  (allowed.map fun option => Text.lowercase option.text).contains (Text.lowercase text)

/-- Whether a text has a match, given the answer of a pattern. -/
def answerOf (found : Except PatternFailure Bool) (rejection : Rejection) :
    Except CheckFailure (Option Rejection) :=
  match found with
  | .ok true => .ok none
  | .ok false => .ok (some rejection)
  | .error cause => .error (.pattern cause)

/-- What a refinement of texts says about a text. -/
def checkText : Refinement → String → Except CheckFailure (Option Rejection)
  | .pattern source flags message, text =>
    answerOf ((Regex.ofValues source flags).bind fun regex => regex.search text)
      ⟨message, .invalidFormat, "invalid_format", none, some "regex"⟩
  | .email message, text =>
    answerOf (Regex.startsWithMatch emailPattern text)
      ⟨message, .invalidEmail, "invalid_format", none, some "email"⟩
  | .objectId lengthMessage formatMessage, text =>
    .ok (checkObjectId ObjectId.isValid lengthMessage formatMessage text)
  | .oneOf allowed message, text =>
    .ok (if isOneOf allowed text then none
      else some ⟨message, .constraintViolation, "invalid_value",
        some (" | ".intercalate (allowed.map TextValue.text)), none⟩)
  | _, _ => .ok none

/-- What a refinement says about a value, nothing when it accepts it. -/
def check (r : Refinement) (v : Value) : Except CheckFailure (Option Rejection) :=
  match r with
  | .bounds measure least most message =>
    match measure.of? v with
    | some size => checkBounds measure least most message size
    | none => .ok (some (.wrongKind measure.expected v))
  | r =>
    match v.asText? with
    | some text => r.checkText text
    | none => .ok (some (.wrongKind "string" v))

/-- What is wrong in words with a refinement itself, from its answer: with its pattern or with its
message. -/
def refusal? : Except CheckFailure (Option Rejection) → Option String
  | .ok (some rejection) => rejection.refusal?
  | .ok none => none
  | .error cause => cause.refusal?

/-- A refinement of texts looks at the text of a value. -/
theorem check_of_text {r : Refinement} {v : Value} {text : String}
    (hkind : ∀ measure, r.kind ≠ .bounds measure) (htext : v.asText? = some text) :
    r.check v = r.checkText text := by
  cases r with
  | bounds measure => exact absurd rfl (hkind measure)
  | _ => rw [check, htext]; exact nofun

/-- A refinement of texts rejects what is no text. -/
theorem check_of_noText {r : Refinement} {v : Value}
    (hkind : ∀ measure, r.kind ≠ .bounds measure) (htext : v.asText? = none) :
    r.check v = .ok (some (.wrongKind "string" v)) := by
  cases r with
  | bounds measure => exact absurd rfl (hkind measure)
  | _ => rw [check, htext]; exact nofun

/-! ## Names and documentation -/

/-- The name of a refinement. -/
def constraintName : Refinement → String
  | .bounds measure least most _ =>
    if least.isNull then measure.mostName ++ "[" ++ most.displayed ++ "]"
    else measure.leastName ++ "[" ++ least.displayed ++ "]"
  | .pattern source _ _ => "pattern[" ++ source.displayed ++ "]"
  | .email _ => "email"
  | .objectId _ _ => "objectid"
  | .lowercase => "lowercase"
  | .oneOf allowed _ => "one_of[" ++ ", ".intercalate (allowed.map TextValue.text) ++ "]"

/-- What a documented schema says about a refinement. -/
def hints : Refinement → List (String × Value)
  | .bounds measure least most _ =>
    if least.isNull then [(measure.mostKeyword, most)] else [(measure.leastKeyword, least)]
  | .pattern source _ _ => [("pattern", source)]
  | .email _ => [("format", .text "email")]
  | .objectId _ _ =>
    [("pattern", .text objectIdPattern), ("minLength", .int 24), ("maxLength", .int 24)]
  | .lowercase => []
  | .oneOf allowed _ =>
    [("enum", .list (allowed.map fun option => .text (Text.lowercase option.text)))]

end Refinement

end FieldSchema
