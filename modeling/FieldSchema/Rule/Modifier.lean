import FieldSchema.Definition.Field
import FieldSchema.Message
import FieldSchema.Rule.Basic

/-!
# Modifiers of rules

A modifier changes the rule that was built so far.  Most add a refinement and count only on rules
of a fitting kind with a value of a fitting kind; others are passed over.  Allowed values replace
the rule: such a field takes texts, whatever its type.

* `Rule.applyModifier`: the rule after one modifier.
* `Rule.finish`: what is added after the last modifier.
-/

namespace FieldSchema

namespace Rule

/-! ## Built-in rules -/

/-- The rule for object identifiers as texts. -/
def objectId : Refinement :=
  .objectId (.text "Invalid ObjectId") (.text "Invalid ObjectId format")

/-- The rule for a text that is one of some, brought to lower case. -/
def oneOf (overrides : Overrides) (field : TextValue) (allowed : List TextValue) : Rule :=
  let own := field.displayed ++ " must be one of: " ++
    ", ".intercalate (allowed.map TextValue.text)
  ofKind .string [.lowercase, .oneOf allowed (overrides.orElse field "enum" own)]

/-- The allowed values that a value states, nothing when it states none. -/
def allowedValues? (field : TextValue) (v : Value) :
    Except DefinitionError (Option (List TextValue)) :=
  match v.asSequence? with
  | none => .ok none
  | some [] => .ok none
  | some options =>
    match options.mapM Value.asTextValue? with
    | some texts => .ok (some texts)
    | none => .error (.optionNotText field)

/-! ## Single modifiers -/

/-- The rule with a bound on a measure. -/
def bound (rule : Rule) (measure : Measure) (isLeast : Bool) (n : Number) (message : Value) :
    Rule :=
  let v := Value.ofNumber n
  let (least, most) := if isLeast then (v, .null) else (.null, v)
  rule.refine [.bounds measure least most message]

/-- A bound on the length of texts. -/
def boundLength (overrides : Overrides) (field : TextValue) (modifier : String) (isLeast : Bool)
    (rule : Rule) (v : Value) : Rule :=
  match rule.kind, v.asNumber? with
  | .string, some n =>
    rule.bound .length isLeast n (Message.ofRule overrides field modifier v none)
  | _, _ => rule

/-- A bound on numbers, or on the count of items of arrays. -/
def boundSize (overrides : Overrides) (field : TextValue) (modifier : String) (isLeast : Bool)
    (rule : Rule) (v : Value) : Rule :=
  match rule.kind, v.asNumber? with
  | .number, some n =>
    let own := (if isLeast then "Min" else "Max") ++ " value for " ++ field.displayed ++ " is " ++
      v.displayed
    rule.bound .number isLeast n (Message.ofRule overrides field modifier v (some own))
  | .array, some n =>
    let own := "Array " ++ field.displayed ++ " must have at " ++
      (if isLeast then "least" else "most") ++ " " ++ v.displayed ++ " items"
    rule.bound .count isLeast n (Message.ofRule overrides field modifier v (some own))
  | _, _ => rule

/-- The format of mail addresses. -/
def mailAddress (overrides : Overrides) (field : TextValue) (rule : Rule) (v : Value) : Rule :=
  if v.isTrue && rule.kind == .string then
    rule.refine [.email (Message.ofRule overrides field "email" .null
      (some ("Invalid email format for " ++ field.displayed)))]
  else rule

/-- Checks a pattern text and adds it to a rule. -/
def matching (overrides : Overrides) (field : TextValue) (rule : Rule) (source : TextValue)
    (flags : Flags) : Except CompileFailure Rule :=
  match Regex.compile source.text flags with
  | .ok _ => .ok (rule.refine [.pattern (.ofTextValue source) (.int flags.toNat)
      (Message.ofPattern overrides field source.text)])
  | .error (.fault cause place) =>
    let diagnostic := (PatternFailure.fault cause place).describe source.text
    .error (.definition (.badPattern diagnostic field))
  | .error failure => .error (.pattern failure)

/-- A pattern that texts have to match. -/
def matchPattern (overrides : Overrides) (field : TextValue) (rule : Rule) (v : Value) :
    Except CompileFailure Rule :=
  if rule.kind == .string then
    match v with
    | .text source => matching overrides field rule source .none
    | .canonical t => matching overrides field rule (.category t) .none
    | .pattern source flags => matching overrides field rule source flags.withoutUnicode
    | .bytesPattern _ _ => .error (.definition (.bytesPattern field))
    | _ => .ok rule
  else .ok rule

/-- A reference to a stored object, which is an object identifier. -/
def referTo (rule : Rule) : Rule :=
  if rule.kind == .string && !rule.hasRefinement .objectId then rule.refine [objectId] else rule

/-- The rule after one modifier. -/
def applyModifier (overrides : Overrides) (field : TextValue) (rule : Rule) (modifier : String)
    (v : Value) : Except CompileFailure Rule :=
  if modifier == "required" then .ok (if v.isFalse then rule.markOptional else rule)
  else if modifier == "minlength" then .ok (boundLength overrides field modifier true rule v)
  else if modifier == "maxlength" then .ok (boundLength overrides field modifier false rule v)
  else if modifier == "min" then .ok (boundSize overrides field modifier true rule v)
  else if modifier == "max" then .ok (boundSize overrides field modifier false rule v)
  else if modifier == "email" then .ok (mailAddress overrides field rule v)
  else if modifier == "enum" then
    match allowedValues? field v with
    | .ok (some allowed) => .ok (oneOf overrides field allowed)
    | .ok none => .ok rule
    | .error cause => .error (.definition cause)
  else if modifier == "regex" then matchPattern overrides field rule v
  else if modifier == "default" then .ok (rule.withDefault v)
  else if modifier == "ref" then .ok rule.referTo
  else .ok rule

/-- The rule after modifiers in order.  A modifier that is not named by a text is passed over; one
whose name cannot be looked up is refused. -/
def applyModifiers (overrides : Overrides) (field : TextValue) (rule : Rule) :
    List (Value × Value) → Except CompileFailure Rule
  | [] => .ok rule
  | (key, v) :: rest =>
    match key.asText? with
    | some modifier =>
      match applyModifier overrides field rule modifier v with
      | .ok rule => applyModifiers overrides field rule rest
      | .error failure => .error failure
    | none =>
      if key.isHashable then applyModifiers overrides field rule rest
      else .error (.raised .wrongType)

/-! ## After the modifiers -/

/-- Whether a field holds passwords, by its name. -/
def isPasswordName (field : TextValue) : Bool := Message.nameMentions field "password"

/-- A password without a pattern of its own has to be strong. -/
def strengthen (field : TextValue) (spec : FieldSpec) (rule : Rule) : Rule :=
  if rule.kind == .string && isPasswordName field && !spec.has "regex" then
    rule.refine [.pattern (.text passwordPattern) (.int 0) (.text (Message.strongPassword field))]
  else rule

/-- A field with a default may be left out unless it is required. -/
def relax (spec : FieldSpec) (rule : Rule) : Rule :=
  if spec.has "default" && !(spec.get "required").isTrue then rule.markOptional else rule

/-- What is added after the last modifier. -/
def finish (field : TextValue) (spec : FieldSpec) (rule : Rule) : Rule :=
  relax spec (strengthen field spec rule)

end Rule

end FieldSchema
