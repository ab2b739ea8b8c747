import FieldSchema.Validation.Kind

/-!
# Checking values against rules

A rule checks the kind of a value, then its parts, then its refinements; a field stops at its
first refinement that fails, but all fields are looked at.  A field that is left out takes its
default, which is checked like any value; its findings name the place of the field among its
siblings, not its name.  A function that makes a default may ask for the fields before it.  A field
that comes to the mark of a field without a value has none, whether the mark was given or made.

Every rule for an object with fields stands for a model with a name.  The models of a schema are
numbered in the order in which they are complete: those inside a model come before it.

* `Rule.check`: the verdict of a rule on a value.
* `Rule.checkObject`: the verdict on the entries of an object.
-/

namespace FieldSchema

/-! ## Names of models -/

namespace Rule

mutual

/-- The number of models that a rule stands for. -/
def modelCount : Rule → Nat
  | .leaf _ _ => 0
  | .array _ item => modelCount item
  | .object _ fields => modelCountOfFields fields + 1

/-- The number of models that rules of fields stand for. -/
def modelCountOfFields : List (TextValue × Rule) → Nat
  | [] => 0
  | (_, rule) :: rest => modelCount rule + modelCountOfFields rest

end

/-- The name of the model with a number.  A model at an empty path has the name of the schema. -/
def modelName (schemaName path : String) (number : Nat) : String :=
  if path.isEmpty then schemaName else schemaName ++ "_" ++ toString number

/-- The path of a field in words. -/
def fieldPath (path : String) (name : TextValue) : String :=
  if path.isEmpty then name.text else path ++ "." ++ name.displayed

/-- The texts of the names of fields. -/
def fieldTexts (fields : List (TextValue × Rule)) : List String :=
  fields.map fun field => field.1.text

/-- The name of the place of a field among its siblings. -/
def placeName (index : Nat) : String := "field_" ++ toString index

/-- The name under which a field is given out: its place when it has no name. -/
def outputName (name : TextValue) (index : Nat) : TextValue :=
  if name.text.isEmpty then placeName index else name

/-! ## Refinements -/

/-- The words of a rejection, before anything is filled in.  What counts as false stands for no
words, and what is no text cannot be used. -/
def messageOf (r : Rejection) : Except Raised String :=
  if !r.message.truthy then .ok "Invalid value"
  else
    match r.message.asText? with
    | some words => .ok words
    | none => .error .wrongType

/-- The finding of a rejection. -/
def findingOf (input : Value) (r : Rejection) : Except Raised Finding := do
  let words ← messageOf r
  pure { Finding.wrongType r.constraint (fillMessage r words) input with
    expected := .ofText? r.expected, format := .ofText? r.format }

/-- The verdict of refinements in order on a value of a fitting kind; the first that fails
counts.  A refinement also fails when its pattern or its message cannot be used.  Findings show the
input from which the value was made. -/
def checkRefinements (input : Value) : List Refinement → Value → Except Raised (Verdict Value)
  | [], v => .ok (.accepted v)
  | r :: rest, v =>
    let v := r.transform v
    match r.check v with
    | .ok none => checkRefinements input rest v
    | .ok (some rejection) =>
      match rejection.refusal? with
      | some words => .ok (.rejected [refusalOf input words])
      | none => do return .rejected [← findingOf input rejection]
    | .error cause =>
      match cause.refusal? with
      | some words => .ok (.rejected [refusalOf input words])
      | none => .error cause.toRaised

/-- Applies refinements to a value that was accepted so far. -/
def refineVerdict (input : Value) (refinements : List Refinement) :
    Verdict Value → Checking (Verdict Value)
  | .accepted v => .ofExcept (checkRefinements input refinements v)
  | .rejected list => .value (.rejected list)

/-! ## Objects -/

/-- How objects are checked. -/
structure ObjectPolicy where
  /-- The name of the schema. -/
  name : String
  /-- Whether objects may hold nothing but their fields. -/
  strict : Bool
  deriving Repr, Inhabited

/-- The keys that no field has, where that matters. -/
def strangeKeys (policy : ObjectPolicy) (names : List String) (entries : Entries) :
    List Finding :=
  if policy.strict then entries.filterMap (strangeKey? names entries) else []

/-- What is known about the fields before a field. -/
structure EarlierFields where
  /-- The values that were accepted, by the places of their fields. -/
  values : Entries := []
  /-- Whether a value was rejected, given or made. -/
  anyRejected : Bool := false
  deriving Inhabited

namespace EarlierFields

/-- What is known after one more field; what has no value has a mark. -/
def record (earlier : EarlierFields) (index : Nat) (hasValue : Bool)
    (verdict : Verdict (Option Value)) : EarlierFields :=
  match verdict with
  | .accepted v => { earlier with
      values := earlier.values ++ [(.text (placeName index), v.getD (.other Value.absentLabel))] }
  | .rejected _ => { earlier with anyRejected := earlier.anyRejected || hasValue }

end EarlierFields

/-- Whether a function asks for one argument, so that it makes defaults of the fields before it. -/
def asksEarlierFields : Value → Bool
  | .function _ _ (.outside _ asksForArgument) _ => asksForArgument
  | .function _ _ kind _ => kind == .getter || kind == .describe || kind == .wrap
  | _ => false

/-- The verdict on a default: functions are called for it, and its value is checked. -/
def checkDefault (default : Value) (earlier : EarlierFields)
    (check : Value → Checking (Verdict Value)) : Checking (Verdict Value) :=
  if asksEarlierFields default then
    if earlier.anyRejected then .value (.rejected [defaultNotMade])
    else Checking.andThen (default.call [.map earlier.values]) check
  else if default.isCallable then Checking.andThen (default.call []) check
  else check default

/-- Whether a field has a value to check: one that is given, or a default. -/
def hasValue (facts : RuleFacts) (given? : Option Value) : Bool :=
  given?.isSome || facts.default?.isSome

/-- The verdict on a field that is left out. -/
def checkAbsent (facts : RuleFacts) (earlier : EarlierFields)
    (check : Value → Checking (Verdict Value)) (name : String) (index : Nat) :
    Checking (Verdict (Option Value)) :=
  match facts.default? with
  | some default =>
    (checkDefault default earlier check).andThen fun verdict =>
      .value ((verdict.under (.field (placeName index))).map Value.unlessAbsent)
  | none =>
    .value (if facts.isOptional then .accepted none else .rejected [missingField name])

/-- The output with a field in front, if the field has a value. -/
def putField (name : TextValue) (index : Nat) (v : Option Value) (rest : Entries) : Entries :=
  match v with
  | some v => (.ofTextValue (outputName name index), v) :: rest
  | none => rest

mutual

/-- The verdict of a rule on a value.  The path leads to the value in words, and `done` models of
the schema come before those of the rule. -/
def check (policy : ObjectPolicy) (rule : Rule) (path : String) (done : Nat) (v : Value) :
    Checking (Verdict Value) :=
  match rule with
  | .leaf facts kind => refineVerdict v facts.refinements (kind.check v)
  | .array facts item =>
    match v.listItems? with
    | none => .value (.rejected [.wrongType "list_type" "Input should be a valid list" v])
    | some items =>
      (Checking.each (fun part => check policy item path done part) 0 items).andThen fun verdict =>
        refineVerdict v facts.refinements (verdict.map .list)
  | .object facts fields =>
    let name := modelName policy.name path (done + modelCountOfFields fields + 1)
    match v with
    | .map entries =>
      (checkFields policy fields path done 0 {} entries).andThen fun verdict =>
        let verdict := verdict.withFindings (strangeKeys policy (fieldTexts fields) entries)
        match verdict with
        | .rejected list => .value (.rejected list)
        | .accepted output =>
          (refineVerdict v facts.refinements (.accepted (.other name))).andThen fun refined =>
            .value (refined.map fun _ => .map (Entries.ofPairs output))
    | v => .value (.rejected [notAnObject name v])

/-- The verdict of the rules of fields on the entries of an object, given what is known about the
fields before them. -/
def checkFields (policy : ObjectPolicy) (fields : List (TextValue × Rule)) (path : String)
    (done index : Nat) (earlier : EarlierFields) (entries : Entries) : Checking (Verdict Entries) :=
  match fields with
  | [] => .value (.accepted [])
  | (name, rule) :: rest =>
    let checkValue := fun v => check policy rule (fieldPath path name) done v
    let given? := entries.getText? name.text
    let first :=
      match given? with
      | some v => (checkValue v).andThen fun verdict =>
          .value ((verdict.under (.field name.text)).map Value.unlessAbsent)
      | none => checkAbsent rule.facts earlier checkValue name.text index
    first.andThen fun verdict =>
      (checkFields policy rest path (done + modelCount rule) (index + 1)
        (earlier.record index (hasValue rule.facts given?) verdict) entries).andThen
        fun others => .value (verdict.both (putField name index) others)

end

/-- The verdict on a field of which nothing is required. -/
def checkGiven (policy : ObjectPolicy) (name : TextValue) (rule : Rule) (done : Nat)
    (entries : Entries) : Checking (Verdict (Option Value)) :=
  match entries.getText? name.text with
  | some v => (check policy rule (fieldPath "" name) done v).andThen fun verdict =>
      .value ((verdict.under (.field name.text)).map Value.unlessAbsent)
  | none => .value (.accepted none)

/-- The verdict on the fields that are given, whatever is left out. -/
def checkGivenFields (policy : ObjectPolicy) (fields : List (TextValue × Rule)) (done index : Nat)
    (entries : Entries) : Checking (Verdict Entries) :=
  match fields with
  | [] => .value (.accepted [])
  | (name, rule) :: rest =>
    (checkGiven policy name rule done entries).andThen fun verdict =>
      (checkGivenFields policy rest (done + modelCount rule) (index + 1) entries).andThen
        fun others => .value (verdict.both (putField name index) others)

/-- The verdict on a whole input.  A rule that has no fields takes any object.  When the input may
be partial, fields that are left out are passed over and defaults do not apply. -/
def checkObject (policy : ObjectPolicy) (isPartial : Bool) (rule : Rule) (v : Value) :
    Checking (Verdict Entries) :=
  let fields := rule.fields?.getD []
  match v with
  | .map entries =>
    let found :=
      if isPartial then checkGivenFields policy fields 0 0 entries
      else checkFields policy fields "" 0 0 {} entries
    found.andThen fun verdict =>
      .value ((verdict.withFindings (strangeKeys policy (fieldTexts fields) entries)).map
        Entries.ofPairs)
  | v => .value (.rejected [notAnObject policy.name v])

end Rule

end FieldSchema
