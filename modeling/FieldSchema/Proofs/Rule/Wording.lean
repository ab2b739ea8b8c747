import FieldSchema.Proofs.Rule.Reading

/-!
# Words of rules

Every refinement of a rule brings the words with it that it gives out when it fails.  The words are
all that overrides have a say in.

1. The rule of a definition is the same under any overrides, up to the words of its refinements;
   and if there is none, there is none for the same cause.  Two runs of the same work agree step by
   step, by induction on how a rule is made (`Rule.agrees_of_made`).
2. A refinement has the words of the override for its field and its kind, and else the words of its
   kind (`Refinement.IsWorded`).  Formats of object identifiers and the strength of passwords have
   words that no override replaces.

* `Rule.withoutMessages`: a rule without the words of its refinements.
* `Rule.agrees_ofDefinition`: rules of one definition under two overrides.
* `Rule.isWorded_ofDefinition`: the words of the refinements of a definition.
-/

namespace FieldSchema

/-! ## Work that agrees -/

namespace Logged

variable {ε α β γ δ : Type}

/-- Two pieces of work end alike up to what a function leaves out: they fail for the same cause, or
the function takes their results to the same. -/
def AgreesUpTo (f : α → γ) (first second : Logged ε α) : Prop :=
  first.result.map f = second.result.map f

theorem AgreesUpTo.refl (f : α → γ) (work : Logged ε α) : AgreesUpTo f work work := rfl

theorem AgreesUpTo.ok {f : α → γ} {a a' : α} (h : f a = f a') :
    AgreesUpTo f (.ok a : Logged ε α) (.ok a') :=
  congrArg Except.ok h

/-- Work in two steps agrees when both steps do. -/
theorem AgreesUpTo.andThen {f : α → γ} {g : β → δ} {first second : Logged ε α}
    {next next' : α → Logged ε β} (h : AgreesUpTo f first second)
    (hnext : ∀ a a', f a = f a' → AgreesUpTo g (next a) (next' a')) :
    AgreesUpTo g (first.andThen next) (second.andThen next') := by
  unfold AgreesUpTo at h ⊢
  rw [result_andThen, result_andThen]
  cases hfirst : first.result with
  | error cause =>
    cases hsecond : second.result with
    | error cause' =>
      rw [hfirst, hsecond] at h
      exact congrArg Except.error (Except.error.inj h)
    | ok a' =>
      rw [hfirst, hsecond] at h
      cases h
  | ok a =>
    cases hsecond : second.result with
    | error cause' =>
      rw [hfirst, hsecond] at h
      cases h
    | ok a' =>
      rw [hfirst, hsecond] at h
      exact hnext a a' (Except.ok.inj h)

/-- Work that goes on from one and the same first step. -/
theorem AgreesUpTo.after {g : β → δ} (first : Logged ε α) {next next' : α → Logged ε β}
    (hnext : ∀ a, AgreesUpTo g (next a) (next' a)) :
    AgreesUpTo g (first.andThen next) (first.andThen next') :=
  (refl id first).andThen fun a a' (hsame : a = a') => hsame ▸ hnext a

/-- Work whose one and the same first step fails. -/
theorem AgreesUpTo.of_error {g : β → δ} {first : Logged ε α} {cause : ε}
    (h : first.result = .error cause) (next next' : α → Logged ε β) :
    AgreesUpTo g (first.andThen next) (first.andThen next') := by
  unfold AgreesUpTo
  rw [result_andThen, result_andThen, h]
  rfl

end Logged

/-! ## Rules without words -/

namespace Refinement

/-- The words that a refinement may give out. -/
def messages : Refinement → List Value
  | .bounds _ _ _ message => [message]
  | .pattern _ _ message => [message]
  | .email message => [message]
  | .objectId lengthMessage formatMessage => [lengthMessage, formatMessage]
  | .lowercase => []
  | .oneOf _ message => [message]

/-- The refinement without its words. -/
def withoutMessages : Refinement → Refinement
  | .bounds measure least most _ => .bounds measure least most .null
  | .pattern source flags _ => .pattern source flags .null
  | .email _ => .email .null
  | .objectId _ _ => .objectId .null .null
  | .lowercase => .lowercase
  | .oneOf allowed _ => .oneOf allowed .null

@[simp] theorem kind_withoutMessages (r : Refinement) : r.withoutMessages.kind = r.kind := by
  cases r <;> rfl

@[simp] theorem transform_withoutMessages (r : Refinement) :
    r.withoutMessages.transform = r.transform := by
  cases r <;> rfl

theorem withoutMessages_limit (measure : Measure) (isLeast : Bool) (n : Number)
    (message message' : Value) :
    (limit measure isLeast n message).withoutMessages =
      (limit measure isLeast n message').withoutMessages := by
  cases isLeast <;> rfl

end Refinement

/-- The facts of a rule without the words of its refinements. -/
def RuleFacts.withoutMessages (facts : RuleFacts) : RuleFacts :=
  { facts with refinements := facts.refinements.map Refinement.withoutMessages }

namespace Rule

mutual

/-- The rule without the words of its refinements, at every depth. -/
def withoutMessages : Rule → Rule
  | .leaf facts kind => .leaf facts.withoutMessages kind
  | .array facts item => .array facts.withoutMessages (withoutMessages item)
  | .object facts fields => .object facts.withoutMessages (fieldsWithoutMessages fields)

/-- The rules of fields without their words. -/
def fieldsWithoutMessages : List (TextValue × Rule) → List (TextValue × Rule)
  | [] => []
  | (name, rule) :: rest => (name, withoutMessages rule) :: fieldsWithoutMessages rest

end

@[simp] theorem kind_withoutMessages (rule : Rule) : rule.withoutMessages.kind = rule.kind := by
  cases rule <;> rfl

@[simp] theorem facts_withoutMessages (rule : Rule) :
    rule.withoutMessages.facts = rule.facts.withoutMessages := by
  cases rule <;> rfl

@[simp] theorem item?_withoutMessages (rule : Rule) :
    rule.withoutMessages.item? = rule.item?.map withoutMessages := by
  cases rule <;> rfl

@[simp] theorem withoutMessages_withFacts (rule : Rule) (facts : RuleFacts) :
    (rule.withFacts facts).withoutMessages =
      rule.withoutMessages.withFacts facts.withoutMessages := by
  cases rule <;> rfl

theorem withoutMessages_refine (rule : Rule) (more : List Refinement) :
    (rule.refine more).withoutMessages =
      rule.withoutMessages.refine (more.map Refinement.withoutMessages) := by
  simp [refine, RuleFacts.withoutMessages]

theorem withoutMessages_markOptional (rule : Rule) :
    rule.markOptional.withoutMessages = rule.withoutMessages.markOptional := by
  simp [markOptional, RuleFacts.withoutMessages]

theorem withoutMessages_withDefault (rule : Rule) (v : Value) :
    (rule.withDefault v).withoutMessages = rule.withoutMessages.withDefault v := by
  simp [withDefault, RuleFacts.withoutMessages]

@[simp] theorem hasRefinement_withoutMessages (rule : Rule) (kind : RefinementKind) :
    rule.withoutMessages.hasRefinement kind = rule.hasRefinement kind := by
  simp [hasRefinement, RuleFacts.withoutMessages, Function.comp_def]

theorem lookup_fieldsWithoutMessages (name : String) (fields : List (TextValue × Rule)) :
    TextValue.lookup name (fieldsWithoutMessages fields) =
      (TextValue.lookup name fields).map withoutMessages := by
  induction fields with
  | nil => rfl
  | cons field rest ih =>
    obtain ⟨first, rule⟩ := field
    rw [fieldsWithoutMessages, TextValue.lookup_cons, TextValue.lookup_cons, ih]
    split <;> rfl

theorem step?_withoutMessages (rule : Rule) (segment : PathSegment) :
    rule.withoutMessages.step? segment = (rule.step? segment).map withoutMessages := by
  have hfields : rule.withoutMessages.fields?.getD [] =
      fieldsWithoutMessages (rule.fields?.getD []) := by
    cases rule <;> rfl
  unfold step?
  split
  · exact item?_withoutMessages rule
  · split
    · rw [hfields, lookup_fieldsWithoutMessages]
    · rfl

/-- Rules without their words have the same parts, without their words. -/
theorem at?_withoutMessages (rule : Rule) (path : Path) :
    rule.withoutMessages.at? path = (rule.at? path).map withoutMessages := by
  induction path generalizing rule with
  | nil => rfl
  | cons segment rest ih =>
    rw [at?, at?, step?_withoutMessages]
    cases rule.step? segment with
    | none => rfl
    | some part => exact ih part

/-! ## Modifiers under two overrides -/

/-- Two choices by one test agree up to a function when both their sides do. -/
theorem map_ite_congr {ε α β : Type} {f : α → β} {c : Prop} [Decidable c]
    {yes yes' no no' : Except ε α} (hyes : yes.map f = yes'.map f) (hno : no.map f = no'.map f) :
    (if c then yes else no).map f = (if c then yes' else no').map f := by
  split
  · exact hyes
  · exact hno

variable {overrides overrides' : Overrides} {field : TextValue} {rule rule' : Rule}
  {modifier : String} {v : Value}

section

variable (h : rule.withoutMessages = rule'.withoutMessages)

include h

theorem kind_eq_of_withoutMessages : rule.kind = rule'.kind := by
  rw [← kind_withoutMessages rule, h, kind_withoutMessages]

theorem withoutMessages_refine_congr {more more' : List Refinement}
    (hmore : more.map Refinement.withoutMessages = more'.map Refinement.withoutMessages) :
    (rule.refine more).withoutMessages = (rule'.refine more').withoutMessages := by
  rw [withoutMessages_refine, withoutMessages_refine, h, hmore]

theorem withoutMessages_bound (measure : Measure) (isLeast : Bool) (n : Number)
    (message message' : Value) :
    (rule.bound measure isLeast n message).withoutMessages =
      (rule'.bound measure isLeast n message').withoutMessages := by
  rw [bound_eq_refine, bound_eq_refine]
  exact withoutMessages_refine_congr h
    (congrArg ([·]) (Refinement.withoutMessages_limit measure isLeast n message message'))

theorem withoutMessages_boundLength (isLeast : Bool) :
    (boundLength overrides field modifier isLeast rule v).withoutMessages =
      (boundLength overrides' field modifier isLeast rule' v).withoutMessages := by
  unfold boundLength
  rw [kind_eq_of_withoutMessages h]
  split
  · exact withoutMessages_bound h _ _ _ _ _
  · exact h

theorem withoutMessages_boundSize (isLeast : Bool) :
    (boundSize overrides field modifier isLeast rule v).withoutMessages =
      (boundSize overrides' field modifier isLeast rule' v).withoutMessages := by
  unfold boundSize
  rw [kind_eq_of_withoutMessages h]
  split
  · exact withoutMessages_bound h _ _ _ _ _
  · exact withoutMessages_bound h _ _ _ _ _
  · exact h

theorem withoutMessages_mailAddress :
    (mailAddress overrides field rule v).withoutMessages =
      (mailAddress overrides' field rule' v).withoutMessages := by
  unfold mailAddress
  rw [kind_eq_of_withoutMessages h]
  split
  · exact withoutMessages_refine_congr h rfl
  · exact h

theorem withoutMessages_referTo : rule.referTo.withoutMessages = rule'.referTo.withoutMessages := by
  have hhas : rule.hasRefinement .objectId = rule'.hasRefinement .objectId := by
    rw [← hasRefinement_withoutMessages rule, h, hasRefinement_withoutMessages]
  unfold referTo
  rw [kind_eq_of_withoutMessages h, hhas]
  split
  · exact withoutMessages_refine_congr h rfl
  · exact h

theorem withoutMessages_matching (source : TextValue) (flags : Flags) :
    (matching overrides field rule source flags).map withoutMessages =
      (matching overrides' field rule' source flags).map withoutMessages := by
  unfold matching
  split
  · exact congrArg Except.ok (withoutMessages_refine_congr h rfl)
  · rfl
  · rfl

theorem withoutMessages_matchPattern :
    (matchPattern overrides field rule v).map withoutMessages =
      (matchPattern overrides' field rule' v).map withoutMessages := by
  unfold matchPattern
  rw [kind_eq_of_withoutMessages h]
  split
  · split
    · exact withoutMessages_matching h _ _
    · exact withoutMessages_matching h _ _
    · exact withoutMessages_matching h _ _
    · rfl
    · exact congrArg Except.ok h
  · exact congrArg Except.ok h

/-- **One modifier** of two rules that differ in their words. -/
theorem withoutMessages_applyModifier :
    (applyModifier overrides field rule modifier v).map withoutMessages =
      (applyModifier overrides' field rule' modifier v).map withoutMessages := by
  unfold applyModifier
  refine map_ite_congr ?required <| map_ite_congr ?minlength <| map_ite_congr ?maxlength <|
    map_ite_congr ?min <| map_ite_congr ?max <| map_ite_congr ?email <| map_ite_congr ?enum <|
    map_ite_congr ?regex <| map_ite_congr ?default <| map_ite_congr ?ref ?other
  case required =>
    split
    · refine congrArg Except.ok ?_
      rw [withoutMessages_markOptional, withoutMessages_markOptional, h]
    · exact congrArg Except.ok h
  case minlength => exact congrArg Except.ok (withoutMessages_boundLength h true)
  case maxlength => exact congrArg Except.ok (withoutMessages_boundLength h false)
  case min => exact congrArg Except.ok (withoutMessages_boundSize h true)
  case max => exact congrArg Except.ok (withoutMessages_boundSize h false)
  case email => exact congrArg Except.ok (withoutMessages_mailAddress h)
  case enum =>
    split
    · rfl
    · exact congrArg Except.ok h
    · rfl
  case regex => exact withoutMessages_matchPattern h
  case default =>
    refine congrArg Except.ok ?_
    rw [withoutMessages_withDefault, withoutMessages_withDefault, h]
  case ref => exact congrArg Except.ok (withoutMessages_referTo h)
  case other => exact congrArg Except.ok h

theorem withoutMessages_applyModifiers (modifiers : List (Value × Value)) :
    (applyModifiers overrides field rule modifiers).map withoutMessages =
      (applyModifiers overrides' field rule' modifiers).map withoutMessages := by
  induction modifiers generalizing rule rule' with
  | nil => exact congrArg Except.ok h
  | cons modifier rest ih =>
    obtain ⟨key, v⟩ := modifier
    rw [applyModifiers, applyModifiers]
    cases key.asText? with
    | none =>
      dsimp only
      split
      · exact ih h
      · rfl
    | some name =>
      -- Either both rules take the modifier, and agree after it, or neither does.
      have hstep : (applyModifier overrides field rule name v).map withoutMessages =
          (applyModifier overrides' field rule' name v).map withoutMessages :=
        withoutMessages_applyModifier h
      dsimp only
      revert hstep
      cases applyModifier overrides field rule name v <;>
        cases applyModifier overrides' field rule' name v <;> intro hstep
      · exact congrArg Except.error (Except.error.inj hstep)
      · cases hstep
      · cases hstep
      · exact ih (Except.ok.inj hstep)

theorem withoutMessages_finish (spec : FieldSpec) :
    (finish field spec rule).withoutMessages = (finish field spec rule').withoutMessages := by
  have hstrengthen : (strengthen field spec rule).withoutMessages =
      (strengthen field spec rule').withoutMessages := by
    unfold strengthen
    rw [kind_eq_of_withoutMessages h]
    split
    · exact withoutMessages_refine_congr h rfl
    · exact h
  unfold finish relax
  split
  · rw [withoutMessages_markOptional, withoutMessages_markOptional, hstrengthen]
  · exact hstrengthen

end

/-! ## Definitions under two overrides -/

theorem withoutMessages_ofItem {item? item?' : Option Rule}
    (h : item?.map withoutMessages = item?'.map withoutMessages) :
    (ofItem item?).withoutMessages = (ofItem item?').withoutMessages := by
  cases item? <;> cases item?'
  · rfl
  · cases h
  · cases h
  · exact congrArg (Rule.array {}) (Option.some.inj h)

theorem withoutMessages_ofFields {fields fields' : List (TextValue × Rule)}
    (h : fieldsWithoutMessages fields = fieldsWithoutMessages fields') :
    (ofFields fields).withoutMessages = (ofFields fields').withoutMessages :=
  congrArg (Rule.object {}) h

theorem length_fieldsWithoutMessages (fields : List (TextValue × Rule)) :
    (fieldsWithoutMessages fields).length = fields.length := by
  induction fields with
  | nil => rfl
  | cons field rest ih => exact congrArg (· + 1) ih

/-- The rule of an object with a definition of its own comes from its parts. -/
theorem ofType_object {spec : FieldSpec} {entries : Entries} (h : spec.schema? = some entries) :
    ofType overrides field .object spec =
      (Compiling.ofDefinition (Definition.readEntries entries)).andThen (ofParts overrides) := by
  unfold ofType
  split
  · rename_i entries' hsame
    obtain rfl := Option.some.inj (h.symm.trans hsame)
    split
    · rename_i parts hread
      rw [hread]
      rfl
    · rename_i cause hread
      rw [hread]
      rfl
  · rename_i hnone
    cases h.symm.trans hnone

/-- The rule of a type that is neither an array nor an object has no parts. -/
theorem ofType_ofCategory {t : CanonicalType} {spec : FieldSpec} (harray : t ≠ .array)
    (hobject : t ≠ .object) : ofType overrides field t spec = .ok (ofCategory t) := by
  unfold ofType
  split
  · exact absurd rfl harray
  · exact absurd rfl hobject
  · rfl

/-- The rules that are made under two overrides agree, by induction on how they are made: of types,
of parts, of fields, of one field, and of items. -/
theorem agrees_of_made (overrides overrides' : Overrides) :
    (∀ field t spec, Logged.AgreesUpTo withoutMessages (ofType overrides field t spec)
      (ofType overrides' field t spec)) ∧
    (∀ forms, Logged.AgreesUpTo withoutMessages (ofParts overrides forms)
      (ofParts overrides' forms)) ∧
    (∀ forms, Logged.AgreesUpTo fieldsWithoutMessages (ofForms overrides forms)
      (ofForms overrides' forms)) ∧
    (∀ field form, Logged.AgreesUpTo withoutMessages (ofForm overrides field form)
      (ofForm overrides' field form)) ∧
    (∀ field item, Logged.AgreesUpTo (Option.map withoutMessages)
      (ofItemSpec overrides field item) (ofItemSpec overrides' field item)) := by
  apply ofType.mutual_induct
  -- An array with described items.
  case case1 =>
    intro field spec item hitem ih
    rw [ofType, ofType, hitem]
    exact ih.andThen fun item? item?' h => .ok (withoutMessages_ofItem h)
  -- An array of anything.
  case case2 =>
    intro field spec hnone
    rw [ofType, ofType, hnone]
    exact .refl _ _
  -- An object with parts.
  case case3 =>
    intro field spec entries hschema parts hread ih
    rw [ofType_object hschema, ofType_object hschema, hread]
    exact ih
  -- An object whose parts cannot be read.
  case case4 =>
    intro field spec entries hschema cause hread
    rw [ofType_object hschema, ofType_object hschema, hread]
    exact .of_error rfl _ _
  -- An object with any entries.
  case case5 =>
    intro field spec hnone
    rw [ofType, ofType, hnone]
    exact .refl _ _
  -- Any other type.
  case case6 =>
    intro field spec t harray hobject
    rw [ofType_ofCategory harray hobject, ofType_ofCategory harray hobject]
    exact .refl _ _
  -- The parts of an object.
  case case7 =>
    intro forms ih
    rw [ofParts, ofParts]
    refine ih.andThen fun rules rules' h => ?_
    have hlength : rules.length = rules'.length := by
      rw [← length_fieldsWithoutMessages rules, h, length_fieldsWithoutMessages]
    rw [hlength]
    exact .after _ fun _ => .ok (withoutMessages_ofFields h)
  -- No fields.
  case case8 =>
    rw [ofForms, ofForms]
    exact .refl _ _
  -- A field and the fields after it.
  case case9 =>
    intro field form rest ihForm ihRest
    rw [ofForms, ofForms]
    refine ihForm.andThen fun rule rule' hrule => ihRest.andThen fun rules rules' hrules => .ok ?_
    rw [fieldsWithoutMessages, fieldsWithoutMessages, hrule, hrules]
  -- A field that is described by its items.
  case case10 =>
    intro field item ih
    rw [ofForm, ofForm]
    refine ih.andThen fun item? item?' h => .after _ fun allowed => ?_
    cases allowed with
    | none => exact .ok (withoutMessages_ofItem h)
    | some allowed => exact .ok rfl
  -- A field that is described by a type and modifiers.
  case case11 =>
    intro field spec ih
    rw [ofForm, ofForm]
    refine .after _ fun t => (ih t).andThen fun start start' hstart => ?_
    have hmade : Logged.AgreesUpTo withoutMessages
        (.ofExcept (applyModifiers overrides field start spec.modifiers))
        (.ofExcept (applyModifiers overrides' field start' spec.modifiers)) :=
      withoutMessages_applyModifiers hstart spec.modifiers
    exact hmade.andThen fun made made' h => .ok (withoutMessages_finish h spec)
  -- Items of a known type.
  case case12 =>
    intro field item t ht ih
    rw [ofItemSpec, ofItemSpec, ht]
    exact ih.andThen fun rule rule' h => .ok (congrArg some h)
  -- Items of a type that is not known.
  case case13 =>
    intro field item hnone
    rw [ofItemSpec, ofItemSpec, hnone]
    exact .refl _ _

/-- **Rules of one definition** under two overrides: they are the same up to the words of their
refinements, or there is none for the same cause. -/
theorem agrees_ofDefinition (overrides overrides' : Overrides) (definition : Value) :
    Logged.AgreesUpTo withoutMessages (ofDefinition overrides definition)
      (ofDefinition overrides' definition) :=
  .after _ (agrees_of_made overrides overrides').2.1

end Rule

/-! ## Where words come from -/

namespace Measure

/-- The modifier that bounds a measure from below or from above. -/
def modifier : Measure → Bool → String
  | .length, true => "minlength"
  | .length, false => "maxlength"
  | _, true => "min"
  | _, false => "max"

/-- The words of a bound that no override replaces. -/
def boundWords (measure : Measure) (isLeast : Bool) (field : TextValue) (bound : Value) : String :=
  match measure with
  | .length => Message.ofTemplate field (Measure.length.modifier isLeast) bound
  | .number => (if isLeast then "Min" else "Max") ++ " value for " ++ field.displayed ++ " is " ++
      bound.displayed
  | .count => "Array " ++ field.displayed ++ " must have at " ++
      (if isLeast then "least" else "most") ++ " " ++ bound.displayed ++ " items"

end Measure

/-- A refinement of a field has the words of an override, if there is one, and else its own. -/
inductive Refinement.IsWorded (overrides : Overrides) (field : TextValue) : Refinement → Prop
  | limit (measure : Measure) (isLeast : Bool) (n : Number) :
    IsWorded overrides field (.limit measure isLeast n (overrides.orElse field
      (measure.modifier isLeast) (measure.boundWords isLeast field (.ofNumber n))))
  | email : IsWorded overrides field
      (.email (overrides.orElse field "email" ("Invalid email format for " ++ field.displayed)))
  | pattern (source : TextValue) (flags : Flags) : IsWorded overrides field
      (.pattern (.ofTextValue source) (.int flags.toNat)
        (overrides.orElse field "regex" (Message.guessFromPattern field source.text)))
  | oneOf (allowed : List TextValue) : IsWorded overrides field
      (.oneOf allowed (overrides.orElse field "enum" (field.displayed ++ " must be one of: " ++
        ", ".intercalate (allowed.map TextValue.text))))
  | strong : IsWorded overrides field
      (.pattern (.text passwordPattern) (.int 0) (.text (Message.strongPassword field)))
  | objectId : IsWorded overrides field Rule.objectId
  | lowercase : IsWorded overrides field .lowercase

/-! ## Words are there -/

/-- A text that is not empty. -/
def Value.IsWords (v : Value) : Prop := v.isText = true ∧ v.truthy = true

theorem Value.isWords_text {s : String} (h : s ≠ "") : (text s).IsWords :=
  ⟨rfl, by simpa [truthy] using h⟩

namespace Message

theorem ofTemplate_ne_empty (field : TextValue) (rule : String) (value : Value) :
    ofTemplate field rule value ≠ "" := by
  unfold ofTemplate
  dsimp only
  repeat' split
  all_goals simp

theorem guessFromPattern_ne_empty (field : TextValue) (source : String) :
    guessFromPattern field source ≠ "" := by
  unfold guessFromPattern
  repeat' split
  all_goals simp [strongPasswordStart, ofTemplate_ne_empty]

end Message

theorem Measure.boundWords_ne_empty (measure : Measure) (isLeast : Bool) (field : TextValue)
    (bound : Value) : measure.boundWords isLeast field bound ≠ "" := by
  cases measure with
  | length => exact Message.ofTemplate_ne_empty _ _ _
  | number => simp [boundWords]
  | count => simp [boundWords]

namespace Overrides

/-- Every override has words. -/
def AreWords (overrides : Overrides) : Prop := ∀ entry ∈ overrides.entries, entry.2.IsWords

/-- What counts as false overrides nothing, so texts leave words only. -/
theorem areWords_ofEntries {entries : Entries} (h : ∀ entry ∈ entries, entry.2.isText = true) :
    (ofEntries entries).AreWords := by
  intro entry hentry
  obtain ⟨given, hgiven, hkept⟩ := List.mem_filterMap.mp hentry
  split at hkept
  · rename_i htruthy
    obtain ⟨key, -, rfl⟩ := Option.map_eq_some_iff.mp hkept
    exact ⟨h given hgiven, htruthy⟩
  · cases hkept

theorem AreWords.orElse {overrides : Overrides} (h : overrides.AreWords) (field : TextValue)
    (rule : String) {own : String} (hown : own ≠ "") :
    (overrides.orElse field rule own).IsWords := by
  unfold Overrides.orElse
  cases hfound : overrides.find? field rule with
  | none => exact Value.isWords_text hown
  | some message =>
    obtain ⟨before, after, hentries, -⟩ := List.lookup_eq_some_iff.mp hfound
    exact h (key field rule, message) (by simp [hentries])

end Overrides

/-- The refinements of a field have words when the overrides do. -/
theorem Refinement.IsWorded.isWords {overrides : Overrides} {field : TextValue} {r : Refinement}
    (h : r.IsWorded overrides field) (hoverrides : overrides.AreWords) :
    ∀ message ∈ r.messages, message.IsWords := by
  cases h with
  | limit measure isLeast n =>
    have hwords := hoverrides.orElse field (measure.modifier isLeast)
      (measure.boundWords_ne_empty isLeast field (.ofNumber n))
    cases isLeast <;> exact List.forall_mem_singleton.mpr hwords
  | email => exact List.forall_mem_singleton.mpr (hoverrides.orElse field "email" (by simp))
  | pattern source flags =>
    exact List.forall_mem_singleton.mpr
      (hoverrides.orElse field "regex" (Message.guessFromPattern_ne_empty field source.text))
  | oneOf allowed =>
    exact List.forall_mem_singleton.mpr (hoverrides.orElse field "enum" (by simp))
  | strong =>
    exact List.forall_mem_singleton.mpr (Value.isWords_text (by simp [Message.strongPassword]))
  | objectId =>
    exact List.forall_mem_cons.mpr ⟨Value.isWords_text (by decide),
      List.forall_mem_singleton.mpr (Value.isWords_text (by decide))⟩
  | lowercase => exact List.forall_mem_nil _

/-! ## Words of definitions -/

theorem Value.eq_ofNumber_of_asNumber? {v : Value} {n : Number} (h : v.asNumber? = some n) :
    v = .ofNumber n := by
  cases v with
  | int k =>
    obtain rfl := Option.some.inj h
    rfl
  | float x =>
    obtain rfl := Option.some.inj h
    rfl
  | _ => cases h

namespace Rule

/-- The refinements of a rule have the words for its field, and those inside it the words for
theirs; the items of an array go by the name of the array. -/
inductive IsWorded (overrides : Overrides) : TextValue → Rule → Prop
  | leaf {field : TextValue} {facts : RuleFacts} {kind : RuleKind}
    (hfacts : ∀ r ∈ facts.refinements, r.IsWorded overrides field) :
    IsWorded overrides field (.leaf facts kind)
  | array {field : TextValue} {facts : RuleFacts} {item : Rule}
    (hfacts : ∀ r ∈ facts.refinements, r.IsWorded overrides field)
    (hitem : IsWorded overrides field item) : IsWorded overrides field (.array facts item)
  | object {field : TextValue} {facts : RuleFacts} {fields : List (TextValue × Rule)}
    (hfacts : ∀ r ∈ facts.refinements, r.IsWorded overrides field)
    (hfields : ∀ part ∈ fields, IsWorded overrides part.1 part.2) :
    IsWorded overrides field (.object facts fields)

variable {overrides : Overrides} {field : TextValue} {rule rule' : Rule} {modifier : String}
  {v : Value}

namespace IsWorded

theorem facts (h : rule.IsWorded overrides field) :
    ∀ r ∈ rule.facts.refinements, r.IsWorded overrides field := by
  cases h with
  | leaf hfacts => exact hfacts
  | array hfacts => exact hfacts
  | object hfacts => exact hfacts

theorem fields (h : rule.IsWorded overrides field) :
    ∀ part ∈ rule.fields?.getD [], part.2.IsWorded overrides part.1 := by
  cases h with
  | leaf => exact List.forall_mem_nil _
  | array => exact List.forall_mem_nil _
  | object _ hfields => exact hfields

theorem withFacts {facts : RuleFacts} (h : rule.IsWorded overrides field)
    (hfacts : ∀ r ∈ facts.refinements, r.IsWorded overrides field) :
    (rule.withFacts facts).IsWorded overrides field := by
  cases h with
  | leaf => exact .leaf hfacts
  | array _ hitem => exact .array hfacts hitem
  | object _ hfields => exact .object hfacts hfields

theorem refine {r : Refinement} (h : rule.IsWorded overrides field)
    (hr : r.IsWorded overrides field) : (rule.refine [r]).IsWorded overrides field :=
  h.withFacts fun r' hr' => (List.mem_append.mp hr').elim (h.facts r') fun hnew =>
    List.mem_singleton.mp hnew ▸ hr

theorem ofKind {refinements : List Refinement}
    (h : ∀ r ∈ refinements, r.IsWorded overrides field) (kind : RuleKind) :
    (Rule.ofKind kind refinements).IsWorded overrides field :=
  .leaf h

theorem ofItem {item? : Option Rule}
    (h : ∀ item, item? = some item → item.IsWorded overrides field) :
    (Rule.ofItem item?).IsWorded overrides field := by
  cases item? with
  | none => exact ofKind (List.forall_mem_nil _) .array
  | some item => exact .array (List.forall_mem_nil _) (h item rfl)

theorem ofCategory (t : CanonicalType) : (Rule.ofCategory t).IsWorded overrides field := by
  cases t with
  | objectId => exact ofKind (List.forall_mem_singleton.mpr .objectId) .string
  | _ => exact ofKind (List.forall_mem_nil _) _

theorem oneOf (allowed : List TextValue) :
    (Rule.oneOf overrides field allowed).IsWorded overrides field :=
  ofKind (List.forall_mem_cons.mpr ⟨.lowercase, List.forall_mem_singleton.mpr (.oneOf allowed)⟩) _

section

variable (h : rule.IsWorded overrides field)

include h

theorem markOptional : rule.markOptional.IsWorded overrides field := h.withFacts h.facts

theorem withDefault : (rule.withDefault v).IsWorded overrides field := h.withFacts h.facts

theorem bound (measure : Measure) (isLeast : Bool) {n : Number} (hv : v.asNumber? = some n) :
    (rule.bound measure isLeast n (overrides.orElse field (measure.modifier isLeast)
      (measure.boundWords isLeast field v))).IsWorded overrides field := by
  rw [bound_eq_refine, Value.eq_ofNumber_of_asNumber? hv]
  exact h.refine (.limit measure isLeast n)

theorem boundLength {isLeast : Bool} (hmodifier : modifier = Measure.length.modifier isLeast) :
    (boundLength overrides field modifier isLeast rule v).IsWorded overrides field := by
  subst hmodifier
  unfold Rule.boundLength
  split
  · rename_i n _ hv
    exact h.bound .length isLeast hv
  · exact h

theorem boundSize {isLeast : Bool} (hmodifier : modifier = Measure.number.modifier isLeast) :
    (boundSize overrides field modifier isLeast rule v).IsWorded overrides field := by
  subst hmodifier
  unfold Rule.boundSize
  split
  · rename_i n _ hv
    exact h.bound .number isLeast hv
  · rename_i n _ hv
    have hcount : Measure.number.modifier isLeast = Measure.count.modifier isLeast := by
      cases isLeast <;> rfl
    rw [hcount]
    exact h.bound .count isLeast hv
  · exact h

theorem mailAddress : (mailAddress overrides field rule v).IsWorded overrides field := by
  unfold Rule.mailAddress
  split
  · exact h.refine .email
  · exact h

theorem referTo : rule.referTo.IsWorded overrides field := by
  unfold Rule.referTo
  split
  · exact h.refine .objectId
  · exact h

theorem matching {source : TextValue} {flags : Flags}
    (hmade : matching overrides field rule source flags = .ok rule') :
    rule'.IsWorded overrides field := by
  unfold Rule.matching at hmade
  split at hmade
  · exact Except.ok.inj hmade ▸ h.refine (.pattern source flags)
  · contradiction
  · contradiction

theorem matchPattern (hmade : matchPattern overrides field rule v = .ok rule') :
    rule'.IsWorded overrides field := by
  unfold Rule.matchPattern at hmade
  split at hmade
  · split at hmade
    · exact h.matching hmade
    · exact h.matching hmade
    · exact h.matching hmade
    · contradiction
    · exact Except.ok.inj hmade ▸ h
  · exact Except.ok.inj hmade ▸ h

/-- **One modifier** leaves words where they belong. -/
theorem applyModifier (hmade : applyModifier overrides field rule modifier v = .ok rule') :
    rule'.IsWorded overrides field := by
  unfold Rule.applyModifier at hmade
  split at hmade
  · obtain rfl := Except.ok.inj hmade
    split
    · exact h.markOptional
    · exact h
  split at hmade
  · rename_i hminlength
    exact Except.ok.inj hmade ▸ h.boundLength (beq_iff_eq.mp hminlength)
  split at hmade
  · rename_i hmaxlength
    exact Except.ok.inj hmade ▸ h.boundLength (beq_iff_eq.mp hmaxlength)
  split at hmade
  · rename_i hmin
    exact Except.ok.inj hmade ▸ h.boundSize (beq_iff_eq.mp hmin)
  split at hmade
  · rename_i hmax
    exact Except.ok.inj hmade ▸ h.boundSize (beq_iff_eq.mp hmax)
  split at hmade
  · exact Except.ok.inj hmade ▸ h.mailAddress
  split at hmade
  · split at hmade
    · exact Except.ok.inj hmade ▸ .oneOf _
    · exact Except.ok.inj hmade ▸ h
    · contradiction
  split at hmade
  · exact h.matchPattern hmade
  split at hmade
  · exact Except.ok.inj hmade ▸ h.withDefault
  split at hmade
  · exact Except.ok.inj hmade ▸ h.referTo
  · exact Except.ok.inj hmade ▸ h

theorem applyModifiers {modifiers : List (Value × Value)}
    (hmade : applyModifiers overrides field rule modifiers = .ok rule') :
    rule'.IsWorded overrides field := by
  induction modifiers generalizing rule with
  | nil => exact Except.ok.inj hmade ▸ h
  | cons modifier rest ih =>
    obtain ⟨key, v⟩ := modifier
    rw [Rule.applyModifiers] at hmade
    split at hmade
    · split at hmade
      · rename_i hstep
        exact ih (h.applyModifier hstep) hmade
      · contradiction
    · split at hmade
      · exact ih h hmade
      · contradiction

theorem finish (spec : FieldSpec) : (finish field spec rule).IsWorded overrides field := by
  have hstrengthen : (strengthen field spec rule).IsWorded overrides field := by
    unfold strengthen
    split
    · exact h.refine .strong
    · exact h
  unfold Rule.finish relax
  split
  · exact hstrengthen.markOptional
  · exact hstrengthen

end

end IsWorded

/-- The words of rules by induction on how they are made: of types, of parts, of fields, of one
field, and of items.  An object with parts has no refinements, so it may go by any name. -/
theorem isWorded_of_made (overrides : Overrides) :
    (∀ field t spec rule, (ofType overrides field t spec).result = .ok rule →
      rule.IsWorded overrides field) ∧
    (∀ forms rule, (ofParts overrides forms).result = .ok rule →
      ∀ field, rule.IsWorded overrides field) ∧
    (∀ forms rules, (ofForms overrides forms).result = .ok rules →
      ∀ part ∈ rules, part.2.IsWorded overrides part.1) ∧
    (∀ field form rule, (ofForm overrides field form).result = .ok rule →
      rule.IsWorded overrides field) ∧
    (∀ field item item?, (ofItemSpec overrides field item).result = .ok item? →
      ∀ made, item? = some made → made.IsWorded overrides field) := by
  apply ofType.mutual_induct
  -- An array with described items.
  case case1 =>
    intro field spec item hitem ih rule hrule
    rw [ofType, hitem] at hrule
    obtain ⟨item?, hitem?, hrule⟩ := Logged.result_andThen_eq_ok_iff.mp hrule
    exact Except.ok.inj hrule ▸ .ofItem (ih item? hitem?)
  -- An array of anything.
  case case2 =>
    intro field spec hnone rule hrule
    rw [ofType, hnone] at hrule
    exact eq_of_orEndless hrule ▸ .ofCategory .array
  -- An object with parts.
  case case3 =>
    intro field spec entries hschema parts hread ih rule hrule
    rw [ofType_object hschema, hread] at hrule
    exact ih rule hrule field
  -- An object whose parts cannot be read.
  case case4 =>
    intro field spec entries hschema cause hread rule hrule
    rw [ofType_object hschema, hread] at hrule
    cases hrule
  -- An object with any entries.
  case case5 =>
    intro field spec hnone rule hrule
    rw [ofType, hnone] at hrule
    exact eq_of_orEndless hrule ▸ .ofCategory .object
  -- Any other type.
  case case6 =>
    intro field spec t harray hobject rule hrule
    rw [ofType_ofCategory harray hobject] at hrule
    exact Except.ok.inj hrule ▸ .ofCategory t
  -- The parts of an object.
  case case7 =>
    intro forms ih rule hrule field
    rw [ofParts] at hrule
    obtain ⟨rules, hrules, hrule⟩ := Logged.result_andThen_eq_ok_iff.mp hrule
    obtain ⟨noted, -, hrule⟩ := Logged.result_andThen_eq_ok_iff.mp hrule
    exact Except.ok.inj hrule ▸ .object (List.forall_mem_nil _) (ih rules hrules)
  -- No fields.
  case case8 =>
    intro rules hrules
    rw [ofForms] at hrules
    exact Except.ok.inj hrules ▸ List.forall_mem_nil _
  -- A field and the fields after it.
  case case9 =>
    intro field form rest ihForm ihRest rules hrules
    rw [ofForms] at hrules
    obtain ⟨rule, hrule, hrules⟩ := Logged.result_andThen_eq_ok_iff.mp hrules
    obtain ⟨others, hothers, hrules⟩ := Logged.result_andThen_eq_ok_iff.mp hrules
    exact Except.ok.inj hrules ▸ List.forall_mem_cons.mpr ⟨ihForm rule hrule, ihRest others hothers⟩
  -- A field that is described by its items.
  case case10 =>
    intro field item ih rule hrule
    rw [ofForm] at hrule
    obtain ⟨item?, hitem?, hrule⟩ := Logged.result_andThen_eq_ok_iff.mp hrule
    obtain ⟨allowed, -, hrule⟩ := Logged.result_andThen_eq_ok_iff.mp hrule
    cases allowed with
    | none => exact Except.ok.inj hrule ▸ .ofItem (ih item? hitem?)
    | some allowed =>
      exact Except.ok.inj hrule ▸ .ofItem fun made hmade => Option.some.inj hmade ▸ .oneOf allowed
  -- A field that is described by a type and modifiers.
  case case11 =>
    intro field spec ih rule hrule
    obtain ⟨t, start, made, -, hstart, hmade, rfl⟩ := ofForm_single_eq_ok hrule
    exact ((ih t start hstart).applyModifiers hmade).finish spec
  -- Items of a known type.
  case case12 =>
    intro field item t ht ih item? hitem? made hmade
    rw [ofItemSpec, ht] at hitem?
    obtain ⟨rule, hrule, hitem?⟩ := Logged.result_andThen_eq_ok_iff.mp hitem?
    obtain rfl := Except.ok.inj hitem?
    exact Option.some.inj hmade ▸ ih rule hrule
  -- Items of a type that is not known.
  case case13 =>
    intro field item hnone item? hitem? made hmade
    rw [ofItemSpec, hnone] at hitem?
    obtain ⟨noted, -, hitem?⟩ := Logged.result_andThen_eq_ok_iff.mp hitem?
    obtain rfl := Except.ok.inj hitem?
    contradiction

/-- **The words of a definition**: every refinement of its rule has the words for its field. -/
theorem isWorded_ofDefinition {definition : Value}
    (h : (ofDefinition overrides definition).result = .ok rule) (field : TextValue) :
    rule.IsWorded overrides field := by
  obtain ⟨forms, -, hrule⟩ := Logged.result_andThen_eq_ok_iff.mp h
  exact (isWorded_of_made overrides).2.1 forms rule hrule field

end Rule

end FieldSchema
