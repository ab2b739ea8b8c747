import FieldSchema.Proofs.Rule.Agreement
import FieldSchema.Proofs.Storage.Statements
import FieldSchema.Proofs.Validation.Output

/-!
# Accepted inputs can be stored

Validation and storage are made of one definition, each in its own way.  What validation gives out
for an input can be stored: its values meet what storage states about them, and the required names
are its keys.

There is one exception.  A function that makes a default is shown the fields before it, and those
without a value are shown by the mark of such fields.  When it answers with the mark, a field that
takes values of any kind accepts it and is left out of the output, even a required one.  Such fields
are forgotten; nothing else is ever missing.

## The exact condition

Which fields are forgotten can be read off the definition and the input alone
(`Definition.forgotten`): of the fields before a field it matters only which ones have no value.

* `Definition.IsPlain`: the definitions that are considered.
* `CompiledFields`: the fields of a definition on both sides.
* `Definition.forgotten`: the required fields that an accepted input leaves without a value.
* `ValidationSchema.admits_of_parse`: what validation gives out can be stored, unless a field is
  forgotten.
-/

namespace FieldSchema

/-! ## Definitions -/

/-- A definition that both sides can be compared on: a mapping in which no key occurs twice, no name
is empty, and all fields can be compared. -/
def Definition.IsPlain (definition : Value) : Prop :=
  ∃ entries : Entries, definition = .map entries ∧ entries.HasDistinctKeys ∧
    ∀ entry ∈ entries, entry.1.asText? ≠ some "" ∧ entry.2.IsPlainField

namespace Definition

variable {entries : Entries} {forms : List (TextValue × FieldForm)}

/-- The fields of a definition that both sides can be compared on. -/
theorem IsPlain.of_read {definition : Value} (h : IsPlain definition)
    (hread : read definition = .ok forms) :
    (forms.map fun field => field.1.text).Nodup ∧ (∀ field ∈ forms, field.1.text ≠ "") ∧
      ∀ field ∈ forms, field.2.IsPlain := by
  obtain ⟨entries, rfl, hkeys, hentries⟩ := h
  refine ⟨nodup_of_readEntries hkeys hread, fun field hfield hempty => ?_, fun field hfield => ?_⟩
  · obtain ⟨entry, hentry, hkey, -⟩ := exists_of_mem_readEntries hread field hfield
    refine (hentries entry hentry).1 ?_
    rw [hkey, Value.asText?_ofTextValue, hempty]
  · obtain ⟨entry, hentry, -, hform⟩ := exists_of_mem_readEntries hread field hfield
    exact FieldForm.isPlain_of_read (hentries entry hentry).2 hform

end Definition

/-! ## Both sides -/

/-- The fields of a definition, with the rules and the stored fields that are made of them. -/
inductive CompiledFields (overrides : Overrides) :
    List (TextValue × FieldForm) → List (TextValue × Rule) → List (TextValue × StoredField) → Prop
  | nil : CompiledFields overrides [] [] []
  | cons {name : TextValue} {form : FieldForm} {rule : Rule} {stored : StoredField}
    {forms : List (TextValue × FieldForm)} {rules : List (TextValue × Rule)}
    {fields : List (TextValue × StoredField)}
    (hrule : (Rule.ofForm overrides name form).result = .ok rule)
    (hstored : (StoredField.ofForm name form).result = .ok stored)
    (others : CompiledFields overrides forms rules fields) :
    CompiledFields overrides ((name, form) :: forms) ((name, rule) :: rules)
      ((name, stored) :: fields)

namespace CompiledFields

variable {overrides : Overrides} {forms : List (TextValue × FieldForm)}
  {rules : List (TextValue × Rule)} {fields : List (TextValue × StoredField)}

/-- What both sides make of the same fields, they make field by field. -/
theorem of_eq_ok (hrules : (Rule.ofForms overrides forms).result = .ok rules)
    (hfields : (StorageSchema.storeFields forms).result = .ok fields) :
    CompiledFields overrides forms rules fields := by
  induction forms generalizing rules fields with
  | nil =>
    rw [Rule.ofForms] at hrules
    obtain rfl := Except.ok.inj hrules
    obtain rfl := Except.ok.inj hfields
    exact .nil
  | cons field rest ih =>
    obtain ⟨name, form⟩ := field
    rw [Rule.ofForms] at hrules
    obtain ⟨rule, hrule, hrules⟩ := Logged.result_andThen_eq_ok_iff.mp hrules
    obtain ⟨otherRules, hotherRules, hrules⟩ := Logged.result_andThen_eq_ok_iff.mp hrules
    obtain ⟨stored, hstored, hfields⟩ := Logged.result_andThen_eq_ok_iff.mp hfields
    obtain ⟨otherFields, hotherFields, hfields⟩ := Logged.result_andThen_eq_ok_iff.mp hfields
    obtain rfl := Except.ok.inj hrules
    obtain rfl := Except.ok.inj hfields
    exact .cons hrule hstored (ih hotherRules hotherFields)

/-- Rules keep the names of fields. -/
theorem ruleTexts_eq (h : CompiledFields overrides forms rules fields) :
    Rule.fieldTexts rules = forms.map fun field => field.1.text := by
  induction h with
  | nil => rfl
  | @cons name form rule stored forms rules fields hrule hstored others ih =>
    exact congrArg (name.text :: ·) ih

/-- Stored fields keep the names of fields. -/
theorem storedTexts_eq (h : CompiledFields overrides forms rules fields) :
    fields.map (fun field => field.1.text) = forms.map fun field => field.1.text := by
  induction h with
  | nil => rfl
  | @cons name form rule stored forms rules fields hrule hstored others ih =>
    exact congrArg (name.text :: ·) ih

/-- A field with a rule is described and stored. -/
theorem exists_of_mem (h : CompiledFields overrides forms rules fields) {name : TextValue}
    {rule : Rule} (hmem : (name, rule) ∈ rules) :
    ∃ form stored, (name, form) ∈ forms ∧ (name, stored) ∈ fields ∧
      (Rule.ofForm overrides name form).result = .ok rule ∧
        (StoredField.ofForm name form).result = .ok stored := by
  induction h with
  | nil => cases hmem
  | cons hrule hstored others ih =>
    rcases List.mem_cons.mp hmem with hhead | htail
    · obtain ⟨rfl, rfl⟩ := Prod.mk.inj hhead
      exact ⟨_, _, List.mem_cons_self, List.mem_cons_self, hrule, hstored⟩
    · obtain ⟨form, stored, hform, hfield, hboth⟩ := ih htail
      exact ⟨form, stored, List.mem_cons_of_mem _ hform, List.mem_cons_of_mem _ hfield, hboth⟩

end CompiledFields

/-! ## Presence -/

/-- Whether the storage of a field requires it. -/
def FieldForm.isRequired : FieldForm → Bool
  | .single spec => (spec.get "required").isTrue
  | .arrayOf _ => false

/-- Whether a field takes values of any kind. -/
def FieldForm.takesAny : FieldForm → Bool
  | .single spec => spec.type.category? == some .mixed
  | .arrayOf _ => false

/-- The default of a field. -/
def FieldForm.default? : FieldForm → Option Value
  | .single spec => spec.get? "default"
  | .arrayOf _ => none

/-- What both sides know of the presence of a field. -/
structure FieldForm.Presence (form : FieldForm) (rule : Rule) (stored : StoredField) : Prop where
  isRequired : stored.flagged .required = form.isRequired
  takesAny : (rule.kind == .any) = form.takesAny
  default?_eq : rule.facts.default? = form.default?
  notOptional : form.isRequired = true → rule.facts.isOptional = false

/-- **Presence on both sides**: a field that storage requires may not be left out. -/
theorem FieldForm.presence_of_ofForm {overrides : Overrides} {name : TextValue} {rule : Rule}
    {stored : StoredField} {form : FieldForm} (hform : form.IsPlain)
    (hrule : (Rule.ofForm overrides name form).result = .ok rule)
    (hstored : (StoredField.ofForm name form).result = .ok stored) : form.Presence rule stored := by
  cases form with
  | arrayOf item =>
    obtain ⟨itemRule?, -, rfl⟩ := Rule.ofForm_arrayOf_eq_ok hform hrule
    obtain rfl := Except.ok.inj hstored
    refine ⟨?_, ?_, ?_, fun hrequired => absurd hrequired Bool.false_ne_true⟩
    · rw [StoredField.flagged, StoredField.hint?_withItems _ _ StorageHint.noConfusion]
      rfl
    · rw [Rule.kind_ofItem]
      rfl
    · rw [Rule.facts_ofItem]
      rfl
  | single spec =>
    obtain ⟨hplain, hrequired, -⟩ := hform
    obtain ⟨t, hof, -⟩ := Rule.ofSpec_of_ofForm hplain.toIsPlainItem hrule hstored
    refine ⟨?_, ?_, hof.default?_eq, fun htrue => ?_⟩
    · rw [StoredField.flagged, hof.hint?_eq StorageHint.noConfusion, isRequired, FieldSpec.get]
      show ((spec.get? "required").map Value.isTrue).getD false = _
      cases spec.get? "required" <;> rfl
    · rw [hof.kind_eq, takesAny, hof.type_eq]
      cases t <;> rfl
    · rw [isRequired] at htrue
      refine eq_false_of_ne_true fun hoptional => ?_
      rcases hof.isOptional hoptional with ⟨modifier, hmem, htext, hfalse⟩ | hnotTrue
      · -- All mentions of the modifier hold the same value.
        rw [FieldSpec.get, hrequired modifier hmem htext, Option.getD_some] at htrue
        cases hvalue : modifier.2 with
        | bool b =>
          rw [hvalue] at htrue hfalse
          cases b <;> contradiction
        | _ =>
          rw [hvalue] at htrue
          contradiction
      · rw [htrue] at hnotTrue
        contradiction

/-! ## Forgotten fields -/

/-- What stands for a value of which it is known only whether it is the mark. -/
def Value.ofMark (isMark : Bool) : Value := if isMark then .other absentLabel else .null

theorem Value.isMark_ofMark (isMark : Bool) : (ofMark isMark).isMark = isMark := by
  cases isMark <;> rfl

namespace FieldForm

/-- Whether a field comes to the mark, given what the input holds for it and what is known of the
fields before it. -/
def endsInMark (form : FieldForm) (given? : Option Value) (earlier : Entries) : Bool :=
  Value.endsInMark form.takesAny form.default? given? earlier

/-- Whether a required field is left without a value: it takes values of any kind, and the mark is
given, or nothing is given and its default answers with the mark. -/
def isForgotten (form : FieldForm) (given? : Option Value) (earlier : Entries) : Bool :=
  form.isRequired && form.takesAny &&
    given?.elim (form.default?.any (·.answersMark earlier)) Value.isMark

end FieldForm

namespace Definition

/-- The required fields that an accepted input leaves without a value, by what is known of the
fields before: which ones have the mark. -/
def forgottenFrom (input : Entries) : List (TextValue × FieldForm) → Nat → Entries → List TextValue
  | [], _, _ => []
  | (name, form) :: rest, index, earlier =>
    let given? := input.getText? name.text
    let known := Value.ofMark (form.endsInMark given? earlier)
    let others := forgottenFrom input rest (index + 1)
      (earlier ++ [(.text (Rule.placeName index), known)])
    if form.isForgotten given? earlier then name :: others else others

/-- The required fields of a definition that an accepted input leaves without a value. -/
def forgotten (definition data : Value) : List TextValue :=
  match read definition with
  | .ok forms => forgottenFrom (data.asEntries?.getD []) forms 0 []
  | .error _ => []

end Definition

/-! ### Marks -/

namespace Entries

/-- Which places have the mark. -/
def marks (entries : Entries) : List (Value × Bool) :=
  entries.map fun entry => (entry.1, entry.2.isMark)

theorem any_isMark_get? (entries : Entries) (key : Value) :
    (entries.get? key).any Value.isMark =
      (entries.marks.find? fun place => place.1.equals key).any (·.2) := by
  rw [get?, marks, List.find?_map, Option.any_map, Option.any_map]
  rfl

/-- A place with a value may be known by any value. -/
theorem marks_append_ofMark {first second : Entries} (h : first.marks = second.marks)
    (key : Value) {v : Value} {isMark : Bool} (hv : v.isMark = isMark) :
    marks (first ++ [(key, v)]) = marks (second ++ [(key, .ofMark isMark)]) := by
  have happend : ∀ (entries : Entries) (v : Value),
      marks (entries ++ [(key, v)]) = marks entries ++ [(key, v.isMark)] := fun entries v =>
    List.map_append
  rw [happend, happend, h, hv, Value.isMark_ofMark]

end Entries

/-- Whether a default answers with the mark depends on the marks of the fields before it. -/
theorem Value.answersMark_congr {first second : Entries} (h : first.marks = second.marks)
    (default : Value) : default.answersMark first = default.answersMark second := by
  unfold answersMark
  split
  · rfl
  · rw [Entries.any_isMark_get?, h, ← Entries.any_isMark_get?]
  · rfl

namespace FieldForm

variable {form : FieldForm} {given? : Option Value} {first second : Entries}

theorem endsInMark_congr (h : first.marks = second.marks) :
    form.endsInMark given? first = form.endsInMark given? second := by
  unfold endsInMark Value.endsInMark
  simp only [Value.answersMark_congr h]

theorem isForgotten_congr (h : first.marks = second.marks) :
    form.isForgotten given? first = form.isForgotten given? second := by
  unfold isForgotten
  simp only [Value.answersMark_congr h]

/-- A required field comes to nothing when it is forgotten. -/
theorem Presence.isNone_eq {rule : Rule} {stored : StoredField} (h : form.Presence rule stored)
    {policy : Rule.ObjectPolicy} {outcome : Option Value}
    (houtcome : rule.FieldOutcome policy given? first outcome) :
    (stored.flagged .required && outcome.isNone) = form.isForgotten given? first := by
  rw [h.isRequired, isForgotten]
  cases hrequired : form.isRequired with
  | false => rfl
  | true =>
    rw [Bool.eq_iff_iff]
    simp [houtcome.eq_none_iff (h.notOptional hrequired), ← h.default?_eq, ← h.takesAny]

end FieldForm

/-- **Forgotten fields**: the required fields under whose names the output holds nothing are those
that are forgotten. -/
theorem CompiledFields.missing_eq {overrides : Overrides} {forms : List (TextValue × FieldForm)}
    {rules : List (TextValue × Rule)} {fields : List (TextValue × StoredField)}
    (h : CompiledFields overrides forms rules fields) (hplain : ∀ field ∈ forms, field.2.IsPlain)
    {input document : Entries} {outcomes : List (Option Value)} {index : Nat}
    {earlier known : Entries} {policy : Rule.ObjectPolicy}
    (houtcomes : Rule.FieldOutcomes policy input rules index earlier outcomes)
    (hmarks : earlier.marks = known.marks)
    (hdocument : ∀ field outcome, (field, outcome) ∈ rules.zip outcomes →
      document.getText? field.1.text = outcome) :
    (fields.filter fun field => field.2.flagged .required &&
      (document.getText? field.1.text).isNone).map (·.1) =
        Definition.forgottenFrom input forms index known := by
  induction h generalizing outcomes index earlier known with
  | nil => rfl
  | @cons name form rule stored forms rules fields hrule hstored others ih =>
    cases houtcomes with
    | @cons _ _ _ _ _ outcome outcomes first rest =>
      have hpresence := FieldForm.presence_of_ofForm (hplain _ List.mem_cons_self) hrule hstored
      have hmark : (outcome.getD (.other Value.absentLabel)).isMark =
          form.endsInMark (input.getText? name.text) known := by
        rw [first.isMark_getD, hpresence.takesAny, hpresence.default?_eq,
          ← FieldForm.endsInMark_congr hmarks, FieldForm.endsInMark]
      have hothers := ih (fun field hfield => hplain field (List.mem_cons_of_mem _ hfield)) rest
        (Entries.marks_append_ofMark hmarks (.text (Rule.placeName index)) hmark)
        (fun field outcome hmem => hdocument field outcome (List.mem_cons_of_mem _ hmem))
      have hforgotten := hpresence.isNone_eq first
      rw [FieldForm.isForgotten_congr hmarks] at hforgotten
      rw [List.filter_cons, Definition.forgottenFrom, hdocument _ _ List.mem_cons_self, hforgotten]
      dsimp only
      split
      · rw [List.map_cons, hothers]
      · exact hothers

/-! ## Documents -/

namespace CompiledFields

variable {overrides : Overrides} {forms : List (TextValue × FieldForm)}
  {rules : List (TextValue × Rule)} {schema : StorageSchema}

/-- The names of rules are those of the definition. -/
theorem names_ne (h : CompiledFields overrides forms rules schema.fields)
    (hnames : ∀ field ∈ forms, field.1.text ≠ "") : ∀ field ∈ rules, field.1.text ≠ "" := by
  intro field hfield
  obtain ⟨form, stored, hform, -⟩ := h.exists_of_mem hfield
  exact hnames _ hform

variable (h : CompiledFields overrides forms rules schema.fields)
  (hdistinct : (forms.map fun field => field.1.text).Nodup)
  (hnames : ∀ field ∈ forms, field.1.text ≠ "") (hplain : ∀ field ∈ forms, field.2.IsPlain)
  {policy : Rule.ObjectPolicy} {input : Entries} {outcomes : List (Option Value)}
  (houtcomes : Rule.FieldOutcomes policy input rules 0 [] outcomes)

include h hdistinct hnames hplain houtcomes

/-- What fields come to is admitted under their names. -/
theorem admitsEntries_outputOf :
    schema.admitsEntries (Rule.outputOf rules 0 outcomes) = true := by
  have hstoredDistinct : schema.fieldTexts.Nodup := by
    rw [StorageSchema.fieldTexts, h.storedTexts_eq]
    exact hdistinct
  refine StorageSchema.admitsEntries_of_forall hstoredDistinct fun entry hentry => ?_
  obtain ⟨⟨name, rule⟩, hmem, hkey⟩ :=
    Rule.exists_of_mem_outputOf (h.names_ne hnames) hentry
  obtain ⟨form, stored, hform, hfield, hrule, hstored⟩ := h.exists_of_mem (List.of_mem_zip hmem).1
  exact ⟨(name, stored), hfield, hkey, StoredField.admits_of_describes (hplain _ hform) hrule
    hstored (houtcomes.describes _ _ hmem)⟩

/-- The required names that the output lacks are those of forgotten fields. -/
theorem missing_outputOf :
    schema.missing (Rule.outputOf rules 0 outcomes) =
      (Definition.forgottenFrom input forms 0 []).map .ofTextValue := by
  have hdocument :=
    Rule.getText?_outputOf (h.names_ne hnames) (h.ruleTexts_eq ▸ hdistinct) 0 outcomes
  rw [StorageSchema.missing_eq, ← h.missing_eq hplain houtcomes rfl hdocument, List.map_map]
  rfl

end CompiledFields

namespace ValidationSchema

/-- **Accepted inputs can be stored**: the values of what validation gives out are admitted by the
storage schema of the same definition, and the required names that are missing are those of
forgotten fields; so the whole is admitted exactly when no field is forgotten. -/
theorem admits_of_parse {definition : Value} (hplain : Definition.IsPlain definition)
    {options : ValidationOptions} {validation : ValidationSchema}
    (hvalidation : (ofDefinition options definition).result = .ok validation)
    {storageOptions : StorageOptions} {storage : StorageSchema}
    (hstorage : (StorageSchema.ofDefinition storageOptions definition).result = .ok storage)
    {data : Value} {history : CallHistory} {document : Entries}
    (hparse : (validation.parse data history).1.result = .ok document) :
    storage.admitsEntries document = true ∧
      storage.missing document = (Definition.forgotten definition data).map .ofTextValue ∧
      (storage.admits document = true ↔ Definition.forgotten definition data = []) := by
  obtain ⟨hrule, hpartial⟩ := ofDefinition_eq_ok hvalidation
  obtain ⟨forms, rules, hforms, hrules, hfields⟩ := Rule.ofDefinition_eq_ok hrule
  obtain ⟨forms', parts, hforms', -, hstored, -⟩ := StorageSchema.ofDefinition_eq_ok hstorage
  obtain rfl := Except.ok.inj (hforms.symm.trans hforms')
  have hboth := CompiledFields.of_eq_ok hrules hstored
  obtain ⟨hdistinct, hnames, hplainForms⟩ := hplain.of_read hforms
  obtain ⟨input, output, rfl, rfl, hgives⟩ := exists_of_parse hpartial hparse
  rw [hfields] at hgives
  obtain ⟨outcomes, houtcomes, rfl⟩ := Rule.fieldOutcomes_of_gives hgives
  have hpairs : Entries.HasDistinctKeys (Rule.outputOf rules 0 outcomes) :=
    Rule.hasDistinctKeys_outputOf (hboth.names_ne hnames) (hboth.ruleTexts_eq ▸ hdistinct)
  have hdocument :
      Entries.ofPairs (Rule.outputOf ((Rule.ofFields rules).fields?.getD []) 0 outcomes) =
        Rule.outputOf rules 0 outcomes :=
    hpairs.ofPairs_eq
  have hentries := hboth.admitsEntries_outputOf hdistinct hnames hplainForms houtcomes
  have hmissing := hboth.missing_outputOf hdistinct hnames hplainForms houtcomes
  rw [Definition.forgotten, hforms, hdocument]
  refine ⟨hentries, hmissing, ?_⟩
  rw [StorageSchema.admits, hentries, hmissing, Bool.and_true, List.isEmpty_iff,
    List.map_eq_nil_iff]
  rfl

/-- A definition with a text that may be left out and a required value of any kind, for which the
default answers with the field before. -/
def echoing : Value :=
  .map [(.text "a", .map [(.text "type", .canonical .string), (.text "required", .bool false)]),
    (.text "b", .map [(.text "type", .canonical .mixed), (.text "required", .bool true),
      (.text "default", .function 0 false .getter [.text "field_0"])])]

theorem isPlain_echoing : Definition.IsPlain echoing := by
  refine ⟨_, rfl, ?_, ?_⟩
  · simp [Entries.HasDistinctKeys, Value.equals, Value.asText?]
  · intro entry hentry
    simp only [List.mem_cons, List.not_mem_nil, or_false] at hentry
    rcases hentry with rfl | rfl
    · refine ⟨by decide, .mapping ?_ ⟨⟨by decide, by decide⟩, ?_, by decide⟩⟩
      · simp [Entries.HasDistinctKeys, Value.equals, Value.asText?]
      · rintro item ⟨⟩
    · refine ⟨by decide, .mapping ?_ ⟨⟨by decide, by decide⟩, ?_, by decide⟩⟩
      · simp [Entries.HasDistinctKeys, Value.equals, Value.asText?]
      · rintro item ⟨⟩

/-- The validation schema of the definition: a text that is optional, and any value with a
default. -/
def echoingSchema : ValidationSchema where
  rule := .ofFields [(.plain "a", .leaf { isOptional := true } .string),
    (.plain "b", .leaf { default? := some (.function 0 false .getter [.text "field_0"]) } .any)]

theorem ofDefinition_echoing : (ofDefinition {} echoing).result = .ok echoingSchema := by
  show ((Rule.ofParts .none
    [(.plain "a", .single ⟨.canonical .string, [(.text "required", .bool false)]⟩),
      (.plain "b", .single ⟨.canonical .mixed, [(.text "required", .bool true),
        (.text "default", .function 0 false .getter [.text "field_0"])]⟩)]).andThen
          fun rule => .ok (ValidationSchema.mk rule {} "ValidationModel" false)).result = _
  rw [Rule.ofParts, Rule.ofForms, Rule.ofForms, Rule.ofForms, Rule.ofForm, Rule.ofForm]
  unfold Rule.ofType
  rfl

/-- A required field that is forgotten: nothing is given, the text is left out, and the default of
the other field answers with its mark. -/
theorem admits_of_parse_echoing :
    ∃ storage, Definition.IsPlain echoing ∧
      (ofDefinition {} echoing).result = .ok echoingSchema ∧
      (StorageSchema.ofDefinition {} echoing).result = .ok storage ∧
      (echoingSchema.parse (.map []) .empty).1.result = .ok [] ∧
      storage.missing [] = [.text "b"] ∧ storage.admits [] = false := by
  have hmade : ∃ storage, (StorageSchema.ofDefinition {} echoing).result = .ok storage := ⟨_, rfl⟩
  obtain ⟨storage, hstorage⟩ := hmade
  have hparse : (echoingSchema.parse (.map []) .empty).1.result = .ok [] := by
    with_unfolding_all rfl
  have hforgotten : Definition.forgotten echoing (.map []) = [.plain "b"] := by decide +kernel
  obtain ⟨-, hmissing, hadmits⟩ :=
    admits_of_parse isPlain_echoing ofDefinition_echoing hstorage hparse
  rw [hforgotten] at hmissing hadmits
  refine ⟨storage, isPlain_echoing, ofDefinition_echoing, hstorage, hparse, hmissing, ?_⟩
  exact eq_false_of_ne_true fun h => List.cons_ne_nil _ _ (hadmits.mp h)

end ValidationSchema

end FieldSchema
