import FieldSchema.Proofs.Validation.Mirrored
import FieldSchema.Proofs.Validation.Names

/-!
# Fields on their own

When defaults are plain values, no field hears of another one.  What a field comes to depends on its
place and on what is given for it, whatever the calls before and whatever the other fields come to
(`Rule.FieldPlace.result`).  An input is then dealt with field by field
(`ValidationSchema.fieldwise`).

* The issues of an input are those of its fields, in the order of the fields, and in a strict schema
  one for every key that no field has, in the order of the input.
* The input is accepted when there are none, and every field that comes to a value gives it out.
* A check that stops, as some message is no text or some pattern cannot be used, stops for the first
  field that stops on its own.

The place of a field comes in where an issue names a model by its number, and where a default is
rejected, as the issue then names the place.

A change under one key changes neither the issues of another field nor what it gives out, if all
fields have names.  A field without a name is given out under the name of its place, which may be
the name of a field as well.

* `Rule.fst_checkFields_eq`: fields are checked on their own.
* `ValidationSchema.parse_eq_fieldwise`: whole inputs.
-/

namespace FieldSchema

namespace Rule

/-! ## One field -/

/-- A field among its siblings: its number, and the number of models before those of its rule. -/
structure FieldPlace where
  name : TextValue
  rule : Rule
  index : Nat
  done : Nat

/-- The places of fields in order. -/
def placesFrom (done index : Nat) : List (TextValue × Rule) → List FieldPlace
  | [] => []
  | (name, rule) :: rest =>
    ⟨name, rule, index, done⟩ :: placesFrom (done + modelCount rule) (index + 1) rest

namespace FieldPlace

/-- What a field comes to on its own: when nothing was called, and no field before it is known. -/
def result (policy : ObjectPolicy) (place : FieldPlace) (given? : Option Value) :
    Except Raised (Verdict (Option Value)) :=
  (checkField policy "" place.done place.index {} place.name place.rule given? .empty).1

/-- Why the check of a field stops, if it does. -/
def stop? (policy : ObjectPolicy) (input : Entries) (place : FieldPlace) : Option Raised :=
  match place.result policy (input.getText? place.name.text) with
  | .ok _ => none
  | .error cause => some cause

/-- What is wrong with a field. -/
def findings (policy : ObjectPolicy) (input : Entries) (place : FieldPlace) : List Finding :=
  match place.result policy (input.getText? place.name.text) with
  | .ok verdict => verdict.findings
  | .error _ => []

/-- The value that a field gives out. -/
def value? (policy : ObjectPolicy) (input : Entries) (place : FieldPlace) : Option Value :=
  match place.result policy (input.getText? place.name.text) with
  | .ok (.accepted outcome) => outcome
  | _ => none

end FieldPlace

end Rule

/-! ## Plain defaults -/

namespace Value

variable {default : Value}

theorem make_of_not_isCallable (h : default.isCallable = false) (earlier : Entries) :
    default.make earlier = Checking.value default := by
  cases default <;> first | rfl | cases h

theorem asksEarlierFields_of_not_isCallable (h : default.isCallable = false) :
    Rule.asksEarlierFields default = false := by
  cases default <;> first | rfl | cases h

/-- What cannot be called answers alike in any two runs. -/
theorem settles_of_not_isCallable (h : default.isCallable = false) (pair : RunPair) :
    pair.Settles default := by
  cases default <;> first | exact fun _ _ _ _ => rfl | cases h

end Value

/-- Two checks that end alike, with the same findings, end in the same. -/
theorem Checking.Ends.eq_of_sameNamed {α : Type} {result result' : Except Raised (Verdict α)}
    (h : Ends (Verdict.Like Finding.SameNamed) result result') : result = result' := by
  cases h with
  | stopped cause => rfl
  | ok h =>
    cases h with
    | accepted a => rfl
    | rejected hsome h =>
      have hsame : List.Forall₂ (· = ·) _ _ := h.imp fun _ _ hfinding => hfinding.1
      rw [List.forall₂_eq_eq_eq] at hsame
      rw [hsame]

namespace Rule

variable {policy : ObjectPolicy} {name : TextValue} {rule : Rule} {done index : Nat}
  {earlier : EarlierFields} {given? : Option Value} {history : CallHistory}

/-- A field with a plain default does not ask for the fields before it. -/
theorem checkField_of_plain (hdefault : ∀ default ∈ rule.facts.default?, default.isCallable = false)
    (path : String) (earlier : EarlierFields) :
    checkField policy path done index earlier name rule given? =
      checkField policy path done index {} name rule given? := by
  unfold checkField
  cases given? with
  | some v => rfl
  | none =>
    dsimp only
    unfold checkAbsent
    cases hsome : rule.facts.default? with
    | none => rfl
    | some default =>
      have hplain := hdefault default hsome
      simp only [checkDefault_eq, Value.asksEarlierFields_of_not_isCallable hplain,
        Value.make_of_not_isCallable hplain, Bool.false_and]

/-- The default of a field and those inside it are plain values. -/
def HasPlainDefaults (rule : Rule) : Prop :=
  ∀ default ∈ rule.facts.default?.toList ++ rule.innerDefaults, default.isCallable = false

/-- A field with plain defaults comes to the same after all calls, whatever the other fields come
to. -/
theorem ends_checkField_of_plain (hrule : rule.IsWellFormed) (hplain : rule.HasPlainDefaults)
    (policy : ObjectPolicy) (done index : Nat) (earlier : EarlierFields) (name : TextValue)
    (given? : Option Value) (history : CallHistory) :
    Checking.Ends (Verdict.Like Finding.SameNamed)
      (checkField policy "" done index earlier name rule given? history).1
      (FieldPlace.result policy ⟨name, rule, index, done⟩ given?) := by
  obtain ⟨hdefault, hinner⟩ := List.forall_mem_append.mp hplain
  have hown : ∀ default ∈ rule.facts.default?, default.isCallable = false := fun default hsome =>
    hdefault default (Option.mem_toList.mpr hsome)
  let pair : RunPair := ⟨history.outside, default, fun _ => False⟩
  have hsettled : ∀ default : Value, default.isCallable = false → pair.Settles default :=
    fun _ hcallable => Value.settles_of_not_isCallable hcallable pair
  have hmirrors : Checking.Mirrors pair (Verdict.Like Finding.SameNamed)
      (checkField policy "" done index {} name rule given?)
      (checkField policy "" done index {} name rule given?) :=
    mirrors_checkField Finding.isKept_sameNamed
      (mirrors_check Finding.isKept_sameNamed rfl hrule
        (fun default hmem => hsettled default (hinner default hmem)) (.inl ⟨rfl, rfl, rfl⟩))
      (fun default hsome => hsettled default (hown default hsome)) index {} given?
  have hrelated : pair.Relates history .empty := by
    refine ⟨rfl, rfl, ?_⟩
    rw [RunPair.heeded, RunPair.heeded]
    simp [pair]
  rw [checkField_of_plain hown "" earlier]
  exact (hmirrors history .empty hrelated).1

/-- The defaults of fields are those of each field and those inside it. -/
theorem fieldDefaults_eq (fields : List (TextValue × Rule)) :
    fieldDefaults fields =
      fields.flatMap fun field => field.2.facts.default?.toList ++ field.2.innerDefaults := by
  induction fields with
  | nil => rfl
  | cons field rest ih => rw [fieldDefaults, List.flatMap_cons, ih]

/-! ## All fields -/

/-- What fields come to together when each is dealt with on its own. -/
def fieldwise (policy : ObjectPolicy) (input : Entries) :
    List FieldPlace → Except Raised (Verdict Entries)
  | [] => .ok (.accepted [])
  | place :: rest => do
    let verdict ← place.result policy (input.getText? place.name.text)
    let others ← fieldwise policy input rest
    pure (verdict.both (putField place.name place.index) others)

/-- **Fields with plain defaults** are checked on their own. -/
theorem fst_checkFields_eq {fields : List (TextValue × Rule)}
    (hfields : ∀ field ∈ fields, field.2.IsWellFormed ∧ field.2.HasPlainDefaults)
    (policy : ObjectPolicy) (done index : Nat) (earlier : EarlierFields) (input : Entries)
    (history : CallHistory) :
    (checkFields policy fields "" done index earlier input history).1 =
      fieldwise policy input (placesFrom done index fields) := by
  induction fields generalizing done index earlier history with
  | nil =>
    rw [checkFields]
    rfl
  | cons field rest ih =>
    obtain ⟨name, rule⟩ := field
    obtain ⟨⟨hrule, hplain⟩, hrest⟩ := List.forall_mem_cons.mp hfields
    have hfirst := ends_checkField_of_plain hrule hplain policy done index earlier name
      (input.getText? name.text) history
    rw [checkFields_cons, Checking.fst_andThen, hfirst.eq_of_sameNamed, placesFrom, fieldwise]
    congr 1
    funext verdict
    rw [Checking.fst_andThen, ih hrest]
    rfl

/-- The check of fields stops for the first field that stops. -/
theorem fieldwise_of_stop {input : Entries} {places : List FieldPlace} {cause : Raised}
    (h : places.findSome? (FieldPlace.stop? policy input) = some cause) :
    fieldwise policy input places = .error cause := by
  induction places with
  | nil => cases h
  | cons place rest ih =>
    rw [List.findSome?_cons, FieldPlace.stop?] at h
    rw [fieldwise]
    cases hresult : place.result policy (input.getText? place.name.text) with
    | error stop =>
      rw [hresult] at h
      rw [← Option.some.inj h]
      rfl
    | ok verdict =>
      rw [hresult] at h
      rw [ih h]
      rfl

/-- When no field stops, the findings are those of all fields, and fields without findings give out
their values. -/
theorem exists_fieldwise {input : Entries} {fields : List (TextValue × Rule)}
    (hfields : ∀ field ∈ fields, field.2.IsWellFormed ∧ field.2.HasPlainDefaults)
    {done index : Nat} {places : List FieldPlace} (hplaces : placesFrom done index fields = places)
    (h : places.findSome? (FieldPlace.stop? policy input) = none) :
    ∃ verdict, fieldwise policy input places = .ok verdict ∧
      verdict.findings = places.flatMap (FieldPlace.findings policy input) ∧
      (verdict.findings = [] → verdict =
        .accepted (outputOf fields index (places.map (FieldPlace.value? policy input)))) := by
  induction fields generalizing done index places with
  | nil =>
    subst hplaces
    exact ⟨.accepted [], rfl, rfl, fun _ => rfl⟩
  | cons field rest ih =>
    obtain ⟨name, rule⟩ := field
    subst hplaces
    obtain ⟨⟨hrule, hplain⟩, hrest⟩ := List.forall_mem_cons.mp hfields
    have hends : Checking.Ends (Verdict.Like Finding.SameNamed)
        (FieldPlace.result policy ⟨name, rule, index, done⟩ (input.getText? name.text))
        (FieldPlace.result policy ⟨name, rule, index, done⟩ (input.getText? name.text)) :=
      ends_checkField_of_plain hrule hplain policy done index {} name _ .empty
    rw [placesFrom, List.findSome?_cons] at h
    simp only [placesFrom, List.flatMap_cons, List.map_cons, outputOf, fieldwise,
      FieldPlace.findings, FieldPlace.value?]
    unfold FieldPlace.stop? at h
    cases hresult : FieldPlace.result policy ⟨name, rule, index, done⟩
      (input.getText? name.text) with
    | error stop =>
      rw [hresult] at h
      cases h
    | ok verdict =>
      rw [hresult] at h hends
      obtain ⟨others, hothers, hmore, haccepted⟩ := ih hrest rfl h
      refine ⟨verdict.both (putField name index) others, ?_, ?_, fun hnone => ?_⟩
      · rw [hothers]
        rfl
      · rw [Verdict.findings_both, hmore]
      · rw [Verdict.findings_both, List.append_eq_nil_iff] at hnone
        rw [haccepted hnone.2]
        cases hends with
        | ok hlike =>
          cases hlike with
          | accepted outcome => rfl
          | rejected hsome => exact absurd hnone.1 hsome

/-- Every place has its field and what is listed for it. -/
theorem mem_zip_placesFrom (f : FieldPlace → Option Value) (fields : List (TextValue × Rule))
    (done index : Nat) : ∀ place ∈ placesFrom done index fields,
      ((place.name, place.rule), f place) ∈ fields.zip ((placesFrom done index fields).map f) := by
  induction fields generalizing done index with
  | nil => exact fun place hplace => absurd hplace List.not_mem_nil
  | cons field rest ih =>
    obtain ⟨name, rule⟩ := field
    rw [placesFrom]
    refine List.forall_mem_cons.mpr ⟨List.mem_cons_self, fun place hplace => ?_⟩
    exact List.mem_cons_of_mem _ (ih _ _ place hplace)

end Rule

/-! ## Whole inputs -/

namespace ValidationSchema

/-- The fields of a schema at their places. -/
def places (schema : ValidationSchema) : List Rule.FieldPlace := Rule.placesFrom 0 0 schema.fields

/-- The issues of a field. -/
def issuesOf (schema : ValidationSchema) (input : Entries) (place : Rule.FieldPlace) :
    List Issue :=
  (place.findings schema.policy input).map
    (Finding.toIssue (expectedAt schema.rule) schema.options.overrides)

/-- The issue of a key that no field has. -/
def unrecognized (name : String) (v : Value) : Issue where
  path := [.field name]
  message := .text ("Unrecognized key: '" ++ name ++ "'")
  code := .text "unrecognized_keys"
  input := v

/-- The issues of the keys that no field has, where that matters. -/
def strangeIssues (schema : ValidationSchema) (input : Entries) : List Issue :=
  if schema.options.strict then
    input.filterMap fun entry => entry.1.asText?.bind fun name =>
      if (Rule.fieldTexts schema.fields).contains name then none
      else some (unrecognized name entry.2)
  else []

/-- The issues of the fields, in their order, and those of the keys that no field has. -/
def issuesIn (schema : ValidationSchema) (input : Entries) : List Issue :=
  schema.places.flatMap (schema.issuesOf input) ++ schema.strangeIssues input

/-- What a schema makes of an input field by field: it stops for the first field that stops, and
else it accepts the input if there are no issues and gives out the values of the fields. -/
def fieldwise (schema : ValidationSchema) (input : Entries) : Except ParseFailure Entries :=
  match schema.places.findSome? (Rule.FieldPlace.stop? schema.policy input) with
  | some cause => .error (.stopped cause)
  | none =>
    if (schema.issuesIn input).isEmpty then
      .ok (Entries.ofPairs (Rule.outputOf schema.fields 0
        (schema.places.map (Rule.FieldPlace.value? schema.policy input))))
    else .error (.rejected ⟨schema.issuesIn input⟩)

/-- The findings of keys that no field has become their issues, when all keys are texts. -/
theorem map_toIssue_strangeKeys (schema : ValidationSchema) {input : Entries}
    (htexts : ∀ entry ∈ input, entry.1.asText?.isSome = true) :
    (Rule.strangeKeys schema.policy (Rule.fieldTexts schema.fields) input).map
        (Finding.toIssue (expectedAt schema.rule) schema.options.overrides) =
      schema.strangeIssues input := by
  unfold Rule.strangeKeys strangeIssues
  show List.map _ (if schema.options.strict then _ else _) = _
  cases schema.options.strict with
  | false => rfl
  | true =>
    simp only [if_true, List.map_filterMap]
    refine List.filterMap_congr fun entry hentry => ?_
    obtain ⟨name, hname⟩ := Option.isSome_iff_exists.mp (htexts entry hentry)
    simp only [Rule.strangeKey?, hname, Entries.isSome_getText?_of_mem hentry hname, Bool.and_true,
      Option.bind_some]
    cases (Rule.fieldTexts schema.fields).contains name <;> rfl

/-- The verdict on an object comes from those on its fields and from its keys. -/
theorem fst_check_map {schema : ValidationSchema} (hpartial : schema.isPartial = false)
    (input : Entries) (history : CallHistory) :
    (schema.check (.map input) history).1 =
      (Rule.checkFields schema.policy schema.fields "" 0 0 {} input history).1 >>= fun verdict =>
        .ok ((verdict.withFindings
          (Rule.strangeKeys schema.policy (Rule.fieldTexts schema.fields) input)).map
            Entries.ofPairs) := by
  rw [check, hpartial, Rule.checkObject, Checking.fst_andThen]
  rfl

variable {schema : ValidationSchema} {input : Entries}

/-- Inputs are dealt with field by field. -/
theorem result_parse_eq_fieldwise (hpartial : schema.isPartial = false)
    (hfields : ∀ field ∈ schema.fields, field.2.IsWellFormed ∧ field.2.HasPlainDefaults)
    (htexts : ∀ entry ∈ input, entry.1.asText?.isSome = true) (history : CallHistory) :
    (schema.parse (.map input) history).1.result = schema.fieldwise input := by
  have hplaces : Rule.placesFrom 0 0 schema.fields = schema.places := rfl
  rw [result_parse, fst_check_map hpartial, Rule.fst_checkFields_eq hfields, hplaces]
  unfold fieldwise issuesIn
  cases hstop : schema.places.findSome? (Rule.FieldPlace.stop? schema.policy input) with
  | some cause =>
    rw [Rule.fieldwise_of_stop hstop]
    rfl
  | none =>
    obtain ⟨verdict, hverdict, hfindings, haccepted⟩ :=
      Rule.exists_fieldwise hfields hplaces hstop
    have hissues : schema.places.flatMap (schema.issuesOf input) = verdict.findings.map
        (Finding.toIssue (expectedAt schema.rule) schema.options.overrides) := by
      rw [hfindings, List.map_flatMap]
      rfl
    rw [hverdict, hissues, ← schema.map_toIssue_strangeKeys htexts, ← List.map_append]
    cases Rule.strangeKeys schema.policy (Rule.fieldTexts schema.fields) input with
    | nil =>
      cases verdict with
      | accepted output =>
        obtain rfl := Verdict.accepted.inj (haccepted rfl)
        rfl
      | rejected list =>
        cases list with
        | nil => cases haccepted rfl
        | cons finding rest => rw [List.append_nil]; rfl
    | cons finding rest =>
      have hsome : ((verdict.findings ++ finding :: rest).map
          (Finding.toIssue (expectedAt schema.rule) schema.options.overrides)).isEmpty = false := by
        rw [List.isEmpty_eq_false_iff]
        simp
      simp only [hsome, Bool.false_eq_true, if_false]
      rfl

/-- An accepted input gives out the value of every field under its name, if all fields have
names. -/
theorem getText?_of_fieldwise (hnames : ∀ field ∈ schema.fields, field.1.text ≠ "")
    (hdistinct : (Rule.fieldTexts schema.fields).Nodup) {document : Entries}
    (h : schema.fieldwise input = .ok document) :
    ∀ place ∈ schema.places,
      document.getText? place.name.text = place.value? schema.policy input := by
  intro place hplace
  unfold fieldwise at h
  split at h
  · cases h
  · split at h
    · obtain rfl := Except.ok.inj h
      rw [(Rule.hasDistinctKeys_outputOf hnames hdistinct).ofPairs_eq]
      exact Rule.getText?_outputOf hnames hdistinct 0 _ (place.name, place.rule) _
        (Rule.mem_zip_placesFrom _ schema.fields 0 0 place hplace)
    · cases h

/-- **Fields are independent** when defaults are plain values and keys are texts: an input is dealt
with field by field, after all calls; and a change under one key changes neither the issues of
another field nor, if all fields have names, what it gives out. -/
theorem parse_eq_fieldwise {definition : Value} (hkeys : definition.IsWellKeyed)
    {options : ValidationOptions} {schema : ValidationSchema}
    (hschema : (ofDefinition options definition).result = .ok schema)
    (hplain : ∀ default ∈ schema.rule.innerDefaults, default.isCallable = false) {input : Entries}
    (htexts : ∀ entry ∈ input, entry.1.asText?.isSome = true) :
    (∀ history, (schema.parse (.map input) history).1.result = schema.fieldwise input) ∧
      ∀ (key : String) (changed : Entries),
        (∀ entry ∈ changed, entry.1.asText?.isSome = true) →
        (∀ name, name ≠ key → input.getText? name = changed.getText? name) →
        ∀ place ∈ schema.places, place.name.text ≠ key →
          schema.issuesOf input place = schema.issuesOf changed place ∧
          ((∀ name ∈ schema.fieldNames, name.text ≠ "") →
            ∀ history history' document document',
              (schema.parse (.map input) history).1.result = .ok document →
              (schema.parse (.map changed) history').1.result = .ok document' →
              document.getText? place.name.text = document'.getText? place.name.text) := by
  obtain ⟨forms, fields, -, hrule, -, hwell, hpartial⟩ :=
    exists_fields_of_ofDefinition hschema hkeys
  have hfields : schema.fields = fields := by rw [ValidationSchema.fields, hrule]; rfl
  rw [hrule] at hwell hplain
  cases hwell with
  | object hfacts hdistinct hwells =>
    rw [← hfields] at hdistinct hwells
    replace hplain : ∀ field ∈ schema.fields, field.2.HasPlainDefaults := by
      intro field hfield default hdefault
      refine hplain default ?_
      show default ∈ Rule.fieldDefaults fields
      rw [Rule.fieldDefaults_eq, ← hfields]
      exact List.mem_flatMap.mpr ⟨field, hfield, hdefault⟩
    have hparse : ∀ {input : Entries}, (∀ entry ∈ input, entry.1.asText?.isSome = true) →
        ∀ history, (schema.parse (.map input) history).1.result = schema.fieldwise input :=
      result_parse_eq_fieldwise hpartial fun field hfield =>
        ⟨hwells field hfield, hplain field hfield⟩
    refine ⟨hparse htexts, fun key changed hchangedTexts hsame place hplace hother => ?_⟩
    have hgiven := hsame _ hother
    refine ⟨?_, fun hnames history history' document document' hdocument hdocument' => ?_⟩
    · unfold issuesOf Rule.FieldPlace.findings
      rw [hgiven]
    · have hnames' : ∀ field ∈ schema.fields, field.1.text ≠ "" := fun field hfield =>
        hnames field.1 (List.mem_map_of_mem hfield)
      rw [hparse htexts] at hdocument
      rw [hparse hchangedTexts] at hdocument'
      rw [getText?_of_fieldwise hnames' hdistinct hdocument place hplace,
        getText?_of_fieldwise hnames' hdistinct hdocument' place hplace]
      unfold Rule.FieldPlace.value?
      rw [hgiven]

/-- An input with a number for a text, a text for a list, and a key that no field has. -/
def failingData : Entries :=
  [(.text "field_0", .int 5), (.text "0", .text "x"), (.text "more", .int 1)]

/-- The same input with a text for the text. -/
def mendedData : Entries :=
  [(.text "field_0", .text "y"), (.text "0", .text "x"), (.text "more", .int 1)]

/-- Both fields and the strange key are reported, the fields in their own order; and what is given
for the text does not matter to the list. -/
theorem parse_eq_fieldwise_placed :
    placed.IsWellKeyed ∧ (ofDefinition ⟨true, .none⟩ placed).result = .ok strictPlacedSchema ∧
      (∀ default ∈ strictPlacedSchema.rule.innerDefaults, default.isCallable = false) ∧
      (∀ entry ∈ failingData, entry.1.asText?.isSome = true) ∧
      (∀ entry ∈ mendedData, entry.1.asText?.isSome = true) ∧
      (∀ name, name ≠ "field_0" → failingData.getText? name = mendedData.getText? name) ∧
      (strictPlacedSchema.parse (.map failingData) .empty).1.result =
        .error (.rejected ⟨strictPlacedSchema.issuesIn failingData⟩) ∧
      (strictPlacedSchema.issuesIn failingData).map Issue.field = ["0", "field_0", "more"] ∧
      ∀ place ∈ strictPlacedSchema.places, place.name.text ≠ "field_0" →
        strictPlacedSchema.issuesOf failingData place =
          strictPlacedSchema.issuesOf mendedData place := by
  have hplain : ∀ default ∈ strictPlacedSchema.rule.innerDefaults, default.isCallable = false := by
    intro default hdefault
    obtain rfl := List.mem_singleton.mp hdefault
    rfl
  have htexts : ∀ entry ∈ failingData, entry.1.asText?.isSome = true := by
    simp [failingData, Value.asText?]
  have hmended : ∀ entry ∈ mendedData, entry.1.asText?.isSome = true := by
    simp [mendedData, Value.asText?]
  have hsame : ∀ name, name ≠ "field_0" →
      failingData.getText? name = mendedData.getText? name := by
    intro name hname
    simp [failingData, mendedData, Entries.getText?, Value.asText?, hname.symm]
  obtain ⟨hparse, hindependent⟩ :=
    parse_eq_fieldwise isWellKeyed_placed ofDefinition_placed_strict hplain htexts
  refine ⟨isWellKeyed_placed, ofDefinition_placed_strict, hplain, htexts, hmended, hsame, ?_, ?_,
    fun place hplace hother => (hindependent _ mendedData hmended hsame place hplace hother).1⟩
  · rw [hparse]
    with_unfolding_all rfl
  · with_unfolding_all rfl

end ValidationSchema

end FieldSchema
