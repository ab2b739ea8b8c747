import FieldSchema.Proofs.Validation.Output

/-!
# Names of the output

The output of an object has the names of its fields as keys, in the order of the fields, and no
other keys.  A field is among them when the input supplies it or it has a default.  This holds of
whole inputs, and of the objects inside them at any depth, in lists as well as under names: every
part of the output is what the rule for it made of a part of the input, or of a default.

There are two exceptions.  A field without a name is given out under the name of its place, so
fields are taken to have names.  And a field that takes values of any kind takes the mark of a field
without a value, too; then it has no value, although one was supplied.  The mark reaches a field
when it is given, or when the default of the field makes it; a default may find it among the fields
before the field.

* `Rule.isSupplied`, `Rule.isDropped`: when a field has a value.
* `Rule.KeepsNames`: outputs that have the names that they should have, at every depth.
* `ValidationSchema.keepsNames_of_parse`: what a schema gives out is one of them.
-/

namespace FieldSchema

namespace Rule

/-! ## Which fields have a value -/

/-- Whether the input or a default supplies a field. -/
def isSupplied (rule : Rule) (given? : Option Value) : Bool :=
  given?.isSome || rule.facts.default?.isSome

/-- Whether what is supplied for a field is the mark of a field without a value, and is taken. -/
def isDropped (rule : Rule) (given? : Option Value) (earlier : Entries) : Bool :=
  rule.kind == .any &&
    given?.elim (rule.facts.default?.any (·.answersMark earlier)) Value.isMark

/-- The names of the fields that have a value, in order. -/
def namesOf (input output : Entries) :
    List (TextValue × Rule) → Nat → Entries → List TextValue
  | [], _, _ => []
  | (name, rule) :: rest, index, earlier =>
    let given? := input.getText? name.text
    let others := namesOf input output rest (index + 1) (earlier ++ [known output name index])
    if rule.isSupplied given? && !rule.isDropped given? earlier then name :: others else others

mutual

/-- The output of a rule for a value has the names that it should have, and so have its parts: the
items of a list, and the values under the names of an object. -/
def KeepsNames : Rule → Value → Value → Prop
  | .leaf _ _, _, _ => True
  | .array _ item, v, w =>
    ∃ items parts, v.listItems? = some items ∧ w = .list parts ∧
      List.Forall₂ (KeepsNames item) items parts
  | .object _ fields, v, w =>
    ∃ input output : Entries, v = .map input ∧ w = .map output ∧
      output.map (·.1) = (namesOf input output fields 0 []).map .ofTextValue ∧
      FieldsKeepNames fields input output 0 []

/-- The value of every field has the names that it should have. -/
def FieldsKeepNames : List (TextValue × Rule) → Entries → Entries → Nat → Entries → Prop
  | [], _, _, _, _ => True
  | (name, rule) :: rest, input, output, index, earlier =>
    (∀ w, output.getText? name.text = some w →
      ∃ v, rule.Supplies (input.getText? name.text) earlier v ∧ KeepsNames rule v w) ∧
    FieldsKeepNames rest input output (index + 1) (earlier ++ [known output name index])

end

/-! ## Names of accepted values -/

variable {policy : ObjectPolicy} {rule : Rule} {given? : Option Value} {earlier : Entries}

namespace FieldOutcome

/-- A field has a value when one is supplied and not dropped. -/
theorem isSome_eq {outcome : Option Value} (h : FieldOutcome policy rule given? earlier outcome) :
    outcome.isSome = (rule.isSupplied given? && !rule.isDropped given? earlier) := by
  rw [← Option.not_isNone, h.isNone_eq, isSupplied, isDropped]
  cases given? with
  | some v => simp [Value.endsInMark]
  | none => cases rule.facts.default? <;> simp [Value.endsInMark]

end FieldOutcome

variable {input output : Entries} {fields : List (TextValue × Rule)} {index : Nat}
  {outcomes : List (Option Value)}

/-- The keys of an output are the names of the fields that have a value. -/
theorem map_fst_outputOf (h : FieldOutcomes policy input fields index earlier outcomes)
    (hnames : fieldsHaveNames fields = true)
    (hget : ∀ field outcome, (field, outcome) ∈ fields.zip outcomes →
      output.getText? field.1.text = outcome) :
    (outputOf fields index outcomes).map (·.1) =
      (namesOf input output fields index earlier).map .ofTextValue := by
  induction h with
  | nil => rfl
  | @cons name rule rest index earlier outcome outcomes first others ih =>
    obtain ⟨⟨hname, -⟩, hrestNames⟩ := List.forall_mem_cons.mp (fieldsHaveNames_iff.mp hnames)
    have hknown : known output name index =
        (.text (placeName index), outcome.getD (.other Value.absentLabel)) := by
      rw [known, hget _ _ List.mem_cons_self]
    have hothers := ih (fieldsHaveNames_iff.mpr hrestNames) fun field outcome hmem =>
      hget field outcome (List.mem_cons_of_mem _ hmem)
    rw [namesOf, outputOf, hknown, ← first.isSome_eq]
    cases outcome with
    | none => exact hothers
    | some w =>
      rw [putField, outputName, String.isEmpty_eq_false_iff.mpr hname]
      exact congrArg (Value.ofTextValue name :: ·) hothers

/-- The values of fields keep names when their rules make values keep names. -/
theorem fieldsKeepNames_of_outcomes (h : FieldOutcomes policy input fields index earlier outcomes)
    (hget : ∀ field outcome, (field, outcome) ∈ fields.zip outcomes →
      output.getText? field.1.text = outcome)
    (hfields : ∀ field ∈ fields, ∀ v w, Accepts policy field.2 v w → KeepsNames field.2 v w) :
    FieldsKeepNames fields input output index earlier := by
  induction h with
  | nil => trivial
  | @cons name rule rest index earlier outcome outcomes first others ih =>
    obtain ⟨hrule, hrest⟩ := List.forall_mem_cons.mp hfields
    have hhead := hget _ _ List.mem_cons_self
    refine ⟨fun w hw => ?_, ?_⟩
    · obtain rfl := hhead.symm.trans hw
      obtain ⟨v, hv, haccepts⟩ := first.exists_supplied
      exact ⟨v, hv, hrule v w haccepts⟩
    · rw [known, hhead]
      exact ih (fun field outcome hmem => hget field outcome (List.mem_cons_of_mem _ hmem)) hrest

/-- Outputs of objects keep names when the values under the names do. -/
theorem keepsNames_outputOf {facts : RuleFacts} (hnames : fieldsHaveNames fields = true)
    (hdistinct : (fieldTexts fields).Nodup)
    (hfields : ∀ field ∈ fields, ∀ v w, Accepts policy field.2 v w → KeepsNames field.2 v w)
    (h : FieldOutcomes policy input fields 0 [] outcomes) :
    KeepsNames (.object facts fields) (.map input) (.map (outputOf fields 0 outcomes)) := by
  have hget := getText?_outputOf (text_ne_of_fieldsHaveNames hnames) hdistinct 0 outcomes
  exact ⟨input, outputOf fields 0 outcomes, rfl, rfl, map_fst_outputOf h hnames hget,
    fieldsKeepNames_of_outcomes h hget hfields⟩

/-- **Names of accepted values**, by induction on the rule. -/
theorem keepsNames_of_accepts (hrule : rule.IsWellFormed) (hnames : rule.hasNames = true)
    {v w : Value} (h : Accepts policy rule v w) : KeepsNames rule v w := by
  induction hrule generalizing v w with
  | leaf => trivial
  | array hfacts hitem ih =>
    obtain ⟨items, parts, hitems, rfl, hparts, -⟩ := h.array
    exact ⟨items, parts, hitems, rfl, hparts.imp fun _ _ hpart => ih hnames hpart⟩
  | object hfacts hdistinct hfields ih =>
    obtain ⟨input, outcomes, rfl, rfl, houtcomes⟩ := h.object hnames hdistinct
    refine keepsNames_outputOf hnames hdistinct (fun field hfield v w haccepts => ?_) houtcomes
    exact ih field hfield (hasNames_of_fieldsHaveNames hnames field hfield) haccepts

end Rule

namespace ValidationSchema

/-- **Names of the output**: the fields of a schema are those that its definition declares, at every
depth; and the keys of what it gives out, and of the objects inside it, are the names of the fields
that the input or a default supplies, in the order of their declaration, without those that come to
the mark. -/
theorem keepsNames_of_parse {definition : Value} (hkeys : definition.IsWellKeyed)
    {options : ValidationOptions} {schema : ValidationSchema}
    (hschema : (ofDefinition options definition).result = .ok schema)
    (hnames : schema.rule.hasNames = true) {data : Value} {history : CallHistory}
    {document : Entries} (hparse : (schema.parse data history).1.result = .ok document) :
    (∃ forms fields, Definition.read definition = .ok forms ∧ schema.rule = .ofFields fields ∧
        Rule.FieldsAreDeclaredBy fields forms) ∧
      schema.rule.KeepsNames data (.map document) := by
  obtain ⟨forms, fields, hread, hrule, hdeclared, hwell, hpartial⟩ :=
    exists_fields_of_ofDefinition hschema hkeys
  refine ⟨⟨forms, fields, hread, hrule, hdeclared⟩, ?_⟩
  rw [hrule] at hwell hnames ⊢
  cases hwell with
  | object hfacts hdistinct hfields =>
    obtain ⟨input, outcomes, rfl, rfl, houtcomes⟩ :=
      outcomes_of_parse hrule hpartial hnames hdistinct hparse
    refine Rule.keepsNames_outputOf hnames hdistinct (fun field hfield v w haccepts => ?_) houtcomes
    exact Rule.keepsNames_of_accepts (hfields field hfield)
      (Rule.hasNames_of_fieldsHaveNames hnames field hfield) haccepts

/-- Parts with names of other kinds: one like the name of a place, and one that reads as a path. -/
def placedParts : Value :=
  .map [(.text "field_1", .map [(.text "type", .canonical .number), (.text "default", .int 7)]),
    (.text "a.b", .map [(.text "type", .canonical .string)])]

/-- What describes the items of a list of such parts. -/
def placedItem : FieldSpec := ⟨.canonical .object, [(.text "schema", placedParts)]⟩

/-- A list of such parts, and a text that may be left out. -/
def placed : Value :=
  .map [(.text "0", .map [(.text "type", .canonical .array),
      (.text "items", .map [(.text "type", .canonical .object), (.text "schema", placedParts)])]),
    (.text "field_0", .map [(.text "type", .canonical .string), (.text "required", .bool false)])]

/-- The rule of the parts. -/
def placedRule : Rule :=
  .ofFields [(.plain "field_1", .leaf { isOptional := true, default? := some (.int 7) } .number),
    (.plain "a.b", .leaf {} .string)]

/-- The validation schema of the definition. -/
def placedSchema : ValidationSchema where
  rule := .ofFields [(.plain "0", .array {} placedRule),
    (.plain "field_0", .leaf { isOptional := true } .string)]

theorem ofItemSpec_placedItem :
    (Rule.ofItemSpec .none (.plain "0") placedItem).result = .ok (some placedRule) := by
  have hparts : (Rule.ofParts .none
      [(.plain "field_1", .single ⟨.canonical .number, [(.text "default", .int 7)]⟩),
        (.plain "a.b", .single ⟨.canonical .string, []⟩)]).result = .ok placedRule := by
    rw [Rule.ofParts, Rule.ofForms, Rule.ofForms, Rule.ofForms, Rule.ofForm, Rule.ofForm]
    unfold Rule.ofType
    rfl
  rw [Rule.ofItemSpec]
  refine Logged.result_andThen_eq_ok_iff.mpr ⟨placedRule, ?_, rfl⟩
  unfold Rule.ofType
  exact hparts

theorem ofDefinition_placed : (ofDefinition {} placed).result = .ok placedSchema := by
  let items : Value := .map [(.text "type", .canonical .object), (.text "schema", placedParts)]
  have hlist : (Rule.ofForm .none (.plain "0")
      (.single ⟨.canonical .array, [(.text "items", items)]⟩)).result =
        .ok (.array {} placedRule) := by
    rw [Rule.ofForm]
    refine Logged.result_andThen_eq_ok_iff.mpr ⟨.array, rfl,
      Logged.result_andThen_eq_ok_iff.mpr ⟨.array {} placedRule, ?_, rfl⟩⟩
    unfold Rule.ofType
    exact Logged.result_andThen_eq_ok_iff.mpr ⟨_, ofItemSpec_placedItem, rfl⟩
  have htext : (Rule.ofForms .none
      [(.plain "field_0",
        .single ⟨.canonical .string, [(.text "required", .bool false)]⟩)]).result =
        .ok [(.plain "field_0", .leaf { isOptional := true } .string)] := by
    rw [Rule.ofForms, Rule.ofForms, Rule.ofForm]
    unfold Rule.ofType
    rfl
  refine Logged.result_andThen_eq_ok_iff.mpr ⟨placedSchema.rule,
    Logged.result_andThen_eq_ok_iff.mpr ⟨_, rfl, ?_⟩, rfl⟩
  rw [Rule.ofParts, Rule.ofForms]
  exact Logged.result_andThen_eq_ok_iff.mpr ⟨_, Logged.result_andThen_eq_ok_iff.mpr
    ⟨_, hlist, Logged.result_andThen_eq_ok_iff.mpr ⟨_, htext, rfl⟩⟩, rfl⟩

/-- The strict validation schema of the definition. -/
def strictPlacedSchema : ValidationSchema := { placedSchema with options := ⟨true, .none⟩ }

theorem ofDefinition_placed_strict :
    (ofDefinition ⟨true, .none⟩ placed).result = .ok strictPlacedSchema :=
  Logged.result_andThen_eq_ok_iff.mpr
    ⟨placedSchema.rule, (ofDefinition_eq_ok ofDefinition_placed).1, rfl⟩

/-- An input for it: a list of parts after a text, and a key that no field has. -/
def placedData : Value :=
  .map [(.text "field_0", .text "x"), (.text "0", .list [.map [(.text "a.b", .text "y")]]),
    (.text "more", .int 1)]

/-- What the schema gives out for it. -/
def placedDocument : Entries :=
  [(.text "0", .list [.map [(.text "field_1", .int 7), (.text "a.b", .text "y")]]),
    (.text "field_0", .text "x")]

theorem isWellKeyed_placed : placed.IsWellKeyed := by
  simp [placed, placedParts, Value.IsWellKeyed, Value.EntriesAreWellKeyed,
    Entries.HasDistinctKeys, Value.equals, Value.asText?]

theorem parse_placed : (placedSchema.parse placedData .empty).1.result = .ok placedDocument := by
  with_unfolding_all rfl

/-- Names like those of places and names of other kinds stay as they are, a part is left to its
default, and a key that no field has is not given out. -/
theorem keepsNames_of_parse_placed :
    placed.IsWellKeyed ∧ (ofDefinition {} placed).result = .ok placedSchema ∧
      placedSchema.rule.hasNames = true ∧
      (placedSchema.parse placedData .empty).1.result = .ok placedDocument ∧
      placedSchema.rule.KeepsNames placedData (.map placedDocument) := by
  have hnames : placedSchema.rule.hasNames = true := by decide
  exact ⟨isWellKeyed_placed, ofDefinition_placed, hnames, parse_placed,
    (keepsNames_of_parse isWellKeyed_placed ofDefinition_placed hnames parse_placed).2⟩

end ValidationSchema

end FieldSchema
