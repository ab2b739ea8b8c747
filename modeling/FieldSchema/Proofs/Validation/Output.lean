import FieldSchema.Proofs.Rule.WellFormed
import FieldSchema.Proofs.Validation.Acceptance
import FieldSchema.Validation.Schema

/-!
# What validation gives out

The output of an object has an entry for every field that comes to a value, in the order of the
fields.  When the names of the fields are not empty and differ, the entries have these names as
keys, so the output is a mapping as it is and under every name it holds what the field came to.

* `Rule.hasNames`: rules in which no name of a field is empty.
* `Rule.getText?_outputOf`: what the output holds under the name of a field.
* `Rule.hasDistinctKeys_outputOf`, `Entries.HasDistinctKeys.ofPairs_eq`: the output is a mapping.
* `Rule.Accepts.array`, `Rule.Accepts.object`: how accepted lists and objects are made.
* `ValidationSchema.outcomes_of_parse`: an output of a schema is made of what its fields come to.
-/

namespace FieldSchema

/-! ## Mappings -/

/-- Names of different texts are different keys. -/
theorem Value.equals_ofTextValue_eq_false {first second : TextValue}
    (h : second.text ≠ first.text) : (ofTextValue first).equals (ofTextValue second) = false := by
  cases first with
  | plain s =>
    rw [ofTextValue.eq_1, equals, asText?_ofTextValue]
    simpa using h
  | category t =>
    rw [ofTextValue.eq_2, equals, asText?_ofTextValue]
    simpa using h

namespace Entries

theorem insert_of_forall {entries : Entries} {key v : Value}
    (h : ∀ entry ∈ entries, entry.1.equals key = false) :
    entries.insert key v = entries ++ [(key, v)] := by
  induction entries with
  | nil => rfl
  | cons entry rest ih =>
    obtain ⟨hentry, hrest⟩ := List.forall_mem_cons.mp h
    rw [insert, if_neg (by rw [hentry]; exact Bool.false_ne_true), ih hrest, List.cons_append]

theorem append_of_hasDistinctKeys {first second : Entries}
    (h : (first ++ second).HasDistinctKeys) : first.append second = first ++ second := by
  induction second generalizing first with
  | nil => rw [List.append_nil]; rfl
  | cons entry rest ih =>
    have hentry : ∀ earlier ∈ first, earlier.1.equals entry.1 = false := fun earlier hearlier =>
      (List.pairwise_append.mp h).2.2 earlier hearlier entry List.mem_cons_self
    rw [List.append_cons] at h ⊢
    rw [← ih h, append, List.foldl_cons, insert_of_forall hentry]
    rfl

/-- Pairs with different keys are a mapping as they are. -/
theorem HasDistinctKeys.ofPairs_eq {pairs : Entries} (h : pairs.HasDistinctKeys) :
    ofPairs pairs = pairs :=
  append_of_hasDistinctKeys h

end Entries

/-! ## Names of fields -/

namespace Rule

mutual

/-- Whether no field at any level is named by the empty text. -/
def hasNames : Rule → Bool
  | .leaf _ _ => true
  | .array _ item => hasNames item
  | .object _ fields => fieldsHaveNames fields

/-- Whether fields have names, and the fields inside them. -/
def fieldsHaveNames : List (TextValue × Rule) → Bool
  | [] => true
  | (name, rule) :: rest => name.text != "" && hasNames rule && fieldsHaveNames rest

end

theorem fieldsHaveNames_iff {fields : List (TextValue × Rule)} :
    fieldsHaveNames fields = true ↔
      ∀ field ∈ fields, field.1.text ≠ "" ∧ field.2.hasNames = true := by
  induction fields with
  | nil => simp [fieldsHaveNames]
  | cons field rest ih =>
    rw [fieldsHaveNames, Bool.and_eq_true, Bool.and_eq_true, bne_iff_ne, ih, List.forall_mem_cons]

theorem text_ne_of_fieldsHaveNames {fields : List (TextValue × Rule)}
    (h : fieldsHaveNames fields = true) : ∀ field ∈ fields, field.1.text ≠ "" :=
  fun field hfield => (fieldsHaveNames_iff.mp h field hfield).1

theorem hasNames_of_fieldsHaveNames {fields : List (TextValue × Rule)}
    (h : fieldsHaveNames fields = true) : ∀ field ∈ fields, field.2.hasNames = true :=
  fun field hfield => (fieldsHaveNames_iff.mp h field hfield).2

/-! ## Objects -/

variable {policy : ObjectPolicy}

/-- An entry of the output is what a field came to, under the name of the field. -/
theorem exists_of_mem_outputOf {fields : List (TextValue × Rule)} {index : Nat}
    {outcomes : List (Option Value)} {key v : Value}
    (hnames : ∀ field ∈ fields, field.1.text ≠ "")
    (h : (key, v) ∈ outputOf fields index outcomes) :
    ∃ field, (field, some v) ∈ fields.zip outcomes ∧ key = .ofTextValue field.1 := by
  induction fields generalizing index outcomes with
  | nil => cases h
  | cons field rest ih =>
    obtain ⟨name, rule⟩ := field
    cases outcomes with
    | nil => cases h
    | cons outcome outcomes =>
      have hrestNames : ∀ field ∈ rest, field.1.text ≠ "" := fun field hfield =>
        hnames field (List.mem_cons_of_mem _ hfield)
      cases outcome with
      | none =>
        obtain ⟨field, hmem, hkey⟩ := ih hrestNames h
        exact ⟨field, List.mem_cons_of_mem _ hmem, hkey⟩
      | some w =>
        rcases List.mem_cons.mp h with hhead | htail
        · obtain ⟨rfl, rfl⟩ := Prod.mk.inj hhead
          refine ⟨(name, rule), List.mem_cons_self, ?_⟩
          rw [outputName, String.isEmpty_eq_false_iff.mpr (hnames _ List.mem_cons_self)]
          rfl
        · obtain ⟨field, hmem, hkey⟩ := ih hrestNames htail
          exact ⟨field, List.mem_cons_of_mem _ hmem, hkey⟩

/-- The output holds nothing under a name that no field has. -/
theorem getText?_outputOf_of_notMem {fields : List (TextValue × Rule)} {index : Nat}
    {outcomes : List (Option Value)} {name : String}
    (hnames : ∀ field ∈ fields, field.1.text ≠ "") (hname : name ∉ fieldTexts fields) :
    Entries.getText? (outputOf fields index outcomes) name = none := by
  have hkeys : ∀ entries : Entries, (∀ entry ∈ entries, entry.1.asText? ≠ some name) →
      Entries.getText? entries name = none := by
    intro entries
    induction entries with
    | nil => exact fun _ => rfl
    | cons entry rest ih =>
      intro hentries
      rw [Entries.getText?, if_neg (hentries entry List.mem_cons_self)]
      exact ih fun entry hentry => hentries entry (List.mem_cons_of_mem _ hentry)
  refine hkeys _ fun entry hentry hsame => hname ?_
  obtain ⟨field, hmem, hkey⟩ := exists_of_mem_outputOf hnames hentry
  rw [hkey, Value.asText?_ofTextValue] at hsame
  obtain rfl := Option.some.inj hsame
  exact List.mem_map_of_mem (List.of_mem_zip hmem).1

/-- Under the name of every field the output holds what the field came to. -/
theorem getText?_outputOf {fields : List (TextValue × Rule)}
    (hnames : ∀ field ∈ fields, field.1.text ≠ "") (hdistinct : (fieldTexts fields).Nodup)
    (index : Nat) (outcomes : List (Option Value)) :
    ∀ field outcome, (field, outcome) ∈ fields.zip outcomes →
      Entries.getText? (outputOf fields index outcomes) field.1.text = outcome := by
  induction fields generalizing index outcomes with
  | nil => exact fun field outcome hmem => absurd hmem List.not_mem_nil
  | cons first rest ih =>
    obtain ⟨name, rule⟩ := first
    cases outcomes with
    | nil => exact fun field outcome hmem => absurd hmem List.not_mem_nil
    | cons own outcomes =>
      intro field outcome hmem
      obtain ⟨hfresh, hrestDistinct⟩ := List.nodup_cons.mp hdistinct
      obtain ⟨hfirst, hrestNames⟩ := List.forall_mem_cons.mp hnames
      have hname : outputName name index = name := by
        rw [outputName, String.isEmpty_eq_false_iff.mpr hfirst]
        rfl
      rcases List.mem_cons.mp hmem with hhead | htail
      · obtain ⟨rfl, rfl⟩ := Prod.mk.inj hhead
        cases outcome with
        | none =>
          show Entries.getText? (outputOf rest (index + 1) outcomes) name.text = none
          exact getText?_outputOf_of_notMem hrestNames hfresh
        | some w => simp [outputOf, putField, hname, Entries.getText?]
      · have hother : name.text ≠ field.1.text := by
          intro hsame
          exact hfresh (List.mem_map.mpr ⟨field, (List.of_mem_zip htail).1, hsame.symm⟩)
        have hrest : Entries.getText? (outputOf rest (index + 1) outcomes) field.1.text = outcome :=
          ih hrestNames hrestDistinct (index + 1) outcomes field outcome htail
        cases own with
        | none => exact hrest
        | some w => simpa [outputOf, putField, hname, Entries.getText?, hother] using hrest

/-- Fields of different names make up a mapping. -/
theorem hasDistinctKeys_outputOf {fields : List (TextValue × Rule)} {index : Nat}
    {outcomes : List (Option Value)} (hnames : ∀ field ∈ fields, field.1.text ≠ "")
    (hdistinct : (fieldTexts fields).Nodup) :
    Entries.HasDistinctKeys (outputOf fields index outcomes) := by
  induction fields generalizing index outcomes with
  | nil => exact .nil
  | cons field rest ih =>
    obtain ⟨name, rule⟩ := field
    obtain ⟨hfresh, hrestDistinct⟩ := List.nodup_cons.mp hdistinct
    obtain ⟨hname, hrestNames⟩ := List.forall_mem_cons.mp hnames
    cases outcomes with
    | nil => exact .nil
    | cons outcome outcomes =>
      have hothers : Entries.HasDistinctKeys (outputOf rest (index + 1) outcomes) :=
        ih hrestNames hrestDistinct
      cases outcome with
      | none => exact hothers
      | some w =>
        refine List.pairwise_cons.mpr ⟨fun entry hentry => ?_, hothers⟩
        obtain ⟨field, hmem, hkey⟩ := exists_of_mem_outputOf hrestNames hentry
        have hother : field.1.text ≠ name.text := fun hsame =>
          hfresh (List.mem_map.mpr ⟨field, (List.of_mem_zip hmem).1, hsame⟩)
        rw [outputName, String.isEmpty_eq_false_iff.mpr hname, hkey]
        exact Value.equals_ofTextValue_eq_false hother

/-- The output of fields of different names is a mapping as it is. -/
theorem ofPairs_outputOf {fields : List (TextValue × Rule)} (hnames : fieldsHaveNames fields = true)
    (hdistinct : (fieldTexts fields).Nodup) (index : Nat) (outcomes : List (Option Value)) :
    Entries.ofPairs (outputOf fields index outcomes) = outputOf fields index outcomes :=
  (hasDistinctKeys_outputOf (text_ne_of_fieldsHaveNames hnames) hdistinct).ofPairs_eq

/-- What fields know of a field before them: its value, or the mark if it has none. -/
def known (output : Entries) (name : TextValue) (index : Nat) : Value × Value :=
  (.text (placeName index), (output.getText? name.text).getD (.other Value.absentLabel))

/-- What a field takes its value from: what is given for it, or else what its default makes. -/
def Supplies (rule : Rule) (given? : Option Value) (earlier : Entries) (v : Value) : Prop :=
  given? = some v ∨ given? = none ∧
    ∃ default, rule.facts.default? = some default ∧ default.Makes earlier v

/-- The value of a field was made of what is supplied for it. -/
theorem FieldOutcome.exists_supplied {rule : Rule} {given? : Option Value} {earlier : Entries}
    {w : Value} (h : FieldOutcome policy rule given? earlier (some w)) :
    ∃ v, rule.Supplies given? earlier v ∧ Accepts policy rule v w := by
  generalize houtcome : some w = outcome at h
  cases h with
  | given hgiven haccepts =>
    obtain rfl := Value.unlessAbsent_eq_some houtcome.symm
    exact ⟨_, .inl hgiven, haccepts⟩
  | made hgiven hdefault hmade haccepts =>
    obtain rfl := Value.unlessAbsent_eq_some houtcome.symm
    exact ⟨_, .inr ⟨hgiven, _, hdefault, hmade⟩, haccepts⟩
  | leftOut => contradiction

/-- An accepted list was made item by item, and the refinements accept it. -/
theorem Accepts.array {facts : RuleFacts} {item : Rule} {v w : Value}
    (h : Accepts policy (.array facts item) v w) :
    ∃ items parts, v.listItems? = some items ∧ w = .list parts ∧
      List.Forall₂ (Accepts policy item) items parts ∧
      checkRefinements v facts.refinements (.list parts) = .ok (.accepted w) := by
  obtain ⟨path, done, h⟩ := h
  obtain ⟨items, parts, hitems, hw, hparts, hrefine⟩ := exists_of_gives_array h
  exact ⟨items, parts, hitems, hw, hparts.imp fun _ _ hpart => ⟨path, done, hpart⟩, hrefine⟩

/-- An accepted object is made of what its fields come to. -/
theorem Accepts.object {facts : RuleFacts} {fields : List (TextValue × Rule)} {v w : Value}
    (h : Accepts policy (.object facts fields) v w) (hnames : fieldsHaveNames fields = true)
    (hdistinct : (fieldTexts fields).Nodup) :
    ∃ input outcomes, v = .map input ∧ w = .map (outputOf fields 0 outcomes) ∧
      FieldOutcomes policy input fields 0 [] outcomes := by
  obtain ⟨path, done, h⟩ := h
  obtain ⟨input, output, rfl, rfl, hfields⟩ := exists_of_gives_object h
  obtain ⟨outcomes, houtcomes, rfl⟩ := fieldOutcomes_of_gives hfields
  exact ⟨input, outcomes, rfl, congrArg Value.map (ofPairs_outputOf hnames hdistinct 0 outcomes),
    houtcomes⟩

end Rule

/-! ## Schemas -/

namespace ValidationSchema

/-- An accepted input is an object, and the output is made of its fields. -/
theorem exists_of_parse {schema : ValidationSchema} (hpartial : schema.isPartial = false)
    {data : Value} {history : CallHistory} {document : Entries}
    (h : (schema.parse data history).1.result = .ok document) :
    ∃ input output, data = .map input ∧ document = Entries.ofPairs output ∧
      (Rule.checkFields schema.policy (schema.rule.fields?.getD []) "" 0 0 {} input).Gives
        (.accepted output) := by
  unfold parse at h
  split at h
  · rename_i output left hcheck
    obtain rfl := Except.ok.inj h
    have hgives : (schema.check data).Gives (.accepted output) := ⟨history, left, hcheck⟩
    unfold check Rule.checkObject at hgives
    dsimp only at hgives
    split at hgives
    · rename_i input
      rw [hpartial] at hgives
      obtain ⟨verdict, hverdict, hgives⟩ := Checking.exists_of_gives_andThen hgives
      obtain ⟨made, hmade, rfl⟩ :=
        Verdict.map_eq_accepted_iff.mp (Checking.gives_value_iff.mp hgives)
      obtain rfl := Verdict.withFindings_eq_accepted hmade
      exact ⟨input, made, rfl, rfl, hverdict⟩
    · cases Checking.gives_value_iff.mp hgives
  · contradiction
  · contradiction

/-- The rule of a schema is that of its definition, and nothing may be left out freely. -/
theorem ofDefinition_eq_ok {options : ValidationOptions} {definition : Value}
    {schema : ValidationSchema} (h : (ofDefinition options definition).result = .ok schema) :
    (Rule.ofDefinition options.overrides definition).result = .ok schema.rule ∧
      schema.isPartial = false := by
  obtain ⟨rule, hrule, h⟩ := Logged.result_andThen_eq_ok_iff.mp h
  obtain rfl := Except.ok.inj h
  exact ⟨hrule, rfl⟩

/-- The rule of a schema is that of an object with the fields that its definition declares. -/
theorem exists_fields_of_ofDefinition {options : ValidationOptions} {definition : Value}
    {schema : ValidationSchema} (h : (ofDefinition options definition).result = .ok schema)
    (hkeys : definition.IsWellKeyed) :
    ∃ forms fields, Definition.read definition = .ok forms ∧ schema.rule = .ofFields fields ∧
      Rule.FieldsAreDeclaredBy fields forms ∧ schema.rule.IsWellFormed ∧
      schema.isPartial = false := by
  obtain ⟨hrule, hpartial⟩ := ofDefinition_eq_ok h
  obtain ⟨hwell, forms, fields, hread, hfields, hdeclared⟩ :=
    Rule.isWellFormed_ofDefinition hrule hkeys
  exact ⟨forms, fields, hread, hfields, hdeclared, hwell, hpartial⟩

/-- The output of a schema is made of what its fields come to. -/
theorem outcomes_of_parse {schema : ValidationSchema} {facts : RuleFacts}
    {fields : List (TextValue × Rule)} (hrule : schema.rule = .object facts fields)
    (hpartial : schema.isPartial = false) (hnames : Rule.fieldsHaveNames fields = true)
    (hdistinct : (Rule.fieldTexts fields).Nodup) {data : Value} {history : CallHistory}
    {document : Entries} (h : (schema.parse data history).1.result = .ok document) :
    ∃ input outcomes, data = .map input ∧ document = Rule.outputOf fields 0 outcomes ∧
      Rule.FieldOutcomes schema.policy input fields 0 [] outcomes := by
  obtain ⟨input, output, rfl, rfl, hgives⟩ := exists_of_parse hpartial h
  rw [hrule] at hgives
  obtain ⟨outcomes, houtcomes, rfl⟩ := Rule.fieldOutcomes_of_gives hgives
  exact ⟨input, outcomes, rfl, Rule.ofPairs_outputOf hnames hdistinct 0 outcomes, houtcomes⟩

end ValidationSchema

end FieldSchema
