import FieldSchema.Proofs.Lists
import FieldSchema.Proofs.Number.Digits
import FieldSchema.Proofs.Rule.Order
import FieldSchema.Proofs.Validation.Visits

/-!
# What a documented schema holds

A documented schema is said entry by entry, and what is said later under a keyword takes the place
of what was said before (`Rule.exists_saying`).  Its keys are put in order afterwards, at every
depth.  This moves entries and changes nothing that is kept under a text
(`Value.exists_sortKeys_ofFields`), so what was said about a part is found, in order itself, where
the part is looked up.

Models are said apart, under their names, so they can take each other's place as well.  Their names
are numbered in the order of the models, which keeps them apart when every field has a name: a model
at an empty path goes by the name of the schema instead (`Rule.nodup_models`).

* `Rule.exists_saying`, `Rule.exists_sortKeys_saying`: what is kept under a keyword.
* `Rule.exists_getText?_properties`: what is kept under the name of a field.
* `ValidationSchema.stated_defs`: what is kept under the name of a model.
-/

namespace FieldSchema

/-! ## What was said last -/

namespace Entries

/-- A value that is put under a text is found there, and what is under other texts stays. -/
theorem exists_insert_ofFields (fields : List (String × Value)) (key : String) (v : Value) :
    ∃ made, (ofFields fields).insert (.text key) v = ofFields made ∧
      ∀ name, made.lookup name = if name = key then some v else fields.lookup name := by
  induction fields with
  | nil =>
    refine ⟨[(key, v)], rfl, fun name => ?_⟩
    by_cases hname : name = key
    · simp [hname]
    · simp [List.lookup_cons, hname, beq_eq_false_iff_ne.mpr hname]
  | cons field rest ih =>
    obtain ⟨first, u⟩ := field
    by_cases hfirst : first = key
    · subst hfirst
      refine ⟨(first, v) :: rest, by simp [ofFields, insert, Value.equals, Value.asText?], ?_⟩
      intro name
      by_cases hname : name = first
      · simp [hname]
      · simp [List.lookup_cons, hname, beq_eq_false_iff_ne.mpr hname]
    · obtain ⟨made, hmade, hlookup⟩ := ih
      refine ⟨(first, u) :: made, ?_, fun name => ?_⟩
      · have hdiffer : (Value.text first).equals (.text key) = false := by
          simpa [Value.equals, Value.asText?] using Ne.symm hfirst
        rw [ofFields, List.map_cons, insert, if_neg (by simp [hdiffer])]
        exact congrArg ((Value.text first, u) :: ·) hmade
      · rw [List.lookup_cons, List.lookup_cons, hlookup]
        by_cases hname : name = first
        · subst hname
          simp [hfirst]
        · simp [beq_eq_false_iff_ne.mpr hname]

theorem exists_append_ofFields (fields more : List (String × Value)) :
    ∃ made, (ofFields fields).append (ofFields more) = ofFields made ∧
      ∀ name, made.lookup name = (more.reverse ++ fields).lookup name := by
  induction more generalizing fields with
  | nil => exact ⟨fields, rfl, fun _ => rfl⟩
  | cons field rest ih =>
    obtain ⟨key, v⟩ := field
    obtain ⟨next, hnext, hlookupNext⟩ := exists_insert_ofFields fields key v
    obtain ⟨made, hmade, hlookup⟩ := ih next
    refine ⟨made, ?_, fun name => ?_⟩
    · rw [← hmade, ← hnext]
      rfl
    · rw [hlookup, List.reverse_cons, List.append_assoc, List.lookup_append, List.lookup_append,
        hlookupNext, List.singleton_append, List.lookup_cons]
      by_cases hname : name = key
      · simp [hname]
      · simp [hname, beq_eq_false_iff_ne.mpr hname]

/-- Texts are different keys when they differ. -/
theorem nodup_of_hasDistinctKeys {fields : List (String × Value)}
    (h : (ofFields fields).HasDistinctKeys) : (fields.map (·.1)).Nodup := by
  rw [HasDistinctKeys, ofFields, List.pairwise_map] at h
  rw [List.Nodup, List.pairwise_map]
  refine h.imp fun {field other} hdiffer hsame => ?_
  have hequal : (Value.text field.1).equals (.text other.1) = true :=
    Value.equals_of_asText? rfl (congrArg some hsame.symm)
  cases hequal.symm.trans hdiffer

end Entries

/-- What is said last under a keyword is kept there. -/
theorem Rule.exists_saying (said : List (String × Value)) :
    ∃ made, saying said = .ofFields made ∧ (made.map (·.1)).Nodup ∧
      ∀ name, made.lookup name = said.reverse.lookup name := by
  obtain ⟨made, hmade, hlookup⟩ := Entries.exists_append_ofFields [] said
  have hdistinct : (Entries.ofFields made).HasDistinctKeys := by
    rw [← hmade]
    exact (Entries.ofPairs_spec (fun _ => True) (fun _ => True) fun _ _ => ⟨trivial, trivial⟩).1
  refine ⟨made, congrArg Value.map hmade, Entries.nodup_of_hasDistinctKeys hdistinct,
    fun name => ?_⟩
  rw [hlookup, List.append_nil]

/-! ## Keys in order -/

namespace Value

/-- Keys that differ stay under their texts when they are put in order. -/
theorem exists_sortKeys_ofFields {fields : List (String × Value)}
    (h : (fields.map (·.1)).Nodup) (parent : String) :
    ∃ entries : Entries, (ofFields fields).sortKeys parent = .map entries ∧
      ∀ name, entries.getText? name = (fields.lookup name).map (sortKeys name) := by
  have hsorted : sortKeysOfEntries (Entries.ofFields fields) =
      Entries.ofFields (fields.map fun field => (field.1, field.2.sortKeys field.1)) := by
    clear h
    induction fields with
    | nil => rfl
    | cons field rest ih => exact congrArg (_ :: ·) ih
  have hlookup : ∀ name, (fields.map fun field => (field.1, field.2.sortKeys field.1)).lookup name =
      (fields.lookup name).map (sortKeys name) := by
    intro name
    clear h hsorted
    induction fields with
    | nil => rfl
    | cons field rest ih =>
      rw [List.map_cons, List.lookup_cons, List.lookup_cons, ih]
      by_cases hname : name = field.1
      · simp [hname]
      · simp [beq_eq_false_iff_ne.mpr hname]
  have hunique : Entries.HasUniqueTexts
      (Entries.ofFields (fields.map fun field => (field.1, field.2.sortKeys field.1))) := by
    intro first hfirst second hsecond text hfirstText hsecondText
    simp only [Entries.ofFields, List.map_map, List.mem_map, Function.comp_apply] at hfirst hsecond
    obtain ⟨field, hfield, rfl⟩ := hfirst
    obtain ⟨other, hother, rfl⟩ := hsecond
    have hsame : field.1 = other.1 :=
      (Option.some.inj hfirstText).trans (Option.some.inj hsecondText).symm
    rw [List.inj_on_of_nodup_map h hfield hother hsame]
  rw [ofFields, sortKeys, hsorted]
  split
  · exact ⟨_, rfl, fun name => by rw [Entries.getText?_ofFields, hlookup]⟩
  · refine ⟨_, rfl, fun name => ?_⟩
    unfold inKeyOrder
    rw [Entries.getText?_perm hunique (List.mergeSort_perm _ _).symm,
      Entries.getText?_ofFields, hlookup]

/-- The entries under a key that keeps their order stay where they are. -/
theorem exists_getText?_sortKeysOfEntries {entries : Entries} {name : String} {v : Value}
    (h : entries.getText? name = some v) :
    ∃ parent, Entries.getText? (sortKeysOfEntries entries) name = some (v.sortKeys parent) := by
  induction entries with
  | nil => cases h
  | cons entry rest ih =>
    obtain ⟨key, u⟩ := entry
    rw [Entries.getText?] at h
    rw [sortKeysOfEntries, Entries.getText?]
    split at h
    · rename_i hkey
      obtain rfl := Option.some.inj h
      exact ⟨key.displayed, by rw [if_pos hkey]⟩
    · rename_i hkey
      obtain ⟨parent, hparent⟩ := ih h
      exact ⟨parent, by rw [if_neg hkey, hparent]⟩

end Value

namespace Rule

/-- What is said last under a keyword is found there, in order. -/
theorem exists_sortKeys_saying (said : List (String × Value)) (parent : String) :
    ∃ entries : Entries, (saying said).sortKeys parent = .map entries ∧
      ∀ name, entries.getText? name = (said.reverse.lookup name).map (Value.sortKeys name) := by
  obtain ⟨made, hmade, hdistinct, hlookup⟩ := exists_saying said
  obtain ⟨entries, hentries, hkept⟩ := Value.exists_sortKeys_ofFields hdistinct parent
  exact ⟨entries, hmade ▸ hentries, fun name => by rw [hkept, hlookup]⟩

theorem stated_sortKeys_saying {said : List (String × Value)} {name : String} {v : Value}
    (h : said.reverse.lookup name = some v) (parent : String) :
    ((saying said).sortKeys parent).stated name = v.sortKeys name := by
  obtain ⟨entries, hentries, hkept⟩ := exists_sortKeys_saying said parent
  rw [hentries, Value.stated, Entries.getText, hkept, h]
  rfl

variable {policy : ObjectPolicy}

/-! ## Fields -/

/-- A model is documented under different keywords, its properties among them. -/
theorem exists_modelDocument (strict : Bool) (name : String) (properties : Entries)
    (required : List Value) :
    ∃ made, modelDocument strict name properties required = .ofFields made ∧
      (made.map (·.1)).Nodup ∧ made.lookup "$defs" = none ∧
      made.lookup "properties" = some (.map (Entries.ofPairs properties)) := by
  obtain ⟨made, hmade, hdistinct, hlookup⟩ := exists_saying
    ([("type", .text "object"), ("properties", .map (Entries.ofPairs properties))]
      ++ (if required.isEmpty then [] else [("required", .list required)])
      ++ [("title", .text name)]
      ++ (if strict then [("additionalProperties", .bool false)] else []))
  refine ⟨made, hmade, hdistinct, ?_, ?_⟩ <;> rw [hlookup] <;>
    cases required.isEmpty <;> cases strict <;> simp [List.lookup_cons]

/-- The properties of a documented model. -/
theorem stated_modelDocument (strict : Bool) (name : String) (properties : Entries)
    (required : List Value) (parent : String) :
    ((modelDocument strict name properties required).sortKeys parent).stated "properties" =
      .map (Value.sortKeysOfEntries (Entries.ofPairs properties)) := by
  obtain ⟨made, hmade, hdistinct, -, hproperties⟩ :=
    exists_modelDocument strict name properties required
  obtain ⟨entries, hentries, hkept⟩ := Value.exists_sortKeys_ofFields hdistinct parent
  rw [hmade, hentries, Value.stated, Entries.getText, hkept, hproperties]
  rfl

/-- Fields of different names have different names in a document. -/
theorem fst_describeFields (policy : ObjectPolicy) (fields : List (TextValue × Rule))
    (path : String) (done : Nat) :
    (describeFields policy fields path done).properties.map (·.1) =
      fields.map fun field => Value.ofTextValue field.1 := by
  induction fields generalizing done with
  | nil => rfl
  | cons field rest ih => exact congrArg (_ :: ·) (ih _)

/-- What is said of a field is found under its name, in order. -/
theorem exists_getText?_properties {fields : List (TextValue × Rule)}
    (hdistinct : (fieldTexts fields).Nodup) (path : String) (done : Nat) (name : TextValue)
    {entry : Value × Value} (hentry : entry ∈ (describeFields policy fields path done).properties)
    (hname : entry.1 = .ofTextValue name) :
    ∃ parent, (Value.map (Value.sortKeysOfEntries
      (Entries.ofPairs (describeFields policy fields path done).properties))).stated name.text =
        entry.2.sortKeys parent := by
  have hkeys : Entries.HasDistinctKeys (describeFields policy fields path done).properties := by
    have hnames : (fields.map fun field => Value.ofTextValue field.1).Pairwise
        fun first second => first.equals second = false := by
      rw [List.pairwise_map]
      rw [fieldTexts, List.Nodup, List.pairwise_map] at hdistinct
      exact hdistinct.imp fun hdiffer => Value.equals_ofTextValue_eq_false (Ne.symm hdiffer)
    rwa [← fst_describeFields policy fields path done, List.pairwise_map] at hnames
  have hfound : Entries.getText? (describeFields policy fields path done).properties name.text =
      some entry.2 := by
    refine (Entries.getText?_eq_some_iff hkeys.hasUniqueTexts).mpr ⟨entry, hentry, ?_, rfl⟩
    rw [hname, Value.asText?_ofTextValue]
  rw [hkeys.ofPairs_eq]
  obtain ⟨parent, hparent⟩ := Value.exists_getText?_sortKeysOfEntries hfound
  exact ⟨parent, by rw [Value.stated, Entries.getText, hparent, Option.getD_some]⟩

/-! ## Models -/

theorem fieldPath_ne_empty (path : String) {name : TextValue} (h : name.text ≠ "") :
    fieldPath path name ≠ "" := by
  unfold fieldPath
  split
  · exact h
  · intro hempty
    have hlist := congrArg String.toList hempty
    simp [String.toList_append] at hlist

/-- Models are named by their numbers, in order, when every field has a name. -/
theorem fst_models (policy : ObjectPolicy) :
    (∀ rule : Rule, rule.hasNames = true → ∀ path done, path ≠ "" →
      (describe policy rule path done).models.map (·.1) =
        (List.range' (done + 1) (modelCount rule)).map (modelName policy.name "." ·)) ∧
    ∀ fields : List (TextValue × Rule), fieldsHaveNames fields = true → ∀ path done,
      (describeFields policy fields path done).models.map (·.1) =
        (List.range' (done + 1) (modelCountOfFields fields)).map (modelName policy.name "." ·) := by
  apply modelCount.mutual_induct
  case case1 => exact fun facts kind _ path done _ => rfl
  case case2 =>
    intro facts item ih hnames path done hpath
    rw [describe, modelCount]
    exact ih hnames path done hpath
  case case3 =>
    intro facts fields ih hnames path done hpath
    have hname : modelName policy.name path (done + modelCountOfFields fields + 1) =
        modelName policy.name "." (done + 1 + modelCountOfFields fields) := by
      rw [modelName, String.isEmpty_eq_false_iff.mpr hpath, Nat.add_right_comm]
      rfl
    rw [describe, modelCount, ← List.range'_append_1, List.map_append, List.map_append,
      ih hnames path done, List.map_singleton, hname]
    rfl
  case case4 => exact fun _ path done => rfl
  case case5 =>
    intro name rule rest ihRule ihRest hnames path done
    obtain ⟨hown, hothers⟩ := List.forall_mem_cons.mp (fieldsHaveNames_iff.mp hnames)
    rw [describeFields, modelCountOfFields, ← List.range'_append_1, List.map_append,
      List.map_append, ihRule hown.2 _ done (fieldPath_ne_empty path hown.1),
      ihRest (fieldsHaveNames_iff.mpr hothers), Nat.add_right_comm]

/-- Models have different names when every field has one. -/
theorem nodup_models {fields : List (TextValue × Rule)} (hnames : fieldsHaveNames fields = true)
    (path : String) (done : Nat) :
    ((describeFields policy fields path done).models.map (·.1)).Nodup := by
  rw [(fst_models policy).2 fields hnames path done]
  refine List.Nodup.map (fun n m hsame => ?_) List.nodup_range'
  have hlist := congrArg String.toList hsame
  simp only [modelName, show ".".isEmpty = false from rfl, Bool.false_eq_true, if_false,
    String.toList_append] at hlist
  exact toString_nat_injective (String.toList_inj.mp (List.append_cancel_left hlist))

/-! ## Fields of which nothing is required -/

theorem describe_relaxed (rule : Rule) (path : String) (done : Nat) :
    describe policy rule.relaxed path done = describe policy rule path done := by
  cases rule <;> simp only [relaxed, withFacts, facts, describe]

/-- To document fields of which nothing is required is to document them as such fields. -/
theorem describeGivenFields_eq (fields : List (TextValue × Rule)) (done : Nat) :
    describeGivenFields policy fields done =
      describeFields policy (relaxFields fields) "" done := by
  induction fields generalizing done with
  | nil => rfl
  | cons field rest ih =>
    obtain ⟨name, rule⟩ := field
    rw [relaxFields, List.map_cons, describeGivenFields, describeFields, describe_relaxed,
      modelCount_relaxed, ih, relaxed, facts_withFacts]
    rfl

theorem requiredNames_relaxFields (fields : List (TextValue × Rule)) :
    requiredNames (relaxFields fields) = [] := by
  rw [requiredNames, List.map_eq_nil_iff, List.filter_eq_nil_iff]
  refine List.forall_mem_map.mpr fun field _ => ?_
  rw [relaxed, mayBeAbsent, facts_withFacts]
  exact Bool.false_ne_true

theorem fieldsHaveNames_relaxFields {fields : List (TextValue × Rule)}
    (h : fieldsHaveNames fields = true) : fieldsHaveNames (relaxFields fields) = true := by
  refine fieldsHaveNames_iff.mpr (List.forall_mem_map.mpr fun field hfield => ?_)
  obtain ⟨hname, hinner⟩ := fieldsHaveNames_iff.mp h field hfield
  refine ⟨hname, ?_⟩
  cases hrule : field.2 <;> rw [hrule] at hinner <;> exact hinner

end Rule

/-! ## Schemas -/

namespace ValidationSchema

variable {schema : ValidationSchema} {fields : List (TextValue × Rule)}

/-- The fields that an input is checked against and that are documented. -/
def inputFields (schema : ValidationSchema) : List (TextValue × Rule) :=
  schema.inputRule.fields?.getD []

/-- What a schema says of its fields and of the models inside it. -/
def said (schema : ValidationSchema) : Rule.DescribedFields :=
  Rule.describeFields schema.policy schema.inputFields "" 0

theorem inputFields_eq (hrule : schema.rule = .ofFields fields) :
    schema.inputFields = if schema.isPartial then Rule.relaxFields fields else fields := by
  unfold inputFields inputRule ValidationSchema.fields
  rw [hrule]
  split <;> rfl

/-- A schema is documented as the rule that inputs have to follow. -/
theorem document_eq (hrule : schema.rule = .ofFields fields) :
    schema.document = schema.inputRule.document schema.policy false := by
  unfold document inputRule
  cases hpartial : schema.isPartial with
  | false => rfl
  | true =>
    rw [if_pos rfl, ValidationSchema.fields, hrule]
    simp only [Rule.document, Rule.ofFields, Rule.fields?, Option.getD_some, if_true,
      Bool.false_eq_true, if_false, Rule.describeGivenFields_eq, Rule.requiredNames_relaxFields]

/-- The document of a schema is that of a model, with the models inside it beside it. -/
theorem exists_document (hrule : schema.rule = .ofFields fields) :
    ∃ made, schema.document = (Value.ofFields made).sortKeys "" ∧ (made.map (·.1)).Nodup ∧
      made.lookup "properties" = some (.map (Entries.ofPairs schema.said.properties)) ∧
      (schema.said.models ≠ [] →
        made.lookup "$defs" = some (Rule.saying schema.said.models)) := by
  obtain ⟨made, hmade, hdistinct, hdefs, hproperties⟩ := Rule.exists_modelDocument
    schema.policy.strict schema.policy.name schema.said.properties
    (Rule.requiredNames schema.inputFields)
  have hdocument : schema.document = Value.sortKeys "" (if schema.said.models.isEmpty
      then .ofFields made
      else .ofFields (("$defs", Rule.saying schema.said.models) :: made)) := by
    rw [document_eq hrule]
    unfold Rule.document
    dsimp only
    rw [if_neg Bool.false_ne_true, if_neg Bool.false_ne_true]
    dsimp only [said, inputFields] at hmade ⊢
    rw [hmade]
    rfl
  cases hmodels : schema.said.models with
  | nil =>
    rw [hmodels] at hdocument
    exact ⟨made, hdocument, hdistinct, hproperties, fun hsome => absurd rfl hsome⟩
  | cons first rest =>
    rw [hmodels] at hdocument
    refine ⟨_, hdocument, List.nodup_cons.mpr ⟨fun hmem => ?_, hdistinct⟩, hproperties,
      fun _ => rfl⟩
    obtain ⟨entry, hentry, hkey⟩ := List.mem_map.mp hmem
    have hdiffer := List.lookup_eq_none_iff.mp hdefs entry hentry
    exact absurd hkey.symm (bne_iff_ne.mp hdiffer)

/-- The properties of the document of a schema. -/
theorem stated_properties (hrule : schema.rule = .ofFields fields) :
    schema.document.stated "properties" =
      .map (Value.sortKeysOfEntries (Entries.ofPairs schema.said.properties)) := by
  obtain ⟨made, hmade, hdistinct, hproperties, -⟩ := exists_document hrule
  obtain ⟨entries, hentries, hkept⟩ := Value.exists_sortKeys_ofFields hdistinct ""
  rw [hmade, hentries, Value.stated, Entries.getText, hkept, hproperties]
  rfl

/-- A model that is said of a schema is found under its name, when every field has one. -/
theorem stated_defs (hrule : schema.rule = .ofFields fields)
    (hnames : Rule.fieldsHaveNames fields = true) {name : String} {model : Value}
    (hmodel : (name, model) ∈ schema.said.models) :
    (schema.document.stated "$defs").stated name = model.sortKeys name := by
  obtain ⟨made, hmade, hdistinct, -, hdefs⟩ := exists_document hrule
  obtain ⟨entries, hentries, hkept⟩ := Value.exists_sortKeys_ofFields hdistinct ""
  have hfound : schema.document.stated "$defs" =
      (Rule.saying schema.said.models).sortKeys "$defs" := by
    rw [hmade, hentries, Value.stated, Entries.getText, hkept,
      hdefs (List.ne_nil_of_mem hmodel)]
    rfl
  have hinput : Rule.fieldsHaveNames schema.inputFields = true := by
    rw [inputFields_eq hrule]
    split
    · exact Rule.fieldsHaveNames_relaxFields hnames
    · exact hnames
  have hunique : (schema.said.models.reverse.map (·.1)).Nodup := by
    rw [List.map_reverse, List.nodup_reverse]
    exact Rule.nodup_models hinput "" 0
  rw [hfound]
  exact Rule.stated_sortKeys_saying
    (lookup_eq_some_of_mem hunique (List.mem_reverse.mpr hmodel)) "$defs"

end ValidationSchema

end FieldSchema
