import FieldSchema.Proofs.Lists
import FieldSchema.Proofs.Storage.Admission
import FieldSchema.Proofs.Storage.Statements
import FieldSchema.Storage.Index

/-!
# Indexes of unique fields

A unique field asks for an index of its own.  The models of a schema are those of its fields, in
their order, and then one for each declared index; a declared index that is refused is the only
reason why there are none.

There is one gap.  A field with a text hint gets a text index and nothing else: the step returns
before it looks at the other hints, so a field that is unique and searched as a text has an index
that admits equal values.  All other unique fields have an index that does not.

* `IndexModel.hinted?`: the model of the hints of a field.
* `StorageSchema.indexModels_eq_ok_iff`, `StorageSchema.indexModels_eq_error_iff`: the models of a
  schema, and when there are none.
* `StorageSchema.unique_hinted`: the indexes of unique fields.
-/

namespace FieldSchema

/-! ## The models of hints -/

namespace IndexModel

/-- The names that are indexed. -/
def indexed (model : IndexModel) : List Value := model.keys.map (·.1)

/-- Whether an index admits no two equal values. -/
def isUnique (model : IndexModel) : Bool := (Entries.getText model.options "unique").isTrue

/-- The model of one name in a direction, with flags. -/
def ofName (name : TextValue) (direction : Value) (flags : List StorageHint) : IndexModel :=
  let keys := [(Value.ofTextValue name, direction)]
  { keys
    name := .text (defaultName keys)
    options := Entries.ofFields (flags.map fun flag => (flag.name, .bool true)) }

/-- The direction that the index hint of a field states. -/
def statedDirection? (field : StoredField) : Option Value :=
  (field.hint? .index).bind direction?

/-- The model that the hints of a field ask for: a text index for a text hint, and otherwise an
index for a field that is unique or states a direction. -/
def hinted? (name : TextValue) (field : StoredField) : Option IndexModel :=
  if field.flagged .text then some (ofName name (.text "text") [])
  else if (statedDirection? field).isSome || field.flagged .unique then
    some (ofName name ((statedDirection? field).getD (.int 1))
      ([.unique, .sparse].filter field.flagged))
  else none

/-- A stated direction is one that may be indexed. -/
theorem isIndexable_of_direction? {name : TextValue} {v direction : Value}
    (h : direction? v = some direction) : isIndexable (.ofTextValue name, direction) = true := by
  have hname : (Value.ofTextValue name).isText = true := by cases name <;> rfl
  rw [isIndexable, hname, Bool.true_and]
  unfold direction? at h
  split at h
  · rw [← Option.some.inj h]
  · split at h
    · rw [← Option.some.inj h]
    · contradiction
  · split at h
    · rename_i hstated
      rw [← Option.some.inj h]
      cases v <;> simp_all [Value.asText?, Value.isText]
    · contradiction

/-- Flags are options of a model that keep their places. -/
theorem make_ofName {name : TextValue} {direction : Value} {flags : List StorageHint}
    (hdirection : isIndexable (.ofTextValue name, direction) = true)
    (hflags : ∀ flag ∈ flags, flag = .unique ∨ flag = .sparse) :
    make [(.ofTextValue name, direction)]
        (Entries.ofFields (flags.map fun flag => (flag.name, .bool true))) =
      .ok (ofName name direction flags) := by
  let options := Entries.ofFields (flags.map fun flag => (flag.name, Value.bool true))
  have hoption : ∀ entry ∈ options, ∃ flag : StorageHint,
      (flag = .unique ∨ flag = .sparse) ∧ entry = (.text flag.name, .bool true) := by
    intro entry hentry
    simp only [options, Entries.ofFields, List.mem_map, List.map_map] at hentry
    obtain ⟨flag, hflag, rfl⟩ := hentry
    exact ⟨flag, hflags flag hflag, rfl⟩
  have hall : options.all isOption = true := by
    rw [List.all_eq_true]
    intro entry hentry
    obtain ⟨flag, rfl | rfl, rfl⟩ := hoption entry hentry <;> rfl
  have hkept : keptOptions options = options := by
    rw [keptOptions, List.filter_eq_self]
    intro entry hentry
    obtain ⟨flag, rfl | rfl, rfl⟩ := hoption entry hentry <;> rfl
  have hothers : ∀ other, other ≠ StorageHint.unique.name → other ≠ StorageHint.sparse.name →
      Entries.getText options other = .null := by
    intro other hunique hsparse
    rw [Entries.getText, Entries.getText?_ofFields, List.lookup_eq_none_iff.mpr]
    · rfl
    · intro field hfield
      obtain ⟨flag, hflag, rfl⟩ := List.mem_map.mp hfield
      rcases hflags flag hflag with rfl | rfl
      · exact bne_iff_ne.mpr hunique
      · exact bne_iff_ne.mpr hsparse
  show make _ options = _
  rw [make, hall, hothers "collation" (by decide) (by decide),
    hothers "name" (by decide) (by decide), hkept]
  simp [hdirection, isCollation, Value.isNull, ofName, options]

/-- The hints of a field never ask for a model that is refused. -/
theorem ofField?_eq (name : TextValue) (field : StoredField) :
    ofField? name field = (hinted? name field).map .ok := by
  have hname : (Value.ofTextValue name).isText = true := by cases name <;> rfl
  have hfixed : ∀ direction, direction = Value.text "text" ∨ direction = Value.int 1 →
      isIndexable (.ofTextValue name, direction) = true := by
    rintro direction (rfl | rfl) <;> rw [isIndexable, hname] <;> rfl
  rw [ofField?, hinted?]
  by_cases htext : field.flagged .text = true
  · rw [if_pos htext, if_pos htext, Option.map_some]
    have hnone : ∀ flag ∈ ([] : List StorageHint), flag = .unique ∨ flag = .sparse := nofun
    exact congrArg some (make_ofName (hfixed _ (.inl rfl)) hnone)
  rw [if_neg htext, if_neg htext]
  have hflags : ∀ flag ∈ [StorageHint.unique, .sparse].filter field.flagged,
      flag = .unique ∨ flag = .sparse := by
    intro flag hflag
    simpa using List.mem_of_mem_filter hflag
  show (if (statedDirection? field).isNone && !field.flagged .unique then none
    else some (make [(.ofTextValue name, (statedDirection? field).getD (.int 1))] _)) = _
  cases hstated : statedDirection? field with
  | none =>
    cases field.flagged .unique with
    | false => rfl
    | true => exact congrArg some (make_ofName (hfixed _ (.inr rfl)) hflags)
  | some direction =>
    obtain ⟨v, -, hdirection⟩ := Option.bind_eq_some_iff.mp hstated
    exact congrArg some (make_ofName (isIndexable_of_direction? hdirection) hflags)

/-- A model that the hints of a field ask for indexes that field alone. -/
theorem indexed_of_hinted? {name : TextValue} {field : StoredField} {model : IndexModel}
    (h : hinted? name field = some model) : model.indexed = [.ofTextValue name] := by
  unfold hinted? at h
  split at h
  · rw [← Option.some.inj h]; rfl
  · split at h
    · rw [← Option.some.inj h]; rfl
    · contradiction

/-- **The index of a unique field** admits no two equal values, unless the field has a text hint. -/
theorem exists_hinted?_of_unique (name : TextValue) {field : StoredField}
    (h : field.flagged .unique = true) :
    ∃ model, hinted? name field = some model ∧ model.isUnique = !field.flagged .text := by
  rw [hinted?]
  by_cases htext : field.flagged .text = true
  · rw [if_pos htext, htext]
    exact ⟨_, rfl, rfl⟩
  · rw [if_neg htext, h, Bool.or_true, if_pos rfl, Bool.eq_false_iff.mpr htext]
    refine ⟨_, rfl, ?_⟩
    rw [List.filter_cons_of_pos h]
    rfl

end IndexModel

/-! ## The models of a schema -/

namespace StorageSchema

/-- The models that the hints of the fields ask for, in the order of the fields. -/
def hintedModels (schema : StorageSchema) : List IndexModel :=
  schema.fields.filterMap fun entry => IndexModel.hinted? entry.1 entry.2

theorem indexModels_eq (schema : StorageSchema) :
    schema.indexModels =
      (schema.indexes.mapM fun index => IndexModel.ofDeclaration index.1 index.2).map
        (schema.hintedModels ++ ·) := by
  have hhinted : (schema.fields.filterMap fun entry => IndexModel.ofField? entry.1 entry.2) =
      schema.hintedModels.map Except.ok := by
    rw [hintedModels, List.map_filterMap]
    exact congrArg (List.filterMap · _) (funext fun entry => IndexModel.ofField?_eq _ _)
  have hall : (schema.hintedModels.map Except.ok).mapM id =
      (.ok schema.hintedModels : Except Raised _) := by
    rw [Except.mapM_eq_ok_iff, List.forall₂_map_left_iff]
    exact List.forall₂_same.mpr fun model _ => rfl
  rw [indexModels, hhinted, hall]
  cases schema.indexes.mapM fun index => IndexModel.ofDeclaration index.1 index.2 <;> rfl

/-- **The models of a schema** are those of its fields, and then one for each declared index. -/
theorem indexModels_eq_ok_iff {schema : StorageSchema} {models : List IndexModel} :
    schema.indexModels = .ok models ↔ ∃ declared,
      List.Forall₂ (fun index model => IndexModel.ofDeclaration index.1 index.2 = .ok model)
        schema.indexes declared ∧ models = schema.hintedModels ++ declared := by
  rw [indexModels_eq]
  simp only [← Except.mapM_eq_ok_iff]
  cases schema.indexes.mapM fun index => IndexModel.ofDeclaration index.1 index.2 <;>
    simp [Except.map, eq_comm]

/-- **There are no models** exactly when a declared index is refused, and the first one says why. -/
theorem indexModels_eq_error_iff {schema : StorageSchema} {cause : Raised} :
    schema.indexModels = .error cause ↔ ∃ before index after,
      schema.indexes = before ++ index :: after ∧
      (∀ earlier ∈ before, ∃ model, IndexModel.ofDeclaration earlier.1 earlier.2 = .ok model) ∧
      IndexModel.ofDeclaration index.1 index.2 = .error cause := by
  rw [indexModels_eq, ← Except.mapM_eq_error_iff]
  cases schema.indexes.mapM fun index => IndexModel.ofDeclaration index.1 index.2 <;>
    simp [Except.map]

/-- The models of hints index fields one by one, in the order of the fields. -/
theorem indexed_hintedModels (schema : StorageSchema) :
    (schema.hintedModels.map IndexModel.indexed).Sublist
      (schema.fields.map fun entry => [Value.ofTextValue entry.1]) := by
  have heq : ∀ fields : List (TextValue × StoredField),
      (fields.filterMap fun entry => IndexModel.hinted? entry.1 entry.2).map IndexModel.indexed =
        (fields.filter fun entry => (IndexModel.hinted? entry.1 entry.2).isSome).map
          fun entry => [Value.ofTextValue entry.1] := by
    intro fields
    induction fields with
    | nil => rfl
    | cons entry rest ih =>
      cases hmodel : IndexModel.hinted? entry.1 entry.2 with
      | none => simp [hmodel, ih]
      | some model => simp [hmodel, ih, IndexModel.indexed_of_hinted? hmodel]
  rw [hintedModels, heq]
  exact List.filter_sublist.map _

/-- **The indexes of a definition**: there are models unless a declared index is refused, those of
the hints come first, in the order of the fields, and each declared index has one model.  A unique
field has a model of its own, which admits no two equal values unless the field has a text hint. -/
theorem unique_indexed {options : StorageOptions} {definition : Value} {schema : StorageSchema}
    (h : (ofDefinition options definition).result = .ok schema) (more : List (Value × Value)) :
    ∃ forms parts, Definition.read definition = .ok forms ∧ options.parts = .ok parts ∧
      (storeFields forms).result = .ok schema.fields ∧
      (∀ models, (schema.declare more).indexModels = .ok models ↔ ∃ declared,
        List.Forall₂ (fun index model => IndexModel.ofDeclaration index.1 index.2 = .ok model)
          (parts.indexes ++ more) declared ∧ models = schema.hintedModels ++ declared) ∧
      (∀ cause, (schema.declare more).indexModels = .error cause ↔ ∃ before index after,
        parts.indexes ++ more = before ++ index :: after ∧
        (∀ earlier ∈ before, ∃ model, IndexModel.ofDeclaration earlier.1 earlier.2 = .ok model) ∧
        IndexModel.ofDeclaration index.1 index.2 = .error cause) ∧
      (schema.hintedModels.map IndexModel.indexed).Sublist
        (schema.fields.map fun entry => [Value.ofTextValue entry.1]) ∧
      ∀ name field, (name, field) ∈ schema.fields → field.flagged .unique = true →
        ∃ model ∈ schema.hintedModels, IndexModel.hinted? name field = some model ∧
          model.indexed = [.ofTextValue name] ∧ model.isUnique = !field.flagged .text := by
  obtain ⟨forms, parts, hforms, hparts, hfields, hindexes⟩ := ofDefinition_eq_ok h
  obtain ⟨hkept, hdeclared⟩ := Prod.mk.inj (statements_declare schema more)
  have hhinted : (schema.declare more).hintedModels = schema.hintedModels := by
    rw [hintedModels, hkept, hintedModels]
  refine ⟨forms, parts, hforms, hparts, hfields, fun models => ?_, fun cause => ?_,
    indexed_hintedModels schema, fun name field hfield hunique => ?_⟩
  · rw [indexModels_eq_ok_iff, hdeclared, hindexes, hhinted]
  · rw [indexModels_eq_error_iff, hdeclared, hindexes]
  · obtain ⟨model, hmodel, hflag⟩ := IndexModel.exists_hinted?_of_unique name hunique
    exact ⟨model, List.mem_filterMap.mpr ⟨(name, field), hfield, hmodel⟩, hmodel,
      IndexModel.indexed_of_hinted? hmodel, hflag⟩

/-- A definition with a unique address and a unique text that is searched. -/
def profile : Value :=
  .map [(.text "email", .map [(.text "type", .canonical .string), (.text "unique", .bool true),
      (.text "index", .int (-1))]),
    (.text "bio", .map [(.text "type", .canonical .string), (.text "unique", .bool true),
      (.text "text", .bool true)])]

/-- Options that declare one index. -/
def agedOptions : StorageOptions :=
  { indexes := .map [(.text "age", .map [(.text "sparse", .bool true)])] }

/-- Of two unique fields, the one that is searched as a text has an index that admits equal
values; the declared index comes last. -/
theorem unique_indexed_profile :
    ∃ schema, (ofDefinition agedOptions profile).result = .ok schema ∧
      (∃ model ∈ schema.hintedModels, model.indexed = [.text "email"] ∧ model.isUnique = true) ∧
      (∃ model ∈ schema.hintedModels, model.indexed = [.text "bio"] ∧ model.isUnique = false) ∧
      ∃ models, schema.indexModels = .ok models ∧
        models.map IndexModel.indexed = [[.text "email"], [.text "bio"], [.text "age"]] := by
  have hmade : ∃ schema email bio, (ofDefinition agedOptions profile).result = .ok schema ∧
      schema.fields = [(.plain "email", email), (.plain "bio", bio)] ∧
      (email.flagged .unique = true ∧ email.flagged .text = false) ∧
      bio.flagged .unique = true ∧ bio.flagged .text = true :=
    ⟨_, _, _, rfl, rfl, ⟨rfl, rfl⟩, rfl, rfl⟩
  obtain ⟨schema, email, bio, hschema, hfields, ⟨hemail, hemailText⟩, hbio, hbioText⟩ := hmade
  obtain ⟨forms, parts, -, hparts, -, hmodels, -, -, hunique⟩ := unique_indexed hschema []
  obtain ⟨first, hfirst, hfirstHint, hfirstName, hfirstFlag⟩ :=
    hunique (.plain "email") email (by simp [hfields]) hemail
  obtain ⟨second, hsecond, hsecondHint, hsecondName, hsecondFlag⟩ :=
    hunique (.plain "bio") bio (by simp [hfields]) hbio
  have hhinted : schema.hintedModels = [first, second] := by
    simp [hintedModels, hfields, hfirstHint, hsecondHint]
  have hdeclared : parts.indexes = [(.text "age", .map [(.text "sparse", .bool true)])] := by
    rw [← Except.ok.inj hparts]
  have hall := (hmodels (schema.hintedModels ++ [.ofName (.plain "age") (.int 1) [.sparse]])).mpr
    ⟨_, by rw [hdeclared]; exact .cons rfl .nil, rfl⟩
  refine ⟨schema, hschema, ⟨first, hfirst, hfirstName, ?_⟩, ⟨second, hsecond, hsecondName, ?_⟩, _,
    hall, ?_⟩
  · rw [hfirstFlag, hemailText, Bool.not_false]
  · rw [hsecondFlag, hbioText, Bool.not_true]
  · rw [hhinted, List.map_append, List.map_cons, List.map_cons, hfirstName, hsecondName]
    rfl

end StorageSchema

end FieldSchema
