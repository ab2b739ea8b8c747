import FieldSchema.Rule.Refinement
import FieldSchema.Storage.Validator

/-!
# What a collection admits

A collection checks documents against the validator of a storage schema and against the format
checks of its fields.  Every keyword constrains only values of its own type: lengths those of texts,
least and greatest numbers those of numbers, and the statement about items those of arrays.

* `Value.storedTypeName?`: the names that collections have for the types of values.
* `Value.meets`: whether a value meets what a validator states about a field.
* `StorageSchema.missing`, `StorageSchema.admits`: whether a collection admits a document.
* `StoredField.meets_property`, `StorageSchema.admitsEntries_of_forall`: when values are admitted.
-/

namespace FieldSchema

/-! ## Statements -/

namespace Value

/-- What a mapping states under a keyword, null when it states nothing. -/
def stated (v : Value) (keyword : String) : Value :=
  match v with
  | .map entries => Entries.getText entries keyword
  | _ => .null

/-- The name that collections have for the type of a value, if they have one. -/
def storedTypeName? : Value → Option String
  | .null => some "null"
  | .bool _ => some "bool"
  | .int _ => some "number"
  | .float _ => some "number"
  | .text _ => some "string"
  | .canonical _ => some "string"
  | .dateTime _ => some "date"
  | .list _ => some "array"
  | .map _ => some "object"
  | .objectId _ => some "objectId"
  | _ => none

/-- Whether a value is of a type that is stated by its name, or of one of several; when nothing is
stated, every value is. -/
def isOfType (statement v : Value) : Bool :=
  match statement with
  | .text name => v.storedTypeName? == some name
  | .list names => names.any fun name => name.asText?.any fun name => v.storedTypeName? == some name
  | _ => true

/-- The items of a list. -/
def listed : Value → List Value
  | .list items => items
  | _ => []

/-- Whether a value keeps a bound from below or from above, if it has the measure and the bound is a
number. -/
def isWithin (v : Value) (measure : Measure) (isLeast : Bool) (bound : Value) : Bool :=
  (measure.of? v).all fun size => bound.asNumber?.all fun n =>
    if isLeast then !size.lt n else !n.lt size

/-- Whether a value meets what a validator states about a field. -/
def meets (property v : Value) : Bool :=
  isOfType (property.stated "bsonType") v &&
    v.listed.all (isOfType ((property.stated "items").stated "bsonType")) &&
    v.isWithin .length true (property.stated "minLength") &&
    v.isWithin .length false (property.stated "maxLength") &&
    v.isWithin .number true (property.stated "minimum") &&
    v.isWithin .number false (property.stated "maximum")

end Value

namespace FormatCheck

/-- Whether a check admits a value: it looks at texts only, and has to have an answer. -/
def admits (check : FormatCheck) (v : Value) : Bool :=
  !v.isText || check.accepts v matches .ok true

end FormatCheck

namespace StorageSchema

/-- The required names that are no keys of a document. -/
def missing (schema : StorageSchema) (document : Entries) : List Value :=
  ((schema.validator.stated "$jsonSchema").stated "required").listed.filter fun name =>
    !name.asText?.any fun name => (document.getText? name).isSome

/-- Whether every value of a document meets what the validator states under its name and is admitted
by the check of the field. -/
def admitsEntries (schema : StorageSchema) (document : Entries) : Bool :=
  document.all fun entry => entry.1.asText?.all fun name =>
    Value.meets
        (((schema.validator.stated "$jsonSchema").stated "properties").stated name) entry.2 &&
      ((schema.field? name).bind (·.check?)).all fun check => check.admits entry.2

/-- Whether a collection admits a document: nothing is missing, and all entries are admitted. -/
def admits (schema : StorageSchema) (document : Entries) : Bool :=
  (schema.missing document).isEmpty && schema.admitsEntries document

end StorageSchema

/-! ## Entries that are looked up -/

namespace Entries

theorem getText?_append (first second : Entries) (key : String) :
    getText? (first ++ second) key = (getText? first key).or (getText? second key) := by
  induction first with
  | nil => rfl
  | cons entry rest ih =>
    rw [List.cons_append, getText?, getText?]
    split
    · rfl
    · exact ih

theorem getText?_ofFields (fields : List (String × Value)) (key : String) :
    getText? (ofFields fields) key = fields.lookup key := by
  induction fields with
  | nil => rfl
  | cons field rest ih =>
    obtain ⟨name, v⟩ := field
    rw [ofFields, List.map_cons, getText?, List.lookup_cons]
    by_cases hname : name = key
    · simp [hname, Value.asText?]
    · have hkey : (key == name) = false := beq_eq_false_iff_ne.mpr (Ne.symm hname)
      simp only [Value.asText?, Option.some.injEq, hname, if_false, hkey]
      exact ih

/-- What is kept under names is found under their texts. -/
theorem getText?_map_ofTextValue {α : Type} (fields : List (TextValue × α)) (f : α → Value)
    (key : String) :
    getText? (fields.map fun entry => (Value.ofTextValue entry.1, f entry.2)) key =
      (TextValue.lookup key fields).map f := by
  induction fields with
  | nil => rfl
  | cons entry rest ih =>
    obtain ⟨name, a⟩ := entry
    rw [List.map_cons, getText?, TextValue.lookup_cons, Value.asText?_ofTextValue]
    by_cases hname : name.text = key
    · rw [if_pos hname, if_pos (congrArg some hname), Option.map_some]
    · rw [if_neg hname, if_neg fun hsame => hname (Option.some.inj hsame)]
      exact ih

end Entries

theorem Value.stated_ofFields (fields : List (String × Value)) (keyword : String) :
    (Value.ofFields fields).stated keyword = (fields.lookup keyword).getD .null := by
  rw [ofFields, stated, Entries.getText, Entries.getText?_ofFields]

/-! ## What is stated about a field -/

namespace StoredField

variable (field : StoredField)

/-- The bound that a hint states, if it is a number. -/
def boundOf (hint : StorageHint) : Option Number := (field.hint? hint).bind Value.asNumber?

theorem lookup_propertyBound (hint : StorageHint) (keyword asked : String) :
    (field.propertyBound hint keyword).lookup asked =
      if asked = keyword then (field.boundOf hint).map Value.ofNumber else none := by
  rw [propertyBound, boundOf]
  cases (field.hint? hint).bind Value.asNumber? with
  | none => simp
  | some n =>
    by_cases hkeyword : asked = keyword
    · simp [hkeyword]
    · have hasked : (asked == keyword) = false := beq_eq_false_iff_ne.mpr hkeyword
      simp [List.lookup_cons, hasked, hkeyword]

theorem lookup_propertyType_of_ne {keyword : String} (htype : keyword ≠ "bsonType")
    (hitems : keyword ≠ "items") : field.propertyType.lookup keyword = none := by
  have htype' : (keyword == "bsonType") = false := beq_eq_false_iff_ne.mpr htype
  have hitems' : (keyword == "items") = false := beq_eq_false_iff_ne.mpr hitems
  unfold propertyType
  by_cases harray : field.isArray = true
  · cases storageTypeName? field.itemType <;> simp [harray, List.lookup_cons, htype', hitems']
  · cases storageTypeName? field.type <;> simp [harray, List.lookup_cons, htype']

/-- What is stated under a keyword that is not about the format of texts. -/
theorem lookup_property {keyword : String} (hpattern : keyword ≠ "pattern")
    (hdescription : keyword ≠ "description") :
    field.property.lookup keyword =
      ((((field.propertyType.lookup keyword).or
        ((field.propertyBound .minLength "minLength").lookup keyword)).or
        ((field.propertyBound .maxLength "maxLength").lookup keyword)).or
        ((field.propertyBound .min "minimum").lookup keyword)).or
        ((field.propertyBound .max "maximum").lookup keyword) := by
  have hpattern' : (keyword == "pattern") = false := beq_eq_false_iff_ne.mpr hpattern
  have hdescription' : (keyword == "description") = false := beq_eq_false_iff_ne.mpr hdescription
  rw [property, List.lookup_append, List.lookup_append, List.lookup_append, List.lookup_append,
    List.lookup_append]
  cases field.check? with
  | none => simp
  | some check => simp [List.lookup_cons, hpattern', hdescription']

/-- What is stated about the type of a field. -/
theorem stated_type : (Value.ofFields field.property).stated "bsonType" =
    (field.propertyType.lookup "bsonType").getD .null := by
  rw [Value.stated_ofFields, lookup_property field (by decide) (by decide)]
  simp [lookup_propertyBound]

/-- What is stated about the items of a field. -/
theorem stated_items : (Value.ofFields field.property).stated "items" =
    (field.propertyType.lookup "items").getD .null := by
  rw [Value.stated_ofFields, lookup_property field (by decide) (by decide)]
  simp [lookup_propertyBound]

/-- What is stated about a bound. -/
theorem stated_bound {hint : StorageHint} {keyword : String}
    (h : (hint, keyword) ∈ [(StorageHint.minLength, "minLength"), (.maxLength, "maxLength"),
      (.min, "minimum"), (.max, "maximum")]) :
    ((Value.ofFields field.property).stated keyword).asNumber? = field.boundOf hint := by
  have hnumber : ∀ n : Option Number,
      ((n.map Value.ofNumber).getD Value.null).asNumber? = n := by
    intro n
    cases n with
    | none => rfl
    | some n => exact Value.asNumber?_ofNumber n
  have hkeyword : keyword ≠ "pattern" ∧ keyword ≠ "description" ∧ keyword ≠ "bsonType" ∧
      keyword ≠ "items" := by
    simp only [List.mem_cons, Prod.mk.injEq, List.not_mem_nil, or_false] at h
    obtain ⟨-, rfl⟩ | ⟨-, rfl⟩ | ⟨-, rfl⟩ | ⟨-, rfl⟩ := h <;> decide
  obtain ⟨hpattern, hdescription, htype, hitems⟩ := hkeyword
  rw [Value.stated_ofFields, lookup_property field hpattern hdescription,
    lookup_propertyType_of_ne field htype hitems]
  simp only [List.mem_cons, Prod.mk.injEq, List.not_mem_nil, or_false] at h
  obtain ⟨rfl, rfl⟩ | ⟨rfl, rfl⟩ | ⟨rfl, rfl⟩ | ⟨rfl, rfl⟩ := h <;>
    simp [lookup_propertyBound, hnumber]

/-- The name that collections have for the type of a field. -/
def typeName? : Option String :=
  if field.isArray then some "array" else storageTypeName? field.type

/-- The name that collections have for the type of the items of a field. -/
def itemTypeName? : Option String :=
  if field.isArray then storageTypeName? field.itemType else none

variable {field}

/-- A value is of the stated type when it is of the type of the field. -/
theorem isOfType_stated_type {v : Value}
    (h : ∀ name, field.typeName? = some name → v.storedTypeName? = some name) :
    Value.isOfType ((Value.ofFields field.property).stated "bsonType") v = true := by
  have hname : ∀ name, field.typeName? = some name →
      Value.isOfType (if field.flagged .required then .text name
        else .list [.text name, .text "null"]) v = true := by
    intro name hname
    cases field.flagged .required <;> simp [Value.isOfType, Value.asText?, h name hname]
  rw [stated_type, propertyType]
  by_cases harray : field.isArray = true
  · have hstated := hname "array" (by rw [typeName?, if_pos harray])
    simpa [harray, List.lookup_cons] using hstated
  · rw [if_neg harray]
    cases hstored : storageTypeName? field.type with
    | none => rfl
    | some name =>
      have hstated := hname name (by rw [typeName?, if_neg harray, hstored])
      simpa [List.lookup_cons] using hstated

/-- An item is of the stated type when it is of the type of the items of the field. -/
theorem isOfType_stated_items {v : Value}
    (h : ∀ name, field.itemTypeName? = some name → v.storedTypeName? = some name) :
    Value.isOfType (((Value.ofFields field.property).stated "items").stated "bsonType") v =
      true := by
  rw [stated_items, propertyType]
  by_cases harray : field.isArray = true
  · cases hstored : storageTypeName? field.itemType with
    | none => simp [harray, List.lookup_cons, Value.stated, Value.isOfType]
    | some name =>
      have hv := h name (by rw [itemTypeName?, if_pos harray, hstored])
      simp [harray, List.lookup_cons, Value.stated_ofFields, Value.isOfType, hv]
  · rw [if_neg harray]
    cases storageTypeName? field.type <;>
      simp [List.lookup_cons, Value.stated, Value.isOfType]

end StoredField

/-- What a hint bounds: a measure, from below or from above. -/
def StorageHint.limit? : StorageHint → Option (Measure × Bool)
  | .minLength => some (.length, true)
  | .maxLength => some (.length, false)
  | .min => some (.number, true)
  | .max => some (.number, false)
  | _ => none

/-- A hint that bounds something refers to no collection. -/
theorem StorageHint.ne_ref_of_limit? {hint : StorageHint} {limit : Measure × Bool}
    (h : hint.limit? = some limit) : hint ≠ .ref := by
  rintro rfl
  contradiction

/-- **What a validator states about a field**: a value meets it when it is of the type of the field,
its items are of theirs, and it keeps the bounds of the hints. -/
theorem StoredField.meets_property {field : StoredField} {v : Value}
    (htype : ∀ name, field.typeName? = some name → v.storedTypeName? = some name)
    (hitems : ∀ part ∈ v.listed, ∀ name, field.itemTypeName? = some name →
      part.storedTypeName? = some name)
    (hbounds : ∀ hint measure isLeast n, hint.limit? = some (measure, isLeast) →
      field.boundOf hint = some n → v.isWithin measure isLeast (.ofNumber n) = true) :
    Value.meets (Value.ofFields field.property) v = true := by
  have hbound : ∀ hint measure isLeast keyword, hint.limit? = some (measure, isLeast) →
      (hint, keyword) ∈ [(StorageHint.minLength, "minLength"), (.maxLength, "maxLength"),
        (.min, "minimum"), (.max, "maximum")] →
      v.isWithin measure isLeast ((Value.ofFields field.property).stated keyword) = true := by
    intro hint measure isLeast keyword hlimit hkeyword
    have hstated := field.stated_bound hkeyword
    cases hbound : field.boundOf hint with
    | none =>
      rw [Value.isWithin, hstated, hbound]
      cases measure.of? v <;> rfl
    | some n =>
      have hwithin := hbounds hint measure isLeast n hlimit hbound
      rw [Value.isWithin, Value.asNumber?_ofNumber] at hwithin
      rw [Value.isWithin, hstated, hbound, hwithin]
  simp only [Value.meets, Bool.and_eq_true, List.all_eq_true]
  refine ⟨⟨⟨⟨⟨isOfType_stated_type htype, fun part hpart =>
    isOfType_stated_items (hitems part hpart)⟩, ?_⟩, ?_⟩, ?_⟩, ?_⟩
  · exact hbound .minLength _ _ _ rfl (by simp)
  · exact hbound .maxLength _ _ _ rfl (by simp)
  · exact hbound .min _ _ _ rfl (by simp)
  · exact hbound .max _ _ _ rfl (by simp)

/-! ## Documents -/

namespace StorageSchema

variable {schema : StorageSchema}

theorem stated_properties : (schema.validator.stated "$jsonSchema").stated "properties" =
    .map schema.properties := by
  rw [validator, Value.stated_ofFields]
  simp only [List.lookup_cons, beq_self_eq_true, Option.getD_some]
  rw [Value.stated_ofFields]
  rfl

theorem listed_required : ((schema.validator.stated "$jsonSchema").stated "required").listed =
    schema.requiredFields := by
  rw [validator, Value.stated_ofFields]
  simp only [List.lookup_cons, beq_self_eq_true, Option.getD_some]
  rw [Value.stated_ofFields]
  cases schema.requiredFields <;> rfl

/-- The names of the fields, as texts. -/
def fieldTexts (schema : StorageSchema) : List String := schema.fields.map (·.1.text)

theorem field?_of_mem (hdistinct : schema.fieldTexts.Nodup) {name : TextValue}
    {stored : StoredField} (h : (name, stored) ∈ schema.fields) :
    schema.field? name.text = some stored :=
  TextValue.lookup_of_mem hdistinct h

/-- A declared field keeps its statement beside those about times of writing. -/
theorem stated_properties_of_mem (hdistinct : schema.fieldTexts.Nodup) {name : TextValue}
    {stored : StoredField} (h : (name, stored) ∈ schema.fields) :
    (Value.map schema.properties).stated name.text = .ofFields stored.property := by
  have hdeclared : Entries.getText? (schema.fields.map fun entry =>
      (Value.ofTextValue entry.1, Value.ofFields entry.2.property)) name.text =
        some (.ofFields stored.property) := by
    rw [Entries.getText?_map_ofTextValue schema.fields fun stored => .ofFields stored.property,
      TextValue.lookup_of_mem hdistinct h, Option.map_some]
  have hkept : ∀ (names : List TextValue) (entries : Entries),
      entries.getText? name.text = some (.ofFields stored.property) →
      Entries.getText? (names.foldl (fun stated name =>
        if (Entries.getText? stated name.text).isSome then stated
        else stated ++ [(.ofTextValue name, timestampProperty)]) entries) name.text =
          some (.ofFields stored.property) := by
    intro names
    induction names with
    | nil => exact fun entries hentries => hentries
    | cons timestamp rest ih =>
      intro entries hentries
      rw [List.foldl_cons]
      apply ih
      split
      · exact hentries
      · rw [Entries.getText?_append, hentries, Option.some_or]
  rw [Value.stated, Entries.getText, properties, hkept _ _ hdeclared, Option.getD_some]

/-- The required names that are missing are those of declared fields. -/
theorem missing_eq (schema : StorageSchema) (document : Entries) :
    schema.missing document =
      (schema.fields.filter fun field => field.2.flagged .required &&
        (document.getText? field.1.text).isNone).map fun field => Value.ofTextValue field.1 := by
  rw [missing, listed_required, requiredFields, List.filter_map, List.filter_filter]
  refine congrArg (List.map _) (List.filter_congr fun field _ => ?_)
  rw [Function.comp_apply, Value.asText?_ofTextValue, Option.any_some, Bool.and_comm,
    Option.not_isSome]

/-- **What a collection admits**: values under the names of declared fields are admitted when they
meet the statements and checks of their fields. -/
theorem admitsEntries_of_forall (hdistinct : schema.fieldTexts.Nodup) {document : Entries}
    (h : ∀ entry ∈ document, ∃ field ∈ schema.fields, entry.1 = Value.ofTextValue field.1 ∧
      Value.meets (.ofFields field.2.property) entry.2 = true ∧
        ∀ check, field.2.check? = some check → check.admits entry.2 = true) :
    schema.admitsEntries document = true := by
  rw [admitsEntries, List.all_eq_true]
  intro entry hentry
  obtain ⟨⟨name, stored⟩, hfield, hkey, hmeets, hcheck⟩ := h entry hentry
  rw [hkey, Value.asText?_ofTextValue, Option.all_some, stated_properties,
    stated_properties_of_mem hdistinct hfield, field?_of_mem hdistinct hfield, Option.bind_some,
    Bool.and_eq_true, Option.all_eq_true]
  exact ⟨hmeets, hcheck⟩

end StorageSchema

end FieldSchema
