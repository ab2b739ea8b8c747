import FieldSchema.Proofs.Rule.Order
import FieldSchema.Storage.OfField

/-!
# Two notations for arrays

An array is described by a sequence, whose first item describes the items of the array, or by a
mapping with the type of arrays and a description of the items.  The two are read differently: the
first has no modifiers of its own and looks for allowed values in its item, the second has one
modifier, to which rules pay no attention and from which storage takes the type of the items.  They
come to the same for every item that has a type and states no allowed values, whatever the rule of
the item is, and also where there is none (`Rule.ofField_list_eq`).

* `Value.arrayOf`: the mapping for arrays of described items.
* `Rule.ofItems`: the rule of an array of described items.
-/

namespace FieldSchema

namespace Logged

variable {ε α β γ : Type}

@[simp] theorem ofExcept_ok (a : α) : (ofExcept (.ok a) : Logged ε α) = ok a := rfl

@[simp] theorem ok_andThen (a : α) (next : α → Logged ε β) : (ok a).andThen next = next a := by
  simp [andThen, ok]

/-- Work in three steps does not depend on how the steps are put together. -/
theorem andThen_assoc (first : Logged ε α) (next : α → Logged ε β) (last : β → Logged ε γ) :
    (first.andThen next).andThen last = first.andThen fun a => (next a).andThen last := by
  obtain ⟨events, result⟩ := first
  cases result with
  | error e => rfl
  | ok a =>
    simp only [andThen]
    cases (next a).result <;> simp

end Logged

namespace FieldSpec

variable {entries : Entries} {name : String}

/-- A modifier with one spelling does not occur when its name is no key. -/
theorem get?_ofEntries_of_absent (hname : name ∉ ["minlength", "maxlength", "regex"])
    (h : entries.getText? name = none) : (ofEntries entries).get? name = none := by
  apply get?_of_has_eq_false
  rw [← Bool.not_eq_true]
  intro hhas
  obtain ⟨modifier, hmem, htext⟩ := List.any_eq_true.mp hhas
  obtain ⟨entry, hentry, hkey, -⟩ := exists_entry_of_mem_ofEntries hname hmem (by simpa using htext)
  have := Entries.isSome_getText?_of_mem hentry hkey
  rw [h] at this
  contradiction

end FieldSpec

/-- What describes an array by a type token and a description of the items. -/
def Value.arrayOf (token item : Value) : Value :=
  .map [(.text "type", token), (.text "items", item)]

namespace FieldForm

variable {field : Option TextValue} {entries : Entries}

/-- A sequence with a mapping that has a type is read as an array of what the mapping describes. -/
theorem read_list (htype : (entries.getText "type").isNull = false) :
    read field (.list [.map entries]) = .ok (.arrayOf (.ofEntries entries)) := by
  have hitem : itemSpec (.map entries) = .ofEntries entries := by
    simp [itemSpec, FieldSpec.ofEntries, htype]
  exact congrArg (fun item => Except.ok (FieldForm.arrayOf item)) hitem

/-- The mapping for arrays is read as a field with one modifier. -/
theorem read_arrayOf (token item : Value) :
    read field (.arrayOf token item) = .ok (.single ⟨token, [(.text "items", item)]⟩) := rfl

end FieldForm

namespace Rule

variable {overrides : Overrides} {field : TextValue} {token : Value} {entries : Entries}

/-- The rule of an array of described items. -/
def ofItems (overrides : Overrides) (field : TextValue) (item : FieldSpec) : Compiling Rule :=
  (ofItemSpec overrides field item).andThen fun rule => .ok (ofItem rule)

/-- An array that is given by its items has their rule when they state no allowed values. -/
theorem ofForm_arrayOf {item : FieldSpec} (henum : item.get? "enum" = none) :
    ofForm overrides field (.arrayOf item) = ofItems overrides field item := by
  have hget : item.get "enum" = .null := by rw [FieldSpec.get, henum, Option.getD_none]
  rw [ofForm, hget]
  rfl

/-- Nothing is added to the rule of an array by the modifier that describes its items. -/
theorem finish_ofItem (field : TextValue) (token item : Value) (rule : Option Rule) :
    finish field ⟨token, [(.text "items", item)]⟩ (ofItem rule) = ofItem rule := by
  have hstrengthen : strengthen field ⟨token, [(.text "items", item)]⟩ (ofItem rule) =
      ofItem rule := by
    rw [strengthen, kind_ofItem]
    rfl
  rw [finish, hstrengthen]
  rfl

/-- An array that is given by a mapping has the rule of its items. -/
theorem ofForm_single_items (htoken : token.category? = some .array) :
    ofForm overrides field (.single ⟨token, [(.text "items", .map entries)]⟩) =
      ofItems overrides field (.ofEntries entries) := by
  have hcategory : token.categoryFor (some field) = .ok .array :=
    (Value.categoryFor_eq_ok_iff _ _ _).mpr htoken
  have hitems : FieldSpec.items? ⟨token, [(.text "items", .map entries)]⟩ =
      some (.ofEntries entries) := rfl
  have hmodifiers (rule : Rule) :
      applyModifiers overrides field rule [(.text "items", .map entries)] = .ok rule := rfl
  rw [ofForm, hcategory]
  simp only [Compiling.ofDefinition, ofType_array_eq, hitems, Logged.ok_andThen, hmodifiers,
    Logged.andThen_assoc, finish_ofItem, Logged.ofExcept_ok, ofItems]

/-- Both notations for arrays have the same rule, or fail alike, with the same events. -/
theorem ofField_list_eq (htoken : token.category? = some .array)
    (htype : (entries.getText "type").isNull = false) (henum : entries.getText? "enum" = none) :
    ofField overrides field (.list [.map entries]) =
      ofField overrides field (.arrayOf token (.map entries)) := by
  have habsent := FieldSpec.get?_ofEntries_of_absent (by decide) henum
  rw [ofField, ofField, FieldForm.read_list htype, FieldForm.read_arrayOf]
  simp only [Compiling.ofDefinition, Logged.ok_andThen, ofForm_arrayOf habsent,
    ofForm_single_items htoken]

end Rule

namespace StoredField

variable {field : TextValue} {token : Value} {entries : Entries}

/-- What an array stores depends on its items alone. -/
theorem withItems_eq (t u : Value) (item : FieldSpec) :
    withItems { type := t } item = withItems { type := u } item := rfl

/-- Items that are object identifiers bring the collection that they refer to. -/
theorem hint?_ref_withItems {item : FieldSpec} (t : Value)
    (hitem : item.type.category? = some .objectId) :
    (withItems { type := t } item).hint? .ref = item.get? "ref" := by
  have hstorage : item.type.storageType = .canonical .objectId := by
    rw [Value.storageType, hitem]
  unfold withItems
  rw [hstorage]
  cases item.get? "ref" <;> rfl

theorem ofValue_list (htype : (entries.getText "type").isNull = false) :
    ofValue field (.list [.map entries]) =
      .ok (withItems { type := .null } (.ofEntries entries)) := by
  rw [ofValue, FieldForm.read_list htype]
  rfl

theorem ofValue_arrayOf (htoken : token.category? = some .array) :
    ofValue field (.arrayOf token (.map entries)) =
      .ok (withItems { type := .canonical .array } (.ofEntries entries)) := by
  have hstorage : token.storageType = .canonical .array := by
    rw [Value.storageType, htoken]
  rw [ofValue, FieldForm.read_arrayOf]
  simp only [ofForm, ofSpec, hstorage]
  rfl

end StoredField

/-- **Both notations for arrays agree.**  For every mapping that has a type and states no allowed
values, an array of what it describes has the same rule in both notations, or the same failure, and
the same stored field, which refers to the collection that items refer to when they are object
identifiers. -/
theorem Definition.array_notations_agree (overrides : Overrides) (field : TextValue)
    {token : Value} {entries : Entries} (htoken : token.category? = some .array)
    (htype : (entries.getText "type").isNull = false) (henum : entries.getText? "enum" = none) :
    Rule.ofField overrides field (.list [.map entries]) =
        Rule.ofField overrides field
          (.map [(.text "type", token), (.text "items", .map entries)]) ∧
      ∃ stored, StoredField.ofValue field (.list [.map entries]) = .ok stored ∧
        StoredField.ofValue field
          (.map [(.text "type", token), (.text "items", .map entries)]) = .ok stored ∧
        ((entries.getText "type").category? = some .objectId →
          stored.hint? .ref = (FieldSpec.ofEntries entries).get? "ref") := by
  refine ⟨Rule.ofField_list_eq htoken htype henum, _, StoredField.ofValue_list htype, ?_, ?_⟩
  · exact (StoredField.ofValue_arrayOf htoken).trans (congrArg _ (StoredField.withItems_eq _ _ _))
  · exact @StoredField.hint?_ref_withItems (.ofEntries entries) .null

/-- What describes an object identifier of a user. -/
def userReference : Entries :=
  [(.text "type", .typeName .objectId), (.text "ref", .text "User")]

/-- An array of references to users, in both notations. -/
theorem Definition.array_notations_agree_referring :
    Rule.ofField .none "owners" (.list [.map userReference]) =
        Rule.ofField .none "owners"
          (.map [(.text "type", .typeName .list), (.text "items", .map userReference)]) ∧
      ∃ stored, StoredField.ofValue "owners" (.list [.map userReference]) = .ok stored ∧
        StoredField.ofValue "owners"
          (.map [(.text "type", .typeName .list), (.text "items", .map userReference)]) =
            .ok stored ∧
        stored.hint? .ref = some (.text "User") := by
  have htoken : (Value.typeName .list).category? = some .array := rfl
  have htype : (userReference.getText "type").isNull = false := rfl
  obtain ⟨hrule, stored, hlist, hmap, href⟩ := array_notations_agree .none "owners" htoken htype rfl
  exact ⟨hrule, stored, hlist, hmap, href rfl⟩

end FieldSchema
