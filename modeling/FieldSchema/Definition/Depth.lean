import FieldSchema.Definition.Field

/-!
# Nesting of definitions

A definition describes fields, whose modifiers may describe items and parts, and so on.  Whatever
follows the nesting of definitions ends because it goes from a value to one that is nested less
deeply.

* `Value.depth`: how deeply a value is nested.
* `FieldSpec.depth_items?`, `FieldSpec.depth_schema?`, `Definition.depth_read`: what describes a
  part is nested less deeply than what it is a part of.
-/

namespace FieldSchema

namespace Value

mutual

/-- How deeply a value is nested. -/
def depth : Value → Nat
  | .list items => depthOfList items + 1
  | .tuple items => depthOfList items + 1
  | .deque items => depthOfList items + 1
  | .map entries => depthOfEntries entries + 1
  | .spec _ modifiers => depthOfEntries modifiers + 1
  | .shorthand _ modifiers => depthOfEntries modifiers + 1
  | _ => 0

/-- The depth of the most deeply nested item. -/
def depthOfList : List Value → Nat
  | [] => 0
  | v :: rest => max v.depth (depthOfList rest)

/-- The depth of the most deeply nested value of an entry. -/
def depthOfEntries : List (Value × Value) → Nat
  | [] => 0
  | (_, v) :: rest => max v.depth (depthOfEntries rest)

end

theorem depth_le_depthOfEntries {entries : List (Value × Value)} {entry : Value × Value}
    (h : entry ∈ entries) : entry.2.depth ≤ depthOfEntries entries := by
  induction entries with
  | nil => cases h
  | cons first rest ih =>
    obtain ⟨k, v⟩ := first
    rw [depthOfEntries]
    cases h with
    | head => exact Nat.le_max_left _ _
    | tail _ h => exact Nat.le_trans (ih h) (Nat.le_max_right _ _)

theorem depthOfEntries_le {entries : List (Value × Value)} {bound : Nat}
    (h : ∀ entry ∈ entries, entry.2.depth ≤ bound) : depthOfEntries entries ≤ bound := by
  induction entries with
  | nil => simp [depthOfEntries]
  | cons first rest ih =>
    obtain ⟨k, v⟩ := first
    rw [depthOfEntries]
    exact Nat.max_le.mpr ⟨h (k, v) (by simp), ih fun entry he => h entry (by simp [he])⟩

end Value

namespace FieldSpec

/-- How deeply the modifiers of a field are nested. -/
def depth (spec : FieldSpec) : Nat := Value.depthOfEntries spec.modifiers

theorem depth_ofEntries (entries : Entries) :
    (ofEntries entries).depth ≤ Value.depthOfEntries entries := by
  apply Value.depthOfEntries_le
  intro entry h
  simp only [ofEntries, List.mem_map, List.mem_filter] at h
  obtain ⟨entry, ⟨hmem, _⟩, rfl⟩ := h
  have hle := Value.depth_le_depthOfEntries hmem
  exact hle

theorem depth_get (spec : FieldSpec) (name : String) : (spec.get name).depth ≤ spec.depth := by
  unfold get get?
  cases h : spec.modifiers.reverse.find? fun modifier => modifier.1.asText? == some name with
  | none => simp [Value.depth]
  | some modifier =>
    have hmem : modifier ∈ spec.modifiers := List.mem_reverse.mp (List.mem_of_find?_eq_some h)
    exact Value.depth_le_depthOfEntries hmem

theorem depth_ofValue? {v : Value} {spec : FieldSpec} (h : ofValue? v = some spec) :
    spec.depth < v.depth := by
  unfold ofValue? at h
  split at h
  · cases h
    simp [depth, Value.depth]
  · cases h
    exact Nat.lt_succ_of_le (depth_ofEntries _)
  · cases h

/-- What describes the items of an array is nested less deeply than the field. -/
theorem depth_items? {spec item : FieldSpec} (h : spec.items? = some item) :
    item.depth < spec.depth :=
  Nat.lt_of_lt_of_le (depth_ofValue? h) (depth_get spec "items")

/-- The definition of the parts of an object is nested less deeply than the field. -/
theorem depth_schema? {spec : FieldSpec} {entries : Entries} (h : spec.schema? = some entries) :
    Value.depthOfEntries entries < spec.depth := by
  have hle := depth_get spec "schema"
  unfold schema? Value.asEntries? at h
  split at h
  · rename_i heq
    cases h
    rw [heq, Value.depth] at hle
    exact hle
  · cases h

end FieldSpec

namespace FieldForm

/-- How deeply a field is nested. -/
def depth (form : FieldForm) : Nat := form.described.depth

theorem depth_itemSpec (first : Value) : (itemSpec first).depth ≤ first.depth := by
  have h : ∀ item : FieldSpec, item.depth ≤ first.depth →
      (if item.type.isNull then { item with type := .canonical .string } else item :
        FieldSpec).depth ≤ first.depth := by
    intro item hle
    split <;> exact hle
  unfold itemSpec
  apply h
  cases first with
  | map entries =>
    exact Nat.le_trans (FieldSpec.depth_ofEntries entries) (Nat.le_succ _)
  | _ => simp [FieldSpec.depth, Value.depthOfEntries]

theorem depth_head (items : List Value) :
    (itemSpec (items.head?.getD (.map []))).depth ≤ Value.depthOfList items := by
  cases items with
  | nil => simp [itemSpec, FieldSpec.ofEntries, FieldSpec.depth, Value.depthOfEntries,
      Entries.getText, Entries.getText?, Value.isNull]
  | cons v rest =>
    rw [Value.depthOfList]
    exact Nat.le_trans (depth_itemSpec v) (Nat.le_max_left _ _)

theorem depth_read {field : Option TextValue} {raw : Value} {form : FieldForm}
    (h : read field raw = .ok form) : form.depth < raw.depth := by
  cases raw with
  | spec type modifiers => cases h; simp [depth, described, FieldSpec.depth, Value.depth]
  | shorthand type modifiers => cases h; simp [depth, described, FieldSpec.depth, Value.depth]
  | map entries => cases h; exact Nat.lt_succ_of_le (FieldSpec.depth_ofEntries entries)
  | list items => cases h; exact Nat.lt_succ_of_le (depth_head items)
  | tuple items => cases h; exact Nat.lt_succ_of_le (depth_head items)
  | deque items => cases h; exact Nat.lt_succ_of_le (depth_head items)
  | _ => cases h

end FieldForm

namespace Definition

/-- How deeply the most deeply nested field is nested. -/
def depth : List (TextValue × FieldForm) → Nat
  | [] => 0
  | (_, form) :: rest => max form.depth (depth rest)

/-- The fields of a definition are nested at most as deeply as its entries. -/
theorem depth_readEntries {entries : Entries} {fields : List (TextValue × FieldForm)}
    (h : readEntries entries = .ok fields) : depth fields ≤ Value.depthOfEntries entries := by
  induction entries generalizing fields with
  | nil => cases h; simp [depth]
  | cons first rest ih =>
    obtain ⟨key, raw⟩ := first
    rw [readEntries] at h
    split at h
    · cases h
    · rename_i name _
      cases hform : FieldForm.read (some name) raw with
      | error e => rw [hform] at h; cases h
      | ok form =>
        cases hrest : readEntries rest with
        | error e => rw [hform, hrest] at h; cases h
        | ok others =>
          rw [hform, hrest] at h
          cases h
          rw [depth, Value.depthOfEntries]
          have := FieldForm.depth_read hform
          have := ih hrest
          omega

end Definition

end FieldSchema
