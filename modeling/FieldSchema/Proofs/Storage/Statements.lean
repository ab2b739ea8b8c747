import FieldSchema.Storage.Schema

/-!
# What a storage schema states

A schema states fields and indexes.  The fields are those of its definition, and the indexes those
that the options declare, in order; further indexes can be declared later.  Hooks and virtual fields
are kept apart from both.

* `StorageSchema.statements`: the fields and the declared indexes.
* `StorageSchema.ofDefinition_eq_ok`: what the schema of a definition states.
-/

namespace FieldSchema.StorageSchema

/-- The fields and the declared indexes of a schema. -/
def statements (schema : StorageSchema) : List (TextValue × StoredField) × List (Value × Value) :=
  (schema.fields, schema.indexes)

/-- The schema with more declared indexes, in order. -/
def declare (schema : StorageSchema) (more : List (Value × Value)) : StorageSchema :=
  more.foldl (fun schema index => schema.addIndex index.1 index.2) schema

/-- Parts that each leave the statements of a schema as they are leave them so together. -/
theorem statements_foldl {α : Type} (add : StorageSchema → α → StorageSchema)
    (hadd : ∀ schema a, (add schema a).statements = schema.statements) (parts : List α)
    (schema : StorageSchema) : (parts.foldl add schema).statements = schema.statements := by
  induction parts generalizing schema with
  | nil => rfl
  | cons part rest ih => rw [List.foldl_cons, ih, hadd]

theorem statements_addHooks (phase : HookPhase) (listed : Entries) (schema : StorageSchema) :
    (addHooks phase listed schema).statements = schema.statements := by
  refine statements_foldl _ (fun schema entry => ?_) listed schema
  refine statements_foldl _ (fun schema hook => ?_) (listedHooks entry.2) schema
  cases phase <;> rfl

theorem statements_addVirtual (schema : StorageSchema) (name description : Value) :
    (addVirtual schema name description).statements = schema.statements := by
  unfold addVirtual
  split <;> rfl

theorem statements_declare (schema : StorageSchema) (more : List (Value × Value)) :
    (schema.declare more).statements = (schema.fields, schema.indexes ++ more) := by
  induction more generalizing schema with
  | nil => rw [List.append_nil]; rfl
  | cons index rest ih => rw [declare, List.foldl_cons, ← declare, ih, List.append_cons]; rfl

/-- Options declare indexes and change no field. -/
theorem statements_apply (parts : StorageParts) (schema : StorageSchema) :
    (apply parts schema).statements = (schema.fields, schema.indexes ++ parts.indexes) := by
  let before := parts.virtuals.foldl (fun schema entry => schema.addVirtual entry.1 entry.2)
    ((schema.addHooks .before parts.pre).addHooks .after parts.post)
  have hbefore : before.statements = schema.statements := by
    rw [statements_foldl (fun schema (entry : Value × Value) => schema.addVirtual entry.1 entry.2)
      fun schema entry => statements_addVirtual schema _ _, statements_addHooks,
      statements_addHooks]
  obtain ⟨hfields, hindexes⟩ := Prod.mk.inj hbefore
  rw [← hfields, ← hindexes]
  exact statements_declare before parts.indexes

/-- **The schema of a definition** states the fields of the definition, and the indexes that the
options declare. -/
theorem ofDefinition_eq_ok {options : StorageOptions} {definition : Value} {schema : StorageSchema}
    (h : (ofDefinition options definition).result = .ok schema) :
    ∃ forms parts, Definition.read definition = .ok forms ∧ options.parts = .ok parts ∧
      (storeFields forms).result = .ok schema.fields ∧ schema.indexes = parts.indexes := by
  unfold ofDefinition at h
  split at h
  · contradiction
  · rename_i forms hforms
    obtain ⟨fields, hfields, h⟩ := Logged.result_andThen_eq_ok_iff.mp h
    split at h
    · contradiction
    · rename_i parts hparts
      obtain ⟨noted, -, h⟩ := Logged.result_andThen_eq_ok_iff.mp h
      obtain ⟨hkept, hindexes⟩ := Prod.mk.inj (statements_apply parts
        { fields, options := Entries.append (Entries.ofFields [("timestamps", .bool true)])
            parts.schemaOptions })
      rw [← Except.ok.inj h]
      exact ⟨forms, parts, hforms, hparts, hfields.trans (congrArg Except.ok hkept.symm),
        hindexes.trans (List.nil_append _)⟩

end FieldSchema.StorageSchema
