import FieldSchema.Proofs.Rule.Undiagnosed

/-!
# What is stored, and what both compilers report

Storage passes over modifiers that it cannot use: a pattern whose text has a fault is noted and left
out, unknown names and unexpected values say nothing.  So every value that describes a field is
stored, except for the two kinds of modifiers that stop it without a word: a pattern that is refused
although its text is well formed, and a name that cannot be looked up.

* `StoredField.Stalls`, `StoredField.FormStalls`: these modifiers, and fields with one of them.
* `StoredField.exists_ofForm_eq_ok_or_stalls`: every other field is stored.
* `Definition.compiles_or_stalls`: what rules and stored fields end in, for every definition.
-/

namespace FieldSchema

namespace FormatCheck

theorem ofModifier_of_given {field : TextValue} {v : Value} {source : TextValue} {flags : Flags}
    (h : given? v = some (source, flags)) : ofModifier field v = ofSource field source flags := by
  unfold ofModifier
  cases v <;> cases h <;> rfl

theorem result_ofModifier_of_isUndiagnosed {field : TextValue} {v : Value}
    {cause : PatternFailure} (h : IsUndiagnosed v cause) :
    (ofModifier field v).result = .error (.pattern cause) := by
  obtain ⟨source, flags, hgiven, hcompile, hunknown⟩ := h
  rw [ofModifier_of_given hgiven, ofSource, hcompile]
  cases cause with
  | fault fault place => exact absurd rfl (hunknown fault place)
  | _ => rfl

end FormatCheck

namespace StoredField

variable {field : TextValue} {isArrayType : Bool} {stored : StoredField}

/-- A modifier ends the making of a stored field: it gives a pattern that is refused without a
diagnosis, or its name cannot be looked up. -/
inductive Stalls (modifier : Value × Value) : CompileFailure → Prop
  | pattern {cause : PatternFailure} (hkey : modifier.1.asText? = some "regex")
    (hpattern : FormatCheck.IsUndiagnosed modifier.2 cause) : Stalls modifier (.pattern cause)
  | name (hkey : modifier.1.asText? = none) (hlookup : isLookup modifier.1 = false) :
    Stalls modifier (.raised .wrongType)

/-- One of some modifiers stalls, after those before it were read. -/
inductive ModifiersStall : List (Value × Value) → CompileFailure → Prop
  | here {modifier : Value × Value} {rest : List (Value × Value)} {failure : CompileFailure}
    (h : Stalls modifier failure) : ModifiersStall (modifier :: rest) failure
  | later {modifier : Value × Value} {rest : List (Value × Value)} {failure : CompileFailure}
    (hread : IsReadable modifier) (h : ModifiersStall rest failure) :
    ModifiersStall (modifier :: rest) failure

/-- Making the stored field of a form ends without a diagnosis: a modifier stalls, and the field is
not described by its items alone. -/
inductive FormStalls : FieldForm → CompileFailure → Prop
  | single {spec : FieldSpec} {failure : CompileFailure}
    (h : ModifiersStall spec.modifiers failure) : FormStalls (.single spec) failure

/-! ## Fields that stall -/

theorem result_applyModifier_of_stalls {modifier : Value × Value} {failure : CompileFailure}
    (h : Stalls modifier failure) :
    (applyModifier field isArrayType stored modifier).result = .error failure := by
  cases h with
  | pattern hkey hpattern =>
    have hcheck : applyModifier field isArrayType stored modifier =
        (FormatCheck.ofModifier field modifier.2).andThen fun check =>
          .ok (stored.withCheck? check) := by
      simp only [applyModifier, hkey]
      rfl
    rw [hcheck, Logged.result_andThen, FormatCheck.result_ofModifier_of_isUndiagnosed hpattern]
    rfl
  | name hkey hlookup =>
    simp only [applyModifier, hkey, hlookup]
    rfl

theorem result_applyModifiers_of_stall {modifiers : List (Value × Value)}
    {failure : CompileFailure} (h : ModifiersStall modifiers failure) :
    (applyModifiers field isArrayType stored modifiers).result = .error failure := by
  induction h generalizing stored with
  | here h =>
    rw [applyModifiers, Logged.result_andThen, result_applyModifier_of_stalls h]
    rfl
  | later hread _ ih =>
    rw [applyModifiers, Logged.result_andThen, result_applyModifier_eq_ok_iff.mpr ⟨hread, rfl⟩]
    exact ih

theorem result_ofForm_of_stalls {form : FieldForm} {failure : CompileFailure}
    (h : FormStalls form failure) : (ofForm field form).result = .error failure := by
  cases h with
  | single h => exact result_applyModifiers_of_stall h

/-! ## Fields that do not stall -/

/-- A modifier that cannot be read stalls. -/
theorem isReadable_or_stalls (modifier : Value × Value) :
    IsReadable modifier ∨ ∃ failure, Stalls modifier failure := by
  by_cases hname : modifier.1.asText? = none ∧ isLookup modifier.1 = false
  · exact .inr ⟨_, .name hname.1 hname.2⟩
  by_cases hpattern : modifier.1.asText? = some "regex" ∧
      ∃ cause, FormatCheck.IsUndiagnosed modifier.2 cause
  · obtain ⟨hkey, cause, hundiagnosed⟩ := hpattern
    exact .inr ⟨_, .pattern hkey hundiagnosed⟩
  refine .inl ⟨fun hnone => ?_, fun hkey given hgiven failure hrefused => ?_⟩
  · simpa [hnone] using hname
  · refine Classical.byContradiction fun hunknown => hpattern ⟨hkey, failure, given.1, given.2,
      hgiven, hrefused, fun fault place hfault => hunknown ⟨fault, place, hfault⟩⟩

theorem areReadable_or_stall (modifiers : List (Value × Value)) :
    (∀ modifier ∈ modifiers, IsReadable modifier) ∨
      ∃ failure, ModifiersStall modifiers failure := by
  induction modifiers with
  | nil => exact .inl (List.forall_mem_nil _)
  | cons modifier rest ih =>
    rcases isReadable_or_stalls modifier with hread | ⟨failure, h⟩
    · rcases ih with hrest | ⟨failure, h⟩
      · exact .inl (List.forall_mem_cons.mpr ⟨hread, hrest⟩)
      · exact .inr ⟨failure, .later hread h⟩
    · exact .inr ⟨failure, .here h⟩

theorem ModifiersStall.exists_stalls {modifiers : List (Value × Value)} {failure : CompileFailure}
    (h : ModifiersStall modifiers failure) : ∃ modifier ∈ modifiers, Stalls modifier failure := by
  induction h with
  | here h => exact ⟨_, List.mem_cons_self, h⟩
  | later _ _ ih =>
    obtain ⟨modifier, hmem, h⟩ := ih
    exact ⟨modifier, List.mem_cons_of_mem _ hmem, h⟩

theorem FormStalls.exists_stalls {form : FieldForm} {failure : CompileFailure}
    (h : FormStalls form failure) :
    ∃ modifier ∈ form.described.modifiers, Stalls modifier failure := by
  cases h with
  | single h => exact h.exists_stalls

/-- A form that does not stall is stored. -/
theorem exists_ofForm_eq_ok_or_stalls (field : TextValue) (form : FieldForm) :
    (∃ stored, (ofForm field form).result = .ok stored) ∨ ∃ failure, FormStalls form failure := by
  cases form with
  | arrayOf item => exact .inl ⟨_, rfl⟩
  | single spec =>
    rcases areReadable_or_stall spec.modifiers with hread | ⟨failure, h⟩
    · exact .inl ⟨_, result_applyModifiers_eq_ok_iff.mpr ⟨hread, rfl⟩⟩
    · exact .inr ⟨failure, .single h⟩

end StoredField

/-! ## What both compilers report -/

/-- Whether a value describes a field: a mapping, a sequence, or a field that was read before. -/
def Value.describesField : Value → Bool
  | .map _ => true
  | .list _ => true
  | .tuple _ => true
  | .deque _ => true
  | .spec _ _ => true
  | .shorthand _ _ => true
  | _ => false

theorem FieldForm.exists_read_eq_ok {raw : Value} (h : raw.describesField = true) :
    ∃ form, ∀ field, read field raw = .ok form := by
  cases raw <;> first | exact ⟨_, fun _ => rfl⟩ | contradiction

/-- **What the compilers report.**  A definition without cycles gives a rule, or a cause why it
cannot be used, unless a modifier stalls; then it ends in that failure and in no other way.  A value
that describes a field is always stored, unless a modifier of it stalls.  What stalls is a pattern
that is refused although its text is well formed, or a name that cannot be looked up. -/
theorem Definition.compiles_or_stalls (overrides : Overrides) {definition : Value}
    (h : definition.isAcyclic = true) :
    let made := (Rule.ofDefinition overrides definition).result
    ((∃ rule, made = .ok rule) ∨ (∃ cause, made = .error (.definition cause)) ∨
        ∃ failure, Rule.DefinitionStalls overrides definition failure) ∧
      (∀ failure, Rule.DefinitionStalls overrides definition failure →
        made = .error failure ∧
          ∃ modifier, definition.States modifier ∧ ∃ rule, Rule.Stalls rule modifier failure) ∧
      ∀ (field : TextValue) (raw : Value), raw.describesField = true →
        ∃ form, FieldForm.read (some field) raw = .ok form ∧
          ((∃ stored, (StoredField.ofValue field raw).result = .ok stored) ∨
            ∃ failure, StoredField.FormStalls form failure) ∧
          ∀ failure, StoredField.FormStalls form failure →
            (StoredField.ofValue field raw).result = .error failure ∧
              ∃ modifier ∈ form.described.modifiers, StoredField.Stalls modifier failure := by
  have hends := Rule.endsIn_ofDefinition overrides h
  refine ⟨?_, fun failure hstalls => ⟨((hends failure).mpr hstalls).1, hstalls.exists_states⟩,
    fun field raw hraw => ?_⟩
  · cases hmade : (Rule.ofDefinition overrides definition).result with
    | ok rule => exact .inl ⟨rule, rfl⟩
    | error failure =>
      cases failure with
      | definition cause => exact .inr (.inl ⟨cause, rfl⟩)
      | pattern cause =>
        exact .inr (.inr ⟨_, (hends _).mp ⟨hmade, fun _ => CompileFailure.noConfusion⟩⟩)
      | raised failure =>
        exact .inr (.inr ⟨_, (hends _).mp ⟨hmade, fun _ => CompileFailure.noConfusion⟩⟩)
  · obtain ⟨form, hread⟩ := FieldForm.exists_read_eq_ok hraw
    have hvalue : StoredField.ofValue field raw = StoredField.ofForm field form := by
      rw [StoredField.ofValue, hread]
    rw [hvalue]
    exact ⟨form, hread _, StoredField.exists_ofForm_eq_ok_or_stalls field form,
      fun failure hstalls =>
        ⟨StoredField.result_ofForm_of_stalls hstalls, hstalls.exists_stalls⟩⟩

namespace Definition

/-- A field whose pattern repeats a letter more often than can be counted. -/
def countlessField : FieldSpec :=
  ⟨.text "String", [(.text "regex", .text "a\x7b4294967295\x7d")]⟩

/-- A definition with such a field. -/
def countless : Value := .map [(.text "a", countlessField.toValue)]

theorem compile_countless :
    Regex.compile "a\x7b4294967295\x7d" .none = .error .countTooLarge := by
  have hcause : (match Regex.compile "a\x7b4294967295\x7d" .none with
      | .error cause => some cause
      | .ok _ => none) = some .countTooLarge := by decide +kernel
  cases hcompile : Regex.compile "a\x7b4294967295\x7d" .none with
  | ok regex =>
    rw [hcompile] at hcause
    contradiction
  | error cause =>
    rw [hcompile] at hcause
    rw [Option.some.inj hcause]

theorem isUndiagnosed_countless :
    FormatCheck.IsUndiagnosed (.text "a\x7b4294967295\x7d") .countTooLarge :=
  ⟨.plain "a\x7b4294967295\x7d", .none, rfl, compile_countless,
    fun _ _ => PatternFailure.noConfusion⟩

/-- Neither compiler reports the pattern: both end in the failure that it was refused with. -/
theorem compiles_or_stalls_countless :
    countless.isAcyclic = true ∧
      (Rule.ofDefinition .none countless).result = .error (.pattern .countTooLarge) ∧
      countlessField.toValue.describesField = true ∧
      (StoredField.ofValue (.plain "a") countlessField.toValue).result =
        .error (.pattern .countTooLarge) := by
  have hacyclic : countless.isAcyclic = true := by decide
  have hread : Definition.read countless = .ok [(.plain "a", .single countlessField)] := rfl
  have htype : (Value.text "String").category? = some .string := by with_unfolding_all rfl
  have hstart : (Rule.ofType .none (.plain "a") .string countlessField).result =
      .ok (.ofKind .string []) := by
    rw [Rule.ofType_ofCategory (by decide) (by decide)]
    rfl
  have hmodifier : Rule.ModifiersStall .none (.plain "a") (.ofKind .string [])
      countlessField.modifiers (.pattern .countTooLarge) :=
    .here (.pattern rfl rfl isUndiagnosed_countless)
  obtain ⟨-, hrule, hstored⟩ := compiles_or_stalls .none hacyclic
  obtain ⟨form, hform, -, hstalls⟩ := hstored (.plain "a") countlessField.toValue rfl
  obtain rfl : FieldForm.single countlessField = form := Except.ok.inj hform
  refine ⟨hacyclic, (hrule _ ⟨_, hread, .here (.modifiers htype hstart hmodifier)⟩).1, rfl,
    (hstalls _ (.single (.here (.pattern rfl isUndiagnosed_countless)))).1⟩

end Definition

end FieldSchema
