import FieldSchema.Proofs.Rule.Changes
import FieldSchema.Proofs.Rule.Wording
import FieldSchema.Proofs.Signature.Identity
import FieldSchema.Proofs.Storage.LastStated

/-!
# What a definition is not diagnosed for

Making the rule of a definition ends in three ways: with a rule, with a cause that lies in the
definition, or without a diagnosis.  The third has two causes only.  A pattern can be refused
although its text is well formed, as when it repeats a letter more often than can be counted or asks
for flags that exclude each other; faults in the text are diagnosed, and such refusals are not.  And
the name of a modifier can be a value that cannot be looked up, which no key of a mapping is.

Modifiers are applied in order, fields are made one after the other, and arrays and objects are made
of what they contain.  So work ends without a diagnosis exactly when it reaches a modifier that
stalls, and `Compiling.EndsIn` says this of a piece of work with all its failures at once.
Definitions that contain themselves are left out, and so are limits on depth and on the length of
numerals.

* `Rule.Stalls`: the modifiers that end the making of a rule.
* `Rule.DefinitionStalls`: the making of the rule of a definition reaches such a modifier.
* `Rule.endsIn_ofDefinition`: it ends without a diagnosis exactly there.
* `Value.States`, `Rule.DefinitionStalls.exists_states`: the modifier is stated in the definition.
-/

namespace FieldSchema

/-! ## Patterns without a diagnosis -/

/-- A pattern is refused although its text is well formed, so there is no fault to be diagnosed. -/
def Regex.Refuses (source : String) (flags : Flags) (cause : PatternFailure) : Prop :=
  compile source flags = .error cause ∧ ∀ fault place, cause ≠ .fault fault place

/-- A value gives a pattern that is refused without a diagnosis. -/
def FormatCheck.IsUndiagnosed (v : Value) (cause : PatternFailure) : Prop :=
  ∃ source flags, given? v = some (source, flags) ∧ Regex.Refuses source.text flags cause

/-! ## Work that ends -/

/-- The failures in which work ends without a cause that lies in the definition. -/
def Compiling.EndsIn {α : Type} (result : Except CompileFailure α)
    (failures : CompileFailure → Prop) : Prop :=
  ∀ failure, (result = .error failure ∧ ∀ cause, failure ≠ .definition cause) ↔ failures failure

namespace Compiling.EndsIn

variable {α β : Type} {failures : CompileFailure → Prop}

theorem ok (a : α) (h : ∀ failure, ¬failures failure) : EndsIn (.ok a) failures := fun failure =>
  ⟨fun hends => (nomatch hends.1), fun hfails => absurd hfails (h failure)⟩

theorem definition (cause : DefinitionError) (h : ∀ failure, ¬failures failure) :
    EndsIn (.error (.definition cause) : Except CompileFailure α) failures := fun failure =>
  ⟨fun hends => absurd (Except.error.inj hends.1).symm (hends.2 cause),
    fun hfails => absurd hfails (h failure)⟩

theorem failed {failure : CompileFailure} (hknown : ∀ cause, failure ≠ .definition cause)
    (h : ∀ other, failures other ↔ other = failure) :
    EndsIn (.error failure : Except CompileFailure α) failures := by
  intro other
  rw [h]
  constructor
  · exact fun hends => (Except.error.inj hends.1).symm
  · rintro rfl
    exact ⟨rfl, hknown⟩

theorem ofDefinition (read : Except DefinitionError α) (h : ∀ failure, ¬failures failure) :
    EndsIn (Compiling.ofDefinition read).result failures := by
  cases read with
  | ok a => exact ok a h
  | error cause => exact definition cause h

theorem bind {first : Except CompileFailure α} {next : α → Except CompileFailure β}
    {before : CompileFailure → Prop} {after : α → CompileFailure → Prop}
    (hfirst : EndsIn first before) (hnext : ∀ a, first = .ok a → EndsIn (next a) (after a))
    (h : ∀ failure, failures failure ↔ before failure ∨ ∃ a, first = .ok a ∧ after a failure) :
    EndsIn (first.bind next) failures := by
  intro failure
  rw [h, ← hfirst failure]
  cases first with
  | error cause => simp [Except.bind]
  | ok a => simp [Except.bind, hnext a rfl failure]

theorem andThen {first : Compiling α} {next : α → Compiling β}
    {before : CompileFailure → Prop} (after : α → CompileFailure → Prop)
    (hfirst : EndsIn first.result before)
    (hnext : ∀ a, first.result = .ok a → EndsIn (next a).result (after a))
    (h : ∀ failure, failures failure ↔
      before failure ∨ ∃ a, first.result = .ok a ∧ after a failure) :
    EndsIn (first.andThen next).result failures := by
  rw [Logged.result_andThen]
  exact bind hfirst hnext h

/-- What is diagnosed afterwards ends the work in no other way. -/
theorem andThen_of_diagnosed {first : Compiling α} {next : α → Compiling β}
    (hfirst : EndsIn first.result failures) (hnext : ∀ a, EndsIn (next a).result fun _ => False) :
    EndsIn (first.andThen next).result failures := by
  refine andThen (fun _ _ => False) hfirst (fun a _ => hnext a) fun failure => ?_
  constructor
  · exact .inl
  · rintro (h | ⟨_, _, hfalse⟩)
    · exact h
    · exact hfalse.elim

/-- What always succeeds afterwards ends the work in no other way. -/
theorem andThen_of_ok {first : Compiling α} {next : α → Compiling β}
    (hfirst : EndsIn first.result failures) (hnext : ∀ a, ∃ b, (next a).result = .ok b) :
    EndsIn (first.andThen next).result failures := by
  refine hfirst.andThen_of_diagnosed fun a => ?_
  obtain ⟨b, hb⟩ := hnext a
  rw [hb]
  exact ok b fun _ => id

theorem congr {result : Except CompileFailure α} {failures' : CompileFailure → Prop}
    (hends : EndsIn result failures) (h : ∀ failure, failures' failure ↔ failures failure) :
    EndsIn result failures' := fun failure => (hends failure).trans (h failure).symm

end Compiling.EndsIn

namespace Rule

variable {overrides : Overrides} {field : TextValue} {rule : Rule}

/-! ## Modifiers -/

/-- A modifier ends the making of a rule without a diagnosis: it gives a pattern of this kind to a
rule for texts, or its name cannot be looked up. -/
inductive Stalls (rule : Rule) (modifier : Value × Value) : CompileFailure → Prop
  | pattern {cause : PatternFailure} (hkey : modifier.1.asText? = some "regex")
    (hkind : rule.kind = .string) (hpattern : FormatCheck.IsUndiagnosed modifier.2 cause) :
    Stalls rule modifier (.pattern cause)
  | name (hkey : modifier.1.asText? = none) (hlookup : modifier.1.isHashable = false) :
    Stalls rule modifier (.raised .wrongType)

/-- One of some modifiers stalls, after those before it were applied. -/
inductive ModifiersStall (overrides : Overrides) (field : TextValue) :
    Rule → List (Value × Value) → CompileFailure → Prop
  | here {rule : Rule} {modifier : Value × Value} {rest : List (Value × Value)}
    {failure : CompileFailure} (h : rule.Stalls modifier failure) :
    ModifiersStall overrides field rule (modifier :: rest) failure
  | later {rule rule' : Rule} {modifier : Value × Value} {rest : List (Value × Value)}
    {failure : CompileFailure}
    (happlied : applyModifiers overrides field rule [modifier] = .ok rule')
    (h : ModifiersStall overrides field rule' rest failure) :
    ModifiersStall overrides field rule (modifier :: rest) failure

theorem ModifiersStall.exists_stalls {rule : Rule} {modifiers : List (Value × Value)}
    {failure : CompileFailure} (h : ModifiersStall overrides field rule modifiers failure) :
    ∃ rule, ∃ modifier ∈ modifiers, Stalls rule modifier failure := by
  induction h with
  | here h => exact ⟨_, _, List.mem_cons_self, h⟩
  | later _ _ ih =>
    obtain ⟨rule, modifier, hmem, h⟩ := ih
    exact ⟨rule, modifier, List.mem_cons_of_mem _ hmem, h⟩

theorem not_stalls_of_name {key v : Value} {name : String} (hkey : key.asText? = some name)
    (hname : name ≠ "regex") (failure : CompileFailure) : ¬rule.Stalls (key, v) failure := by
  intro h
  cases h with
  | pattern hregex => exact hname (Option.some.inj (hkey.symm.trans hregex))
  | name hnone => exact nomatch hkey.symm.trans hnone

theorem endsIn_matching (source : TextValue) (flags : Flags) :
    Compiling.EndsIn (matching overrides field rule source flags) fun failure =>
      ∃ cause, failure = .pattern cause ∧ Regex.Refuses source.text flags cause := by
  cases hcompile : Regex.compile source.text flags with
  | ok regex =>
    rw [matching_of_compile hcompile]
    refine .ok _ ?_
    rintro failure ⟨cause, -, hrefuses, -⟩
    cases hcompile.symm.trans hrefuses
  | error cause =>
    by_cases hfault : ∃ fault place, cause = .fault fault place
    · obtain ⟨fault, place, rfl⟩ := hfault
      rw [matching, hcompile]
      refine .definition _ ?_
      rintro failure ⟨cause, -, hrefuses, hother⟩
      exact hother fault place (Except.error.inj (hrefuses.symm.trans hcompile))
    · have hrefuses : Regex.Refuses source.text flags cause :=
        ⟨hcompile, fun fault place h => hfault ⟨fault, place, h⟩⟩
      have hfails : matching overrides field rule source flags = .error (.pattern cause) := by
        rw [matching, hcompile]
        cases cause with
        | fault fault place => exact absurd ⟨fault, place, rfl⟩ hfault
        | _ => rfl
      rw [hfails]
      refine .failed (fun _ => CompileFailure.noConfusion) fun failure => ?_
      constructor
      · rintro ⟨cause', rfl, hrefuses', -⟩
        rw [Except.error.inj (hcompile.symm.trans hrefuses')]
      · rintro rfl
        exact ⟨cause, rfl, hrefuses⟩

theorem matchPattern_of_given {v : Value} {source : TextValue} {flags : Flags}
    (hkind : rule.kind = .string) (hgiven : FormatCheck.given? v = some (source, flags)) :
    matchPattern overrides field rule v = matching overrides field rule source flags := by
  unfold matchPattern
  rw [hkind, if_pos (by decide)]
  cases v <;> cases hgiven <;> rfl

theorem endsIn_matchPattern {key v : Value} (hkey : key.asText? = some "regex") :
    Compiling.EndsIn (matchPattern overrides field rule v) (rule.Stalls (key, v)) := by
  by_cases hkind : rule.kind = .string
  · cases hgiven : FormatCheck.given? v with
    | none =>
      have hno (failure : CompileFailure) : ¬rule.Stalls (key, v) failure := by
        rintro (⟨-, -, source, flags, hpattern, -⟩ | hnone)
        · exact nomatch hgiven.symm.trans hpattern
        · exact nomatch hkey.symm.trans hnone
      unfold matchPattern
      rw [hkind, if_pos (by decide)]
      cases v with
      | text source => exact nomatch hgiven
      | canonical t => exact nomatch hgiven
      | pattern source flags => exact nomatch hgiven
      | bytesPattern source flags => exact .definition _ hno
      | _ => exact .ok _ hno
    | some given =>
      obtain ⟨source, flags⟩ := given
      rw [matchPattern_of_given hkind hgiven]
      intro failure
      rw [endsIn_matching source flags failure]
      constructor
      · rintro ⟨cause, rfl, hrefuses⟩
        exact .pattern hkey hkind ⟨source, flags, hgiven, hrefuses⟩
      · rintro (⟨-, -, source', flags', hgiven', hrefuses⟩ | hnone)
        · obtain ⟨rfl, rfl⟩ := Prod.mk.inj (Option.some.inj (hgiven.symm.trans hgiven'))
          exact ⟨_, rfl, hrefuses⟩
        · exact nomatch hkey.symm.trans hnone
  · unfold matchPattern
    rw [if_neg (mt beq_iff_eq.mp hkind)]
    refine .ok rule ?_
    rintro failure (⟨-, hstring, -⟩ | hnone)
    · exact hkind hstring
    · exact nomatch hkey.symm.trans hnone

theorem endsIn_applyModifier {key v : Value} {name : String} (hkey : key.asText? = some name) :
    Compiling.EndsIn (applyModifier overrides field rule name v) (rule.Stalls (key, v)) := by
  by_cases hname : name = "regex"
  · subst hname
    exact endsIn_matchPattern hkey
  · have hno : ∀ failure, ¬rule.Stalls (key, v) failure := not_stalls_of_name hkey hname
    -- Other modifiers change the rule, or an allowed value is diagnosed as no text.
    unfold applyModifier
    repeat' split
    all_goals first
      | exact .ok _ hno
      | exact .definition _ hno
      | exact absurd (beq_iff_eq.mp ‹_›) hname

theorem endsIn_applyModifiers_singleton (modifier : Value × Value) :
    Compiling.EndsIn (applyModifiers overrides field rule [modifier]) (rule.Stalls modifier) := by
  obtain ⟨key, v⟩ := modifier
  cases hkey : key.asText? with
  | some name =>
    rw [applyModifiers_singleton hkey]
    exact endsIn_applyModifier hkey
  | none =>
    rw [applyModifiers, hkey]
    cases hlookup : key.isHashable with
    | true =>
      refine .ok rule ?_
      rintro failure (⟨hregex, -, -⟩ | ⟨-, hunknown⟩)
      · cases hkey.symm.trans hregex
      · cases hlookup.symm.trans hunknown
    | false =>
      refine .failed (fun _ => CompileFailure.noConfusion) fun failure => ?_
      constructor
      · rintro (⟨hregex, -, -⟩ | -)
        · cases hkey.symm.trans hregex
        · rfl
      · rintro rfl
        exact .name hkey hlookup

theorem endsIn_applyModifiers (modifiers : List (Value × Value)) :
    Compiling.EndsIn (applyModifiers overrides field rule modifiers)
      (ModifiersStall overrides field rule modifiers) := by
  induction modifiers generalizing rule with
  | nil => exact .ok rule fun failure h => nomatch h
  | cons modifier rest ih =>
    rw [← List.singleton_append, applyModifiers_append]
    refine .bind (endsIn_applyModifiers_singleton modifier) (fun rule' _ => ih) fun failure => ?_
    constructor
    · intro h
      cases h with
      | here h => exact .inl h
      | later happlied h => exact .inr ⟨_, happlied, h⟩
    · rintro (h | ⟨rule', happlied, h⟩)
      · exact .here h
      · exact .later happlied h

/-! ## Rules of definitions -/

mutual

/-- Making the rule of a type ends without a diagnosis. -/
inductive TypeStalls (overrides : Overrides) :
    TextValue → CanonicalType → FieldSpec → CompileFailure → Prop
  | items {field : TextValue} {spec item : FieldSpec} {failure : CompileFailure}
    (hitems : spec.items? = some item) (h : ItemsStall overrides field item failure) :
    TypeStalls overrides field .array spec failure
  | parts {field : TextValue} {spec : FieldSpec} {entries : Entries}
    {forms : List (TextValue × FieldForm)} {failure : CompileFailure}
    (hschema : spec.schema? = some entries) (hread : Definition.readEntries entries = .ok forms)
    (h : FieldsStall overrides forms failure) : TypeStalls overrides field .object spec failure

/-- Making the rule of the items of an array ends without a diagnosis. -/
inductive ItemsStall (overrides : Overrides) : TextValue → FieldSpec → CompileFailure → Prop
  | type {field : TextValue} {item : FieldSpec} {t : CanonicalType} {failure : CompileFailure}
    (htype : item.type.category? = some t) (h : TypeStalls overrides field t item failure) :
    ItemsStall overrides field item failure

/-- Making the rule of a field ends without a diagnosis. -/
inductive FieldStalls (overrides : Overrides) : TextValue → FieldForm → CompileFailure → Prop
  | items {field : TextValue} {item : FieldSpec} {failure : CompileFailure}
    (h : ItemsStall overrides field item failure) :
    FieldStalls overrides field (.arrayOf item) failure
  | type {field : TextValue} {spec : FieldSpec} {t : CanonicalType} {failure : CompileFailure}
    (htype : spec.type.category? = some t) (h : TypeStalls overrides field t spec failure) :
    FieldStalls overrides field (.single spec) failure
  | modifiers {field : TextValue} {spec : FieldSpec} {t : CanonicalType} {start : Rule}
    {failure : CompileFailure} (htype : spec.type.category? = some t)
    (hstart : (ofType overrides field t spec).result = .ok start)
    (h : ModifiersStall overrides field start spec.modifiers failure) :
    FieldStalls overrides field (.single spec) failure

/-- Making the rules of fields ends without a diagnosis, after those before were made. -/
inductive FieldsStall (overrides : Overrides) :
    List (TextValue × FieldForm) → CompileFailure → Prop
  | here {field : TextValue} {form : FieldForm} {rest : List (TextValue × FieldForm)}
    {failure : CompileFailure} (h : FieldStalls overrides field form failure) :
    FieldsStall overrides ((field, form) :: rest) failure
  | later {field : TextValue} {form : FieldForm} {rest : List (TextValue × FieldForm)}
    {rule : Rule} {failure : CompileFailure}
    (hmade : (ofForm overrides field form).result = .ok rule)
    (h : FieldsStall overrides rest failure) :
    FieldsStall overrides ((field, form) :: rest) failure

end

section

variable {overrides : Overrides} {field : TextValue} {spec item : FieldSpec}
  {t : CanonicalType} {failure : CompileFailure}

theorem typeStalls_array_iff (hitem : spec.items? = some item) :
    TypeStalls overrides field .array spec failure ↔ ItemsStall overrides field item failure := by
  refine ⟨fun h => ?_, .items hitem⟩
  cases h with
  | items hitem' h =>
    obtain rfl := Option.some.inj (hitem.symm.trans hitem')
    exact h

theorem typeStalls_object_iff {entries : Entries} {forms : List (TextValue × FieldForm)}
    (hschema : spec.schema? = some entries) (hread : Definition.readEntries entries = .ok forms) :
    TypeStalls overrides field .object spec failure ↔ FieldsStall overrides forms failure := by
  refine ⟨fun h => ?_, .parts hschema hread⟩
  cases h with
  | parts hschema' hread' h =>
    obtain rfl := Option.some.inj (hschema.symm.trans hschema')
    obtain rfl := Except.ok.inj (hread.symm.trans hread')
    exact h

/-- A type without described items, and without parts that can be read, does not stall. -/
theorem not_typeStalls (hitems : t = .array → spec.items? = none)
    (hparts : t = .object → ∀ entries, spec.schema? = some entries →
      ∀ forms, Definition.readEntries entries ≠ .ok forms) :
    ¬TypeStalls overrides field t spec failure := by
  intro h
  cases h with
  | items hitem => cases (hitems rfl).symm.trans hitem
  | parts hschema hread => exact hparts rfl _ hschema _ hread

theorem itemsStall_iff :
    ItemsStall overrides field item failure ↔
      ∃ t, item.type.category? = some t ∧ TypeStalls overrides field t item failure := by
  constructor
  · rintro ⟨htype, h⟩
    exact ⟨_, htype, h⟩
  · rintro ⟨t, htype, h⟩
    exact .type htype h

theorem fieldStalls_arrayOf_iff :
    FieldStalls overrides field (.arrayOf item) failure ↔
      ItemsStall overrides field item failure := by
  refine ⟨fun h => ?_, .items⟩
  cases h with
  | items h => exact h

theorem fieldStalls_single_iff :
    FieldStalls overrides field (.single spec) failure ↔
      ∃ t, spec.type.category? = some t ∧ (TypeStalls overrides field t spec failure ∨
        ∃ start, (ofType overrides field t spec).result = .ok start ∧
          ModifiersStall overrides field start spec.modifiers failure) := by
  constructor
  · intro h
    cases h with
    | type htype h => exact ⟨_, htype, .inl h⟩
    | modifiers htype hstart h => exact ⟨_, htype, .inr ⟨_, hstart, h⟩⟩
  · rintro ⟨t, htype, h | ⟨start, hstart, h⟩⟩
    · exact .type htype h
    · exact .modifiers htype hstart h

theorem fieldsStall_cons_iff {form : FieldForm} {rest : List (TextValue × FieldForm)} :
    FieldsStall overrides ((field, form) :: rest) failure ↔
      FieldStalls overrides field form failure ∨
        ∃ rule, (ofForm overrides field form).result = .ok rule ∧
          FieldsStall overrides rest failure := by
  constructor
  · intro h
    cases h with
    | here h => exact .inl h
    | later hmade h => exact .inr ⟨_, hmade, h⟩
  · rintro (h | ⟨rule, hmade, h⟩)
    · exact .here h
    · exact .later hmade h

end

/-- Making the rule of a definition ends without a diagnosis. -/
def DefinitionStalls (overrides : Overrides) (definition : Value) (failure : CompileFailure) :
    Prop :=
  ∃ forms, Definition.read definition = .ok forms ∧ FieldsStall overrides forms failure

end Rule

/-! ## What a definition states -/

/-- A value that describes fields states a modifier of one of them, or of a field inside it. -/
inductive Value.States : Value → Value × Value → Prop
  | entry {entries : Entries} {entry : Value × Value} (h : entry ∈ entries) :
    States (.map entries) (FieldSpec.canonicalKey entry.1, entry.2)
  | spec {type : Value} {modifiers : List (Value × Value)} {modifier : Value × Value}
    (h : modifier ∈ modifiers) : States (.spec type modifiers) modifier
  | shorthand {type : Value} {modifiers : List (Value × Value)} {modifier : Value × Value}
    (h : modifier ∈ modifiers) : States (.shorthand type modifiers) modifier
  | inEntry {entries : Entries} {entry modifier : Value × Value} (hentry : entry ∈ entries)
    (h : States entry.2 modifier) : States (.map entries) modifier
  | inSpec {type : Value} {modifiers : List (Value × Value)} {outer modifier : Value × Value}
    (houter : outer ∈ modifiers) (h : States outer.2 modifier) :
    States (.spec type modifiers) modifier
  | inShorthand {type : Value} {modifiers : List (Value × Value)} {outer modifier : Value × Value}
    (houter : outer ∈ modifiers) (h : States outer.2 modifier) :
    States (.shorthand type modifiers) modifier
  | inList {items : List Value} {v : Value} {modifier : Value × Value} (hv : v ∈ items)
    (h : States v modifier) : States (.list items) modifier
  | inTuple {items : List Value} {v : Value} {modifier : Value × Value} (hv : v ∈ items)
    (h : States v modifier) : States (.tuple items) modifier
  | inDeque {items : List Value} {v : Value} {modifier : Value × Value} (hv : v ∈ items)
    (h : States v modifier) : States (.deque items) modifier

/-- A field states a modifier: it is one of its own, or the value of one states it. -/
def FieldSpec.States (spec : FieldSpec) (modifier : Value × Value) : Prop :=
  ∃ outer ∈ spec.modifiers, outer = modifier ∨ outer.2.States modifier

/-- What a definition does not state is not stated by any part of it. -/
theorem Value.isInherited_not_states (modifier : Value × Value) :
    IsInherited (fun v => ¬v.States modifier)
      fun outer => ¬(outer = modifier ∨ outer.2.States modifier) where
  null hstated := nomatch hstated
  list hitems _ hv hstated := hitems (.inList hv hstated)
  tuple hitems _ hv hstated := hitems (.inTuple hv hstated)
  deque hitems _ hv hstated := hitems (.inDeque hv hstated)
  map hentries _ hentry hstated :=
    hentries (hstated.elim (fun heq => heq ▸ .entry hentry) fun hinner => .inEntry hentry hinner)
  spec hspec _ houter hstated :=
    hspec (hstated.elim (fun heq => heq ▸ .spec houter) (.inSpec houter))
  shorthand hspec _ houter hstated :=
    hspec (hstated.elim (fun heq => heq ▸ .shorthand houter) (.inShorthand houter))
  value houter hstated := houter (.inr hstated)

namespace FieldSpec

variable {spec : FieldSpec} {modifier : Value × Value}

theorem not_of_not_states (h : ¬spec.States modifier) :
    ∀ outer ∈ spec.modifiers, ¬(outer = modifier ∨ outer.2.States modifier) :=
  fun outer houter hstated => h ⟨outer, houter, hstated⟩

theorem states_of_items {item : FieldSpec} (hitem : spec.items? = some item)
    (h : item.States modifier) : spec.States modifier := by
  refine Classical.byContradiction fun hnone => ?_
  obtain ⟨outer, houter, hstated⟩ := h
  exact inherits_items (Value.isInherited_not_states modifier) (not_of_not_states hnone) hitem
    outer houter hstated

theorem states_of_schema {entries : Entries} (hentries : spec.schema? = some entries)
    (h : (Value.map entries).States modifier) : spec.States modifier :=
  Classical.byContradiction fun hnone => inherits_schema (Value.isInherited_not_states modifier)
    (not_of_not_states hnone) hentries h

end FieldSpec

/-- What a field of a definition states is stated by the definition. -/
theorem Definition.states_of_readEntries {entries : Entries} {forms : List (TextValue × FieldForm)}
    {field : TextValue × FieldForm} {modifier : Value × Value}
    (hread : readEntries entries = .ok forms) (hfield : field ∈ forms)
    (h : field.2.described.States modifier) : (Value.map entries).States modifier := by
  refine Classical.byContradiction fun hnone => ?_
  obtain ⟨outer, houter, hstated⟩ := h
  exact inherits_readEntries (Value.isInherited_not_states modifier) hnone hread field hfield
    outer houter hstated

namespace Rule

variable {overrides : Overrides} {failure : CompileFailure}

/-- One of the modifiers that a field states stalls. -/
def StatesStalling (spec : FieldSpec) (failure : CompileFailure) : Prop :=
  ∃ modifier, spec.States modifier ∧ ∃ rule, Stalls rule modifier failure

mutual

/-- What ends the making of a rule is stated by what the rule is made of. -/
theorem TypeStalls.statesStalling {field : TextValue} {t : CanonicalType} {spec : FieldSpec} :
    TypeStalls overrides field t spec failure → StatesStalling spec failure
  | .items hitems h =>
    have ⟨modifier, hstated, hstalls⟩ := h.statesStalling
    ⟨modifier, FieldSpec.states_of_items hitems hstated, hstalls⟩
  | .parts hschema hread h =>
    have ⟨_, hfield, modifier, hstated, hstalls⟩ := h.exists_statesStalling
    ⟨modifier, FieldSpec.states_of_schema hschema
      (Definition.states_of_readEntries hread hfield hstated), hstalls⟩

theorem ItemsStall.statesStalling {field : TextValue} {item : FieldSpec} :
    ItemsStall overrides field item failure → StatesStalling item failure
  | .type _ h => h.statesStalling

theorem FieldStalls.statesStalling {field : TextValue} {form : FieldForm} :
    FieldStalls overrides field form failure → StatesStalling form.described failure
  | .items h => h.statesStalling
  | .type _ h => h.statesStalling
  | .modifiers _ _ h =>
    have ⟨rule, modifier, hmem, hstalls⟩ := h.exists_stalls
    ⟨modifier, ⟨modifier, hmem, .inl rfl⟩, rule, hstalls⟩

theorem FieldsStall.exists_statesStalling {forms : List (TextValue × FieldForm)} :
    FieldsStall overrides forms failure → ∃ field ∈ forms, StatesStalling field.2.described failure
  | .here h => ⟨_, List.mem_cons_self, h.statesStalling⟩
  | .later _ h =>
    have ⟨field, hfield, hstalls⟩ := h.exists_statesStalling
    ⟨field, List.mem_cons_of_mem _ hfield, hstalls⟩

end

/-- What ends the making of a rule is stated somewhere in the definition. -/
theorem DefinitionStalls.exists_states {definition : Value}
    (h : DefinitionStalls overrides definition failure) :
    ∃ modifier, definition.States modifier ∧ ∃ rule, Stalls rule modifier failure := by
  obtain ⟨forms, hread, hstalls⟩ := h
  obtain ⟨field, hfield, modifier, hstated, hstalls⟩ := hstalls.exists_statesStalling
  cases definition with
  | map entries =>
    exact ⟨modifier, Definition.states_of_readEntries hread hfield hstated, hstalls⟩
  | _ => exact nomatch hread

end Rule

/-! ## Definitions without cycles -/

namespace Value

theorem forall_isAcyclic {items : List Value} (h : areAcyclic items = true) :
    ∀ v ∈ items, v.isAcyclic = true := by
  induction items with
  | nil => exact List.forall_mem_nil _
  | cons v rest ih =>
    obtain ⟨hv, hrest⟩ := Bool.and_eq_true_iff.mp h
    exact List.forall_mem_cons.mpr ⟨hv, ih hrest⟩

theorem forall_isAcyclic_snd {entries : Entries} (h : areEntriesAcyclic entries = true) :
    ∀ entry ∈ entries, entry.2.isAcyclic = true := by
  induction entries with
  | nil => exact List.forall_mem_nil _
  | cons entry rest ih =>
    obtain ⟨hentry, hrest⟩ := Bool.and_eq_true_iff.mp h
    exact List.forall_mem_cons.mpr ⟨(Bool.and_eq_true_iff.mp hentry).2, ih hrest⟩

/-- What is read from values without cycles is without cycles. -/
theorem isInherited_isAcyclic :
    IsInherited (fun v => v.isAcyclic = true) fun modifier => modifier.2.isAcyclic = true where
  null := rfl
  list hitems := forall_isAcyclic hitems
  tuple hitems := forall_isAcyclic hitems
  deque hitems := forall_isAcyclic hitems
  map hentries := forall_isAcyclic_snd hentries
  spec hspec := forall_isAcyclic_snd (Bool.and_eq_true_iff.mp hspec).2
  shorthand hspec := forall_isAcyclic_snd (Bool.and_eq_true_iff.mp hspec).2
  value hmodifier := hmodifier

end Value

/-- Whether what the modifiers of a field state is without cycles. -/
def FieldSpec.IsAcyclic (spec : FieldSpec) : Prop :=
  ∀ modifier ∈ spec.modifiers, modifier.2.isAcyclic = true

namespace FieldSpec

variable {spec : FieldSpec}

theorem IsAcyclic.items {item : FieldSpec} (h : spec.IsAcyclic)
    (hitem : spec.items? = some item) : item.IsAcyclic :=
  inherits_items Value.isInherited_isAcyclic h hitem

theorem IsAcyclic.schema {entries : Entries} (h : spec.IsAcyclic)
    (hentries : spec.schema? = some entries) : (Value.map entries).isAcyclic = true :=
  inherits_schema Value.isInherited_isAcyclic h hentries

end FieldSpec

namespace Rule

variable {overrides : Overrides} {field : TextValue}

theorem result_orEndless {spec : FieldSpec} (h : spec.IsAcyclic) (part : String) (rule : Rule) :
    orEndless spec part rule = .ok rule := by
  have hget : (spec.get part).isAcyclic = true :=
    FieldSpec.inherits_get Value.isInherited_isAcyclic h part
  have hback : spec.refersBack part = false := by
    unfold FieldSpec.refersBack
    split
    · rename_i heq
      rw [heq] at hget
      exact nomatch hget
    · rfl
  rw [orEndless, hback]
  rfl

/-- **Making rules of fields without cycles** ends without a diagnosis exactly where a modifier
stalls, by induction on how rules are made. -/
theorem endsIn_of_isAcyclic (overrides : Overrides) :
    (∀ field t (spec : FieldSpec), spec.IsAcyclic →
      Compiling.EndsIn (ofType overrides field t spec).result
        (TypeStalls overrides field t spec)) ∧
    (∀ forms : List (TextValue × FieldForm), (∀ part ∈ forms, part.2.described.IsAcyclic) →
      Compiling.EndsIn (ofParts overrides forms).result (FieldsStall overrides forms)) ∧
    (∀ forms : List (TextValue × FieldForm), (∀ part ∈ forms, part.2.described.IsAcyclic) →
      Compiling.EndsIn (ofForms overrides forms).result (FieldsStall overrides forms)) ∧
    (∀ field (form : FieldForm), form.described.IsAcyclic →
      Compiling.EndsIn (ofForm overrides field form).result (FieldStalls overrides field form)) ∧
    (∀ field (item : FieldSpec), item.IsAcyclic →
      Compiling.EndsIn (ofItemSpec overrides field item).result
        (ItemsStall overrides field item)) := by
  apply ofType.mutual_induct
  -- An array with described items.
  case case1 =>
    intro field spec item hitem ih hacyclic
    rw [ofType, hitem]
    exact ((ih (hacyclic.items hitem)).andThen_of_ok fun made => ⟨_, rfl⟩).congr fun failure =>
      typeStalls_array_iff hitem
  -- An array of anything.
  case case2 =>
    intro field spec hnone hacyclic
    rw [ofType, hnone]
    dsimp only
    rw [result_orEndless hacyclic]
    exact .ok _ fun failure =>
      not_typeStalls (fun _ => hnone) fun hobject => CanonicalType.noConfusion hobject
  -- An object with parts.
  case case3 =>
    intro field spec entries hschema forms hread ih hacyclic
    have hparts := ih (Definition.inherits_readEntries Value.isInherited_isAcyclic
      (hacyclic.schema hschema) hread)
    rw [ofType_object hschema, hread]
    exact hparts.congr fun failure => typeStalls_object_iff hschema hread
  -- An object whose parts cannot be read.
  case case4 =>
    intro field spec entries hschema cause hread hacyclic
    rw [ofType_object hschema, hread]
    refine .definition cause fun failure => not_typeStalls (fun harray => ?_) ?_
    · exact CanonicalType.noConfusion harray
    · intro _ entries' hschema' forms hforms
      obtain rfl := Option.some.inj (hschema.symm.trans hschema')
      cases hread.symm.trans hforms
  -- An object with any entries.
  case case5 =>
    intro field spec hnone hacyclic
    rw [ofType, hnone]
    dsimp only
    rw [result_orEndless hacyclic]
    refine .ok _ fun failure => not_typeStalls (fun harray => ?_) ?_
    · exact CanonicalType.noConfusion harray
    · intro _ entries hschema
      cases hnone.symm.trans hschema
  -- Any other type.
  case case6 =>
    intro field spec t harray hobject hacyclic
    rw [ofType_ofCategory harray hobject]
    exact .ok _ fun failure =>
      not_typeStalls (fun h => absurd h harray) fun h => absurd h hobject
  -- The parts of an object.
  case case7 =>
    intro forms ih hacyclic
    rw [ofParts]
    exact (ih hacyclic).andThen_of_ok fun rules => ⟨_, rfl⟩
  -- No fields.
  case case8 =>
    intro hacyclic
    rw [ofForms]
    refine .ok _ fun failure h => ?_
    cases h
  -- A field and the fields after it.
  case case9 =>
    intro field form rest ihForm ihRest hacyclic
    obtain ⟨hform, hrest⟩ := List.forall_mem_cons.mp hacyclic
    rw [ofForms]
    exact .andThen _ (ihForm hform)
      (fun rule _ => (ihRest hrest).andThen_of_ok fun _ => ⟨_, rfl⟩)
      fun failure => fieldsStall_cons_iff
  -- A field that is described by its items.
  case case10 =>
    intro field item ih hacyclic
    rw [ofForm]
    refine ((ih hacyclic).andThen_of_diagnosed fun made => ?_).congr fun failure =>
      fieldStalls_arrayOf_iff
    refine (Compiling.EndsIn.ofDefinition _ fun _ => id).andThen_of_ok fun allowed => ?_
    cases allowed <;> exact ⟨_, rfl⟩
  -- A field that is described by a type and modifiers.
  case case11 =>
    intro field spec ih hacyclic
    rw [ofForm]
    refine .andThen _ (.ofDefinition _ fun _ => id)
      (fun t _ => .andThen _ (ih t hacyclic)
        (fun start _ => (endsIn_applyModifiers spec.modifiers).andThen_of_ok fun rule => ⟨_, rfl⟩)
        fun failure => Iff.rfl) fun failure => ?_
    simp only [Compiling.result_ofDefinition_eq_ok_iff, Value.categoryFor_eq_ok_iff, false_or]
    exact fieldStalls_single_iff
  -- Items of a known type.
  case case12 =>
    intro field item t ht ih hacyclic
    rw [ofItemSpec, ht]
    refine ((ih hacyclic).andThen_of_ok fun rule => ⟨_, rfl⟩).congr fun failure => ?_
    rw [itemsStall_iff, ht]
    simp
  -- Items of a type that is not known.
  case case13 =>
    intro field item hnone hacyclic
    rw [ofItemSpec, hnone]
    refine .ok none fun failure h => ?_
    rw [itemsStall_iff, hnone] at h
    simp at h

theorem endsIn_ofDefinition (overrides : Overrides) {definition : Value}
    (h : definition.isAcyclic = true) :
    Compiling.EndsIn (ofDefinition overrides definition).result
      (DefinitionStalls overrides definition) := by
  rw [ofDefinition]
  refine .andThen (fun forms => FieldsStall overrides forms) (.ofDefinition _ fun _ => id)
    (fun forms hread => ?_) fun failure => ?_
  · rw [Compiling.result_ofDefinition_eq_ok_iff] at hread
    refine (endsIn_of_isAcyclic overrides).2.1 forms ?_
    cases definition with
    | map entries => exact Definition.inherits_readEntries Value.isInherited_isAcyclic h hread
    | _ => exact nomatch hread
  · simp only [Compiling.result_ofDefinition_eq_ok_iff, false_or, DefinitionStalls]

end Rule

end FieldSchema
