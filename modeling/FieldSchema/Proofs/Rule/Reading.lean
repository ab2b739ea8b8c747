import FieldSchema.Rule.OfDefinition

/-!
# How rules are read off definitions

What is known of a definition that has a rule, part by part.  The names of fields are the keys of a
mapping, so no two fields of an object have a name of one text.

* `Entries.HasDistinctKeys`: the entries of a mapping.
* `Definition.nodup_of_readEntries`: names of fields that are read differ in their texts.
* `Value.IsInherited`: what is known of a definition and then of every part that is read from it.
* `Rule.ofForm_single_eq_ok`, `Rule.ofDefinition_eq_ok`: the steps to the rule of a field and of a
  definition.
-/

namespace FieldSchema

/-! ## Mappings -/

/-- Texts and categories with one text are one key. -/
theorem Value.equals_of_asText? {a b : Value} {text : String} (ha : a.asText? = some text)
    (hb : b.asText? = some text) : a.equals b = true := by
  cases a with
  | text s =>
    obtain rfl := Option.some.inj ha
    simp [equals, hb]
  | canonical t =>
    obtain rfl := Option.some.inj ha
    simp [equals, hb]
  | _ => contradiction

namespace Entries

/-- Whether no key occurs twice, as in a mapping. -/
def HasDistinctKeys (entries : Entries) : Prop :=
  entries.Pairwise fun first second => first.1.equals second.1 = false

/-- In a mapping there is one entry under a text. -/
theorem HasDistinctKeys.eq_of_asText? {entries : Entries} (h : entries.HasDistinctKeys)
    {first second : Value × Value} (hfirst : first ∈ entries) (hsecond : second ∈ entries)
    {text : String} (hfirstText : first.1.asText? = some text)
    (hsecondText : second.1.asText? = some text) : first = second := by
  induction entries with
  | nil => cases hfirst
  | cons entry rest ih =>
    obtain ⟨hentry, hrest⟩ := List.pairwise_cons.mp h
    rcases List.mem_cons.mp hfirst with rfl | hfirstRest
    · rcases List.mem_cons.mp hsecond with rfl | hsecondRest
      · rfl
      · have hdiffer := hentry second hsecondRest
        rw [Value.equals_of_asText? hfirstText hsecondText] at hdiffer
        contradiction
    · rcases List.mem_cons.mp hsecond with rfl | hsecondRest
      · have hdiffer := hentry first hfirstRest
        rw [Value.equals_of_asText? hsecondText hfirstText] at hdiffer
        contradiction
      · exact ih hrest hfirstRest hsecondRest

/-- Whether a text is the key of at most one entry, whatever the order of the entries. -/
def HasUniqueTexts (entries : Entries) : Prop :=
  ∀ first ∈ entries, ∀ second ∈ entries, ∀ text, first.1.asText? = some text →
    second.1.asText? = some text → first = second

theorem HasDistinctKeys.hasUniqueTexts {entries : Entries} (h : entries.HasDistinctKeys) :
    entries.HasUniqueTexts :=
  fun _ hfirst _ hsecond _ hfirstText hsecondText =>
    h.eq_of_asText? hfirst hsecond hfirstText hsecondText

theorem HasUniqueTexts.perm {entries entries' : Entries} (h : entries.HasUniqueTexts)
    (hperm : entries.Perm entries') : entries'.HasUniqueTexts :=
  fun first hfirst second hsecond =>
    h first (hperm.mem_iff.mpr hfirst) second (hperm.mem_iff.mpr hsecond)

end Entries

theorem Value.eq_ofTextValue_of_asTextValue? {v : Value} {name : TextValue}
    (h : v.asTextValue? = some name) : v = .ofTextValue name := by
  cases v with
  | text s =>
    obtain rfl := Option.some.inj h
    rfl
  | canonical t =>
    obtain rfl := Option.some.inj h
    rfl
  | _ => contradiction

/-! ## Fields -/

theorem FieldSpec.exists_of_get? {spec : FieldSpec} {name : String} {v : Value}
    (h : spec.get? name = some v) :
    ∃ modifier ∈ spec.modifiers, modifier.1.asText? = some name ∧ modifier.2 = v := by
  obtain ⟨modifier, hfound, hv⟩ := Option.map_eq_some_iff.mp h
  exact ⟨modifier, List.mem_reverse.mp (List.mem_of_find?_eq_some hfound),
    by simpa using List.find?_some hfound, hv⟩

namespace Definition

variable {entries : Entries} {forms : List (TextValue × FieldForm)}

/-- The fields of a definition are read entry by entry. -/
theorem readEntries_cons_eq_ok {key raw : Value}
    (h : readEntries ((key, raw) :: entries) = .ok forms) :
    ∃ name form others, key = .ofTextValue name ∧ FieldForm.read (some name) raw = .ok form ∧
      readEntries entries = .ok others ∧ forms = (name, form) :: others := by
  rw [readEntries] at h
  split at h
  · contradiction
  · rename_i name hname
    obtain ⟨form, hform, h⟩ := Logged.bind_eq_ok_iff.mp h
    obtain ⟨others, hothers, h⟩ := Logged.bind_eq_ok_iff.mp h
    exact ⟨name, form, others, Value.eq_ofTextValue_of_asTextValue? hname, hform, hothers,
      (Except.ok.inj h).symm⟩

/-- Every field that is read is described by an entry under its name. -/
theorem exists_of_mem_readEntries (h : readEntries entries = .ok forms) :
    ∀ field ∈ forms, ∃ entry ∈ entries, entry.1 = .ofTextValue field.1 ∧
      FieldForm.read (some field.1) entry.2 = .ok field.2 := by
  induction entries generalizing forms with
  | nil =>
    obtain rfl := Except.ok.inj h
    exact fun field hfield => absurd hfield List.not_mem_nil
  | cons entry rest ih =>
    obtain ⟨name, form, others, hkey, hform, hothers, rfl⟩ := readEntries_cons_eq_ok h
    intro field hfield
    rcases List.mem_cons.mp hfield with rfl | hmem
    · exact ⟨entry, List.mem_cons_self, hkey, hform⟩
    · obtain ⟨entry', hentry', hread⟩ := ih hothers field hmem
      exact ⟨entry', List.mem_cons_of_mem _ hentry', hread⟩

/-- Keys that differ are names of different texts. -/
theorem nodup_of_readEntries (hkeys : entries.HasDistinctKeys)
    (h : readEntries entries = .ok forms) : (forms.map fun field => field.1.text).Nodup := by
  induction entries generalizing forms with
  | nil =>
    obtain rfl := Except.ok.inj h
    exact List.nodup_nil
  | cons entry rest ih =>
    obtain ⟨hfresh, hrest⟩ := List.pairwise_cons.mp hkeys
    obtain ⟨name, form, others, hkey, hform, hothers, rfl⟩ := readEntries_cons_eq_ok h
    refine List.nodup_cons.mpr ⟨fun hmem => ?_, ih hrest hothers⟩
    obtain ⟨field, hfield, htext⟩ := List.mem_map.mp hmem
    obtain ⟨entry', hentry', hkey', -⟩ := exists_of_mem_readEntries hothers field hfield
    have hequal : entry.1.equals entry'.1 = true := by
      rw [show entry.1 = Value.ofTextValue name from hkey, hkey']
      exact Value.equals_of_asText? (Value.asText?_ofTextValue name)
        ((Value.asText?_ofTextValue field.1).trans (congrArg some htext))
    rw [hfresh entry' hentry'] at hequal
    contradiction

end Definition

/-! ## What parts inherit -/

/-- What holds of a value that describes fields, and of a modifier, goes on to everything that is
read from them. -/
structure Value.IsInherited (P : Value → Prop) (Q : Value × Value → Prop) : Prop where
  null : P .null
  list : ∀ {items : List Value}, P (.list items) → ∀ v ∈ items, P v
  tuple : ∀ {items : List Value}, P (.tuple items) → ∀ v ∈ items, P v
  deque : ∀ {items : List Value}, P (.deque items) → ∀ v ∈ items, P v
  map : ∀ {entries : Entries}, P (.map entries) →
    ∀ entry ∈ entries, Q (FieldSpec.canonicalKey entry.1, entry.2)
  spec : ∀ {type : Value} {modifiers : List (Value × Value)}, P (.spec type modifiers) →
    ∀ modifier ∈ modifiers, Q modifier
  shorthand : ∀ {type : Value} {modifiers : List (Value × Value)}, P (.shorthand type modifiers) →
    ∀ modifier ∈ modifiers, Q modifier
  value : ∀ {modifier : Value × Value}, Q modifier → P modifier.2

section

variable {P : Value → Prop} {Q : Value × Value → Prop} (h : Value.IsInherited P Q)

include h

namespace FieldSpec

variable {spec : FieldSpec}

theorem inherits_ofEntries {entries : Entries} (hentries : P (.map entries)) :
    ∀ modifier ∈ (ofEntries entries).modifiers, Q modifier := by
  intro modifier hmem
  obtain ⟨entry, hentry, rfl⟩ := List.mem_map.mp hmem
  exact h.map hentries entry (List.mem_filter.mp hentry).1

theorem inherits_get (hspec : ∀ modifier ∈ spec.modifiers, Q modifier) (name : String) :
    P (spec.get name) := by
  rw [get]
  cases hget : spec.get? name with
  | none => exact h.null
  | some v =>
    obtain ⟨modifier, hmem, -, rfl⟩ := exists_of_get? hget
    exact h.value (hspec modifier hmem)

theorem inherits_items {item : FieldSpec} (hspec : ∀ modifier ∈ spec.modifiers, Q modifier)
    (hitem : spec.items? = some item) : ∀ modifier ∈ item.modifiers, Q modifier := by
  have hget := inherits_get h hspec "items"
  unfold items? ofValue? at hitem
  split at hitem
  · rename_i hvalue
    obtain rfl := Option.some.inj hitem
    exact h.spec (hvalue ▸ hget)
  · rename_i hvalue
    obtain rfl := Option.some.inj hitem
    exact inherits_ofEntries h (hvalue ▸ hget)
  · contradiction

theorem inherits_schema {entries : Entries} (hspec : ∀ modifier ∈ spec.modifiers, Q modifier)
    (hentries : spec.schema? = some entries) : P (.map entries) := by
  have hget := inherits_get h hspec "schema"
  unfold schema? Value.asEntries? at hentries
  split at hentries
  · rename_i hvalue
    obtain rfl := Option.some.inj hentries
    rwa [hvalue] at hget
  · contradiction

end FieldSpec

namespace FieldForm

theorem inherits_itemSpec {first : Value} (hfirst : P first) :
    ∀ modifier ∈ (itemSpec first).modifiers, Q modifier := by
  have htext : ∀ item : FieldSpec, (∀ modifier ∈ item.modifiers, Q modifier) →
      ∀ modifier ∈ (if item.type.isNull then { item with type := .canonical .string } else item :
        FieldSpec).modifiers, Q modifier := by
    intro item hitem
    split <;> exact hitem
  unfold itemSpec
  apply htext
  split
  · exact FieldSpec.inherits_ofEntries h hfirst
  · exact fun modifier hmem => absurd hmem List.not_mem_nil

theorem inherits_head {items : List Value} (hitems : ∀ v ∈ items, P v) :
    ∀ modifier ∈ (itemSpec (items.head?.getD (.map []))).modifiers, Q modifier := by
  cases items with
  | nil => exact fun modifier hmem => absurd hmem List.not_mem_nil
  | cons v rest => exact inherits_itemSpec h (hitems v List.mem_cons_self)

theorem inherits_read {field : Option TextValue} {raw : Value} {form : FieldForm} (hraw : P raw)
    (hread : read field raw = .ok form) : ∀ modifier ∈ form.described.modifiers, Q modifier := by
  unfold read at hread
  split at hread
  · obtain rfl := Except.ok.inj hread
    exact h.spec hraw
  · obtain rfl := Except.ok.inj hread
    exact h.shorthand hraw
  · obtain rfl := Except.ok.inj hread
    exact FieldSpec.inherits_ofEntries h hraw
  · obtain rfl := Except.ok.inj hread
    exact inherits_head h (h.list hraw)
  · obtain rfl := Except.ok.inj hread
    exact inherits_head h (h.tuple hraw)
  · obtain rfl := Except.ok.inj hread
    exact inherits_head h (h.deque hraw)
  · contradiction

end FieldForm

/-- The fields of a definition inherit what holds of it. -/
theorem Definition.inherits_readEntries {entries : Entries}
    {forms : List (TextValue × FieldForm)} (hentries : P (.map entries))
    (hread : readEntries entries = .ok forms) :
    ∀ field ∈ forms, ∀ modifier ∈ field.2.described.modifiers, Q modifier := by
  intro field hfield
  obtain ⟨entry, hentry, -, hform⟩ := exists_of_mem_readEntries hread field hfield
  have hvalue := h.value (h.map hentries entry hentry)
  exact FieldForm.inherits_read h hvalue hform

end

/-! ## Refinements -/

/-- The kind of values that have a measure. -/
def Measure.ruleKind : Measure → RuleKind
  | .length => .string
  | .number => .number
  | .count => .array

/-- A bound on a measure from below or from above. -/
def Refinement.limit (measure : Measure) (isLeast : Bool) (n : Number) (message : Value) :
    Refinement :=
  if isLeast then .bounds measure (.ofNumber n) .null message
  else .bounds measure .null (.ofNumber n) message

/-- Work that reads a definition succeeds when the reading does. -/
theorem Compiling.result_ofDefinition_eq_ok_iff {α : Type} {read : Except DefinitionError α}
    {a : α} : (Compiling.ofDefinition read).result = .ok a ↔ read = .ok a := by
  cases read <;> simp [Compiling.ofDefinition]

namespace Rule

theorem refine_nil (rule : Rule) : rule.refine [] = rule := by
  cases rule <;> simp [refine, facts, withFacts]

@[simp] theorem kind_refine (rule : Rule) (more : List Refinement) :
    (rule.refine more).kind = rule.kind := by
  rw [refine, kind_withFacts]

@[simp] theorem item?_refine (rule : Rule) (more : List Refinement) :
    (rule.refine more).item? = rule.item? := by
  rw [refine, item?_withFacts]

@[simp] theorem facts_refine (rule : Rule) (more : List Refinement) :
    (rule.refine more).facts =
      { rule.facts with refinements := rule.facts.refinements ++ more } := by
  rw [refine, facts_withFacts]

theorem bound_eq_refine (rule : Rule) (measure : Measure) (isLeast : Bool) (n : Number)
    (message : Value) :
    rule.bound measure isLeast n message = rule.refine [.limit measure isLeast n message] := by
  cases isLeast <;> rfl

theorem kind_limit_ne (measure : Measure) (isLeast : Bool) (n : Number) (message : Value) :
    (Refinement.limit measure isLeast n message).kind ≠ .lowercase := by
  cases isLeast <;> exact RefinementKind.noConfusion

/-! ## Rules -/

variable {overrides : Overrides} {field : TextValue} {rule rule' : Rule}

/-- A pattern that is added is usable. -/
theorem matching_eq_ok {source : TextValue} {flags : Flags}
    (h : matching overrides field rule source flags = .ok rule') :
    ∃ message, rule' =
      rule.refine [.pattern (.ofTextValue source) (.int flags.toNat) message] := by
  unfold matching at h
  split at h
  · exact ⟨_, (Except.ok.inj h).symm⟩
  all_goals contradiction

/-- A pattern that compiles is added. -/
theorem matching_of_compile {source : TextValue} {flags : Flags} {regex : Regex}
    (h : Regex.compile source.text flags = .ok regex) :
    matching overrides field rule source flags =
      .ok (rule.refine [.pattern (.ofTextValue source) (.int flags.toNat)
        (Message.ofPattern overrides field source.text)]) := by
  rw [matching, h]

theorem eq_of_orEndless {spec : FieldSpec} {part : String} {made : Rule}
    (h : (orEndless spec part made).result = .ok rule) : rule = made := by
  unfold orEndless at h
  split at h
  · contradiction
  · exact (Except.ok.inj h).symm

/-- The rule of a field that is described by a type and modifiers. -/
theorem ofForm_single_eq_ok {spec : FieldSpec}
    (h : (ofForm overrides field (.single spec)).result = .ok rule) :
    ∃ t start made, spec.type.category? = some t ∧
      (ofType overrides field t spec).result = .ok start ∧
      applyModifiers overrides field start spec.modifiers = .ok made ∧
      rule = finish field spec made := by
  rw [Rule.ofForm] at h
  obtain ⟨t, ht, h⟩ := Logged.result_andThen_eq_ok_iff.mp h
  obtain ⟨start, hstart, h⟩ := Logged.result_andThen_eq_ok_iff.mp h
  obtain ⟨made, hmade, h⟩ := Logged.result_andThen_eq_ok_iff.mp h
  exact ⟨t, start, made, (Value.categoryFor_eq_ok_iff _ _ _).mp
    (Compiling.result_ofDefinition_eq_ok_iff.mp ht), hstart, hmade, (Except.ok.inj h).symm⟩

/-- A field that is described by a type and modifiers has the rule of the type, modified. -/
theorem ofForm_single {spec : FieldSpec} {t : CanonicalType} {start made : Rule}
    (ht : spec.type.category? = some t)
    (hstart : (ofType overrides field t spec).result = .ok start)
    (hmade : applyModifiers overrides field start spec.modifiers = .ok made) :
    (ofForm overrides field (.single spec)).result = .ok (finish field spec made) := by
  rw [Rule.ofForm]
  exact Logged.result_andThen_eq_ok_iff.mpr ⟨t, Compiling.result_ofDefinition_eq_ok_iff.mpr
    ((Value.categoryFor_eq_ok_iff _ _ _).mpr ht), Logged.result_andThen_eq_ok_iff.mpr
      ⟨start, hstart, Logged.result_andThen_eq_ok_iff.mpr ⟨made, hmade, rfl⟩⟩⟩

/-- The rule of a definition is that of an object with the rules of its fields. -/
theorem ofDefinition_eq_ok {definition : Value}
    (h : (ofDefinition overrides definition).result = .ok rule) :
    ∃ forms rules, Definition.read definition = .ok forms ∧
      (ofForms overrides forms).result = .ok rules ∧ rule = ofFields rules := by
  obtain ⟨forms, hforms, h⟩ := Logged.result_andThen_eq_ok_iff.mp h
  rw [ofParts] at h
  obtain ⟨rules, hrules, h⟩ := Logged.result_andThen_eq_ok_iff.mp h
  obtain ⟨noted, -, h⟩ := Logged.result_andThen_eq_ok_iff.mp h
  exact ⟨forms, rules, Compiling.result_ofDefinition_eq_ok_iff.mp hforms, hrules,
    (Except.ok.inj h).symm⟩

end Rule

end FieldSchema
