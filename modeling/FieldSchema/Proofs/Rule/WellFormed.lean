import FieldSchema.Proofs.Rule.Reading

/-!
# Rules of definitions are well formed

A definition is made of mappings, in which no key occurs twice, at every level
(`Value.IsWellKeyed`).  What is then known of its rule is known of every rule inside it as well:

1. a refinement is about values of the kind of its rule, so rules for objects, for mappings and for
   values of any kind have none;
2. only the first refinement may bring texts to lower case, since allowed values replace the rule
   that was built before them and start with it;
3. the names of the fields of an object differ in their texts, and they are the names that the
   definition declares, in its order.

Modifiers change what a rule says about its values, or replace it by a rule for texts
(`Rule.Becomes`); either way the first two hold after them.  The third is about how the rule was
built before, so the rule of a definition has all three by induction on how it is made.

* `Rule.IsWellFormed`, `Rule.IsDeclaredBy`: rules with these properties.
* `Rule.becomes_applyModifiers`, `Rule.becomes_finish`: what modifiers make of a rule.
* `Rule.isWellFormed_ofDefinition`: the rule of a definition is well formed.
-/

namespace FieldSchema

/-! ## Definitions -/

namespace Value

mutual

/-- Whether no key occurs twice in any of the mappings that a definition is made of. -/
def IsWellKeyed : Value → Prop
  | .list items => ItemsAreWellKeyed items
  | .tuple items => ItemsAreWellKeyed items
  | .deque items => ItemsAreWellKeyed items
  | .map entries => Entries.HasDistinctKeys entries ∧ EntriesAreWellKeyed entries
  | .spec _ modifiers => EntriesAreWellKeyed modifiers
  | .shorthand _ modifiers => EntriesAreWellKeyed modifiers
  | _ => True

/-- Whether this holds of all items. -/
def ItemsAreWellKeyed : List Value → Prop
  | [] => True
  | v :: rest => v.IsWellKeyed ∧ ItemsAreWellKeyed rest

/-- Whether this holds of the values of all entries. -/
def EntriesAreWellKeyed : List (Value × Value) → Prop
  | [] => True
  | (_, v) :: rest => v.IsWellKeyed ∧ EntriesAreWellKeyed rest

end

theorem itemsAreWellKeyed_iff {items : List Value} :
    ItemsAreWellKeyed items ↔ ∀ v ∈ items, v.IsWellKeyed := by
  induction items with
  | nil => simp [ItemsAreWellKeyed]
  | cons v rest ih => rw [ItemsAreWellKeyed, ih, List.forall_mem_cons]

theorem entriesAreWellKeyed_iff {entries : List (Value × Value)} :
    EntriesAreWellKeyed entries ↔ ∀ entry ∈ entries, entry.2.IsWellKeyed := by
  induction entries with
  | nil => simp [EntriesAreWellKeyed]
  | cons entry rest ih => rw [EntriesAreWellKeyed, ih, List.forall_mem_cons]

end Value

/-- Whether no key occurs twice in what the modifiers of a field describe. -/
def FieldSpec.IsWellKeyed (spec : FieldSpec) : Prop :=
  ∀ modifier ∈ spec.modifiers, modifier.2.IsWellKeyed

/-- Whether no key occurs twice in what describes a field. -/
def FieldForm.IsWellKeyed (form : FieldForm) : Prop := form.described.IsWellKeyed

/-- Fields with different names, in which no key occurs twice. -/
structure Definition.FieldsAreWellKeyed (forms : List (TextValue × FieldForm)) : Prop where
  distinct : (forms.map fun field => field.1.text).Nodup
  each : ∀ field ∈ forms, field.2.IsWellKeyed

/-- No key occurs twice in what is read from a definition of this kind. -/
theorem Value.isInherited_isWellKeyed :
    IsInherited IsWellKeyed fun modifier => modifier.2.IsWellKeyed where
  null := trivial
  list hitems := itemsAreWellKeyed_iff.mp hitems
  tuple hitems := itemsAreWellKeyed_iff.mp hitems
  deque hitems := itemsAreWellKeyed_iff.mp hitems
  map hentries := entriesAreWellKeyed_iff.mp hentries.2
  spec hmodifiers := entriesAreWellKeyed_iff.mp hmodifiers
  shorthand hmodifiers := entriesAreWellKeyed_iff.mp hmodifiers
  value hmodifier := hmodifier

namespace FieldSpec

variable {spec : FieldSpec}

theorem IsWellKeyed.items {item : FieldSpec} (h : spec.IsWellKeyed)
    (hitem : spec.items? = some item) : item.IsWellKeyed :=
  inherits_items Value.isInherited_isWellKeyed h hitem

theorem IsWellKeyed.schema {entries : Entries} (h : spec.IsWellKeyed)
    (hentries : spec.schema? = some entries) : (Value.map entries).IsWellKeyed :=
  inherits_schema Value.isInherited_isWellKeyed h hentries

end FieldSpec

/-- The fields of a mapping have different names. -/
theorem Definition.fieldsAreWellKeyed_of_readEntries {entries : Entries}
    {forms : List (TextValue × FieldForm)} (h : (Value.map entries).IsWellKeyed)
    (hread : readEntries entries = .ok forms) : FieldsAreWellKeyed forms := by
  refine ⟨nodup_of_readEntries ?_ hread, inherits_readEntries Value.isInherited_isWellKeyed h hread⟩
  rw [Value.IsWellKeyed] at h
  exact h.1

/-! ## Rules -/

/-- The kind of values that a refinement is about. -/
def Refinement.ruleKind : Refinement → RuleKind
  | .bounds measure _ _ _ => measure.ruleKind
  | _ => .string

/-- Refinements fit values of a kind: they are about such values, and only the first one may bring
them to lower case. -/
structure RuleFacts.Fits (facts : RuleFacts) (kind : RuleKind) : Prop where
  ruleKind_eq : ∀ r ∈ facts.refinements, r.ruleKind = kind
  lowerFirst : ∀ r ∈ facts.refinements.tail, r.kind ≠ .lowercase

/-- Refinements are about texts, numbers and lists only, so other values have none that fit. -/
theorem RuleFacts.Fits.eq_nil {facts : RuleFacts} {kind : RuleKind} (h : facts.Fits kind)
    (hkind : kind ∉ [RuleKind.string, .number, .array]) : facts.refinements = [] := by
  refine List.eq_nil_iff_forall_not_mem.mpr fun r hr => hkind ?_
  rw [← h.ruleKind_eq r hr]
  cases r with
  | bounds measure => cases measure <;> simp [Refinement.ruleKind, Measure.ruleKind]
  | _ => simp [Refinement.ruleKind]

/-- What describes the items of an array, in both forms. -/
def FieldForm.items? : FieldForm → Option FieldSpec
  | .single spec => spec.items?
  | .arrayOf item => some item

/-- The definition of the parts of an object. -/
def FieldForm.schema? : FieldForm → Option Entries
  | .single spec => spec.schema?
  | .arrayOf _ => none

namespace Rule

/-- Rules as definitions have them: refinements fit the values that they are for, and names of
fields differ. -/
inductive IsWellFormed : Rule → Prop
  | leaf {facts : RuleFacts} {kind : RuleKind} (hfacts : facts.Fits kind) :
    IsWellFormed (.leaf facts kind)
  | array {facts : RuleFacts} {item : Rule} (hfacts : facts.Fits .array)
    (hitem : IsWellFormed item) : IsWellFormed (.array facts item)
  | object {facts : RuleFacts} {fields : List (TextValue × Rule)} (hfacts : facts.Fits .object)
    (hdistinct : (fields.map fun field => field.1.text).Nodup)
    (hfields : ∀ field ∈ fields, IsWellFormed field.2) : IsWellFormed (.object facts fields)

theorem IsWellFormed.fits {rule : Rule} (h : rule.IsWellFormed) : rule.facts.Fits rule.kind := by
  cases h with
  | leaf hfacts => exact hfacts
  | array hfacts hitem => exact hfacts
  | object hfacts hdistinct hfields => exact hfacts

mutual

/-- The fields of a rule are those that the description of a field declares, at every depth. -/
def IsDeclaredBy : Rule → FieldForm → Prop
  | .leaf _ _, _ => True
  | .array _ item, form => ∃ spec, form.items? = some spec ∧ IsDeclaredBy item (.single spec)
  | .object _ fields, form =>
    ∃ entries forms, form.schema? = some entries ∧ Definition.readEntries entries = .ok forms ∧
      FieldsAreDeclaredBy fields forms

/-- Fields are declared one by one, under the same names and in the same order. -/
def FieldsAreDeclaredBy : List (TextValue × Rule) → List (TextValue × FieldForm) → Prop
  | [], forms => forms = []
  | (name, rule) :: rest, forms =>
    ∃ form others, forms = (name, form) :: others ∧ IsDeclaredBy rule form ∧
      FieldsAreDeclaredBy rest others

end

theorem FieldsAreDeclaredBy.map_fst {fields : List (TextValue × Rule)}
    {forms : List (TextValue × FieldForm)} (h : FieldsAreDeclaredBy fields forms) :
    fields.map (·.1) = forms.map (·.1) := by
  induction fields generalizing forms with
  | nil =>
    obtain rfl : forms = [] := h
    rfl
  | cons field rest ih =>
    obtain ⟨form, others, rfl, -, hrest⟩ := h
    exact congrArg (field.1 :: ·) (ih hrest)

/-! ## Modifiers -/

/-- What modifiers make of a rule: the same rule with other facts, or a rule for texts. -/
inductive Becomes (rule : Rule) : Rule → Prop
  | changed {facts : RuleFacts} (hfacts : facts.Fits rule.kind) :
    Becomes rule (rule.withFacts facts)
  | replaced {facts : RuleFacts} {kind : RuleKind} (hfacts : facts.Fits kind) :
    Becomes rule (.leaf facts kind)

variable {overrides : Overrides} {field : TextValue} {rule rule' : Rule} {modifier : String}
  {v : Value}

namespace Becomes

theorem refl (h : rule.facts.Fits rule.kind) : rule.Becomes rule := by
  have hsame : rule.withFacts rule.facts = rule := by cases rule <;> rfl
  have hchanged := changed h
  rwa [hsame] at hchanged

theorem fits (h : rule.Becomes rule') : rule'.facts.Fits rule'.kind := by
  cases h with
  | changed hfacts => rwa [facts_withFacts, kind_withFacts]
  | replaced hfacts => exact hfacts

theorem trans {last : Rule} (h : rule.Becomes rule') (hlast : rule'.Becomes last) :
    rule.Becomes last := by
  cases hlast with
  | replaced hfacts => exact replaced hfacts
  | changed hfacts =>
    cases h with
    | replaced => exact replaced hfacts
    | changed =>
      rw [kind_withFacts] at hfacts
      have hchanged := changed hfacts
      cases rule <;> exact hchanged

theorem isWellFormed (h : rule.Becomes rule') (hrule : rule.IsWellFormed) :
    rule'.IsWellFormed := by
  cases h with
  | replaced hfacts => exact .leaf hfacts
  | changed hfacts =>
    cases hrule with
    | leaf => exact .leaf hfacts
    | array _ hitem => exact .array hfacts hitem
    | object _ hdistinct hfields => exact .object hfacts hdistinct hfields

theorem isDeclaredBy {form : FieldForm} (h : rule.Becomes rule') (hrule : rule.IsDeclaredBy form) :
    rule'.IsDeclaredBy form := by
  cases h with
  | replaced => trivial
  | changed => cases rule <;> exact hrule

/-- One more refinement that is about the values of the rule and does not change them. -/
theorem refine {r : Refinement} (h : rule.facts.Fits rule.kind) (hkind : r.ruleKind = rule.kind)
    (hlower : r.kind ≠ .lowercase) : rule.Becomes (rule.refine [r]) := by
  obtain ⟨hall, htail⟩ := h
  refine changed ⟨fun r' hr' => ?_, fun r' hr' => ?_⟩
  · rcases List.mem_append.mp hr' with hold | hnew
    · exact hall r' hold
    · obtain rfl := List.mem_singleton.mp hnew
      exact hkind
  · replace hr' : r' ∈ (rule.facts.refinements ++ [r]).tail := hr'
    cases hrefinements : rule.facts.refinements with
    | nil =>
      rw [hrefinements] at hr'
      cases hr'
    | cons first rest =>
      rw [hrefinements] at hr' htail
      rcases List.mem_append.mp hr' with hold | hnew
      · exact htail r' hold
      · obtain rfl := List.mem_singleton.mp hnew
        exact hlower

theorem bound {measure : Measure} {isLeast : Bool} {n : Number} {message : Value}
    (h : rule.facts.Fits rule.kind) (hkind : rule.kind = measure.ruleKind) :
    rule.Becomes (rule.bound measure isLeast n message) := by
  rw [bound_eq_refine]
  refine refine h ?_ (kind_limit_ne measure isLeast n message)
  rw [hkind]
  cases isLeast <;> rfl

end Becomes

/-- Allowed values: a text is brought to lower case first. -/
theorem fits_oneOf (allowed : List TextValue) :
    (oneOf overrides field allowed).facts.Fits .string := by
  refine ⟨fun r hr => ?_, fun r hr => ?_⟩
  · rcases List.mem_cons.mp hr with rfl | hr
    · rfl
    · obtain rfl := List.mem_singleton.mp hr
      rfl
  · obtain rfl := List.mem_singleton.mp hr
    exact RefinementKind.noConfusion

section

variable (h : rule.facts.Fits rule.kind)

include h

theorem becomes_markOptional : rule.Becomes rule.markOptional :=
  .changed ⟨h.ruleKind_eq, h.lowerFirst⟩

theorem becomes_withDefault : rule.Becomes (rule.withDefault v) :=
  .changed ⟨h.ruleKind_eq, h.lowerFirst⟩

theorem becomes_boundLength {isLeast : Bool} :
    rule.Becomes (boundLength overrides field modifier isLeast rule v) := by
  unfold boundLength
  split
  · rename_i hkind _
    exact .bound h hkind
  · exact .refl h

theorem becomes_boundSize {isLeast : Bool} :
    rule.Becomes (boundSize overrides field modifier isLeast rule v) := by
  unfold boundSize
  split
  · rename_i hkind _
    exact .bound h hkind
  · rename_i hkind _
    exact .bound h hkind
  · exact .refl h

theorem becomes_mailAddress : rule.Becomes (mailAddress overrides field rule v) := by
  unfold mailAddress
  split
  · rename_i hcounts
    have hkind : rule.kind = .string := beq_iff_eq.mp (Bool.and_eq_true_iff.mp hcounts).2
    exact .refine h hkind.symm RefinementKind.noConfusion
  · exact .refl h

theorem becomes_referTo : rule.Becomes rule.referTo := by
  unfold referTo
  split
  · rename_i hcounts
    have hkind : rule.kind = .string := beq_iff_eq.mp (Bool.and_eq_true_iff.mp hcounts).1
    exact .refine h hkind.symm RefinementKind.noConfusion
  · exact .refl h

theorem becomes_matchPattern (hmade : matchPattern overrides field rule v = .ok rule') :
    rule.Becomes rule' := by
  unfold matchPattern at hmade
  split at hmade
  · rename_i hkind
    have hmatching : ∀ source flags, matching overrides field rule source flags = .ok rule' →
        rule.Becomes rule' := by
      intro source flags hmatching
      obtain ⟨message, rfl⟩ := matching_eq_ok hmatching
      exact .refine h (beq_iff_eq.mp hkind).symm RefinementKind.noConfusion
    split at hmade
    · exact hmatching _ _ hmade
    · exact hmatching _ _ hmade
    · exact hmatching _ _ hmade
    · contradiction
    · exact Except.ok.inj hmade ▸ .refl h
  · exact Except.ok.inj hmade ▸ .refl h

/-- **One modifier** of a rule. -/
theorem becomes_applyModifier
    (hmade : applyModifier overrides field rule modifier v = .ok rule') : rule.Becomes rule' := by
  unfold applyModifier at hmade
  by_cases hrequired : (modifier == "required") = true
  · rw [if_pos hrequired] at hmade
    obtain rfl := Except.ok.inj hmade
    split
    · exact becomes_markOptional h
    · exact .refl h
  rw [if_neg hrequired] at hmade
  by_cases hminlength : (modifier == "minlength") = true
  · rw [if_pos hminlength] at hmade
    exact Except.ok.inj hmade ▸ becomes_boundLength h
  rw [if_neg hminlength] at hmade
  by_cases hmaxlength : (modifier == "maxlength") = true
  · rw [if_pos hmaxlength] at hmade
    exact Except.ok.inj hmade ▸ becomes_boundLength h
  rw [if_neg hmaxlength] at hmade
  by_cases hmin : (modifier == "min") = true
  · rw [if_pos hmin] at hmade
    exact Except.ok.inj hmade ▸ becomes_boundSize h
  rw [if_neg hmin] at hmade
  by_cases hmax : (modifier == "max") = true
  · rw [if_pos hmax] at hmade
    exact Except.ok.inj hmade ▸ becomes_boundSize h
  rw [if_neg hmax] at hmade
  by_cases hemail : (modifier == "email") = true
  · rw [if_pos hemail] at hmade
    exact Except.ok.inj hmade ▸ becomes_mailAddress h
  rw [if_neg hemail] at hmade
  by_cases henum : (modifier == "enum") = true
  · rw [if_pos henum] at hmade
    split at hmade
    · exact Except.ok.inj hmade ▸ .replaced (fits_oneOf _)
    · exact Except.ok.inj hmade ▸ .refl h
    · contradiction
  rw [if_neg henum] at hmade
  by_cases hregex : (modifier == "regex") = true
  · rw [if_pos hregex] at hmade
    exact becomes_matchPattern h hmade
  rw [if_neg hregex] at hmade
  split at hmade
  · exact Except.ok.inj hmade ▸ becomes_withDefault h
  split at hmade
  · exact Except.ok.inj hmade ▸ becomes_referTo h
  · exact Except.ok.inj hmade ▸ .refl h

theorem becomes_applyModifiers {modifiers : List (Value × Value)}
    (hmade : applyModifiers overrides field rule modifiers = .ok rule') : rule.Becomes rule' := by
  induction modifiers generalizing rule with
  | nil => exact Except.ok.inj hmade ▸ .refl h
  | cons modifier rest ih =>
    obtain ⟨key, v⟩ := modifier
    rw [applyModifiers] at hmade
    split at hmade
    · split at hmade
      · rename_i hstep
        have hbecomes := becomes_applyModifier h hstep
        exact hbecomes.trans (ih hbecomes.fits hmade)
      · contradiction
    · split at hmade
      · exact ih h hmade
      · contradiction

theorem becomes_finish {spec : FieldSpec} : rule.Becomes (finish field spec rule) := by
  have hstrengthen : rule.Becomes (strengthen field spec rule) := by
    unfold strengthen
    split
    · rename_i hcounts
      have hkind : rule.kind = .string :=
        beq_iff_eq.mp (Bool.and_eq_true_iff.mp (Bool.and_eq_true_iff.mp hcounts).1).1
      exact .refine h hkind.symm RefinementKind.noConfusion
    · exact .refl h
  unfold finish relax
  split
  · exact hstrengthen.trans (becomes_markOptional hstrengthen.fits)
  · exact hstrengthen

end

/-! ## Rules of definitions -/

theorem fits_nil (kind : RuleKind) : RuleFacts.Fits {} kind :=
  ⟨fun _ hr => absurd hr List.not_mem_nil, fun _ hr => absurd hr List.not_mem_nil⟩

theorem fits_ofCategory (t : CanonicalType) : (ofCategory t).facts.Fits (ofCategory t).kind := by
  cases t with
  | objectId =>
    refine ⟨fun r hr => ?_, fun r hr => absurd hr List.not_mem_nil⟩
    obtain rfl := List.mem_singleton.mp hr
    rfl
  | _ => exact fits_nil _

/-- A rule is well formed and has the fields that the description of a field declares. -/
structure IsMadeOf (rule : Rule) (form : FieldForm) : Prop where
  isWellFormed : rule.IsWellFormed
  isDeclaredBy : rule.IsDeclaredBy form

theorem isMadeOf_ofCategory (t : CanonicalType) (form : FieldForm) :
    (ofCategory t).IsMadeOf form := by
  have hleaf : ∃ facts kind, ofCategory t = .leaf facts kind := by cases t <;> exact ⟨_, _, rfl⟩
  obtain ⟨facts, kind, hcategory⟩ := hleaf
  have hfits := fits_ofCategory t
  rw [hcategory] at hfits ⊢
  exact ⟨.leaf hfits, trivial⟩

theorem isMadeOf_ofItem {form : FieldForm} {spec : FieldSpec} {item? : Option Rule}
    (hitems : form.items? = some spec)
    (h : ∀ item, item? = some item → item.IsMadeOf (.single spec)) :
    (ofItem item?).IsMadeOf form := by
  cases item? with
  | none => exact isMadeOf_ofCategory .array form
  | some item =>
    obtain ⟨hwell, hdeclared⟩ := h item rfl
    exact ⟨.array (fits_nil .array) hwell, spec, hitems, hdeclared⟩

/-- The rule of an object with a definition of its own is that of its parts. -/
theorem exists_of_ofType_object {spec : FieldSpec} {entries : Entries}
    (hschema : spec.schema? = some entries)
    (h : (ofType overrides field .object spec).result = .ok rule) :
    ∃ parts, Definition.readEntries entries = .ok parts ∧
      (ofParts overrides parts).result = .ok rule := by
  unfold ofType at h
  split at h
  · rename_i entries' hschema'
    obtain rfl := Option.some.inj (hschema.symm.trans hschema')
    split at h
    · rename_i parts hread
      exact ⟨parts, hread, h⟩
    · contradiction
  · rename_i hnone
    rw [hschema] at hnone
    contradiction

/-- What rules are made of, by induction on how they are made: of types, of parts, of fields, of one
field, and of items. -/
theorem isMadeOf_of_made (overrides : Overrides) :
    (∀ field t spec, spec.IsWellKeyed → ∀ rule,
      (ofType overrides field t spec).result = .ok rule → rule.IsMadeOf (.single spec)) ∧
    (∀ forms, Definition.FieldsAreWellKeyed forms → ∀ rule,
      (ofParts overrides forms).result = .ok rule →
        rule.IsWellFormed ∧ ∃ rules, rule = ofFields rules ∧ FieldsAreDeclaredBy rules forms) ∧
    (∀ forms, (∀ form ∈ forms, form.2.IsWellKeyed) → ∀ rules,
      (ofForms overrides forms).result = .ok rules →
        (∀ rule ∈ rules, rule.2.IsWellFormed) ∧ FieldsAreDeclaredBy rules forms) ∧
    (∀ field form, form.IsWellKeyed → ∀ rule,
      (ofForm overrides field form).result = .ok rule → rule.IsMadeOf form) ∧
    (∀ field item, item.IsWellKeyed → ∀ item?,
      (ofItemSpec overrides field item).result = .ok item? →
        ∀ made, item? = some made → made.IsMadeOf (.single item)) := by
  apply ofType.mutual_induct
  -- An array with described items.
  case case1 =>
    intro field spec item hitem ih hspec rule hrule
    rw [ofType, hitem] at hrule
    obtain ⟨item?, hitem?, hrule⟩ := Logged.result_andThen_eq_ok_iff.mp hrule
    exact Except.ok.inj hrule ▸ isMadeOf_ofItem hitem (ih (hspec.items hitem) item? hitem?)
  -- An array of anything.
  case case2 =>
    intro field spec hnone _ rule hrule
    rw [ofType, hnone] at hrule
    exact eq_of_orEndless hrule ▸ isMadeOf_ofCategory .array _
  -- An object with parts.
  case case3 =>
    intro field spec entries hschema parts hread ih hspec rule hrule
    obtain ⟨parts', hread', hparts⟩ := exists_of_ofType_object hschema hrule
    obtain rfl := Except.ok.inj (hread.symm.trans hread')
    have hkeyed := Definition.fieldsAreWellKeyed_of_readEntries (hspec.schema hschema) hread
    obtain ⟨hwell, rules, rfl, hdeclared⟩ := ih hkeyed rule hparts
    exact ⟨hwell, entries, parts, hschema, hread, hdeclared⟩
  -- An object whose parts cannot be read.
  case case4 =>
    intro field spec entries hschema cause hread _ rule hrule
    obtain ⟨parts, hread', -⟩ := exists_of_ofType_object hschema hrule
    rw [hread] at hread'
    contradiction
  -- An object with any entries.
  case case5 =>
    intro field spec hnone _ rule hrule
    rw [ofType, hnone] at hrule
    exact eq_of_orEndless hrule ▸ isMadeOf_ofCategory .object _
  -- Any other type.
  case case6 =>
    intro field spec t harray hobject _ rule hrule
    unfold ofType at hrule
    split at hrule
    · exact absurd rfl harray
    · exact absurd rfl hobject
    · exact Except.ok.inj hrule ▸ isMadeOf_ofCategory t _
  -- The parts of an object.
  case case7 =>
    intro forms ih hforms rule hrule
    rw [ofParts] at hrule
    obtain ⟨rules, hrules, hrule⟩ := Logged.result_andThen_eq_ok_iff.mp hrule
    obtain ⟨noted, -, hrule⟩ := Logged.result_andThen_eq_ok_iff.mp hrule
    obtain ⟨hwell, hdeclared⟩ := ih hforms.each rules hrules
    have htexts := congrArg (List.map TextValue.text) hdeclared.map_fst
    rw [List.map_map, List.map_map] at htexts
    obtain rfl := Except.ok.inj hrule
    exact ⟨.object (fits_nil .object) (htexts.symm ▸ hforms.distinct) hwell, rules, rfl, hdeclared⟩
  -- No fields.
  case case8 =>
    intro _ rules hrules
    rw [ofForms] at hrules
    obtain rfl := Except.ok.inj hrules
    exact ⟨fun rule hrule => absurd hrule List.not_mem_nil, rfl⟩
  -- A field and the fields after it.
  case case9 =>
    intro field form rest ihForm ihRest hforms rules hrules
    obtain ⟨hform, hrest⟩ := List.forall_mem_cons.mp hforms
    rw [ofForms] at hrules
    obtain ⟨rule, hrule, hrules⟩ := Logged.result_andThen_eq_ok_iff.mp hrules
    obtain ⟨others, hothers, hrules⟩ := Logged.result_andThen_eq_ok_iff.mp hrules
    obtain rfl := Except.ok.inj hrules
    obtain ⟨hwell, hdeclared⟩ := ihForm hform rule hrule
    obtain ⟨hothersWell, hothersDeclared⟩ := ihRest hrest others hothers
    exact ⟨List.forall_mem_cons.mpr ⟨hwell, hothersWell⟩, form, rest, rfl, hdeclared,
      hothersDeclared⟩
  -- A field that is described by its items.
  case case10 =>
    intro field item ih hitem rule hrule
    rw [ofForm] at hrule
    obtain ⟨item?, hitem?, hrule⟩ := Logged.result_andThen_eq_ok_iff.mp hrule
    obtain ⟨allowed, -, hrule⟩ := Logged.result_andThen_eq_ok_iff.mp hrule
    cases allowed with
    | none => exact Except.ok.inj hrule ▸ isMadeOf_ofItem rfl (ih hitem item? hitem?)
    | some allowed =>
      refine Except.ok.inj hrule ▸ isMadeOf_ofItem rfl fun made hmade => ?_
      exact Option.some.inj hmade ▸ ⟨.leaf (fits_oneOf allowed), trivial⟩
  -- A field that is described by a type and modifiers.
  case case11 =>
    intro field spec ih hspec rule hrule
    obtain ⟨t, start, made, -, hstart, hmade, rfl⟩ := ofForm_single_eq_ok hrule
    obtain ⟨hwell, hdeclared⟩ := ih t hspec start hstart
    have hmodified := becomes_applyModifiers hwell.fits hmade
    have hbecomes : start.Becomes (finish field spec made) :=
      hmodified.trans (becomes_finish hmodified.fits)
    exact ⟨hbecomes.isWellFormed hwell, hbecomes.isDeclaredBy hdeclared⟩
  -- Items of a known type.
  case case12 =>
    intro field item t ht ih hitem item? hitem? made hmade
    rw [ofItemSpec, ht] at hitem?
    obtain ⟨rule, hrule, hitem?⟩ := Logged.result_andThen_eq_ok_iff.mp hitem?
    obtain rfl := Except.ok.inj hitem?
    exact Option.some.inj hmade ▸ ih hitem rule hrule
  -- Items of a type that is not known.
  case case13 =>
    intro field item hnone _ item? hitem? made hmade
    rw [ofItemSpec, hnone] at hitem?
    obtain ⟨noted, -, hitem?⟩ := Logged.result_andThen_eq_ok_iff.mp hitem?
    obtain rfl := Except.ok.inj hitem?
    contradiction

/-- **Rules of definitions are well formed**, if no key occurs twice in the definition, and have the
fields that the definition declares. -/
theorem isWellFormed_ofDefinition {overrides : Overrides} {definition : Value} {rule : Rule}
    (h : (ofDefinition overrides definition).result = .ok rule) (hkeys : definition.IsWellKeyed) :
    rule.IsWellFormed ∧ ∃ forms fields, Definition.read definition = .ok forms ∧
      rule = ofFields fields ∧ FieldsAreDeclaredBy fields forms := by
  obtain ⟨forms, rules, hforms, hrules, rfl⟩ := ofDefinition_eq_ok h
  have hkeyed : Definition.FieldsAreWellKeyed forms := by
    unfold Definition.read at hforms
    split at hforms
    · exact Definition.fieldsAreWellKeyed_of_readEntries hkeys hforms
    · contradiction
  have hparts : (ofParts overrides forms).result = .ok (ofFields rules) := by
    rw [ofParts]
    exact Logged.result_andThen_eq_ok_iff.mpr ⟨rules, hrules, rfl⟩
  obtain ⟨hwell, fields, hfields, hdeclared⟩ :=
    (isMadeOf_of_made overrides).2.1 forms hkeyed _ hparts
  exact ⟨hwell, forms, fields, hforms, hfields, hdeclared⟩

end Rule

end FieldSchema
