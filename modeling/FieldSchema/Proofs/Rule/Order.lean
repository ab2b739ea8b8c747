import FieldSchema.Proofs.Rule.Agreement
import FieldSchema.Proofs.Rule.Changes
import FieldSchema.Proofs.Validation.Stable

/-!
# The order of modifiers

A mapping describes a field whatever the order of its entries, as long as none of them states
allowed values, which start a rule over.  The changes that modifiers make are the same in every
order, and what they add up to does not depend on the order but for one thing: the refinements of
the rule come in the order of the modifiers.  None of them changes values, so a value is accepted
when all of them accept it, in whatever order they are asked.

So a mapping has a rule in every order of its entries or in none (`Rule.exists_ofField_perm`), its
rules differ in the order of their refinements only (`Rule.SameUpToOrder`), and they accept the same
values with the same output; only which refinement is the first to reject a value may differ.

* `FieldSpec.SameUpToOrder`: fields described in another order.
* `Rule.SameUpToOrder`: their rules.
* `ValidationSchema.parse_perm`: what schemas of one such field accept.
-/

namespace FieldSchema

/-! ## Described fields -/

namespace Entries

/-- In a mapping what is kept under a text is the value of the entry whose key is that text. -/
theorem getText?_eq_some_iff {entries : Entries} (h : entries.HasUniqueTexts) {name : String}
    {v : Value} : entries.getText? name = some v ↔
      ∃ entry ∈ entries, entry.1.asText? = some name ∧ entry.2 = v := by
  induction entries with
  | nil => simp [getText?]
  | cons first rest ih =>
    have hrest : HasUniqueTexts rest := fun a ha b hb =>
      h a (List.mem_cons_of_mem _ ha) b (List.mem_cons_of_mem _ hb)
    rw [getText?]
    split
    · rename_i hfirst
      constructor
      · intro hv
        exact ⟨first, List.mem_cons_self, hfirst, Option.some.inj hv⟩
      · rintro ⟨entry, hentry, hname, rfl⟩
        rw [h first List.mem_cons_self entry hentry name hfirst hname]
    · rename_i hfirst
      rw [ih hrest]
      constructor
      · rintro ⟨entry, hentry, hfound⟩
        exact ⟨entry, List.mem_cons_of_mem _ hentry, hfound⟩
      · rintro ⟨entry, hentry, hname, hv⟩
        rcases List.mem_cons.mp hentry with rfl | hentry
        · exact absurd hname hfirst
        · exact ⟨entry, hentry, hname, hv⟩

/-- What is kept under a text does not depend on the order of the entries. -/
theorem getText?_perm {entries entries' : Entries} (h : entries.HasUniqueTexts)
    (hperm : entries.Perm entries') (name : String) :
    entries'.getText? name = entries.getText? name := by
  refine Option.ext fun v => ?_
  rw [getText?_eq_some_iff (h.perm hperm), getText?_eq_some_iff h]
  simp only [hperm.mem_iff]

end Entries

namespace FieldSpec

/-- Two descriptions of a field that differ in the order of the modifiers: what is looked up by its
name is the same in both. -/
structure SameUpToOrder (spec spec' : FieldSpec) : Prop where
  type_eq : spec'.type = spec.type
  perm : spec.modifiers.Perm spec'.modifiers
  get?_eq : ∀ name ∈ ["items", "schema", "default", "required"], spec'.get? name = spec.get? name

variable {spec spec' : FieldSpec}

/-- A modifier with one value has that value in every order. -/
theorem IsSettled.get?_perm {name : String} (h : spec.IsSettled name) (h' : spec'.IsSettled name)
    (hperm : spec.modifiers.Perm spec'.modifiers) : spec'.get? name = spec.get? name := by
  cases hget : spec.get? name with
  | some v =>
    obtain ⟨modifier, hmem, hname, rfl⟩ := exists_of_get? hget
    exact h' modifier (hperm.mem_iff.mp hmem) hname
  | none =>
    cases hget' : spec'.get? name with
    | none => rfl
    | some v =>
      obtain ⟨modifier, hmem, hname, rfl⟩ := exists_of_get? hget'
      exact (h modifier (hperm.mem_iff.mpr hmem) hname).symm.trans hget

/-- Whether a modifier occurs does not depend on the order. -/
theorem SameUpToOrder.has_eq (h : spec.SameUpToOrder spec') (name : String) :
    spec'.has name = spec.has name :=
  h.perm.any_eq.symm

theorem SameUpToOrder.get_eq (h : spec.SameUpToOrder spec') {name : String}
    (hname : name ∈ ["items", "schema", "default", "required"]) :
    spec'.get name = spec.get name := by
  rw [get, get, h.get?_eq name hname]

/-- Entries in another order describe a field in another order. -/
theorem sameUpToOrder_ofEntries {entries entries' : Entries} (h : entries.HasUniqueTexts)
    (hperm : entries.Perm entries') :
    (ofEntries entries).SameUpToOrder (ofEntries entries') := by
  have hmodifiers : (ofEntries entries).modifiers.Perm (ofEntries entries').modifiers :=
    (hperm.filter _).map _
  refine ⟨?_, hmodifiers, fun name hname => ?_⟩
  · rw [ofEntries, ofEntries, Entries.getText, Entries.getText, Entries.getText?_perm h hperm]
  · have hspelling : ∀ name ∈ ["items", "schema", "default", "required"],
        name ∉ ["minlength", "maxlength", "regex"] := by decide
    exact (isSettled_of_hasUniqueTexts h (hspelling name hname)).get?_perm
      (isSettled_of_hasUniqueTexts (h.perm hperm) (hspelling name hname)) hmodifiers

end FieldSpec

namespace Rule

/-- Two rules that differ in the order of their refinements only. -/
structure SameUpToOrder (rule rule' : Rule) : Prop where
  kind_eq : rule'.kind = rule.kind
  isOptional_eq : rule'.facts.isOptional = rule.facts.isOptional
  default?_eq : rule'.facts.default? = rule.facts.default?
  item?_eq : rule'.item? = rule.item?
  fields?_eq : rule'.fields? = rule.fields?
  perm : rule.facts.refinements.Perm rule'.facts.refinements

variable {overrides : Overrides} {field : TextValue} {rule rule' : Rule} {spec spec' : FieldSpec}

/-! ## Rules of types -/

theorem ofType_array_eq (overrides : Overrides) (field : TextValue) (spec : FieldSpec) :
    ofType overrides field .array spec = match spec.items? with
      | some item => (ofItemSpec overrides field item).andThen fun rule => .ok (ofItem rule)
      | none => orEndless spec "items" (ofCategory .array) := by
  rw [ofType]
  split <;> simp [*]

theorem ofType_object_eq (overrides : Overrides) (field : TextValue) (spec : FieldSpec) :
    ofType overrides field .object spec = match spec.schema? with
      | some entries => (Compiling.ofDefinition (Definition.readEntries entries)).andThen
          (ofParts overrides)
      | none => orEndless spec "schema" (ofCategory .object) := by
  rw [ofType]
  split
  · rename_i entries hentries
    simp only [hentries]
    split <;> simp only [*, Compiling.ofDefinition] <;> rfl
  · simp [*]

theorem orEndless_congr {part : String} (h : spec'.get part = spec.get part) (made : Rule) :
    orEndless spec' part made = orEndless spec part made := by
  unfold orEndless FieldSpec.refersBack
  rw [h]

/-- The rule of a type depends on a description through its items and its parts. -/
theorem ofType_congr (hitems : spec'.get "items" = spec.get "items")
    (hschema : spec'.get "schema" = spec.get "schema") (t : CanonicalType) :
    ofType overrides field t spec' = ofType overrides field t spec := by
  have hitems? : spec'.items? = spec.items? := congrArg FieldSpec.ofValue? hitems
  have hschema? : spec'.schema? = spec.schema? := congrArg Value.asEntries? hschema
  cases t with
  | array => rw [ofType_array_eq, ofType_array_eq, hitems?, orEndless_congr hitems]
  | object => rw [ofType_object_eq, ofType_object_eq, hschema?, orEndless_congr hschema]
  | _ => unfold ofType; rfl

/-- A rule of a type does not bring texts to lower case. -/
theorem noLowercase_ofType {t : CanonicalType}
    (h : (ofType overrides field t spec).result = .ok rule) :
    ∀ r ∈ rule.facts.refinements, r.kind ≠ .lowercase := by
  by_cases ht : t = .objectId
  · subst ht
    unfold ofType at h
    obtain rfl := Except.ok.inj h
    exact List.forall_mem_singleton.mpr RefinementKind.noConfusion
  · rw [(ofType_eq_ok h).2.1 ht]
    exact fun r hr => absurd hr List.not_mem_nil

/-! ## Rules after modifiers -/

/-- Refinements of changes do not bring texts to lower case. -/
theorem noLowercase_changed {changes : List Change}
    (h : ∀ r ∈ rule.facts.refinements, r.kind ≠ .lowercase) :
    ∀ r ∈ (rule.changed changes).facts.refinements, r.kind ≠ .lowercase := by
  intro r hr
  rw [(perm_changed rule changes).mem_iff, List.mem_append, List.mem_append] at hr
  rcases hr with (hold | hnew) | href
  · exact h r hold
  · obtain ⟨change, -, hchange⟩ := List.mem_filterMap.mp hnew
    cases change with
    | adds own hobjectId hlower =>
      obtain rfl := Option.some.inj hchange
      exact hlower
    | _ => contradiction
  · unfold referred at href
    split at href
    · obtain rfl := List.mem_singleton.mp href
      exact RefinementKind.noConfusion
    · exact absurd href List.not_mem_nil

/-- **Changes in another order** come to a rule that differs in the order of the refinements only,
if the same default is stated last. -/
theorem sameUpToOrder_changed {changes changes' : List Change} (hperm : changes.Perm changes')
    (hdefault : (rule.changed changes').facts.default? = (rule.changed changes).facts.default?) :
    (rule.changed changes).SameUpToOrder (rule.changed changes') where
  kind_eq := by rw [kind_changed, kind_changed]
  isOptional_eq := by rw [isOptional_changed, isOptional_changed, hperm.any_eq]
  default?_eq := hdefault
  item?_eq := by rw [item?_changed, item?_changed]
  fields?_eq := by rw [fields?_changed, fields?_changed]
  perm := by
    have hreferred : rule.referred changes' = rule.referred changes := by
      rw [referred, hperm.symm.any_eq, referred]
    refine (perm_changed rule changes).trans (List.Perm.trans ?_ (perm_changed rule changes').symm)
    rw [hreferred]
    exact ((hperm.filterMap _).append_left _).append_right _

/-- **Modifiers in another order** make a rule when they do in the first one, and it differs in the
order of the refinements only. -/
theorem exists_applyModifiers_perm (hspec : spec.SameUpToOrder spec')
    (henum : ∀ modifier ∈ spec.modifiers, modifier.1.asText? ≠ some "enum")
    (h : applyModifiers overrides field rule spec.modifiers = .ok rule') :
    ∃ made, applyModifiers overrides field rule spec'.modifiers = .ok made ∧
      rule'.SameUpToOrder made := by
  have henum' : ∀ modifier ∈ spec'.modifiers, modifier.1.asText? ≠ some "enum" :=
    fun modifier hmem => henum modifier (hspec.perm.mem_iff.mpr hmem)
  obtain ⟨changes, hchanges, rfl⟩ := (applyModifiers_eq_ok_iff henum).mp h
  obtain ⟨changes', hchanges', hperm⟩ := List.perm_comp_forall₂ hspec.perm.symm hchanges
  have hmade : applyModifiers overrides field rule spec'.modifiers = .ok (rule.changed changes') :=
    (applyModifiers_eq_ok_iff henum').mpr ⟨changes', hchanges', rfl⟩
  refine ⟨_, hmade, sameUpToOrder_changed hperm.symm ?_⟩
  rw [(run_of_applyModifiers spec'.type henum' hmade).default?_eq,
    (run_of_applyModifiers spec.type henum h).default?_eq]
  exact congrArg (Option.or · _) (hspec.get?_eq "default" (by decide))

/-! ## After the last modifier -/

theorem SameUpToOrder.strengthen (h : rule.SameUpToOrder rule') (hspec : spec.SameUpToOrder spec') :
    (strengthen field spec rule).SameUpToOrder (strengthen field spec' rule') := by
  unfold Rule.strengthen
  rw [h.kind_eq, hspec.has_eq]
  split
  · refine ⟨?_, ?_, ?_, ?_, ?_, ?_⟩
    · rw [kind_refine, kind_refine, h.kind_eq]
    · rw [facts_refine, facts_refine, h.isOptional_eq]
    · rw [facts_refine, facts_refine, h.default?_eq]
    · rw [item?_refine, item?_refine, h.item?_eq]
    · rw [refine, refine, fields?_withFacts, fields?_withFacts, h.fields?_eq]
    · rw [facts_refine, facts_refine]
      exact h.perm.append_right _
  · exact h

theorem SameUpToOrder.relax (h : rule.SameUpToOrder rule') (hspec : spec.SameUpToOrder spec') :
    (relax spec rule).SameUpToOrder (relax spec' rule') := by
  unfold Rule.relax
  rw [hspec.has_eq, hspec.get_eq (by decide)]
  split
  · refine ⟨?_, ?_, ?_, ?_, ?_, ?_⟩
    · rw [markOptional, markOptional, kind_withFacts, kind_withFacts, h.kind_eq]
    · rw [markOptional, markOptional, facts_withFacts, facts_withFacts]
    · rw [markOptional, markOptional, facts_withFacts, facts_withFacts, h.default?_eq]
    · rw [markOptional, markOptional, item?_withFacts, item?_withFacts, h.item?_eq]
    · rw [markOptional, markOptional, fields?_withFacts, fields?_withFacts, h.fields?_eq]
    · rw [markOptional, markOptional, facts_withFacts, facts_withFacts]
      exact h.perm
  · exact h

/-- What is added after the last modifier keeps rules the same up to the order. -/
theorem SameUpToOrder.finish (h : rule.SameUpToOrder rule') (hspec : spec.SameUpToOrder spec') :
    (finish field spec rule).SameUpToOrder (finish field spec' rule') :=
  (h.strengthen hspec).relax hspec

theorem noLowercase_finish (h : ∀ r ∈ rule.facts.refinements, r.kind ≠ .lowercase) :
    ∀ r ∈ (finish field spec rule).facts.refinements, r.kind ≠ .lowercase := by
  obtain ⟨more, hstrong, hmore⟩ := exists_adds_strengthen field spec rule
  have hrelax : (finish field spec rule).facts.refinements = rule.facts.refinements ++ more := by
    rw [finish, hstrong, Rule.relax]
    split
    · rw [markOptional, facts_withFacts, facts_refine]
    · rw [facts_refine]
  rw [hrelax]
  intro r hr
  exact (List.mem_append.mp hr).elim (h r) (hmore r)

/-! ## Fields -/

/-- **Fields described in another order** have a rule when they do in the first one; it differs in
the order of the refinements only, and does not bring texts to lower case. -/
theorem exists_ofForm_perm (hspec : spec.SameUpToOrder spec')
    (henum : ∀ modifier ∈ spec.modifiers, modifier.1.asText? ≠ some "enum")
    (h : (ofForm overrides field (.single spec)).result = .ok rule) :
    (∃ made, (ofForm overrides field (.single spec')).result = .ok made ∧
      rule.SameUpToOrder made) ∧
    ∀ r ∈ rule.facts.refinements, r.kind ≠ .lowercase := by
  obtain ⟨t, start, between, htype, hstart, hbetween, rfl⟩ := ofForm_single_eq_ok h
  obtain ⟨between', hbetween', hsame⟩ := exists_applyModifiers_perm hspec henum hbetween
  have hstart' : (ofType overrides field t spec').result = .ok start := by
    rwa [ofType_congr (hspec.get_eq (by decide)) (hspec.get_eq (by decide))]
  refine ⟨⟨finish field spec' between', ?_, hsame.finish hspec⟩, noLowercase_finish ?_⟩
  · rw [ofForm, hspec.type_eq]
    exact Logged.result_andThen_eq_ok_iff.mpr ⟨t, Compiling.result_ofDefinition_eq_ok_iff.mpr
      ((Value.categoryFor_eq_ok_iff _ _ _).mpr htype), Logged.result_andThen_eq_ok_iff.mpr
        ⟨start, hstart', Logged.result_andThen_eq_ok_iff.mpr ⟨between', hbetween', rfl⟩⟩⟩
  · obtain ⟨changes, -, rfl⟩ := (applyModifiers_eq_ok_iff henum).mp hbetween
    exact noLowercase_changed (noLowercase_ofType hstart)

/-- **Mappings in another order** have a rule when they do in the first one. -/
theorem exists_ofField_perm {entries entries' : Entries} (hkeys : entries.HasUniqueTexts)
    (hperm : entries.Perm entries') (henum : ∀ entry ∈ entries, entry.1.asText? ≠ some "enum")
    (h : (ofField overrides field (.map entries)).result = .ok rule) :
    (∃ made, (ofField overrides field (.map entries')).result = .ok made ∧
      rule.SameUpToOrder made) ∧
    ∀ r ∈ rule.facts.refinements, r.kind ≠ .lowercase := by
  obtain ⟨form, hform, h⟩ := Logged.result_andThen_eq_ok_iff.mp h
  obtain rfl := Except.ok.inj (Compiling.result_ofDefinition_eq_ok_iff.mp hform)
  have hmodifiers : ∀ modifier ∈ (FieldSpec.ofEntries entries).modifiers,
      modifier.1.asText? ≠ some "enum" := by
    intro modifier hmem htext
    obtain ⟨entry, hentry, hname, -⟩ :=
      FieldSpec.exists_entry_of_mem_ofEntries (by decide) hmem htext
    exact henum entry hentry hname
  obtain ⟨⟨made, hmade, hsame⟩, hlower⟩ :=
    exists_ofForm_perm (FieldSpec.sameUpToOrder_ofEntries hkeys hperm) hmodifiers h
  exact ⟨⟨made, Logged.result_andThen_eq_ok_iff.mpr
    ⟨_, Compiling.result_ofDefinition_eq_ok_iff.mpr rfl, hmade⟩, hsame⟩, hlower⟩

/-! ## Accepted values -/

variable {policy : ObjectPolicy} {path : String} {done : Nat} {history left : CallHistory}
  {v w : Value}

/-- Refinements that do not change values accept a value when each of them does. -/
theorem checkRefinements_eq_accepted_iff {refinements : List Refinement} {input : Value}
    (hlower : ∀ r ∈ refinements, r.kind ≠ .lowercase) :
    checkRefinements input refinements v = .ok (.accepted w) ↔
      w = v ∧ ∀ r ∈ refinements, r.check v = .ok none := by
  constructor
  · exact checkRefinements_eq_accepted hlower
  · rintro ⟨rfl, h⟩
    exact checkRefinements_of_forall input hlower h

/-- They accept the same values in every order. -/
theorem refineVerdict_perm {refinements refinements' : List Refinement} {input : Value}
    (hlower : ∀ r ∈ refinements, r.kind ≠ .lowercase) (hperm : refinements.Perm refinements')
    (verdict : Verdict Value) :
    refineVerdict input refinements' verdict history = (.ok (.accepted w), left) ↔
      refineVerdict input refinements verdict history = (.ok (.accepted w), left) := by
  have hlower' : ∀ r ∈ refinements', r.kind ≠ .lowercase :=
    fun r hr => hlower r (hperm.mem_iff.mpr hr)
  cases verdict with
  | accepted u =>
    simp only [refineVerdict, Checking.ofExcept, Prod.mk.injEq,
      checkRefinements_eq_accepted_iff hlower, checkRefinements_eq_accepted_iff hlower',
      hperm.mem_iff]
  | rejected list => exact Iff.rfl

/-- **Rules that differ in the order of their refinements** accept the same values, as the same ones
and with the same calls. -/
theorem SameUpToOrder.check_eq_accepted_iff (h : rule.SameUpToOrder rule')
    (hlower : ∀ r ∈ rule.facts.refinements, r.kind ≠ .lowercase) :
    check policy rule' path done v history = (.ok (.accepted w), left) ↔
      check policy rule path done v history = (.ok (.accepted w), left) := by
  obtain ⟨hkind, -, -, hitem, hfields, hperm⟩ := h
  have hrefine : ∀ {input : Value} {verdict : Verdict Value} {u : Value} {between : CallHistory},
      refineVerdict input rule'.facts.refinements verdict between = (.ok (.accepted u), left) ↔
        refineVerdict input rule.facts.refinements verdict between = (.ok (.accepted u), left) :=
    fun {_ verdict _ _} => refineVerdict_perm hlower hperm verdict
  cases rule with
  | leaf facts kind =>
    cases rule' with
    | leaf facts' kind' =>
      obtain rfl : kind' = kind := hkind
      rw [check, check]
      exact hrefine
    | array facts' item => cases hitem
    | object facts' fields => cases hfields
  | array facts item =>
    cases rule' with
    | array facts' item' =>
      obtain rfl : item' = item := Option.some.inj hitem
      rw [check_array_eq_accepted_iff, check_array_eq_accepted_iff]
      simp only [Rule.facts] at hrefine
      simp only [hrefine]
    | leaf facts' kind' => cases hitem
    | object facts' fields => cases hitem
  | object facts fields =>
    cases rule' with
    | object facts' fields' =>
      obtain rfl : fields' = fields := Option.some.inj hfields
      rw [check_object_eq_accepted_iff, check_object_eq_accepted_iff]
      simp only [Rule.facts] at hrefine
      simp only [hrefine]
    | leaf facts' kind' => cases hfields
    | array facts' item => cases hfields

/-- So do fields with such rules. -/
theorem SameUpToOrder.checkField_eq_accepted_iff (h : rule.SameUpToOrder rule')
    (hlower : ∀ r ∈ rule.facts.refinements, r.kind ≠ .lowercase) {index : Nat}
    {earlier : EarlierFields} {name : TextValue} {given? outcome : Option Value} :
    checkField policy path done index earlier name rule' given? history =
        (.ok (.accepted outcome), left) ↔
      checkField policy path done index earlier name rule given? history =
        (.ok (.accepted outcome), left) := by
  rw [Rule.checkField_eq_accepted_iff, Rule.checkField_eq_accepted_iff]
  simp only [SuppliedAt, h.default?_eq, h.isOptional_eq, h.check_eq_accepted_iff hlower]

end Rule

/-! ## Schemas of one field -/

namespace ValidationSchema

variable {options : ValidationOptions} {field : TextValue} {schema : ValidationSchema}

/-- The definition of one field. -/
def definitionOf (field : TextValue) (raw : Value) : Value := .map [(.ofTextValue field, raw)]

/-- The fields of the definition are what is read of the one field. -/
theorem read_definitionOf (field : TextValue) (raw : Value) :
    Definition.read (definitionOf field raw) =
      (FieldForm.read (some field) raw).map fun form => [(field, form)] := by
  rw [definitionOf, Definition.read, Definition.readEntries, Value.asTextValue?_ofTextValue]
  dsimp only
  cases FieldForm.read (some field) raw <;> rfl

/-- The schema of one field comes from its rule. -/
theorem ofDefinition_single_eq_ok_iff {raw : Value} :
    (ofDefinition options (definitionOf field raw)).result = .ok schema ↔
      ∃ rule, (Rule.ofField options.overrides field raw).result = .ok rule ∧
        schema = { rule := .ofFields [(field, rule)], options } := by
  have hparts : ∀ form made, (Rule.ofParts options.overrides [(field, form)]).result = .ok made ↔
      ∃ rule, (Rule.ofForm options.overrides field form).result = .ok rule ∧
        made = .ofFields [(field, rule)] := by
    intro form made
    rw [Rule.ofParts, Rule.ofForms, Rule.ofForms]
    constructor
    · intro h
      obtain ⟨rules, hrules, h⟩ := Logged.result_andThen_eq_ok_iff.mp h
      obtain ⟨rule, hrule, hrules⟩ := Logged.result_andThen_eq_ok_iff.mp hrules
      obtain rfl := Except.ok.inj hrules
      exact ⟨rule, hrule, (Except.ok.inj h).symm⟩
    · rintro ⟨rule, hrule, rfl⟩
      exact Logged.result_andThen_eq_ok_iff.mpr ⟨[(field, rule)],
        Logged.result_andThen_eq_ok_iff.mpr ⟨rule, hrule, rfl⟩, rfl⟩
  simp only [ofDefinition, Rule.ofDefinition, Rule.ofField, Logged.result_andThen_eq_ok_iff,
    Compiling.result_ofDefinition_eq_ok_iff, read_definitionOf]
  constructor
  · rintro ⟨made, ⟨forms, hforms, hmade⟩, hschema⟩
    cases hread : FieldForm.read (some field) raw with
    | error cause =>
      rw [hread] at hforms
      cases hforms
    | ok form =>
      rw [hread] at hforms
      obtain rfl := Except.ok.inj hforms
      obtain ⟨rule, hrule, rfl⟩ := (hparts form made).mp hmade
      exact ⟨rule, ⟨form, rfl, hrule⟩, (Except.ok.inj hschema).symm⟩
  · rintro ⟨rule, ⟨form, hread, hrule⟩, rfl⟩
    refine ⟨.ofFields [(field, rule)], ⟨[(field, form)], by rw [hread]; rfl, ?_⟩, rfl⟩
    exact (hparts form _).mpr ⟨rule, hrule, rfl⟩

/-- Schemas of one field accept the same inputs when the rules differ in the order of their
refinements. -/
theorem parse_single_eq_ok_iff {rule rule' : Rule} (h : rule.SameUpToOrder rule')
    (hlower : ∀ r ∈ rule.facts.refinements, r.kind ≠ .lowercase) {data : Value}
    {document : Entries} {history left : CallHistory} :
    parse { rule := .ofFields [(field, rule')], options } data history = (.ok document, left) ↔
      parse { rule := .ofFields [(field, rule)], options } data history = (.ok document, left) := by
  rw [parse_eq_ok_iff, parse_eq_ok_iff, check, check, Rule.checkObject_eq_accepted_iff,
    Rule.checkObject_eq_accepted_iff]
  have hnone : ∀ place done index earlier entries,
      Rule.checkFields ⟨"ValidationModel", options.strict⟩ [] place done index earlier entries =
        .value (.accepted []) := by
    intro place done index earlier entries
    rw [Rule.checkFields]
  simp only [Rule.ofFields, Rule.fields?, Option.getD_some, policy, if_neg Bool.false_ne_true,
    Rule.checkFields_cons_eq_accepted_iff, hnone, h.checkField_eq_accepted_iff hlower,
    Rule.fieldTexts, List.map_cons, List.map_nil]

/-- **The order of modifiers does not matter.**  A mapping without allowed values has a rule in
every order of its entries or in none.  The rules are of one kind, agree on whether the field may be
left out, on its default and on the rules of its items or parts, and have the same refinements in
another order.  Schemas of one such field accept the same inputs, with the same output and the same
calls. -/
theorem parse_perm {entries entries' : Entries} (options : ValidationOptions) (field : TextValue)
    (hkeys : entries.HasDistinctKeys) (hperm : entries.Perm entries')
    (henum : ∀ entry ∈ entries, entry.1.asText? ≠ some "enum") :
    ((∃ rule, (Rule.ofField options.overrides field (.map entries)).result = .ok rule) ↔
      ∃ rule', (Rule.ofField options.overrides field (.map entries')).result = .ok rule') ∧
    (∀ rule rule', (Rule.ofField options.overrides field (.map entries)).result = .ok rule →
      (Rule.ofField options.overrides field (.map entries')).result = .ok rule' →
        rule.SameUpToOrder rule') ∧
    ((∃ schema, (ofDefinition options (definitionOf field (.map entries))).result = .ok schema) ↔
      ∃ schema', (ofDefinition options (definitionOf field (.map entries'))).result =
        .ok schema') ∧
    ∀ schema schema',
      (ofDefinition options (definitionOf field (.map entries))).result = .ok schema →
      (ofDefinition options (definitionOf field (.map entries'))).result = .ok schema' →
      ∀ data history document left,
        schema.parse data history = (.ok document, left) ↔
          schema'.parse data history = (.ok document, left) := by
  have hunique := hkeys.hasUniqueTexts
  have henum' : ∀ entry ∈ entries', entry.1.asText? ≠ some "enum" :=
    fun entry hentry => henum entry (hperm.mem_iff.mpr hentry)
  have hrules : (∃ rule, (Rule.ofField options.overrides field (.map entries)).result = .ok rule) ↔
      ∃ rule', (Rule.ofField options.overrides field (.map entries')).result = .ok rule' := by
    constructor
    · rintro ⟨rule, hrule⟩
      obtain ⟨⟨made, hmade, -⟩, -⟩ := Rule.exists_ofField_perm hunique hperm henum hrule
      exact ⟨made, hmade⟩
    · rintro ⟨rule', hrule'⟩
      obtain ⟨⟨made, hmade, -⟩, -⟩ :=
        Rule.exists_ofField_perm (hunique.perm hperm) hperm.symm henum' hrule'
      exact ⟨made, hmade⟩
  have hsame : ∀ rule rule', (Rule.ofField options.overrides field (.map entries)).result =
      .ok rule → (Rule.ofField options.overrides field (.map entries')).result = .ok rule' →
        rule.SameUpToOrder rule' := by
    intro rule rule' hrule hrule'
    obtain ⟨⟨made, hmade, hsame⟩, -⟩ := Rule.exists_ofField_perm hunique hperm henum hrule
    obtain rfl := Except.ok.inj (hmade.symm.trans hrule')
    exact hsame
  refine ⟨hrules, hsame, ?_, ?_⟩
  · simp only [ofDefinition_single_eq_ok_iff]
    constructor
    · rintro ⟨-, rule, hrule, -⟩
      exact (hrules.mp ⟨rule, hrule⟩).elim fun made hmade => ⟨_, made, hmade, rfl⟩
    · rintro ⟨-, rule', hrule', -⟩
      exact (hrules.mpr ⟨rule', hrule'⟩).elim fun made hmade => ⟨_, made, hmade, rfl⟩
  · intro schema schema' hschema hschema' data history document left
    obtain ⟨rule, hrule, rfl⟩ := ofDefinition_single_eq_ok_iff.mp hschema
    obtain ⟨rule', hrule', rfl⟩ := ofDefinition_single_eq_ok_iff.mp hschema'
    obtain ⟨-, hlower⟩ := Rule.exists_ofField_perm hunique hperm henum hrule
    exact (parse_single_eq_ok_iff (hsame rule rule' hrule hrule') hlower).symm

/-- The entries of a field for numbers with two bounds. -/
def sized : Entries :=
  [(.text "type", .text "Number"), (.text "min", .int 1), (.text "max", .int 9)]

/-- The same entries in another order. -/
def resized : Entries :=
  [(.text "max", .int 9), (.text "min", .int 1), (.text "type", .text "Number")]

/-- The lower bound of the field. -/
def leastSize : Refinement :=
  .bounds .number (.int 1) .null (.text "Min value for size is 1")

/-- The upper bound of the field. -/
def mostSize : Refinement :=
  .bounds .number .null (.int 9) (.text "Max value for size is 9")

/-- The schema of the field with its bounds in an order. -/
def sizedSchema (refinements : List Refinement) : ValidationSchema where
  rule := .ofFields [(.plain "size", .leaf { refinements } .number)]

/-- The bounds come in the order in which they are stated, and the schemas accept the same
inputs. -/
theorem parse_perm_sized :
    (ofDefinition {} (definitionOf "size" (.map sized))).result =
        .ok (sizedSchema [leastSize, mostSize]) ∧
      (ofDefinition {} (definitionOf "size" (.map resized))).result =
        .ok (sizedSchema [mostSize, leastSize]) ∧
      ∀ data history document left,
        (sizedSchema [leastSize, mostSize]).parse data history = (.ok document, left) ↔
          (sizedSchema [mostSize, leastSize]).parse data history = (.ok document, left) := by
  have hsized : (ofDefinition {} (definitionOf "size" (.map sized))).result =
      .ok (sizedSchema [leastSize, mostSize]) := by
    refine ofDefinition_single_eq_ok_iff.mpr
      ⟨_, Logged.result_andThen_eq_ok_iff.mpr ⟨_, rfl, ?_⟩, rfl⟩
    rw [Rule.ofForm]
    unfold Rule.ofType
    with_unfolding_all rfl
  have hresized : (ofDefinition {} (definitionOf "size" (.map resized))).result =
      .ok (sizedSchema [mostSize, leastSize]) := by
    refine ofDefinition_single_eq_ok_iff.mpr
      ⟨_, Logged.result_andThen_eq_ok_iff.mpr ⟨_, rfl, ?_⟩, rfl⟩
    rw [Rule.ofForm]
    unfold Rule.ofType
    with_unfolding_all rfl
  have hkeys : sized.HasDistinctKeys := by
    simp [sized, Entries.HasDistinctKeys, Value.equals, Value.asText?]
  have hperm : sized.Perm resized := (List.reverse_perm sized).symm
  have henum : ∀ entry ∈ sized, entry.1.asText? ≠ some "enum" := by
    simp [sized, Value.asText?]
  exact ⟨hsized, hresized, (parse_perm {} "size" hkeys hperm henum).2.2.2 _ _ hsized hresized⟩

end ValidationSchema

end FieldSchema
