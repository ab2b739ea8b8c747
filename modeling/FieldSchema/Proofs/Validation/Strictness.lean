import FieldSchema.Proofs.Validation.Names
import FieldSchema.Proofs.Validation.Runs

/-!
# Strict schemas

A strict schema rejects an object that has a key besides the names of its fields.  It does so at
every depth: for the input, for the objects inside it, in lists as well as under names, and for the
objects that defaults make.  This is all that a strict schema does more than a schema that is not
strict: it accepts what the other one accepts, with the same output and after the same calls, as
long as every object that the check comes to has known keys only.

Which objects a check comes to depends on the run.  A default stands in for a field that is left
out, and what it makes may depend on the calls before it.  So known keys are asked for along the run
of the schema that is not strict (`Rule.HasKnownKeys`).  Objects with any entries, mappings and
values of any kind are not asked for anything.

* `Rule.NamesKeys`: no key is strange to the fields of an object.
* `Rule.check_strict_eq_accepted_iff`: strict runs, by induction on the rule.
* `ValidationSchema.parse_strict_eq_iff`: strict schemas.
-/

namespace FieldSchema

/-! ## Known keys -/

/-- Every item of a list has a property after the calls that the checks of the items before it have
made. -/
def Checking.EachHolds (check : Value → Checking (Verdict Value))
    (P : Value → CallHistory → Prop) : List Value → CallHistory → Prop
  | [], _ => True
  | v :: rest, history =>
    P v history ∧ ∀ verdict left, check v history = (.ok verdict, left) →
      EachHolds check P rest left

namespace Rule

/-- Every key of an object is the name of a field. -/
def NamesKeys (fields : List (TextValue × Rule)) (entries : Entries) : Prop :=
  ∀ entry ∈ entries, ∃ field ∈ fields, entry.1.asText? = some field.1.text

mutual

/-- Every object with fields that the check of a value comes to has known keys: the value itself,
its parts, and what defaults make for parts that are left out. -/
def HasKnownKeys (policy : ObjectPolicy) (rule : Rule) (path : String) (done : Nat) (v : Value)
    (history : CallHistory) : Prop :=
  match rule with
  | .leaf _ _ => True
  | .array _ item =>
    ∀ items, v.listItems? = some items →
      Checking.EachHolds (check policy item path done) (HasKnownKeys policy item path done)
        items history
  | .object _ fields =>
    ∀ entries, v = .map entries →
      NamesKeys fields entries ∧ FieldsHaveKnownKeys policy fields path done 0 {} entries history

/-- The same of what is supplied for the fields of an object. -/
def FieldsHaveKnownKeys (policy : ObjectPolicy) (fields : List (TextValue × Rule)) (path : String)
    (done index : Nat) (earlier : EarlierFields) (entries : Entries) (history : CallHistory) :
    Prop :=
  match fields with
  | [] => True
  | (name, rule) :: rest =>
    let given? := entries.getText? name.text
    (∀ v between, rule.SuppliedAt given? earlier history v between →
      HasKnownKeys policy rule (fieldPath path name) done v between) ∧
    ∀ verdict left,
      checkField policy path done index earlier name rule given? history = (.ok verdict, left) →
      FieldsHaveKnownKeys policy rest path (done + modelCount rule) (index + 1)
        (earlier.record index (hasValue rule.facts given?) verdict) entries left

end

/-! ## Strange keys -/

/-- Only a strict policy finds keys strange, and then those that name no field. -/
theorem strangeKeys_eq_nil_iff {policy : ObjectPolicy} {fields : List (TextValue × Rule)}
    {entries : Entries} :
    strangeKeys policy (fieldTexts fields) entries = [] ↔
      (policy.strict = true → NamesKeys fields entries) := by
  unfold strangeKeys
  cases policy.strict with
  | false => simp
  | true =>
    simp only [if_true, List.filterMap_eq_nil_iff, forall_const]
    refine forall₂_congr fun entry hentry => ?_
    unfold strangeKey?
    cases hname : entry.1.asText? with
    | none => simp
    | some name =>
      have hnames : (fieldTexts fields).contains name = true ↔
          ∃ field ∈ fields, some name = some field.1.text := by
        simp only [List.contains_iff_mem, fieldTexts, List.mem_map, Option.some.injEq,
          @eq_comm _ name]
      simp only [Entries.isSome_getText?_of_mem hentry hname, Bool.and_true, ← hnames]
      cases (fieldTexts fields).contains name <;> simp

/-! ## Strict runs -/

end Rule

/-- When one check of an item accepts just what another one accepts with a property, so do the
checks of all items. -/
theorem Checking.each_eq_accepted_iff_and {strict lax : Value → Checking (Verdict Value)}
    {P : Value → CallHistory → Prop}
    (h : ∀ v w history left, strict v history = (.ok (.accepted w), left) ↔
      lax v history = (.ok (.accepted w), left) ∧ P v history)
    {items parts : List Value} {index : Nat} {history left : CallHistory} :
    each strict index items history = (.ok (.accepted parts), left) ↔
      each lax index items history = (.ok (.accepted parts), left) ∧
        EachHolds lax P items history := by
  induction items generalizing index parts history with
  | nil => simp [each, EachHolds]
  | cons v rest ih =>
    simp only [each_cons_eq_accepted_iff, EachHolds]
    constructor
    · rintro ⟨w, others, between, hfirst, hrest, hparts⟩
      obtain ⟨hlax, hv⟩ := (h v w history between).mp hfirst
      obtain ⟨hrestLax, hholds⟩ := ih.mp hrest
      refine ⟨⟨w, others, between, hlax, hrestLax, hparts⟩, hv, fun verdict left' hsame => ?_⟩
      obtain ⟨-, rfl⟩ := Prod.mk.inj (hlax.symm.trans hsame)
      exact hholds
    · rintro ⟨⟨w, others, between, hlax, hrestLax, hparts⟩, hv, hholds⟩
      exact ⟨w, others, between, (h v w history between).mpr ⟨hlax, hv⟩,
        ih.mpr ⟨hrestLax, hholds _ between hlax⟩, hparts⟩

namespace Rule

variable {name : String}

/-- A run supplies a field in one way only. -/
theorem SuppliedAt.unique {rule : Rule} {given? : Option Value} {earlier : EarlierFields}
    {history between between' : CallHistory} {v v' : Value}
    (h : rule.SuppliedAt given? earlier history v between)
    (h' : rule.SuppliedAt given? earlier history v' between') : v = v' ∧ between = between' := by
  rcases h with ⟨hgiven, rfl⟩ | ⟨hgiven, default, hdefault, -, hmake⟩ <;>
    rcases h' with ⟨hgiven', rfl⟩ | ⟨hgiven', default', hdefault', -, hmake'⟩
  · exact ⟨Option.some.inj (hgiven.symm.trans hgiven'), rfl⟩
  · cases hgiven.symm.trans hgiven'
  · cases hgiven.symm.trans hgiven'
  · obtain rfl := Option.some.inj (hdefault.symm.trans hdefault')
    obtain ⟨hv, hbetween⟩ := Prod.mk.inj (hmake.symm.trans hmake')
    exact ⟨Except.ok.inj hv, hbetween⟩

/-- A strict run accepts a field when the other run does and what is supplied has known keys. -/
theorem checkField_strict_eq_accepted_iff {rule : Rule}
    (ih : ∀ path done v w history left,
      check ⟨name, true⟩ rule path done v history = (.ok (.accepted w), left) ↔
        check ⟨name, false⟩ rule path done v history = (.ok (.accepted w), left) ∧
          HasKnownKeys ⟨name, false⟩ rule path done v history)
    {path : String} {done index : Nat} {earlier : EarlierFields} {field : TextValue}
    {given? outcome : Option Value} {history left : CallHistory} :
    checkField ⟨name, true⟩ path done index earlier field rule given? history =
        (.ok (.accepted outcome), left) ↔
      checkField ⟨name, false⟩ path done index earlier field rule given? history =
        (.ok (.accepted outcome), left) ∧
      ∀ v between, rule.SuppliedAt given? earlier history v between →
        HasKnownKeys ⟨name, false⟩ rule (fieldPath path field) done v between := by
  rw [checkField_eq_accepted_iff, checkField_eq_accepted_iff]
  constructor
  · rintro (⟨v, between, w, hsupplied, hcheck, hw⟩ | hleft)
    · obtain ⟨hlax, hkeys⟩ := (ih _ _ _ _ _ _).mp hcheck
      refine ⟨.inl ⟨v, between, w, hsupplied, hlax, hw⟩, fun v' between' hsupplied' => ?_⟩
      obtain ⟨rfl, rfl⟩ := hsupplied.unique hsupplied'
      exact hkeys
    · refine ⟨.inr hleft, fun v between hsupplied => ?_⟩
      obtain ⟨hgiven, hdefault, -⟩ := hleft
      rcases hsupplied with ⟨hsome, -⟩ | ⟨-, default, hsome, -⟩
      · cases hgiven.symm.trans hsome
      · cases hdefault.symm.trans hsome
  · rintro ⟨⟨v, between, w, hsupplied, hcheck, hw⟩ | hleft, hkeys⟩
    · exact .inl ⟨v, between, w, hsupplied,
        (ih _ _ _ _ _ _).mpr ⟨hcheck, hkeys v between hsupplied⟩, hw⟩
    · exact .inr hleft

mutual

/-- **Strict runs** accept a value when the other run does and every object has known keys. -/
theorem check_strict_eq_accepted_iff (rule : Rule) (path : String) (done : Nat) (v w : Value)
    (history left : CallHistory) :
    check ⟨name, true⟩ rule path done v history = (.ok (.accepted w), left) ↔
      check ⟨name, false⟩ rule path done v history = (.ok (.accepted w), left) ∧
        HasKnownKeys ⟨name, false⟩ rule path done v history := by
  cases rule with
  | leaf facts kind => simp [check, HasKnownKeys]
  | array facts item =>
    have heach : ∀ {items parts : List Value} {between : CallHistory},
        Checking.each (check ⟨name, true⟩ item path done) 0 items history =
            (.ok (.accepted parts), between) ↔
          Checking.each (check ⟨name, false⟩ item path done) 0 items history =
            (.ok (.accepted parts), between) ∧
          Checking.EachHolds (check ⟨name, false⟩ item path done)
            (HasKnownKeys ⟨name, false⟩ item path done) items history :=
      Checking.each_eq_accepted_iff_and (check_strict_eq_accepted_iff item path done)
    simp only [check_array_eq_accepted_iff, heach, HasKnownKeys]
    constructor
    · rintro ⟨items, parts, between, hitems, ⟨hlax, hholds⟩, hrefine⟩
      refine ⟨⟨items, parts, between, hitems, hlax, hrefine⟩, fun items' hitems' => ?_⟩
      obtain rfl := Option.some.inj (hitems.symm.trans hitems')
      exact hholds
    · rintro ⟨⟨items, parts, between, hitems, hlax, hrefine⟩, hholds⟩
      exact ⟨items, parts, between, hitems, ⟨hlax, hholds items hitems⟩, hrefine⟩
  | object facts fields =>
    have hfields : ∀ {entries output : Entries} {between : CallHistory},
        checkFields ⟨name, true⟩ fields path done 0 {} entries history =
            (.ok (.accepted output), between) ↔
          checkFields ⟨name, false⟩ fields path done 0 {} entries history =
            (.ok (.accepted output), between) ∧
          FieldsHaveKnownKeys ⟨name, false⟩ fields path done 0 {} entries history :=
      checkFields_strict_eq_accepted_iff fields path done 0 {} _ _ history _
    simp only [check_object_eq_accepted_iff, hfields, strangeKeys_eq_nil_iff, HasKnownKeys]
    constructor
    · rintro ⟨entries, output, between, u, rfl, ⟨hlax, hknown⟩, hkeys, hrest⟩
      refine ⟨⟨entries, output, between, u, rfl, hlax, nofun, hrest⟩, fun entries' hsame => ?_⟩
      obtain rfl := Value.map.inj hsame
      exact ⟨hkeys trivial, hknown⟩
    · rintro ⟨⟨entries, output, between, u, rfl, hlax, -, hrest⟩, hknown⟩
      obtain ⟨hkeys, hfieldsKnown⟩ := hknown entries rfl
      exact ⟨entries, output, between, u, rfl, ⟨hlax, hfieldsKnown⟩, fun _ => hkeys, hrest⟩

/-- Strict runs accept fields when the other run does and what is supplied has known keys. -/
theorem checkFields_strict_eq_accepted_iff (fields : List (TextValue × Rule)) (path : String)
    (done index : Nat) (earlier : EarlierFields) (entries output : Entries)
    (history left : CallHistory) :
    checkFields ⟨name, true⟩ fields path done index earlier entries history =
        (.ok (.accepted output), left) ↔
      checkFields ⟨name, false⟩ fields path done index earlier entries history =
        (.ok (.accepted output), left) ∧
      FieldsHaveKnownKeys ⟨name, false⟩ fields path done index earlier entries history := by
  cases fields with
  | nil => simp [checkFields, FieldsHaveKnownKeys]
  | cons field rest =>
    obtain ⟨field, rule⟩ := field
    have hrest := checkFields_strict_eq_accepted_iff rest path (done + modelCount rule) (index + 1)
    simp only [checkFields_cons_eq_accepted_iff, FieldsHaveKnownKeys,
      checkField_strict_eq_accepted_iff (check_strict_eq_accepted_iff rule)]
    constructor
    · rintro ⟨outcome, between, others, ⟨hfirst, hsupplied⟩, hothers, hput⟩
      obtain ⟨hothersLax, hknown⟩ := (hrest _ _ _ _ _).mp hothers
      refine ⟨⟨outcome, between, others, hfirst, hothersLax, hput⟩, hsupplied,
        fun verdict left' hsame => ?_⟩
      obtain ⟨hverdict, rfl⟩ := Prod.mk.inj (hfirst.symm.trans hsame)
      obtain rfl := Except.ok.inj hverdict
      exact hknown
    · rintro ⟨⟨outcome, between, others, hfirst, hothers, hput⟩, hsupplied, hknown⟩
      exact ⟨outcome, between, others, ⟨hfirst, hsupplied⟩,
        (hrest _ _ _ _ _).mpr ⟨hothers, hknown _ between hfirst⟩, hput⟩

end

end Rule

/-! ## Schemas -/

namespace ValidationSchema

/-- Every object with fields that a schema comes to in an input has known keys. -/
def HasKnownKeys (schema : ValidationSchema) (data : Value) (history : CallHistory) : Prop :=
  schema.rule.HasKnownKeys schema.policy "" 0 data history

/-- **Strict schemas** accept an input when the schema of the same definition that is not strict
accepts it, with the same output and the same calls, and every object that this schema comes to, in
the input or in defaults, at any depth, has no key but the names of its fields. -/
theorem parse_strict_eq_iff {overrides : Overrides} {definition : Value}
    {strict lax : ValidationSchema}
    (hstrict : (ofDefinition ⟨true, overrides⟩ definition).result = .ok strict)
    (hlax : (ofDefinition ⟨false, overrides⟩ definition).result = .ok lax) (data : Value)
    (history left : CallHistory) (document : Entries) :
    strict.parse data history = (.ok document, left) ↔
      lax.parse data history = (.ok document, left) ∧ lax.HasKnownKeys data history := by
  obtain ⟨rule, hrule, hschema⟩ := Logged.result_andThen_eq_ok_iff.mp hstrict
  obtain rfl := Except.ok.inj hschema
  obtain ⟨rule', hrule', hschema'⟩ := Logged.result_andThen_eq_ok_iff.mp hlax
  obtain rfl := Except.ok.inj hschema'
  obtain rfl := Except.ok.inj (hrule.symm.trans hrule')
  obtain ⟨forms, fields, -, -, rfl⟩ := Rule.ofDefinition_eq_ok hrule
  simp only [parse_eq_ok_iff, check, Rule.checkObject_eq_accepted_iff]
  dsimp only [HasKnownKeys, policy, Rule.ofFields, Rule.fields?, Option.getD, Bool.false_eq_true]
  simp only [if_false, Rule.checkFields_strict_eq_accepted_iff, Rule.strangeKeys_eq_nil_iff,
    Rule.HasKnownKeys, Bool.false_eq_true]
  constructor
  · rintro ⟨entries, output, rfl, ⟨hlax, hknown⟩, hkeys, rfl⟩
    refine ⟨⟨entries, output, rfl, hlax, nofun, rfl⟩, fun entries' hsame => ?_⟩
    obtain rfl := Value.map.inj hsame
    exact ⟨hkeys trivial, hknown⟩
  · rintro ⟨⟨entries, output, rfl, hlax, -, rfl⟩, hknown⟩
    obtain ⟨hkeys, hfieldsKnown⟩ := hknown entries rfl
    exact ⟨entries, output, rfl, ⟨hlax, hfieldsKnown⟩, fun _ => hkeys, rfl⟩

/-- A list of parts that have known keys only. -/
def plainData : Value := .map [(.text "0", .list [.map [(.text "a.b", .text "y")]])]

/-- A list of parts, one of which has a key that no field has. -/
def crowdedData : Value :=
  .map [(.text "0", .list [.map [(.text "a.b", .text "y"), (.text "c", .int 1)]])]

/-- What the schema gives out for both. -/
def plainDocument : Entries :=
  [(.text "0", .list [.map [(.text "field_1", .int 7), (.text "a.b", .text "y")]])]

/-- Without a strange key both schemas accept the input; a strange key inside a list is passed over
by the one schema and makes the strict one reject the input. -/
theorem parse_strict_eq_iff_placed :
    (ofDefinition ⟨true, .none⟩ placed).result = .ok strictPlacedSchema ∧
      (ofDefinition ⟨false, .none⟩ placed).result = .ok placedSchema ∧
      (placedSchema.parse plainData .empty = (.ok plainDocument, .empty) ∧
        placedSchema.HasKnownKeys plainData .empty) ∧
      placedSchema.parse crowdedData .empty = (.ok plainDocument, .empty) ∧
      ¬placedSchema.HasKnownKeys crowdedData .empty := by
  have hstrict : strictPlacedSchema.parse plainData .empty = (.ok plainDocument, .empty) := by
    with_unfolding_all rfl
  have hcrowded : placedSchema.parse crowdedData .empty = (.ok plainDocument, .empty) := by
    with_unfolding_all rfl
  have hrejected : (strictPlacedSchema.parse crowdedData .empty).1.result.toBool = false := by
    with_unfolding_all rfl
  refine ⟨ofDefinition_placed_strict, ofDefinition_placed,
    (parse_strict_eq_iff ofDefinition_placed_strict ofDefinition_placed _ _ _ _).mp hstrict,
    hcrowded, fun hknown => ?_⟩
  have haccepted := (parse_strict_eq_iff ofDefinition_placed_strict ofDefinition_placed
    crowdedData .empty .empty plainDocument).mpr ⟨hcrowded, hknown⟩
  rw [haccepted] at hrejected
  cases hrejected

end ValidationSchema

end FieldSchema
