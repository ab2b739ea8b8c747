import FieldSchema.Proofs.Rule.Modifiers
import FieldSchema.Proofs.Signature.Sameness
import FieldSchema.Proofs.Validation.Acceptance

/-!
# Values that a rule accepts can be stored

The rule of a field is at least as strict as what storage states about the field: the last bound of
storage is among all the bounds of the rule, and the last check of storage is among all of its
formats (`Rule.Agrees`).  A rule looks for a mail address from the start of a text on and storage
anywhere in it, which asks for less (`Regex.search_of_matchStart`).

This holds of fields that are described by a mapping in which no key occurs twice, or by the items
of an array, that are of no type for object identifiers, have no allowed values, and no bounds and
formats of values of any kind (`FieldForm.IsPlain`).

* `Rule.agrees_of_applyModifiers`: both sides agree after all modifiers.
* `FieldForm.IsPlain`: the fields that are considered.
* `StoredField.admits_of_describes`: what a rule accepts can be stored.
-/

namespace FieldSchema

/-! ## Formats -/

namespace Regex

/-- A match from the start is a match anywhere. -/
theorem search_of_matchStart {r : Regex} {text : String} (h : r.matchStart text = .ok true) :
    r.search text = .ok true := by
  unfold matchStart at h
  unfold search
  split at h
  · exact absurd (Except.ok.inj h) Bool.false_ne_true
  · rename_i hlong
    rw [if_neg hlong]
    split at h
    · rename_i t hfound
      have hsearch : r.body.searchFrom r.flags r.least [] text.toList = some t := by
        cases htext : text.toList with
        | nil =>
          have hstart : r.body.attemptAt r.flags ⟨[], []⟩ = .found t := by
            rw [htext] at hfound
            exact hfound
          rw [Pattern.searchFrom, hstart]
        | cons c rest =>
          have hstart : r.body.attemptAt r.flags ⟨[], c :: rest⟩ = .found t := by
            rw [htext] at hfound
            exact hfound
          rw [Pattern.searchFrom, hstart]
      rw [hsearch]
      exact h
    · exact absurd (Except.ok.inj h) Bool.false_ne_true

/-- A text that starts with a match has one. -/
theorem hasMatch_of_startsWithMatch {source text : String}
    (h : startsWithMatch source text = .ok true) : hasMatch source .none text = .ok true := by
  obtain ⟨r, hcompile, hmatch⟩ := Logged.bind_eq_ok_iff.mp h
  exact Logged.bind_eq_ok_iff.mpr ⟨r, hcompile, search_of_matchStart hmatch⟩

end Regex

/-- Flags are read back from their number. -/
theorem Flags.ofInt_toNat (flags : Flags) : Flags.ofInt flags.toNat = flags := by
  have hsmall : flags.toNat < 512 := by
    have hbit : ∀ value isSet, bit value isSet ≤ value := by
      intro value isSet
      cases isSet <;> simp [bit]
    have h1 := hbit 1 flags.template
    have h2 := hbit 2 flags.ignoreCase
    have h4 := hbit 4 flags.locale
    have h8 := hbit 8 flags.multiline
    have h16 := hbit 16 flags.dotAll
    have h32 := hbit 32 flags.unicode
    have h64 := hbit 64 flags.verbose
    have h256 := hbit 256 flags.ascii
    unfold toNat
    omega
  rw [ofInt, show ((flags.toNat : Int) % 512).toNat = flags.toNat by omega, ofNat_toNat]

namespace FormatCheck

/-- A check admits a text that has a match. -/
theorem admits_of_hasMatch {check : FormatCheck} {v : Value}
    (h : ∀ text, v.asText? = some text →
      Regex.hasMatch check.pattern.text check.flags text = .ok true) : check.admits v = true := by
  unfold admits accepts
  cases htext : v.asText? with
  | none => simp [Value.isText, htext]
  | some text =>
    have hnull : v.isNull = false := Value.isNull_of_asText? htext
    simp [hnull, h text htext]

/-- An answer that rejects nothing is a match. -/
theorem eq_ok_of_answerOf {found : Except PatternFailure Bool} {rejection : Rejection}
    (h : Refinement.answerOf found rejection = .ok none) : found = .ok true := by
  unfold Refinement.answerOf at h
  split at h
  · rfl
  · cases Except.ok.inj h
  · contradiction

/-- A text that a pattern accepts has a match. -/
theorem hasMatch_of_check {source : TextValue} {flags : Flags} {message v : Value} {text : String}
    (htext : v.asText? = some text)
    (h : (Refinement.pattern (.ofTextValue source) (.int flags.toNat) message).check v = .ok none) :
    Regex.hasMatch source.text flags text = .ok true := by
  unfold Refinement.check at h
  simp only [htext] at h
  have hfound := eq_ok_of_answerOf h
  obtain ⟨r, hr, hsearch⟩ := Logged.bind_eq_ok_iff.mp hfound
  have hsource : Regex.ofValues (.ofTextValue source) (.int flags.toNat) =
      Regex.ofSource source.text (.int flags.toNat) .text := by
    cases source <;> rfl
  rw [hsource] at hr
  obtain ⟨made, hmade, hfit⟩ := Logged.bind_eq_ok_iff.mp hr
  rw [Flags.ofInt_toNat] at hmade
  split at hfit
  · obtain rfl := Except.ok.inj hfit
    exact Logged.bind_eq_ok_iff.mpr ⟨_, hmade, hsearch⟩
  · cases (show Except.error PatternFailure.flagsTooLarge = Except.ok r from hfit)

/-- What the pattern of a rule accepts is admitted by the check of the same pattern. -/
theorem admits_of_pattern {check : FormatCheck} {message v : Value}
    (h : (Refinement.pattern (.ofTextValue check.pattern) (.int check.flags.toNat)
      message).check v = .ok none) : check.admits v = true :=
  admits_of_hasMatch fun _ htext => hasMatch_of_check htext h

/-- What the format of mail addresses accepts is admitted by the check of mail addresses. -/
theorem admits_email {message v : Value} (h : (Refinement.email message).check v = .ok none) :
    FormatCheck.email.admits v = true := by
  refine admits_of_hasMatch fun text htext => ?_
  unfold Refinement.check at h
  simp only [htext] at h
  have hanswer : Refinement.answerOf (Regex.startsWithMatch emailPattern text)
      ⟨message, .invalidEmail, "invalid_format", none, some "email"⟩ = .ok none := h
  have hfound : Regex.hasMatch emailPattern .none text = .ok true :=
    Regex.hasMatch_of_startsWithMatch (eq_ok_of_answerOf hanswer)
  exact hfound

end FormatCheck

namespace Refinement

theorem boundNumber_ofNumber (n : Number) : boundNumber (.ofNumber n) = .ok (some n) := by
  cases n <;> rfl

/-- What bounds accept keeps both of them. -/
theorem of_checkBounds {measure : Measure} {least most message : Value} {size : Number}
    (h : checkBounds measure least most message size = .ok none) :
    ∃ low high, boundNumber least = .ok low ∧ boundNumber most = .ok high ∧
      low.any size.lt = false ∧ high.any (fun n => n.lt size) = false := by
  obtain ⟨low, hlow, h⟩ := Logged.bind_eq_ok_iff.mp h
  split at h
  · cases Except.ok.inj h
  · rename_i hnotLow
    obtain ⟨high, hhigh, h⟩ := Logged.bind_eq_ok_iff.mp h
    split at h
    · cases Except.ok.inj h
    · rename_i hnotHigh
      exact ⟨low, high, hlow, hhigh, eq_false_of_ne_true hnotLow, eq_false_of_ne_true hnotHigh⟩

end Refinement

/-- What keeps a bound of a rule keeps the bound of storage. -/
theorem Value.isWithin_of_limit {measure : Measure} {isLeast : Bool} {n : Number}
    {message v : Value}
    (h : (Refinement.limit measure isLeast n message).check v = .ok none) :
    v.isWithin measure isLeast (.ofNumber n) = true := by
  rw [isWithin, asNumber?_ofNumber]
  cases hsize : measure.of? v with
  | none => rfl
  | some size =>
    cases isLeast with
    | true =>
      rw [Refinement.limit, if_pos rfl, Refinement.check, hsize] at h
      obtain ⟨low, high, hlow, -, hkept, -⟩ := Refinement.of_checkBounds h
      rw [Refinement.boundNumber_ofNumber] at hlow
      obtain rfl := Except.ok.inj hlow
      simpa using hkept
    | false =>
      rw [Refinement.limit, if_neg Bool.false_ne_true, Refinement.check, hsize] at h
      obtain ⟨low, high, -, hhigh, -, hkept⟩ := Refinement.of_checkBounds h
      rw [Refinement.boundNumber_ofNumber] at hhigh
      obtain rfl := Except.ok.inj hhigh
      simpa using hkept

/-! ## Agreement -/

namespace Rule

/-- A rule is at least as strict as a stored field: it has the bounds and the check of storage among
its refinements, and none that brings texts to lower case. -/
structure Agrees (rule : Rule) (stored : StoredField) : Prop where
  noLowercase : ∀ r ∈ rule.facts.refinements, r.kind ≠ .lowercase
  limit : ∀ (hint : StorageHint) (measure : Measure) (isLeast : Bool) (n : Number),
    hint.limit? = some (measure, isLeast) → stored.boundOf hint = some n →
      rule.kind = measure.ruleKind →
        ∃ message, .limit measure isLeast n message ∈ rule.facts.refinements
  check : ∀ check, stored.check? = some check → rule.kind = .string →
    (check = .email ∧ ∃ message, .email message ∈ rule.facts.refinements) ∨
      ∃ message, .pattern (.ofTextValue check.pattern) (.int check.flags.toNat) message ∈
        rule.facts.refinements

variable {overrides : Overrides} {field : TextValue} {isArrayType : Bool} {rule rule' : Rule}
  {stored stored' : StoredField}

/-- What one modifier keeps. -/
theorem Agrees.step {modifier : String} {key v : Value} (h : Agrees rule stored)
    (hkey : key.asText? = some modifier) (hrule : Step field rule rule' modifier v)
    (hstored : StoredField.Step field isArrayType stored stored' key v) : Agrees rule' stored' where
  noLowercase := hrule.noLowercase h.noLowercase
  limit hint measure isLeast n hlimit hbound hkind := by
    rw [hrule.kind_eq] at hkind
    have href := StorageHint.ne_ref_of_limit? hlimit
    rw [StoredField.boundOf, hstored.hint?_eq hint href, hkey] at hbound
    by_cases hname : some modifier = some hint.name
    · rw [if_pos hname] at hbound
      exact hrule.covers.limit hint measure isLeast n hlimit (Option.some.inj hname) hbound hkind
    · rw [if_neg hname] at hbound
      exact (h.limit hint measure isLeast n hlimit hbound hkind).imp fun _ => hrule.kept _
  check check hcheck hkind := by
    rw [hrule.kind_eq] at hkind
    rcases hstored.check?_eq with hsame | ⟨hname, htrue, hemail⟩ | ⟨hname, own, hown, hpattern⟩
    · rw [hsame] at hcheck
      rcases h.check check hcheck hkind with ⟨hmail, hmessage⟩ | hmessage
      · exact .inl ⟨hmail, hmessage.imp fun _ => hrule.kept _⟩
      · exact .inr (hmessage.imp fun _ => hrule.kept _)
    · obtain rfl := Option.some.inj (hcheck.symm.trans hemail)
      obtain rfl := Option.some.inj (hkey.symm.trans hname)
      exact .inl ⟨rfl, hrule.covers.email rfl htrue hkind⟩
    · obtain rfl := Option.some.inj (hcheck.symm.trans hpattern)
      obtain rfl := Option.some.inj (hkey.symm.trans hname)
      exact .inr (hrule.covers.pattern rfl hkind check hown)

/-- What a modifier without a text for a name keeps. -/
theorem Agrees.step_of_none {key v : Value} (h : Agrees rule stored) (hkey : key.asText? = none)
    (hstored : StoredField.Step field isArrayType stored stored' key v) : Agrees rule stored' where
  noLowercase := h.noLowercase
  limit hint measure isLeast n hlimit hbound := by
    have href := StorageHint.ne_ref_of_limit? hlimit
    rw [StoredField.boundOf, hstored.hint?_eq hint href, hkey, if_neg (by simp)] at hbound
    exact h.limit hint measure isLeast n hlimit hbound
  check check hcheck := by
    rcases hstored.check?_eq with hsame | ⟨hname, -⟩ | ⟨hname, -⟩
    · rw [hsame] at hcheck
      exact h.check check hcheck
    · rw [hkey] at hname
      contradiction
    · rw [hkey] at hname
      contradiction

/-- **Agreement**: all modifiers in order keep a rule at least as strict as the stored field. -/
theorem agrees_of_applyModifiers {modifiers : List (Value × Value)}
    (henum : ∀ modifier ∈ modifiers, modifier.1.asText? ≠ some "enum") (h : Agrees rule stored)
    (hrule : applyModifiers overrides field rule modifiers = .ok rule')
    (hstored : (StoredField.applyModifiers field isArrayType stored modifiers).result =
      .ok stored') : Agrees rule' stored' := by
  induction modifiers generalizing rule stored with
  | nil =>
    obtain rfl := Except.ok.inj hrule
    obtain rfl := Except.ok.inj hstored
    exact h
  | cons modifier rest ih =>
    obtain ⟨key, v⟩ := modifier
    have hrestEnum : ∀ modifier ∈ rest, modifier.1.asText? ≠ some "enum" := fun modifier hmem =>
      henum modifier (List.mem_cons_of_mem _ hmem)
    obtain ⟨between, hbetween, hstored⟩ := Logged.result_andThen_eq_ok_iff.mp hstored
    have hstoredStep := StoredField.step_of_applyModifier hbetween
    rw [applyModifiers] at hrule
    split at hrule
    · rename_i name hname
      split at hrule
      · rename_i hruleBetween
        have hruleStep := step_of_applyModifier
          (fun hsame => henum _ List.mem_cons_self (hname.trans (congrArg some hsame)))
          hruleBetween
        exact ih hrestEnum (h.step hname hruleStep hstoredStep) hrule hstored
      · contradiction
    · rename_i hname
      split at hrule
      · exact ih hrestEnum (h.step_of_none hname hstoredStep) hrule hstored
      · contradiction

end Rule

/-! ## Types -/

namespace CanonicalType

/-- The kind of the rule of a category. -/
def ruleKind : CanonicalType → RuleKind
  | .string => .string
  | .number => .number
  | .boolean => .boolean
  | .date => .date
  | .array => .array
  | .object => .object
  | .objectId => .string
  | .mixed => .any
  | .map => .map

/-- Values of the kind of a category are of the type that collections name for it. -/
theorem storedTypeName?_of_holds {t : CanonicalType} (ht : t ≠ .objectId) {v : Value}
    (h : t.ruleKind.Holds v) {name : String} (hname : t.storageName? = some name) :
    v.storedTypeName? = some name := by
  cases t with
  | objectId => contradiction
  | mixed => contradiction
  | number =>
    obtain rfl := Option.some.inj hname
    cases v <;> first | rfl | contradiction
  | _ =>
    obtain ⟨_, rfl⟩ := h
    exact hname

/-- Only categories of a known name are named for storage. -/
theorem exists_of_storageTypeName? {token : Value} {name : String}
    (h : StoredField.storageTypeName? token.storageType = some name) :
    ∃ t, token.category? = some t ∧ t.storageName? = some name := by
  unfold Value.storageType at h
  split at h
  · contradiction
  · rename_i t hne ht
    exact ⟨t, ht, h⟩
  · rename_i hnone
    cases token <;> contradiction

end CanonicalType

namespace Rule

variable {overrides : Overrides} {field : TextValue} {rule : Rule}

theorem kind_ofCategory (t : CanonicalType) : (ofCategory t).kind = t.ruleKind := by
  cases t <;> rfl

theorem facts_ofCategory {t : CanonicalType} (ht : t ≠ .objectId) :
    (ofCategory t).facts = {} := by
  cases t <;> first | rfl | contradiction

theorem kind_ofItem (item : Option Rule) : (ofItem item).kind = .array := by
  cases item <;> rfl

theorem facts_ofItem (item : Option Rule) : (ofItem item).facts = {} := by
  cases item <;> rfl

theorem item?_ofItem (item : Option Rule) : (ofItem item).item? = item := by
  cases item <;> rfl

/-- The rule of a type has its kind, nothing is said about it yet, and an array has the rule of its
items. -/
theorem ofType_eq_ok {t : CanonicalType} {spec : FieldSpec}
    (h : (ofType overrides field t spec).result = .ok rule) :
    rule.kind = t.ruleKind ∧ (t ≠ .objectId → rule.facts = {}) ∧
      ∀ item, t = .array → spec.items? = some item →
        (ofItemSpec overrides field item).result = .ok rule.item? := by
  have hcategory : rule = ofCategory t → (t = .array → spec.items? = none) →
      rule.kind = t.ruleKind ∧ (t ≠ .objectId → rule.facts = {}) ∧
        ∀ item, t = .array → spec.items? = some item →
          (ofItemSpec overrides field item).result = .ok rule.item? := by
    rintro rfl hnone
    refine ⟨kind_ofCategory t, facts_ofCategory, fun item harray hitem => ?_⟩
    rw [hnone harray] at hitem
    contradiction
  unfold ofType at h
  split at h
  · split at h
    · rename_i itemSpec hitems
      obtain ⟨item, hitem, h⟩ := Logged.result_andThen_eq_ok_iff.mp h
      obtain rfl := Except.ok.inj h
      refine ⟨kind_ofItem item, fun _ => facts_ofItem item, fun made _ hmade => ?_⟩
      rw [item?_ofItem, ← hitem, Option.some.inj (hitems.symm.trans hmade)]
    · rename_i hnone
      exact hcategory (eq_of_orEndless h) fun _ => hnone
  · split at h
    · split at h
      · rw [ofParts] at h
        obtain ⟨rules, -, h⟩ := Logged.result_andThen_eq_ok_iff.mp h
        obtain ⟨noted, -, h⟩ := Logged.result_andThen_eq_ok_iff.mp h
        obtain rfl := Except.ok.inj h
        exact ⟨rfl, fun _ => rfl, fun item harray => by contradiction⟩
      · contradiction
    · exact hcategory (eq_of_orEndless h) fun harray => by contradiction
  · rename_i harray _
    exact hcategory (Except.ok.inj h).symm fun h => absurd h harray

/-- The rule of items of a known type has the kind of the type. -/
theorem ofItemSpec_eq_ok {item : FieldSpec} {itemRule? : Option Rule} {t : CanonicalType}
    (h : (ofItemSpec overrides field item).result = .ok itemRule?)
    (ht : item.type.category? = some t) :
    ∃ itemRule, itemRule? = some itemRule ∧ itemRule.kind = t.ruleKind := by
  rw [ofItemSpec, ht] at h
  obtain ⟨made, hmade, h⟩ := Logged.result_andThen_eq_ok_iff.mp h
  exact ⟨made, (Except.ok.inj h).symm, (ofType_eq_ok hmade).1⟩

/-! ## After the modifiers -/

/-- Further refinements and leave to be absent do no harm. -/
theorem Agrees.mono {rule' : Rule} {stored : StoredField} (h : Agrees rule stored)
    (hkind : rule'.kind = rule.kind)
    (hkept : ∀ r ∈ rule.facts.refinements, r ∈ rule'.facts.refinements)
    (hlower : ∀ r ∈ rule'.facts.refinements, r.kind ≠ .lowercase) : Agrees rule' stored where
  noLowercase := hlower
  limit hint measure isLeast n hlimit hbound hmeasure :=
    (h.limit hint measure isLeast n hlimit hbound (hkind ▸ hmeasure)).imp fun _ => hkept _
  check check hcheck hstring :=
    (h.check check hcheck (hkind ▸ hstring)).imp
      (fun ⟨hemail, hmessage⟩ => ⟨hemail, hmessage.imp fun _ => hkept _⟩)
      (fun hmessage => hmessage.imp fun _ => hkept _)

/-- Strong passwords are a refinement more. -/
theorem exists_adds_strengthen (field : TextValue) (spec : FieldSpec) (rule : Rule) :
    ∃ more, rule.Adds (strengthen field spec rule) more := by
  unfold strengthen
  split
  · exact ⟨_, adds_singleton rule RefinementKind.noConfusion⟩
  · exact ⟨[], adds_nil rule⟩

/-- A rule that is finished has the kind, the items and the default that it had; it is optional when
it was, or when it has a default and is not required. -/
theorem finish_spec (field : TextValue) (spec : FieldSpec) (rule : Rule) :
    (finish field spec rule).kind = rule.kind ∧ (finish field spec rule).item? = rule.item? ∧
      (finish field spec rule).facts.default? = rule.facts.default? ∧
      ((finish field spec rule).facts.isOptional = true →
        rule.facts.isOptional = true ∨ (spec.get "required").isTrue = false) ∧
      ∀ stored, Agrees rule stored → Agrees (finish field spec rule) stored := by
  obtain ⟨more, hstrong, hlower⟩ := exists_adds_strengthen field spec rule
  rw [finish, hstrong]
  have hagrees : ∀ stored, Agrees rule stored → Agrees (rule.refine more) stored := by
    intro stored h
    refine h.mono (rule.kind_refine more) (fun r hr => ?_) fun r hr => ?_
    · rw [facts_refine]
      exact List.mem_append_left _ hr
    · rw [facts_refine] at hr
      exact (List.mem_append.mp hr).elim (h.noLowercase r) (hlower r)
  unfold relax
  split
  · rename_i hrelaxed
    have hrequired := (Bool.and_eq_true_iff.mp hrelaxed).2
    refine ⟨by simp [markOptional], by simp [markOptional], by simp [markOptional],
      fun _ => .inr (by simpa using hrequired), fun stored h => ?_⟩
    have hrefined := hagrees stored h
    exact hrefined.mono (by simp [markOptional]) (by simp [markOptional])
      (by simpa [markOptional] using hrefined.noLowercase)
  · exact ⟨rule.kind_refine more, rule.item?_refine more, by rw [facts_refine],
      fun h => .inl (by rwa [facts_refine] at h), hagrees⟩

end Rule

/-! ## Storing accepted values -/

/-- Values that have a length or are numbers are of the kind of the measure, or of any kind. -/
theorem RuleKind.eq_ruleKind_of_holds {kind : RuleKind} {v : Value} (h : kind.Holds v)
    {measure : Measure} (hmeasure : measure ≠ .count) (hsize : (measure.of? v).isSome = true) :
    kind = measure.ruleKind ∨ kind = .any := by
  cases measure with
  | count => contradiction
  | length =>
    cases kind with
    | string => exact .inl rfl
    | any => exact .inr rfl
    | number => cases v <;> contradiction
    | _ =>
      obtain ⟨_, rfl⟩ := h
      contradiction
  | number =>
    cases kind with
    | number => exact .inl rfl
    | any => exact .inr rfl
    | _ =>
      obtain ⟨_, rfl⟩ := h
      contradiction

/-- **Storing accepted values**: what a rule accepts meets the statement about a stored field and is
admitted by its check, when both agree on the type, on the type of items, and on everything else. -/
theorem Rule.Agrees.admits {rule : Rule} {stored : StoredField} (h : rule.Agrees stored)
    {t : CanonicalType} (ht : t ≠ .objectId) (hkind : rule.kind = t.ruleKind)
    (hany : rule.kind = .any → stored.check? = none ∧ ∀ (hint : StorageHint) (measure : Measure)
      (isLeast : Bool), hint.limit? = some (measure, isLeast) → stored.boundOf hint = none)
    (htype : ∀ name, stored.typeName? = some name → t.storageName? = some name)
    (hitems : ∀ name, stored.itemTypeName? = some name → ∃ itemRule itemType,
      rule.item? = some itemRule ∧ itemRule.kind = CanonicalType.ruleKind itemType ∧
        itemType ≠ .objectId ∧ itemType.storageName? = some name)
    {w : Value} (hw : rule.Describes w) :
    Value.meets (.ofFields stored.property) w = true ∧
      ∀ check, stored.check? = some check → check.admits w = true := by
  refine ⟨StoredField.meets_property ?_ ?_ ?_, ?_⟩
  · intro name hname
    exact CanonicalType.storedTypeName?_of_holds ht (hkind ▸ hw.holds) (htype name hname)
  · intro part hpart name hname
    obtain ⟨itemRule, itemType, hitem, hitemKind, hitemType, hstorageName⟩ := hitems name hname
    have hlist : w = .list w.listed := by
      cases w <;> first | rfl | cases hpart
    have hholds := hw.items itemRule hitem w.listed hlist part hpart
    exact CanonicalType.storedTypeName?_of_holds hitemType (hitemKind ▸ hholds) hstorageName
  · intro hint measure isLeast n hlimit hbound
    by_cases hsize : (measure.of? w).isSome = true
    · have hmeasure : measure ≠ .count := by
        rintro rfl
        cases hint <;> simp [StorageHint.limit?] at hlimit
      rcases RuleKind.eq_ruleKind_of_holds hw.holds hmeasure hsize with hmeasured | hanyKind
      · obtain ⟨message, hmem⟩ := h.limit hint measure isLeast n hlimit hbound hmeasured
        have hobject : rule.kind ≠ .object := by
          rw [hmeasured]
          cases measure <;> exact RuleKind.noConfusion
        exact Value.isWithin_of_limit (hw.refinements hobject h.noLowercase _ hmem)
      · rw [(hany hanyKind).2 hint measure isLeast hlimit] at hbound
        contradiction
    · rw [Value.isWithin, Option.not_isSome_iff_eq_none.mp hsize, Option.all_none]
  · intro check hcheck
    by_cases htext : w.isText = true
    · have hsize : (Measure.length.of? w).isSome = true := by
        rw [Measure.of?, Option.isSome_map]
        exact htext
      rcases RuleKind.eq_ruleKind_of_holds hw.holds Measure.noConfusion hsize with
        hstring | hanyKind
      · have hobject : rule.kind ≠ .object := by
          rw [hstring]
          exact RuleKind.noConfusion
        have haccepted := hw.refinements hobject h.noLowercase
        rcases h.check check hcheck hstring with ⟨rfl, message, hmem⟩ | ⟨message, hmem⟩
        · exact FormatCheck.admits_email (haccepted _ hmem)
        · exact FormatCheck.admits_of_pattern (haccepted _ hmem)
      · rw [(hany hanyKind).1] at hcheck
        contradiction
    · rw [FormatCheck.admits, eq_false_of_ne_true htext]
      rfl

/-! ## Described fields -/

namespace FieldSpec

/-- Whether a modifier has one value wherever it occurs. -/
def IsSettled (spec : FieldSpec) (name : String) : Prop :=
  ∀ modifier ∈ spec.modifiers, modifier.1.asText? = some name → spec.get? name = some modifier.2

/-- A modifier that occurs has a value. -/
theorem has_of_mem {spec : FieldSpec} {name : String} {modifier : Value × Value}
    (hmem : modifier ∈ spec.modifiers) (hname : modifier.1.asText? = some name) :
    spec.has name = true :=
  List.any_eq_true.mpr ⟨modifier, hmem, by simpa using hname⟩

theorem get?_of_has_eq_false {spec : FieldSpec} {name : String} (h : spec.has name = false) :
    spec.get? name = none := by
  rw [has_eq_isSome_get?] at h
  exact Option.not_isSome_iff_eq_none.mp (by rw [h]; exact Bool.false_ne_true)

/-- A key that is known under a name that has no other spelling is that name. -/
theorem asText?_of_canonicalKey {key : Value} {name : String}
    (hname : name ∉ ["minlength", "maxlength", "regex"])
    (h : (canonicalKey key).asText? = some name) : key.asText? = some name := by
  cases key with
  | text spelling =>
    have hcanonical : canonicalName spelling = name := Option.some.inj h
    have hsame : canonicalName spelling = spelling := by
      unfold canonicalName at hcanonical ⊢
      split at hcanonical
      · exact absurd (by rw [← hcanonical]; decide) hname
      split at hcanonical
      · exact absurd (by rw [← hcanonical]; decide) hname
      split at hcanonical
      · exact absurd (by rw [← hcanonical]; decide) hname
      · rename_i hfirst hsecond hthird
        rw [if_neg hfirst, if_neg hsecond, if_neg hthird]
    rw [Value.asText?, ← hsame, hcanonical]
  | _ => exact h

/-- A modifier that has one spelling comes from the entry of that name. -/
theorem exists_entry_of_mem_ofEntries {entries : Entries} {name : String}
    (hname : name ∉ ["minlength", "maxlength", "regex"]) {modifier : Value × Value}
    (hmem : modifier ∈ (ofEntries entries).modifiers) (htext : modifier.1.asText? = some name) :
    ∃ entry ∈ entries, entry.1.asText? = some name ∧ entry.2 = modifier.2 := by
  obtain ⟨entry, hfiltered, rfl⟩ := List.mem_map.mp hmem
  exact ⟨entry, (List.mem_filter.mp hfiltered).1, asText?_of_canonicalKey hname htext, rfl⟩

/-- A modifier that has one spelling has one value in a field that a mapping describes, since no two
entries have one key. -/
theorem isSettled_of_hasUniqueTexts {entries : Entries} (h : entries.HasUniqueTexts) {name : String}
    (hname : name ∉ ["minlength", "maxlength", "regex"]) : (ofEntries entries).IsSettled name := by
  intro modifier hmem htext
  have hhas := has_of_mem hmem htext
  rw [has_eq_isSome_get?] at hhas
  obtain ⟨v, hv⟩ := Option.isSome_iff_exists.mp hhas
  obtain ⟨last, hlast, hlastText, rfl⟩ := exists_of_get? hv
  obtain ⟨entry, hentryMem, hentryText, hentryValue⟩ :=
    exists_entry_of_mem_ofEntries hname hmem htext
  obtain ⟨entry', hentryMem', hentryText', hentryValue'⟩ :=
    exists_entry_of_mem_ofEntries hname hlast hlastText
  rw [hv, ← hentryValue, ← hentryValue',
    h entry' hentryMem' entry hentryMem name hentryText' hentryText]

theorem isSettled_ofEntries {entries : Entries} (h : entries.HasDistinctKeys) {name : String}
    (hname : name ∉ ["minlength", "maxlength", "regex"]) : (ofEntries entries).IsSettled name :=
  isSettled_of_hasUniqueTexts h.hasUniqueTexts hname

/-- An item of an array that both sides can be compared on: no object identifier, and without
allowed values. -/
structure IsPlainItem (item : FieldSpec) : Prop where
  notObjectId : item.type.category? ≠ some .objectId
  noEnum : item.has "enum" = false

/-- A field that both sides can be compared on: neither it nor its items are object identifiers, it
has no allowed values, and no bounds and formats if it takes values of any kind. -/
structure IsPlain (spec : FieldSpec) : Prop extends spec.IsPlainItem where
  itemsNotObjectId : ∀ item, spec.items? = some item → item.type.category? ≠ some .objectId
  unconstrained : spec.type.category? = some .mixed →
    ∀ name ∈ ["minlength", "maxlength", "min", "max", "email", "regex"], spec.has name = false

end FieldSpec

/-- A described field that both sides can be compared on, in which it is settled whether the field
is required and what its items are. -/
def FieldForm.IsPlain : FieldForm → Prop
  | .single spec => spec.IsPlain ∧ spec.IsSettled "required" ∧ spec.IsSettled "items"
  | .arrayOf item => item.IsPlainItem

/-- The value of a field that both sides can be compared on: a mapping in which no key occurs twice,
or an array that is given by its items. -/
inductive Value.IsPlainField : Value → Prop
  | mapping {entries : Entries} (hkeys : entries.HasDistinctKeys)
    (hspec : (FieldSpec.ofEntries entries).IsPlain) : IsPlainField (.map entries)
  | list {items : List Value}
    (hitem : (FieldForm.itemSpec (items.head?.getD (.map []))).IsPlainItem) :
    IsPlainField (.list items)
  | tuple {items : List Value}
    (hitem : (FieldForm.itemSpec (items.head?.getD (.map []))).IsPlainItem) :
    IsPlainField (.tuple items)
  | deque {items : List Value}
    (hitem : (FieldForm.itemSpec (items.head?.getD (.map []))).IsPlainItem) :
    IsPlainField (.deque items)
  | shorthand {type : Value} {modifiers : List (Value × Value)}
    (hitem : (FieldSpec.mk type modifiers).IsPlainItem) : IsPlainField (.shorthand type modifiers)

/-- What is read of such a value. -/
theorem FieldForm.isPlain_of_read {raw : Value} {field : Option TextValue} {form : FieldForm}
    (hraw : raw.IsPlainField) (h : FieldForm.read field raw = .ok form) : form.IsPlain := by
  cases hraw with
  | mapping hkeys hspec =>
    obtain rfl := Except.ok.inj h
    exact ⟨hspec, FieldSpec.isSettled_ofEntries hkeys (by decide),
      FieldSpec.isSettled_ofEntries hkeys (by decide)⟩
  | list hitem =>
    obtain rfl := Except.ok.inj h
    exact hitem
  | tuple hitem =>
    obtain rfl := Except.ok.inj h
    exact hitem
  | deque hitem =>
    obtain rfl := Except.ok.inj h
    exact hitem
  | shorthand hitem =>
    obtain rfl := Except.ok.inj h
    exact hitem

/-! ## Fields on both sides -/

section

variable {overrides : Overrides} {field : TextValue} {rule : Rule} {stored : StoredField}

/-- The rule of an array that is given by its items. -/
theorem Rule.ofForm_arrayOf_eq_ok {item : FieldSpec} (hitem : item.IsPlainItem)
    (h : (Rule.ofForm overrides field (.arrayOf item)).result = .ok rule) :
    ∃ itemRule?, (Rule.ofItemSpec overrides field item).result = .ok itemRule? ∧
      rule = Rule.ofItem itemRule? := by
  rw [Rule.ofForm] at h
  obtain ⟨itemRule?, hitemRule, h⟩ := Logged.result_andThen_eq_ok_iff.mp h
  obtain ⟨allowed, hallowed, h⟩ := Logged.result_andThen_eq_ok_iff.mp h
  have hnone : item.get "enum" = .null := by
    rw [FieldSpec.get, FieldSpec.get?_of_has_eq_false hitem.noEnum, Option.getD_none]
  rw [hnone] at hallowed
  obtain rfl := Except.ok.inj hallowed
  exact ⟨itemRule?, hitemRule, (Except.ok.inj h).symm⟩

/-- The items that storage names are those of the rule. -/
theorem exists_item_of_itemTypeName? {item : FieldSpec} {itemRule? : Option Rule} {name : String}
    (hitem : item.type.category? ≠ some .objectId)
    (hrule : (Rule.ofItemSpec overrides field item).result = .ok itemRule?)
    (htype : stored.type = .list [item.type.storageType])
    (hname : stored.itemTypeName? = some name) :
    ∃ itemRule itemType, itemRule? = some itemRule ∧
      itemRule.kind = CanonicalType.ruleKind itemType ∧ itemType ≠ .objectId ∧
        itemType.storageName? = some name := by
  rw [StoredField.itemTypeName?, StoredField.isArray, htype, if_pos rfl, StoredField.itemType,
    htype] at hname
  obtain ⟨t, ht, hstorageName⟩ := CanonicalType.exists_of_storageTypeName? hname
  obtain ⟨itemRule, hitemRule, hkind⟩ := Rule.ofItemSpec_eq_ok hrule ht
  exact ⟨itemRule, t, hitemRule, hkind, fun h => hitem (ht.trans (congrArg some h)), hstorageName⟩

/-- An array that is given by its items can be stored. -/
theorem StoredField.admits_of_arrayOf {item : FieldSpec} (hitem : item.IsPlainItem)
    (hrule : (Rule.ofForm overrides field (.arrayOf item)).result = .ok rule)
    (hstored : (StoredField.ofForm field (.arrayOf item)).result = .ok stored) {w : Value}
    (hw : rule.Describes w) :
    Value.meets (.ofFields stored.property) w = true ∧
      ∀ check, stored.check? = some check → check.admits w = true := by
  obtain ⟨itemRule?, hitemRule, rfl⟩ := Rule.ofForm_arrayOf_eq_ok hitem hrule
  obtain rfl := Except.ok.inj hstored
  have hcheck := StoredField.check?_withItems { type := .null } item
  have hbound : ∀ (hint : StorageHint) (measure : Measure) (isLeast : Bool),
      hint.limit? = some (measure, isLeast) →
        (StoredField.withItems { type := .null } item).boundOf hint = none := by
    intro hint measure isLeast hlimit
    have href := StorageHint.ne_ref_of_limit? hlimit
    rw [StoredField.boundOf, StoredField.hint?_withItems _ _ href]
    rfl
  have hagrees : (Rule.ofItem itemRule?).Agrees (StoredField.withItems { type := .null } item) := by
    refine ⟨fun r hr => ?_, fun hint measure isLeast n hlimit hn => ?_, fun check hsome => ?_⟩
    · rw [Rule.facts_ofItem] at hr
      cases hr
    · rw [hbound hint measure isLeast hlimit] at hn
      contradiction
    · rw [hcheck] at hsome
      contradiction
  refine hagrees.admits (t := .array) CanonicalType.noConfusion (Rule.kind_ofItem itemRule?)
    (fun _ => ⟨hcheck, hbound⟩) ?_ ?_ hw
  · intro name hname
    rw [StoredField.typeName?, StoredField.isArray, StoredField.type_withItems, if_pos rfl] at hname
    exact hname
  · intro name hname
    rw [Rule.item?_ofItem]
    exact exists_item_of_itemTypeName? hitem.notObjectId hitemRule
      (StoredField.type_withItems _ item) hname

/-- What both sides make of a field that is described by a type and modifiers. -/
structure Rule.OfSpec (rule : Rule) (stored : StoredField) (spec : FieldSpec) (t : CanonicalType) :
    Prop where
  type_eq : spec.type.category? = some t
  kind_eq : rule.kind = t.ruleKind
  default?_eq : rule.facts.default? = spec.get? "default"
  isOptional : rule.facts.isOptional = true → (∃ modifier ∈ spec.modifiers,
    modifier.1.asText? = some "required" ∧ modifier.2.isFalse = true) ∨
      (spec.get "required").isTrue = false
  agrees : rule.Agrees stored
  run : StoredField.Run (StoredField.isArrayCategory spec.type.storageType)
    { type := spec.type.storageType } stored spec.type spec.modifiers

/-- **A field on both sides**, with the rule for its items. -/
theorem Rule.ofSpec_of_ofForm {spec : FieldSpec} (hspec : spec.IsPlainItem)
    (hrule : (Rule.ofForm overrides field (.single spec)).result = .ok rule)
    (hstored : (StoredField.ofForm field (.single spec)).result = .ok stored) :
    ∃ t, rule.OfSpec stored spec t ∧ ∀ item, t = .array → spec.items? = some item →
      (Rule.ofItemSpec overrides field item).result = .ok rule.item? := by
  obtain ⟨t, start, made, ht, hstart, hmade, rfl⟩ := Rule.ofForm_single_eq_ok hrule
  obtain ⟨hkind, hfacts, hitems⟩ := Rule.ofType_eq_ok hstart
  have hfacts := hfacts fun h => hspec.notObjectId (ht.trans (congrArg some h))
  have henum : ∀ modifier ∈ spec.modifiers, modifier.1.asText? ≠ some "enum" := by
    intro modifier hmem htext
    have hhas := FieldSpec.has_of_mem hmem htext
    rw [hspec.noEnum] at hhas
    contradiction
  have hrun := Rule.run_of_applyModifiers spec.type henum hmade
  obtain ⟨hfinishKind, hfinishItem, hfinishDefault, hfinishOptional, hfinishAgrees⟩ :=
    Rule.finish_spec field spec made
  have hstart : start.Agrees { type := spec.type.storageType } := by
    refine ⟨fun r hr => ?_, fun hint measure isLeast n hlimit hn => ?_, fun check hsome => ?_⟩
    · rw [hfacts] at hr
      cases hr
    · contradiction
    · contradiction
  refine ⟨t, ⟨ht, ?_, ?_, ?_, ?_, StoredField.run_of_applyModifiers spec.type hstored⟩, ?_⟩
  · rw [hfinishKind, hrun.kind_eq, hkind]
  · rw [hfinishDefault, hrun.default?_eq, hfacts, Option.or_none]
  · intro hoptional
    rcases hfinishOptional hoptional with hmadeOptional | hrequired
    · rcases hrun.isOptional hmadeOptional with hstartOptional | hmodifier
      · rw [hfacts] at hstartOptional
        contradiction
      · exact .inl hmodifier
    · exact .inr hrequired
  · exact hfinishAgrees _ (Rule.agrees_of_applyModifiers henum hstart hmade hstored)
  · intro item harray hitem
    rw [hfinishItem, hrun.item?_eq]
    exact hitems item harray hitem

/-- The hints of a stored field are its modifiers. -/
theorem Rule.OfSpec.hint?_eq {spec : FieldSpec} {t : CanonicalType}
    (h : rule.OfSpec stored spec t) {hint : StorageHint} (href : hint ≠ .ref) :
    stored.hint? hint = spec.get? hint.name := by
  rw [h.run.hint?_eq hint href]
  exact Option.or_none

/-- The type of a stored field: that of its category, or an array of items. -/
theorem Rule.OfSpec.type_cases {spec : FieldSpec} {t : CanonicalType}
    (hsettled : spec.IsSettled "items") (h : rule.OfSpec stored spec t) :
    (stored.type = .canonical (if t = .object then .mixed else t)) ∨
      (t = .array ∧ ∃ item, spec.items? = some item ∧
        stored.type = .list [item.type.storageType]) := by
  have hstorageType : spec.type.storageType = .canonical (if t = .object then .mixed else t) := by
    rw [Value.storageType, h.type_eq]
    cases t <;> rfl
  rcases h.run.type_eq with hsame | ⟨harray, modifier, hmem, htext, item, hitem, htype⟩
  · exact .inl (hsame.trans hstorageType)
  · refine .inr ⟨?_, item, ?_, htype⟩
    · rw [hstorageType] at harray
      cases t <;> first | rfl | contradiction
    · rw [FieldSpec.items?, FieldSpec.get, hsettled modifier hmem htext, Option.getD_some]
      exact hitem

/-- A field that is described by a type and modifiers can be stored. -/
theorem StoredField.admits_of_single {spec : FieldSpec} (hspec : spec.IsPlain)
    (hsettled : spec.IsSettled "items")
    (hrule : (Rule.ofForm overrides field (.single spec)).result = .ok rule)
    (hstored : (StoredField.ofForm field (.single spec)).result = .ok stored) {w : Value}
    (hw : rule.Describes w) :
    Value.meets (.ofFields stored.property) w = true ∧
      ∀ check, stored.check? = some check → check.admits w = true := by
  obtain ⟨t, hof, hitemRule⟩ := Rule.ofSpec_of_ofForm hspec.toIsPlainItem hrule hstored
  have ht : t ≠ .objectId := fun h => hspec.notObjectId (hof.type_eq.trans (congrArg some h))
  refine hof.agrees.admits ht hof.kind_eq ?_ ?_ ?_ hw
  · intro hany
    have hmixed : spec.type.category? = some .mixed := by
      rw [hof.kind_eq] at hany
      rw [hof.type_eq]
      cases t <;> first | rfl | contradiction
    have hnone := hspec.unconstrained hmixed
    refine ⟨?_, fun hint measure isLeast hlimit => ?_⟩
    · rcases hof.run.check?_eq with hsame | ⟨modifier, hmem, htext | htext⟩
      · exact hsame
      · have hhas := FieldSpec.has_of_mem hmem htext
        rw [hnone "email" (by decide)] at hhas
        contradiction
      · have hhas := FieldSpec.has_of_mem hmem htext
        rw [hnone "regex" (by decide)] at hhas
        contradiction
    · have href := StorageHint.ne_ref_of_limit? hlimit
      have hname := List.mem_append_left ["email", "regex"] (Rule.name_mem_of_limit? hlimit)
      rw [StoredField.boundOf, hof.hint?_eq href,
        FieldSpec.get?_of_has_eq_false (hnone hint.name hname)]
      rfl
  · intro name hname
    rcases hof.type_cases hsettled with htype | ⟨rfl, item, hitem, htype⟩
    · rw [StoredField.typeName?, StoredField.isArray, htype, if_neg Bool.false_ne_true] at hname
      cases t <;> first | exact hname | contradiction
    · rw [StoredField.typeName?, StoredField.isArray, htype, if_pos rfl] at hname
      exact hname
  · intro name hname
    rcases hof.type_cases hsettled with htype | ⟨harray, item, hitem, htype⟩
    · rw [StoredField.itemTypeName?, StoredField.isArray, htype, if_neg Bool.false_ne_true] at hname
      contradiction
    · exact exists_item_of_itemTypeName? (hspec.itemsNotObjectId item hitem)
        (hitemRule item harray hitem) htype hname

/-- **What the rule of a field accepts can be stored.** -/
theorem StoredField.admits_of_describes {form : FieldForm} (hform : form.IsPlain)
    (hrule : (Rule.ofForm overrides field form).result = .ok rule)
    (hstored : (StoredField.ofForm field form).result = .ok stored) {w : Value}
    (hw : rule.Describes w) :
    Value.meets (.ofFields stored.property) w = true ∧
      ∀ check, stored.check? = some check → check.admits w = true := by
  cases form with
  | single spec => exact admits_of_single hform.1 hform.2.2 hrule hstored hw
  | arrayOf item => exact admits_of_arrayOf hform hrule hstored hw

end

end FieldSchema
