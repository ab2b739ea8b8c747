import FieldSchema.Proofs.Rule.Reading
import FieldSchema.Proofs.Storage.Admission

/-!
# What modifiers do

The rule and the stored field of a definition are made from the same modifiers in the same order.
Rules collect: every bound and every format adds a refinement, if it counts on rules of that kind.
Stored fields replace: of several bounds or formats the last one counts.  Both sides are summed up
here one modifier at a time, without allowed values, which make a rule of another kind.

* `Rule.Step`, `Rule.step_of_applyModifier`: one modifier of a rule.
* `StoredField.Step`, `StoredField.step_of_applyModifier`: one modifier of a stored field.
-/

namespace FieldSchema

/-! ## Rules -/

namespace Rule

/-- A rule is another one with refinements more, none of which brings texts to lower case. -/
def Adds (rule rule' : Rule) (more : List Refinement) : Prop :=
  rule' = rule.refine more ∧ ∀ r ∈ more, r.kind ≠ .lowercase

theorem adds_nil (rule : Rule) : rule.Adds rule [] :=
  ⟨rule.refine_nil.symm, fun _ hr => absurd hr List.not_mem_nil⟩

theorem adds_singleton (rule : Rule) {r : Refinement} (h : r.kind ≠ .lowercase) :
    rule.Adds (rule.refine [r]) [r] :=
  ⟨rfl, fun _ hr => List.mem_singleton.mp hr ▸ h⟩

variable {overrides : Overrides} {field : TextValue} {rule rule' : Rule} {modifier : String}
  {v : Value}

/-- A bound on the length counts on rules for texts. -/
theorem adds_boundLength (isLeast : Bool) :
    ∃ more, rule.Adds (boundLength overrides field modifier isLeast rule v) more ∧
      ∀ n, v.asNumber? = some n → rule.kind = .string →
        ∃ message, .limit .length isLeast n message ∈ more := by
  unfold boundLength
  split
  · rename_i n hkind hn
    rw [bound_eq_refine]
    refine ⟨_, adds_singleton rule (kind_limit_ne _ _ _ _), fun n' hn' _ => ?_⟩
    obtain rfl := Option.some.inj (hn.symm.trans hn')
    exact ⟨_, List.mem_singleton_self _⟩
  · rename_i hother
    exact ⟨[], adds_nil rule, fun n hn hkind => absurd hn (hother n hkind)⟩

/-- A bound on the size counts on rules for numbers, and for arrays in another way. -/
theorem adds_boundSize (isLeast : Bool) :
    ∃ more, rule.Adds (boundSize overrides field modifier isLeast rule v) more ∧
      ∀ n, v.asNumber? = some n → rule.kind = .number →
        ∃ message, .limit .number isLeast n message ∈ more := by
  unfold boundSize
  split
  · rename_i n hkind hn
    dsimp only
    rw [bound_eq_refine]
    refine ⟨_, adds_singleton rule (kind_limit_ne _ _ _ _), fun n' hn' _ => ?_⟩
    obtain rfl := Option.some.inj (hn.symm.trans hn')
    exact ⟨_, List.mem_singleton_self _⟩
  · rename_i n hkind hn
    dsimp only
    rw [bound_eq_refine]
    refine ⟨_, adds_singleton rule (kind_limit_ne _ _ _ _), fun n' _ hnumber => ?_⟩
    rw [hkind] at hnumber
    contradiction
  · rename_i hother _
    exact ⟨[], adds_nil rule, fun n hn hkind => absurd hn (hother n hkind)⟩

/-- The format of mail addresses counts on rules for texts. -/
theorem adds_mailAddress :
    ∃ more, rule.Adds (mailAddress overrides field rule v) more ∧
      (v.isTrue = true → rule.kind = .string → ∃ message, .email message ∈ more) := by
  unfold mailAddress
  split
  · exact ⟨_, adds_singleton rule RefinementKind.noConfusion, fun _ _ =>
      ⟨_, List.mem_singleton_self _⟩⟩
  · rename_i hother
    refine ⟨[], adds_nil rule, fun htrue hkind => absurd ?_ hother⟩
    rw [htrue, hkind]
    rfl

/-- A pattern text that storage uses as a check is the one that it was given. -/
theorem ofSource_eq_ok {source : TextValue} {flags : Flags} {check : FormatCheck}
    (h : (FormatCheck.ofSource field source flags).result = .ok (some check)) :
    check = .ofPattern source flags := by
  unfold FormatCheck.ofSource at h
  split at h
  · exact (Option.some.inj (Except.ok.inj h)).symm
  · cases Except.ok.inj h
  · contradiction

/-- A pattern counts on rules for texts, and is the same as that of the check. -/
theorem adds_matchPattern (h : matchPattern overrides field rule v = .ok rule') :
    ∃ more, rule.Adds rule' more ∧ ∀ check : FormatCheck, rule.kind = .string →
      (FormatCheck.ofModifier field v).result = .ok (some check) →
        ∃ message,
          .pattern (.ofTextValue check.pattern) (.int check.flags.toNat) message ∈ more := by
  have husable : ∀ source flags, matching overrides field rule source flags = .ok rule' →
      (FormatCheck.ofModifier field v = FormatCheck.ofSource field source flags) →
      ∃ more, rule.Adds rule' more ∧ ∀ check : FormatCheck, rule.kind = .string →
        (FormatCheck.ofModifier field v).result = .ok (some check) → ∃ message,
          .pattern (.ofTextValue check.pattern) (.int check.flags.toNat) message ∈ more := by
    intro source flags hmatching hsource
    obtain ⟨message, rfl⟩ := matching_eq_ok hmatching
    refine ⟨_, adds_singleton rule RefinementKind.noConfusion, fun check _ hcheck => ?_⟩
    rw [hsource] at hcheck
    rw [ofSource_eq_ok hcheck]
    exact ⟨message, List.mem_singleton_self _⟩
  unfold matchPattern at h
  split at h
  · split at h
    · exact husable _ _ h rfl
    · exact husable _ _ h rfl
    · exact husable _ _ h rfl
    · contradiction
    · rename_i htext hcanonical hpattern hbytes
      obtain rfl := Except.ok.inj h
      refine ⟨[], adds_nil rule, fun check _ hcheck => ?_⟩
      unfold FormatCheck.ofModifier at hcheck
      split at hcheck
      · exact absurd rfl (htext _)
      · exact absurd rfl (hcanonical _)
      · exact absurd rfl (hpattern _ _)
      · exact absurd rfl (hbytes _ _)
      · cases Except.ok.inj hcheck
  · rename_i hkind
    obtain rfl := Except.ok.inj h
    exact ⟨[], adds_nil rule, fun check hstring _ => absurd (by rw [hstring]; rfl) hkind⟩

/-- A reference adds the format of object identifiers. -/
theorem adds_referTo : ∃ more, rule.Adds rule.referTo more := by
  unfold referTo
  split
  · exact ⟨_, adds_singleton rule RefinementKind.noConfusion⟩
  · exact ⟨[], adds_nil rule⟩

/-- Whether refinements cover what storage makes of a modifier of a field of a kind: a bound, the
check of mail addresses, or the check of a pattern. -/
structure Covers (field : TextValue) (kind : RuleKind) (modifier : String) (v : Value)
    (refinements : List Refinement) : Prop where
  limit : ∀ (hint : StorageHint) (measure : Measure) (isLeast : Bool) (n : Number),
    hint.limit? = some (measure, isLeast) → modifier = hint.name → v.asNumber? = some n →
      kind = measure.ruleKind → ∃ message, .limit measure isLeast n message ∈ refinements
  email : modifier = "email" → v.isTrue = true → kind = .string →
    ∃ message, .email message ∈ refinements
  pattern : modifier = "regex" → kind = .string → ∀ check : FormatCheck,
    (FormatCheck.ofModifier field v).result = .ok (some check) → ∃ message,
      .pattern (.ofTextValue check.pattern) (.int check.flags.toNat) message ∈ refinements

theorem Covers.mono {kind : RuleKind} {refinements more : List Refinement}
    (h : Covers field kind modifier v refinements) (hmore : ∀ r ∈ refinements, r ∈ more) :
    Covers field kind modifier v more where
  limit hint measure isLeast n hlimit hname hn hkind :=
    (h.limit hint measure isLeast n hlimit hname hn hkind).imp fun _ => hmore _
  email hname htrue hkind := (h.email hname htrue hkind).imp fun _ => hmore _
  pattern hname hkind check hcheck := (h.pattern hname hkind check hcheck).imp fun _ => hmore _

/-- The names of the hints that state bounds. -/
theorem name_mem_of_limit? {hint : StorageHint} {measure : Measure} {isLeast : Bool}
    (h : hint.limit? = some (measure, isLeast)) :
    hint.name ∈ ["minlength", "maxlength", "min", "max"] := by
  cases hint <;> first | contradiction | decide

/-- Storage makes neither a bound nor a check of other modifiers. -/
theorem covers_of_notMem {kind : RuleKind} {refinements : List Refinement}
    (h : modifier ∉ ["minlength", "maxlength", "min", "max", "email", "regex"]) :
    Covers field kind modifier v refinements where
  limit hint measure isLeast n hlimit hname := by
    rw [hname] at h
    exact absurd (List.mem_append_left ["email", "regex"] (name_mem_of_limit? hlimit)) h
  email hname := absurd (by rw [hname]; decide) h
  pattern hname := absurd (by rw [hname]; decide) h

/-- A bound covers what storage makes of its modifier. -/
theorem covers_of_limit {kind : RuleKind} {refinements : List Refinement} {own : StorageHint}
    {measure : Measure} {isLeast : Bool} (hown : own.limit? = some (measure, isLeast))
    (h : ∀ n, v.asNumber? = some n → kind = measure.ruleKind →
      ∃ message, .limit measure isLeast n message ∈ refinements) :
    Covers field kind own.name v refinements where
  limit hint measure' isLeast' n hlimit hname hn hkind := by
    have hsame : hint = own := by
      have hnames := congrArg StorageHint.ofName? hname
      rw [StorageHint.ofName?_name, StorageHint.ofName?_name] at hnames
      exact (Option.some.inj hnames).symm
    rw [hsame, hown] at hlimit
    obtain ⟨rfl, rfl⟩ := Prod.mk.inj (Option.some.inj hlimit)
    exact h n hn hkind
  email hname := absurd (name_mem_of_limit? hown) (by rw [hname]; decide)
  pattern hname := absurd (name_mem_of_limit? hown) (by rw [hname]; decide)

/-- What one modifier changes of a rule: its kind and the rule for its items stay, and what covers
the modifier for storage is added to the refinements. -/
structure Step (field : TextValue) (rule rule' : Rule) (modifier : String) (v : Value) : Prop where
  kind_eq : rule'.kind = rule.kind
  item?_eq : rule'.item? = rule.item?
  isOptional_eq : rule'.facts.isOptional =
    (rule.facts.isOptional || (modifier == "required" && v.isFalse))
  default?_eq : rule'.facts.default? = if modifier = "default" then some v else rule.facts.default?
  kept : ∀ r ∈ rule.facts.refinements, r ∈ rule'.facts.refinements
  noLowercase : (∀ r ∈ rule.facts.refinements, r.kind ≠ .lowercase) →
    ∀ r ∈ rule'.facts.refinements, r.kind ≠ .lowercase
  covers : Covers field rule.kind modifier v rule'.facts.refinements

/-- A modifier that only adds refinements. -/
theorem Adds.step {more : List Refinement} (h : rule.Adds rule' more)
    (hrequired : modifier ≠ "required") (hdefault : modifier ≠ "default")
    (hcovers : Covers field rule.kind modifier v more) : Step field rule rule' modifier v := by
  obtain ⟨rfl, hlower⟩ := h
  refine ⟨rule.kind_refine more, rule.item?_refine more, ?_, ?_, ?_, ?_, ?_⟩
  · rw [facts_refine, beq_eq_false_iff_ne.mpr hrequired, Bool.false_and, Bool.or_false]
  · rw [facts_refine, if_neg hdefault]
  · intro r hr
    rw [facts_refine]
    exact List.mem_append_left _ hr
  · intro hbefore r hr
    rw [facts_refine] at hr
    rcases List.mem_append.mp hr with hold | hnew
    · exact hbefore r hold
    · exact hlower r hnew
  · refine hcovers.mono fun r hr => ?_
    rw [facts_refine]
    exact List.mem_append_right _ hr

/-- A modifier that only says whether the field may be left out, or what stands for it then. -/
theorem step_withFacts {facts : RuleFacts}
    (hrefinements : facts.refinements = rule.facts.refinements)
    (hoptional : facts.isOptional =
      (rule.facts.isOptional || (modifier == "required" && v.isFalse)))
    (hdefault : facts.default? = if modifier = "default" then some v else rule.facts.default?)
    (hcovers : modifier ∉ ["minlength", "maxlength", "min", "max", "email", "regex"]) :
    Step field rule (rule.withFacts facts) modifier v := by
  have hfacts := facts_withFacts rule facts
  refine ⟨kind_withFacts rule facts, item?_withFacts rule facts, ?_, ?_, ?_, ?_,
    covers_of_notMem hcovers⟩
  · rw [hfacts, hoptional]
  · rw [hfacts, hdefault]
  · intro r hr
    rw [hfacts, hrefinements]
    exact hr
  · intro hbefore
    rw [hfacts, hrefinements]
    exact hbefore

/-- **One modifier of a rule**, other than allowed values. -/
theorem step_of_applyModifier (henum : modifier ≠ "enum")
    (h : applyModifier overrides field rule modifier v = .ok rule') :
    Step field rule rule' modifier v := by
  by_cases hrequired : modifier = "required"
  · subst hrequired
    obtain rfl := Except.ok.inj (show Except.ok _ = Except.ok rule' from h)
    cases hfalse : v.isFalse with
    | true =>
      refine step_withFacts rfl ?_ rfl (by decide)
      rw [hfalse, beq_self_eq_true, Bool.and_true, Bool.or_true]
    | false =>
      refine ⟨rfl, rfl, ?_, rfl, fun _ hr => hr, fun hr => hr, covers_of_notMem (by decide)⟩
      rw [hfalse, Bool.and_false, Bool.or_false]
      rfl
  by_cases hminlength : modifier = "minlength"
  · subst hminlength
    obtain rfl := Except.ok.inj (show Except.ok _ = Except.ok rule' from h)
    obtain ⟨more, hadds, hlimit⟩ := adds_boundLength true
    exact hadds.step (by decide) (by decide)
      (covers_of_limit (show StorageHint.minLength.limit? = _ from rfl) hlimit)
  by_cases hmaxlength : modifier = "maxlength"
  · subst hmaxlength
    obtain rfl := Except.ok.inj (show Except.ok _ = Except.ok rule' from h)
    obtain ⟨more, hadds, hlimit⟩ := adds_boundLength false
    exact hadds.step (by decide) (by decide)
      (covers_of_limit (show StorageHint.maxLength.limit? = _ from rfl) hlimit)
  by_cases hmin : modifier = "min"
  · subst hmin
    obtain rfl := Except.ok.inj (show Except.ok _ = Except.ok rule' from h)
    obtain ⟨more, hadds, hlimit⟩ := adds_boundSize true
    exact hadds.step (by decide) (by decide)
      (covers_of_limit (show StorageHint.min.limit? = _ from rfl) hlimit)
  by_cases hmax : modifier = "max"
  · subst hmax
    obtain rfl := Except.ok.inj (show Except.ok _ = Except.ok rule' from h)
    obtain ⟨more, hadds, hlimit⟩ := adds_boundSize false
    exact hadds.step (by decide) (by decide)
      (covers_of_limit (show StorageHint.max.limit? = _ from rfl) hlimit)
  by_cases hemail : modifier = "email"
  · subst hemail
    obtain rfl := Except.ok.inj (show Except.ok _ = Except.ok rule' from h)
    obtain ⟨more, hadds, hmail⟩ := adds_mailAddress
    exact hadds.step (by decide) (by decide)
      ⟨fun _ _ _ _ hlimit hname => absurd (name_mem_of_limit? hlimit) (hname ▸ by decide),
        fun _ => hmail, fun hname => absurd hname (by decide)⟩
  by_cases hregex : modifier = "regex"
  · subst hregex
    obtain ⟨more, hadds, hpattern⟩ := adds_matchPattern h
    exact hadds.step (by decide) (by decide)
      ⟨fun _ _ _ _ hlimit hname => absurd (name_mem_of_limit? hlimit) (hname ▸ by decide),
        fun hname => absurd hname (by decide),
        fun _ hkind check hcheck => hpattern check hkind hcheck⟩
  have hcovers : modifier ∉ ["minlength", "maxlength", "min", "max", "email", "regex"] := by
    simp only [List.mem_cons, List.not_mem_nil, or_false, not_or]
    exact ⟨hminlength, hmaxlength, hmin, hmax, hemail, hregex⟩
  by_cases hdefault : modifier = "default"
  · subst hdefault
    obtain rfl := Except.ok.inj (show Except.ok _ = Except.ok rule' from h)
    refine step_withFacts rfl ?_ rfl hcovers
    rw [beq_eq_false_iff_ne.mpr hrequired, Bool.false_and, Bool.or_false]
  by_cases href : modifier = "ref"
  · subst href
    obtain rfl := Except.ok.inj (show Except.ok _ = Except.ok rule' from h)
    obtain ⟨more, hadds⟩ := adds_referTo
    exact hadds.step hrequired hdefault (covers_of_notMem hcovers)
  -- Every other modifier is passed over.
  unfold applyModifier at h
  simp only [beq_eq_false_iff_ne.mpr hrequired, beq_eq_false_iff_ne.mpr hminlength,
    beq_eq_false_iff_ne.mpr hmaxlength, beq_eq_false_iff_ne.mpr hmin, beq_eq_false_iff_ne.mpr hmax,
    beq_eq_false_iff_ne.mpr hemail, beq_eq_false_iff_ne.mpr henum, beq_eq_false_iff_ne.mpr hregex,
    beq_eq_false_iff_ne.mpr hdefault, beq_eq_false_iff_ne.mpr href] at h
  obtain rfl := Except.ok.inj (show Except.ok rule = Except.ok rule' from h)
  exact (adds_nil rule).step hrequired hdefault (covers_of_notMem hcovers)

end Rule

/-! ## Stored fields -/

namespace StoredField

variable {field : TextValue} {isArrayType : Bool} {stored stored' : StoredField} {key v : Value}

/-- What one modifier changes of a stored field: a hint is replaced under its name, items state the
type of an array, and a mail check or a pattern replaces the check. -/
structure Step (field : TextValue) (isArrayType : Bool) (stored stored' : StoredField)
    (key v : Value) : Prop where
  hint?_eq : ∀ hint, hint ≠ .ref → stored'.hint? hint =
    if key.asText? = some hint.name then some v else stored.hint? hint
  type_eq : stored'.type = stored.type ∨ isArrayType = true ∧ key.asText? = some "items" ∧
    ∃ item, FieldSpec.ofValue? v = some item ∧ stored'.type = .list [item.type.storageType]
  check?_eq : stored'.check? = stored.check? ∨
    key.asText? = some "email" ∧ v.isTrue = true ∧ stored'.check? = some .email ∨
    key.asText? = some "regex" ∧ ∃ check,
      (FormatCheck.ofModifier field v).result = .ok (some check) ∧ stored'.check? = some check

/-- The hints have other names than the modifiers of the type and of the check. -/
theorem name_ne (hint : StorageHint) :
    hint.name ≠ "items" ∧ hint.name ≠ "email" ∧ hint.name ≠ "regex" := by
  cases hint <;> decide

theorem step_refl (h : ∀ hint : StorageHint, key.asText? ≠ some hint.name) :
    Step field isArrayType stored stored key v :=
  ⟨fun hint _ => (if_neg (h hint)).symm, .inl rfl, .inl rfl⟩

/-- Items state the type of an array and, at most, what they refer to. -/
theorem hint?_withItems (stored : StoredField) (item : FieldSpec) {hint : StorageHint}
    (h : hint ≠ .ref) : (stored.withItems item).hint? hint = stored.hint? hint := by
  unfold withItems
  dsimp only
  split
  · exact hint?_withHint_of_ne _ _ h
  · rfl

theorem type_withItems (stored : StoredField) (item : FieldSpec) :
    (stored.withItems item).type = .list [item.type.storageType] := by
  unfold withItems
  dsimp only
  split <;> rfl

theorem check?_withItems (stored : StoredField) (item : FieldSpec) :
    (stored.withItems item).check? = stored.check? := by
  unfold withItems
  dsimp only
  split <;> rfl

/-- **One modifier of a stored field.** -/
theorem step_of_applyModifier
    (h : (applyModifier field isArrayType stored (key, v)).result = .ok stored') :
    Step field isArrayType stored stored' key v := by
  unfold applyModifier at h
  split at h
  · rename_i hkey
    have hkey : key.asText? = none := hkey
    split at h
    · obtain rfl := Except.ok.inj h
      exact step_refl fun hint => by rw [hkey]; exact Option.some_ne_none _ |>.symm
    · contradiction
  · rename_i name hkey
    have hkey : key.asText? = some name := hkey
    have hnot : ∀ other, name = other → (∀ hint : StorageHint, hint.name ≠ other) →
        ∀ hint : StorageHint, key.asText? ≠ some hint.name := by
      intro other hname hother hint hsame
      exact hother hint ((Option.some.inj (hkey.symm.trans hsame)).symm.trans hname)
    split at h
    · rename_i hname
      have hname := eq_of_beq hname
      have hother := hnot _ hname fun hint => (name_ne hint).1
      split at h
      · rename_i item hitem
        obtain rfl := Except.ok.inj h
        exact ⟨fun hint href => by rw [hint?_withItems _ _ href, if_neg (hother hint)],
          .inr ⟨rfl, hkey.trans (congrArg some hname), item, hitem, type_withItems _ _⟩,
          .inl (check?_withItems _ _)⟩
      · obtain rfl := Except.ok.inj h
        exact step_refl hother
    split at h
    · rename_i hname
      have hname := eq_of_beq hname
      have hother := hnot _ hname fun hint => (name_ne hint).2.1
      obtain rfl := Except.ok.inj h
      split
      · rename_i htrue
        exact ⟨fun hint _ => (if_neg (hother hint)).symm, .inl rfl,
          .inr (.inl ⟨hkey.trans (congrArg some hname), htrue, rfl⟩)⟩
      · exact step_refl hother
    split at h
    · rename_i hname
      have hname := eq_of_beq hname
      have hother := hnot _ hname fun hint => (name_ne hint).2.2
      obtain ⟨check?, hcheck, h⟩ := Logged.result_andThen_eq_ok_iff.mp h
      obtain rfl := Except.ok.inj h
      cases check? with
      | none => exact step_refl hother
      | some check =>
        exact ⟨fun hint _ => (if_neg (hother hint)).symm, .inl rfl,
          .inr (.inr ⟨hkey.trans (congrArg some hname), check, hcheck, rfl⟩)⟩
    · split at h
      · rename_i own hown
        obtain rfl := Except.ok.inj h
        have hname := StorageHint.name_of_ofName? hown
        refine ⟨fun hint _ => ?_, .inl rfl, .inl rfl⟩
        rw [hkey, ← hname]
        by_cases hsame : own = hint
        · rw [hsame, if_pos rfl]
          exact hint?_withHint_self _ _ _
        · have hnames : some own.name ≠ some hint.name := by
            intro hnames
            have hhints := congrArg StorageHint.ofName? (Option.some.inj hnames)
            rw [StorageHint.ofName?_name, StorageHint.ofName?_name] at hhints
            exact hsame (Option.some.inj hhints)
          rw [if_neg hnames]
          exact hint?_withHint_of_ne _ _ (Ne.symm hsame)
      · rename_i hnone
        obtain rfl := Except.ok.inj h
        refine step_refl fun hint hsame => ?_
        have hname := Option.some.inj (hkey.symm.trans hsame)
        rw [hname, StorageHint.ofName?_name] at hnone
        contradiction

end StoredField

/-! ## All modifiers -/

/-- The last value of a name among modifiers, of which the first one is looked at last. -/
theorem FieldSpec.get?_cons (type key v : Value) (rest : List (Value × Value)) (name : String) :
    (FieldSpec.mk type ((key, v) :: rest)).get? name =
      ((FieldSpec.mk type rest).get? name).or
        (if key.asText? = some name then some v else none) := by
  rw [get?, get?, List.reverse_cons, List.find?_append, Option.map_or]
  congr 1
  by_cases hname : key.asText? = some name
  · simp [hname]
  · have hname' : (key.asText? == some name) = false := beq_eq_false_iff_ne.mpr hname
    simp [hname, hname']

namespace Rule

/-- What modifiers change of a rule. -/
structure Run (rule rule' : Rule) (type : Value) (modifiers : List (Value × Value)) : Prop where
  kind_eq : rule'.kind = rule.kind
  item?_eq : rule'.item? = rule.item?
  isOptional : rule'.facts.isOptional = true → rule.facts.isOptional = true ∨
    ∃ modifier ∈ modifiers, modifier.1.asText? = some "required" ∧ modifier.2.isFalse = true
  default?_eq : rule'.facts.default? =
    ((FieldSpec.mk type modifiers).get? "default").or rule.facts.default?

/-- **All modifiers of a rule**, when none of them states allowed values. -/
theorem run_of_applyModifiers {overrides : Overrides} {field : TextValue} {rule rule' : Rule}
    {modifiers : List (Value × Value)} (type : Value)
    (henum : ∀ modifier ∈ modifiers, modifier.1.asText? ≠ some "enum")
    (h : applyModifiers overrides field rule modifiers = .ok rule') :
    Run rule rule' type modifiers := by
  induction modifiers generalizing rule with
  | nil =>
    obtain rfl := Except.ok.inj h
    exact ⟨rfl, rfl, .inl, rfl⟩
  | cons modifier rest ih =>
    obtain ⟨key, v⟩ := modifier
    have hrestEnum : ∀ modifier ∈ rest, modifier.1.asText? ≠ some "enum" := fun modifier hmem =>
      henum modifier (List.mem_cons_of_mem _ hmem)
    rw [applyModifiers] at h
    split at h
    · rename_i name hname
      split at h
      · rename_i between hbetween
        have hstep := step_of_applyModifier
          (fun hsame => henum _ List.mem_cons_self (hname.trans (congrArg some hsame))) hbetween
        have hrun := ih hrestEnum h
        refine ⟨hrun.kind_eq.trans hstep.kind_eq, hrun.item?_eq.trans hstep.item?_eq, ?_, ?_⟩
        · intro hoptional
          rcases hrun.isOptional hoptional with hearlier | ⟨modifier, hmem, hmodifier⟩
          · rw [hstep.isOptional_eq, Bool.or_eq_true, Bool.and_eq_true, beq_iff_eq] at hearlier
            rcases hearlier with hearlier | ⟨hrequired, hfalse⟩
            · exact .inl hearlier
            · exact .inr ⟨(key, v), List.mem_cons_self, hname.trans (congrArg some hrequired),
                hfalse⟩
          · exact .inr ⟨modifier, List.mem_cons_of_mem _ hmem, hmodifier⟩
        · rw [hrun.default?_eq, hstep.default?_eq, FieldSpec.get?_cons, hname, Option.or_assoc]
          by_cases hdefault : name = "default" <;> simp [hdefault]
      · contradiction
    · rename_i hname
      split at h
      · have hrun := ih hrestEnum h
        refine ⟨hrun.kind_eq, hrun.item?_eq, ?_, ?_⟩
        · intro hoptional
          exact (hrun.isOptional hoptional).imp_right fun ⟨modifier, hmem, hmodifier⟩ =>
            ⟨modifier, List.mem_cons_of_mem _ hmem, hmodifier⟩
        · rw [hrun.default?_eq, FieldSpec.get?_cons, hname]
          simp
      · contradiction

end Rule

namespace StoredField

/-- What modifiers change of a stored field. -/
structure Run (isArrayType : Bool) (stored stored' : StoredField) (type : Value)
    (modifiers : List (Value × Value)) : Prop where
  hint?_eq : ∀ hint, hint ≠ .ref → stored'.hint? hint =
    ((FieldSpec.mk type modifiers).get? hint.name).or (stored.hint? hint)
  type_eq : stored'.type = stored.type ∨ isArrayType = true ∧ ∃ modifier ∈ modifiers,
    modifier.1.asText? = some "items" ∧ ∃ item, FieldSpec.ofValue? modifier.2 = some item ∧
      stored'.type = .list [item.type.storageType]
  check?_eq : stored'.check? = stored.check? ∨ ∃ modifier ∈ modifiers,
    modifier.1.asText? = some "email" ∨ modifier.1.asText? = some "regex"

/-- **All modifiers of a stored field.** -/
theorem run_of_applyModifiers {field : TextValue} {isArrayType : Bool}
    {stored stored' : StoredField} {modifiers : List (Value × Value)} (type : Value)
    (h : (applyModifiers field isArrayType stored modifiers).result = .ok stored') :
    Run isArrayType stored stored' type modifiers := by
  induction modifiers generalizing stored with
  | nil =>
    obtain rfl := Except.ok.inj h
    exact ⟨fun _ _ => rfl, .inl rfl, .inl rfl⟩
  | cons modifier rest ih =>
    obtain ⟨key, v⟩ := modifier
    obtain ⟨between, hbetween, h⟩ := Logged.result_andThen_eq_ok_iff.mp h
    have hstep := step_of_applyModifier hbetween
    have hrun := ih h
    refine ⟨?_, ?_, ?_⟩
    · intro hint href
      rw [hrun.hint?_eq hint href, hstep.hint?_eq hint href, FieldSpec.get?_cons, Option.or_assoc]
      by_cases hname : key.asText? = some hint.name <;> simp [hname]
    · rcases hrun.type_eq with hsame | ⟨harray, modifier, hmem, hmodifier⟩
      · rw [hsame]
        rcases hstep.type_eq with hstepSame | ⟨harray, hkey, hitem⟩
        · exact .inl hstepSame
        · exact .inr ⟨harray, (key, v), List.mem_cons_self, hkey, hitem⟩
      · exact .inr ⟨harray, modifier, List.mem_cons_of_mem _ hmem, hmodifier⟩
    · rcases hrun.check?_eq with hsame | ⟨modifier, hmem, hmodifier⟩
      · rw [hsame]
        rcases hstep.check?_eq with hstepSame | ⟨hkey, -⟩ | ⟨hkey, -⟩
        · exact .inl hstepSame
        · exact .inr ⟨(key, v), List.mem_cons_self, .inl hkey⟩
        · exact .inr ⟨(key, v), List.mem_cons_self, .inr hkey⟩
      · exact .inr ⟨modifier, List.mem_cons_of_mem _ hmem, hmodifier⟩

end StoredField

end FieldSchema
