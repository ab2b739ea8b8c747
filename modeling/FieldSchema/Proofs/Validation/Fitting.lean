import FieldSchema.Proofs.Validation.StoredWords
import FieldSchema.Proofs.Validation.Strictness

/-!
# Refinements see values of their kind

A refinement is about texts, numbers or lists, and it is ready for any other value: it rejects what
is not of its kind as a value of the wrong type.  It never has to.  In the rule of a definition
every refinement, at every depth, is about the kind of values that its rule is for; the check of the
kind comes first, and hands on values of the kind only; and no refinement changes the kind of what
it hands on to the next.

This is said of every refinement that a check comes to, in lists, in objects and in what defaults
make, each with the value that it is given in that run (`Rule.EachRefinement`).  So whatever is
reported as a value of the wrong type is reported by the check of a kind, or stands for a field that
is missing (`Rule.Mistypes`).

* `Rule.HasNode`: the rules inside a rule.
* `Rule.EachRefinement`: what holds of the refinements of a run, by recursion along the run.
* `ValidationSchema.refinements_fit`: refinements fit where they are and what they are given.
-/

namespace FieldSchema

/-! ## Refinements that take a value for one of the wrong kind -/

namespace Refinement

/-- A refinement rejects a value as one of the wrong kind. -/
def Mismatches (r : Refinement) (v : Value) : Prop :=
  ∃ expected, r.check v = .ok (some (.wrongKind expected v))

/-- A refinement does not mismatch values of the kind that it is about. -/
theorem not_mismatches_of_holds {r : Refinement} {v : Value} (h : r.ruleKind.Holds v) :
    ¬r.Mismatches v := by
  rintro ⟨expected, hcheck⟩
  exact absurd (rejects_of_check h hcheck).1 (show "invalid_type" ∉ codes by decide)

end Refinement

namespace Rule

/-! ## The rules inside a rule -/

/-- A rule is another one, or inside it: the rule for items, or that of a field. -/
inductive HasNode : Rule → Rule → Prop
  | self (rule : Rule) : HasNode rule rule
  | item {facts : RuleFacts} {item node : Rule} (h : HasNode item node) :
    HasNode (.array facts item) node
  | field {facts : RuleFacts} {fields : List (TextValue × Rule)} {field : TextValue × Rule}
    {node : Rule} (hfield : field ∈ fields) (h : HasNode field.2 node) :
    HasNode (.object facts fields) node

variable {rule inner : Rule}

/-- What is inside a well-formed rule is well formed. -/
theorem IsWellFormed.of_hasNode (h : rule.IsWellFormed) (hnode : rule.HasNode inner) :
    inner.IsWellFormed := by
  induction hnode with
  | self => exact h
  | item hnode ih =>
    cases h with
    | array _ hitem => exact ih hitem
  | field hfield hnode ih =>
    cases h with
    | object _ _ hfields => exact ih (hfields _ hfield)

/-! ## The refinements of a run -/

variable {P : Refinement → Value → Prop} {policy : ObjectPolicy}

/-- Every refinement that refinements in order come to has a property of the value that it is
given. -/
def EachInOrder (P : Refinement → Value → Prop) : List Refinement → Value → Prop
  | [], _ => True
  | r :: rest, v => P r (r.transform v) ∧
    (r.check (r.transform v) = .ok none → EachInOrder P rest (r.transform v))

mutual

/-- Every refinement that the check of a value comes to has a property of the value that it is
given: those of the rule and those of the rules for its parts, in the order of the run. -/
def EachRefinement (P : Refinement → Value → Prop) (policy : ObjectPolicy) (rule : Rule)
    (path : String) (done : Nat) (v : Value) (history : CallHistory) : Prop :=
  match rule with
  | .leaf facts kind => ∀ u, kind.check v = .accepted u → EachInOrder P facts.refinements u
  | .array facts item =>
    ∀ items, v.listItems? = some items →
      Checking.EachHolds (check policy item path done)
          (EachRefinement P policy item path done) items history ∧
        ∀ parts left, Checking.each (check policy item path done) 0 items history =
          (.ok (.accepted parts), left) → EachInOrder P facts.refinements (.list parts)
  | .object facts fields =>
    ∀ entries, v = .map entries →
      EachOfFields P policy fields path done 0 {} entries history ∧
        ∀ output left, checkFields policy fields path done 0 {} entries history =
          (.ok (.accepted output), left) →
            EachInOrder P facts.refinements (.other
              (modelName policy.name path (done + modelCountOfFields fields + 1)))

/-- The same of the checks of what is supplied for the fields of an object. -/
def EachOfFields (P : Refinement → Value → Prop) (policy : ObjectPolicy)
    (fields : List (TextValue × Rule)) (path : String) (done index : Nat) (earlier : EarlierFields)
    (entries : Entries) (history : CallHistory) : Prop :=
  match fields with
  | [] => True
  | (name, rule) :: rest =>
    let given? := entries.getText? name.text
    (∀ v between, rule.SuppliedAt given? earlier history v between →
      EachRefinement P policy rule (fieldPath path name) done v between) ∧
    ∀ verdict left,
      checkField policy path done index earlier name rule given? history = (.ok verdict, left) →
      EachOfFields P policy rest path (done + modelCount rule) (index + 1)
        (earlier.record index (hasValue rule.facts given?) verdict) entries left

end

/-- The same of the checks of the fields that are given. -/
def EachOfGivenFields (P : Refinement → Value → Prop) (policy : ObjectPolicy) :
    List (TextValue × Rule) → Nat → Entries → CallHistory → Prop
  | [], _, _, _ => True
  | (name, rule) :: rest, done, entries, history =>
    (∀ v, entries.getText? name.text = some v →
      EachRefinement P policy rule (fieldPath "" name) done v history) ∧
    ∀ verdict left, checkGiven policy name rule done entries history = (.ok verdict, left) →
      EachOfGivenFields P policy rest (done + modelCount rule) entries left

/-- Refinements about a kind are given values of the kind, since none of them changes the kind. -/
theorem eachInOrder_of_holds (hP : ∀ r v, r.ruleKind.Holds v → P r v) {kind : RuleKind}
    {refinements : List Refinement} (hkind : ∀ r ∈ refinements, r.ruleKind = kind) {v : Value}
    (hv : kind.Holds v) : EachInOrder P refinements v := by
  induction refinements generalizing v with
  | nil => trivial
  | cons r rest ih =>
    obtain ⟨hr, hrest⟩ := List.forall_mem_cons.mp hkind
    have htransformed := r.holds_transform hv
    exact ⟨hP r _ (hr ▸ htransformed), fun _ => ih hrest htransformed⟩

/-- What holds of every value holds of the items of a list. -/
theorem eachHolds_of_forall {checkItem : Value → Checking (Verdict Value)}
    {Q : Value → CallHistory → Prop} (h : ∀ v history, Q v history) (items : List Value)
    (history : CallHistory) : Checking.EachHolds checkItem Q items history := by
  induction items generalizing history with
  | nil => trivial
  | cons v rest ih => exact ⟨h v history, fun _ left _ => ih left⟩

theorem eachOfFields_of_forall {fields : List (TextValue × Rule)}
    (h : ∀ field ∈ fields, ∀ path done v history,
      EachRefinement P policy field.2 path done v history) (path : String) (done index : Nat)
    (earlier : EarlierFields) (entries : Entries) (history : CallHistory) :
    EachOfFields P policy fields path done index earlier entries history := by
  induction fields generalizing done index earlier history with
  | nil => trivial
  | cons field rest ih =>
    obtain ⟨hfield, hrest⟩ := List.forall_mem_cons.mp h
    exact ⟨fun v between _ => hfield _ _ v between, fun _ left _ => ih hrest _ _ _ left⟩

theorem eachOfGivenFields_of_forall {fields : List (TextValue × Rule)}
    (h : ∀ field ∈ fields, ∀ path done v history,
      EachRefinement P policy field.2 path done v history) (done : Nat) (entries : Entries)
    (history : CallHistory) : EachOfGivenFields P policy fields done entries history := by
  induction fields generalizing done history with
  | nil => trivial
  | cons field rest ih =>
    obtain ⟨hfield, hrest⟩ := List.forall_mem_cons.mp h
    exact ⟨fun v _ => hfield _ _ v history, fun _ left _ => ih hrest _ left⟩

/-- **The refinements of a run** are given values of the kind that they are about. -/
theorem eachRefinement_of_isWellFormed (hP : ∀ r v, r.ruleKind.Holds v → P r v)
    (hrule : rule.IsWellFormed) (path : String) (done : Nat) (v : Value) (history : CallHistory) :
    EachRefinement P policy rule path done v history := by
  induction hrule generalizing path done v history with
  | leaf hfacts =>
    rw [EachRefinement]
    exact fun u hu => eachInOrder_of_holds hP hfacts.ruleKind_eq (RuleKind.holds_of_check hu)
  | array hfacts hitem ih =>
    rw [EachRefinement]
    exact fun items _ => ⟨eachHolds_of_forall (ih path done) items history,
      fun parts _ _ => eachInOrder_of_holds hP hfacts.ruleKind_eq ⟨parts, rfl⟩⟩
  | object hfacts _ _ ih =>
    rw [EachRefinement]
    refine fun entries _ => ⟨eachOfFields_of_forall ih path done 0 {} entries history,
      fun output left _ => ?_⟩
    rw [hfacts.eq_nil (by decide)]
    trivial

/-! ## Values of the wrong type -/

/-- A rule finds that a value is not of its kind, or that a field is missing; it or the rule of a
part, whose finding is below the step to the part. -/
inductive Mistypes : Rule → Finding → Prop
  | kind {facts : RuleFacts} {kind : RuleKind} {finding : Finding} (v : Value)
    (h : finding ∈ (kind.check v).findings) : Mistypes (.leaf facts kind) finding
  | notAList {facts : RuleFacts} {item : Rule} (v : Value) :
    Mistypes (.array facts item) (.wrongType "list_type" "Input should be a valid list" v)
  | notAnObject {facts : RuleFacts} {fields : List (TextValue × Rule)} (model : String)
    (v : Value) : Mistypes (.object facts fields) (Rule.notAnObject model v)
  | missing {facts : RuleFacts} {fields : List (TextValue × Rule)} {name : TextValue} {rule : Rule}
    (hfield : (name, rule) ∈ fields) (hdefault : rule.facts.default? = none)
    (hoptional : rule.facts.isOptional = false) :
    Mistypes (.object facts fields) (missingField name.text)
  | item {facts : RuleFacts} {item : Rule} {finding : Finding} (index : Nat)
    (h : Mistypes item finding) : Mistypes (.array facts item) (finding.under (.index index))
  | given {facts : RuleFacts} {fields : List (TextValue × Rule)} {name : TextValue} {rule : Rule}
    {finding : Finding} (hfield : (name, rule) ∈ fields) (h : Mistypes rule finding) :
    Mistypes (.object facts fields) (finding.under (.field name.text))
  | made {facts : RuleFacts} {fields : List (TextValue × Rule)} {name : TextValue} {rule : Rule}
    {index : Nat} {finding : Finding} (hfield : fields[index]? = some (name, rule))
    (hdefault : rule.facts.default?.isSome = true) (h : Mistypes rule finding) :
    Mistypes (.object facts fields) (finding.under (.field (placeName index)))

end Rule

/-- The kinds of findings that are reported as values of the wrong type. -/
def Finding.isTypeKind (kind : TextValue) : Bool :=
  kind.text == "missing" ||
    (kind.text != "extra_forbidden" && "_type".toList.isSuffixOf kind.text.toList) ||
    kind == .plain "invalid_type"

/-- An issue about a type comes from a finding of such a kind. -/
theorem Finding.isTypeKind_of_code {finding : Finding} {expectedAt : Path → Option String}
    {overrides : Overrides}
    (h : (finding.toIssue expectedAt overrides).code = .text "invalid_type") :
    isTypeKind finding.kind = true := by
  unfold isTypeKind
  simp only [Bool.or_eq_true, Bool.and_eq_true]
  unfold toIssue at h
  dsimp only at h
  split at h
  · rename_i hmissing
    exact .inl (.inl hmissing)
  · split at h
    · exact absurd (Value.text.inj h) (by decide)
    · rename_i hextra
      split at h
      · rename_i hwrong
        exact .inl (.inr ⟨bne_iff_ne.mpr fun hsame => hextra (beq_iff_eq.mpr hsame), hwrong⟩)
      · cases hkind : finding.kind with
        | plain s =>
          rw [hkind] at h
          exact .inr (beq_iff_eq.mpr (congrArg TextValue.plain (Value.text.inj h)))
        | category t =>
          rw [hkind] at h
          cases h

namespace Rule

/-- What refinements find of values of their kind is not about types. -/
theorem Refines.isTypeKind_eq_false {rule : Rule} {finding : Finding} (h : rule.Refines finding)
    (hrule : rule.IsWellFormed) : Finding.isTypeKind finding.kind = false := by
  have hother : ∀ code ∈ Refinement.codes, Finding.isTypeKind (.plain code) = false := by decide
  cases h with
  | @rejected r v rejection input _ hr hholds hcheck hfinding =>
    rw [← hrule.fits.ruleKind_eq r hr] at hholds
    rw [(tells_of_findingOf hfinding).2.kind]
    exact hother _ (Refinement.rejects_of_check hholds hcheck).1
  | refused => exact (by decide : Finding.isTypeKind "value_error" = false)

/-- **Findings about types** come from the check of a kind, or from a field that is missing. -/
theorem mistypes_of_reports {policy : ObjectPolicy} {rule : Rule} {finding : Finding}
    (h : rule.Reports policy finding) (hrule : rule.IsWellFormed)
    (hkind : Finding.isTypeKind finding.kind = true) : rule.Mistypes finding := by
  induction h with
  | kind v h => exact .kind v h
  | rejected hr hholds hcheck hfinding =>
    rw [(Refines.rejected hr hholds hcheck hfinding).isTypeKind_eq_false hrule] at hkind
    cases hkind
  | refused input hr hwords =>
    rw [(Refines.refused input hr hwords).isTypeKind_eq_false hrule] at hkind
    cases hkind
  | notAList v => exact .notAList v
  | notAnObject model v => exact .notAnObject model v
  | missing hfield hdefault hoptional => exact .missing hfield hdefault hoptional
  | notMade =>
    exact absurd hkind (show Finding.isTypeKind "default_factory_not_called" ≠ true by decide)
  | strange entries h =>
    rcases kind_of_mem_strangeKeys h with ⟨hstrange, -⟩ | hstrange <;> rw [hstrange] at hkind <;>
      exact absurd hkind (by decide)
  | item index h ih =>
    cases hrule with
    | array _ hitem => exact .item index (ih hitem hkind)
  | given hfield h ih =>
    cases hrule with
    | object _ _ hfields => exact .given hfield (ih (hfields _ hfield) hkind)
  | made hfield hdefault h ih =>
    cases hrule with
    | object _ _ hfields =>
      exact .made hfield hdefault (ih (hfields _ (List.mem_of_getElem? hfield)) hkind)

end Rule

/-! ## Schemas -/

namespace ValidationSchema

/-- Every refinement that a schema comes to in an input has a property of the value that it is
given. -/
def EachRefinement (P : Refinement → Value → Prop) (schema : ValidationSchema) (data : Value)
    (history : CallHistory) : Prop :=
  ∀ entries, data = .map entries →
    if schema.isPartial then
      Rule.EachOfGivenFields P schema.policy schema.fields 0 entries history
    else Rule.EachOfFields P schema.policy schema.fields "" 0 0 {} entries history

/-- **Refinements fit.**  In the schema of a definition every rule, at every depth, has refinements
of its kind only, and none if it is not for texts, numbers or arrays; only arrays have a rule for
items and only objects have rules for fields.  So in every input, of the schema and of its partial
schema, no refinement that the check comes to takes what it is given for a value of the wrong kind,
and every issue about a type comes from the check of a kind, or stands for a missing field. -/
theorem refinements_fit {options : ValidationOptions} {definition : Value}
    (hkeys : definition.IsWellKeyed) {schema : ValidationSchema}
    (hschema : (ofDefinition options definition).result = .ok schema) :
    (∀ inner, schema.rule.HasNode inner →
      (∀ r ∈ inner.facts.refinements, r.ruleKind = inner.kind) ∧
      (inner.kind ∉ [RuleKind.string, .number, .array] → inner.facts.refinements = []) ∧
      (inner.item?.isSome = true → inner.kind = .array) ∧
      (inner.fields?.isSome = true → inner.kind = .object)) ∧
    ∀ view, view = schema ∨ view = schema.asPartial → ∀ data history,
      view.EachRefinement (fun r v => ¬r.Mismatches v) data history ∧
      ∀ r, (view.parse data history).1.result = .error (.rejected r) →
        ∀ issue ∈ r.issues, issue.code = .text "invalid_type" →
          ∃ finding, view.rule.Mistypes finding ∧
            issue = finding.toIssue (expectedAt view.rule) view.options.overrides := by
  obtain ⟨rule, hrule, hmade⟩ := Logged.result_andThen_eq_ok_iff.mp hschema
  obtain rfl := Except.ok.inj hmade
  obtain ⟨hwell, forms, fields, -, hfields, -⟩ := Rule.isWellFormed_ofDefinition hrule hkeys
  refine ⟨fun inner hinner => ?_, fun view hview data history => ?_⟩
  · have hfits := (hwell.of_hasNode hinner).fits
    refine ⟨hfits.ruleKind_eq, hfits.eq_nil, ?_, ?_⟩
    · cases inner <;> simp [Rule.item?, Rule.kind]
    · cases inner <;> simp [Rule.fields?, Rule.kind]
  · have hviewRule : view.rule = .ofFields fields := by
      rcases hview with rfl | rfl <;> exact hfields
    have hviewWell : view.rule.IsWellFormed := by rcases hview with rfl | rfl <;> exact hwell
    refine ⟨fun entries _ => ?_, fun r hparse issue hissue hcode => ?_⟩
    · have hparts : ∀ field ∈ view.fields, ∀ path done v history, Rule.EachRefinement
          (fun r v => ¬r.Mismatches v) view.policy field.2 path done v history := by
        intro field hfield path done v history
        rw [hviewRule] at hviewWell
        rw [ValidationSchema.fields, hviewRule] at hfield
        cases hviewWell with
        | object _ _ hwell =>
          exact Rule.eachRefinement_of_isWellFormed (fun _ _ => Refinement.not_mismatches_of_holds)
            (hwell field hfield) path done v history
      split
      · exact Rule.eachOfGivenFields_of_forall hparts 0 entries history
      · exact Rule.eachOfFields_of_forall hparts "" 0 0 {} entries history
    · obtain ⟨finding, hreports, rfl⟩ := exists_of_issue hviewRule hviewWell hparse issue hissue
      exact ⟨finding, Rule.mistypes_of_reports hreports hviewWell
        (Finding.isTypeKind_of_code hcode), rfl⟩

/-- A definition of a field for numbers that becomes one for texts after its first bound, and of a
field for numbers. -/
def worded : Value :=
  .map [(.text "word", .map [(.text "type", .text "Number"), (.text "min", .int 5),
      (.text "enum", .list [.text "Up"]), (.text "minlength", .int 2)]),
    (.text "count", .map [(.text "type", .text "Number"), (.text "min", .int 5)])]

/-- The rule of the first field, without its first bound. -/
def wordRule : Rule :=
  .leaf { refinements := [.lowercase, .oneOf [.plain "Up"] (.text "word must be one of: Up"),
    .bounds .length (.int 2) .null (.text "word must be at least 2 characters")] } .string

/-- The rule of the second field. -/
def countRule : Rule :=
  .leaf { refinements := [.bounds .number (.int 5) .null
    (.text "Min value for count is 5")] } .number

/-- The schema of the definition. -/
def wordedSchema : ValidationSchema where
  rule := .ofFields [(.plain "word", wordRule), (.plain "count", countRule)]

theorem ofDefinition_worded : (ofDefinition {} worded).result = .ok wordedSchema := by
  refine Logged.result_andThen_eq_ok_iff.mpr ⟨wordedSchema.rule,
    Logged.result_andThen_eq_ok_iff.mpr ⟨_, rfl, ?_⟩, rfl⟩
  rw [Rule.ofParts, Rule.ofForms, Rule.ofForms, Rule.ofForms, Rule.ofForm, Rule.ofForm]
  unfold Rule.ofType
  with_unfolding_all rfl

/-- An input in which the kinds of the values are mixed up. -/
def mixedData : Value := .map [(.text "word", .int 7), (.text "count", .text "up")]

/-- Both issues of the input are about types, and come from the checks of the kinds; the refinements
of the first field are about texts, although it was one for numbers at first. -/
theorem refinements_fit_worded :
    worded.IsWellKeyed ∧ (ofDefinition {} worded).result = .ok wordedSchema ∧
      (∀ r ∈ wordRule.facts.refinements, r.ruleKind = .string) ∧
      wordedSchema.EachRefinement (fun r v => ¬r.Mismatches v) mixedData .empty ∧
      ∃ r, (wordedSchema.parse mixedData .empty).1.result = .error (.rejected r) ∧
        r.issues.map Issue.code = [.text "invalid_type", .text "invalid_type"] ∧
        ∀ issue ∈ r.issues, ∃ finding, wordedSchema.rule.Mistypes finding ∧
          issue = finding.toIssue (expectedAt wordedSchema.rule) .none := by
  have hkeys : worded.IsWellKeyed := by
    simp [worded, Value.IsWellKeyed, Value.EntriesAreWellKeyed, Value.ItemsAreWellKeyed,
      Entries.HasDistinctKeys, Value.equals, Value.asText?]
  obtain ⟨hnodes, hviews⟩ := refinements_fit hkeys ofDefinition_worded
  obtain ⟨hrun, hissues⟩ := hviews wordedSchema (.inl rfl) mixedData .empty
  have hword : wordedSchema.rule.HasNode wordRule := .field List.mem_cons_self (.self wordRule)
  have hparse : ∃ r, (wordedSchema.parse mixedData .empty).1.result = .error (.rejected r) ∧
      r.issues.map Issue.code = [.text "invalid_type", .text "invalid_type"] :=
    ⟨_, by with_unfolding_all rfl, by with_unfolding_all rfl⟩
  obtain ⟨r, hparse, hcodes⟩ := hparse
  refine ⟨hkeys, ofDefinition_worded, (hnodes wordRule hword).1, hrun, r, hparse, hcodes,
    fun issue hissue => hissues r hparse issue hissue ?_⟩
  have hcode : issue.code ∈ r.issues.map Issue.code := List.mem_map_of_mem hissue
  rw [hcodes] at hcode
  simpa using hcode

end ValidationSchema

end FieldSchema
