import FieldSchema.Proofs.Validation.Visits

/-!
# Where findings come from

A finding of a rule is made in one place: by the check of a kind, by a refinement that rejects a
value of that kind, by an object that lacks a field or has a key too many, or in the same way by the
rule of a part.  In the last case the path of the finding starts with the step to the part.  The
step names the field, or the place of the field among its siblings if the value was its default.

What a finding is like follows from where it comes from, case by case.

* `Rule.Reports`: how a rule comes to a finding.
* `Rule.Visit.reports_of_run`: findings of a check, along the steps to the values it visits.
* `ValidationSchema.exists_of_issue`: issues of whole inputs.
-/

namespace FieldSchema

namespace Rule

/-! ## Ways to a finding -/

/-- A rule comes to a finding: by its own check, or by the check of a part below the step to the
part. -/
inductive Reports (policy : ObjectPolicy) : Rule → Finding → Prop
  | kind {facts : RuleFacts} {kind : RuleKind} {finding : Finding} (v : Value)
    (h : finding ∈ (kind.check v).findings) : Reports policy (.leaf facts kind) finding
  | rejected {rule : Rule} {r : Refinement} {v : Value} {rejection : Rejection} {input : Value}
    {finding : Finding} (hr : r ∈ rule.facts.refinements) (hkind : rule.kind.Holds v)
    (hcheck : r.check v = .ok (some rejection))
    (hfinding : findingOf input rejection = .ok finding) : Reports policy rule finding
  | refused {rule : Rule} {r : Refinement} {v : Value} {words : String} (input : Value)
    (hr : r ∈ rule.facts.refinements) (hwords : Refinement.refusal? (r.check v) = some words) :
    Reports policy rule (refusalOf input words)
  | notAList {facts : RuleFacts} {item : Rule} (v : Value) :
    Reports policy (.array facts item) (.wrongType "list_type" "Input should be a valid list" v)
  | item {facts : RuleFacts} {item : Rule} {finding : Finding} (index : Nat)
    (h : Reports policy item finding) :
    Reports policy (.array facts item) (finding.under (.index index))
  | notAnObject {facts : RuleFacts} {fields : List (TextValue × Rule)} (model : String)
    (v : Value) : Reports policy (.object facts fields) (notAnObject model v)
  | strange {facts : RuleFacts} {fields : List (TextValue × Rule)} {finding : Finding}
    (entries : Entries) (h : finding ∈ strangeKeys policy (fieldTexts fields) entries) :
    Reports policy (.object facts fields) finding
  | given {facts : RuleFacts} {fields : List (TextValue × Rule)} {name : TextValue} {rule : Rule}
    {finding : Finding} (hfield : (name, rule) ∈ fields) (h : Reports policy rule finding) :
    Reports policy (.object facts fields) (finding.under (.field name.text))
  | missing {facts : RuleFacts} {fields : List (TextValue × Rule)} {name : TextValue} {rule : Rule}
    (hfield : (name, rule) ∈ fields) (hdefault : rule.facts.default? = none)
    (hoptional : rule.facts.isOptional = false) :
    Reports policy (.object facts fields) (missingField name.text)
  | made {facts : RuleFacts} {fields : List (TextValue × Rule)} {name : TextValue} {rule : Rule}
    {index : Nat} {finding : Finding} (hfield : fields[index]? = some (name, rule))
    (hdefault : rule.facts.default?.isSome = true) (h : Reports policy rule finding) :
    Reports policy (.object facts fields) (finding.under (.field (placeName index)))
  | notMade {facts : RuleFacts} {fields : List (TextValue × Rule)} {name : TextValue} {rule : Rule}
    {index : Nat} (hfield : fields[index]? = some (name, rule))
    (hdefault : rule.facts.default?.isSome = true) :
    Reports policy (.object facts fields) (defaultNotMade.under (.field (placeName index)))

variable {policy : ObjectPolicy} {rule : Rule} {finding : Finding}

/-- Only the refinements of a rule count, of what it says whatever its kind. -/
theorem Reports.withFacts {facts : RuleFacts} (h : rule.Reports policy finding)
    (hfacts : facts.refinements = rule.facts.refinements) :
    (rule.withFacts facts).Reports policy finding := by
  have hsame : (rule.withFacts facts).facts.refinements = rule.facts.refinements := by
    rw [facts_withFacts, hfacts]
  cases h with
  | kind v h => exact .kind v h
  | rejected hr hkind hcheck hfinding =>
    exact .rejected (hsame ▸ hr) ((kind_withFacts rule facts).symm ▸ hkind) hcheck hfinding
  | refused input hr hwords => exact .refused input (hsame ▸ hr) hwords
  | notAList v => exact .notAList v
  | item index h => exact .item index h
  | notAnObject model v => exact .notAnObject model v
  | strange entries h => exact .strange entries h
  | given hfield h => exact .given hfield h
  | missing hfield hdefault hoptional => exact .missing hfield hdefault hoptional
  | made hfield hdefault h => exact .made hfield hdefault h
  | notMade hfield hdefault => exact .notMade hfield hdefault

/-- Fields of which nothing is required come to no other findings. -/
theorem Reports.of_relaxFields {fields : List (TextValue × Rule)}
    (h : (ofFields (relaxFields fields)).Reports policy finding) :
    (ofFields fields).Reports policy finding := by
  have hrelaxed : ∀ {name rule}, (name, rule) ∈ relaxFields fields → rule.facts.default? = none ∧
      rule.facts.isOptional = true ∧ ∃ full, (name, full) ∈ fields ∧ rule = full.relaxed := by
    intro name rule hfield
    obtain ⟨⟨name, full⟩, hfull, hsame⟩ := List.mem_map.mp hfield
    obtain ⟨rfl, rfl⟩ := Prod.mk.inj hsame
    refine ⟨?_, ?_, full, hfull, rfl⟩ <;> rw [relaxed, facts_withFacts]
  unfold ofFields at h ⊢
  cases h with
  | rejected hr hkind hcheck hfinding => exact .rejected hr hkind hcheck hfinding
  | refused input hr hwords => exact .refused input hr hwords
  | notAnObject model v => exact .notAnObject model v
  | strange entries h => exact .strange entries (fieldTexts_relaxFields fields ▸ h)
  | given hfield h =>
    obtain ⟨-, -, full, hfull, rfl⟩ := hrelaxed hfield
    refine .given hfull ?_
    rw [← full.withFacts_relaxed]
    exact h.withFacts (by rw [relaxed, facts_withFacts])
  | missing hfield _ hoptional =>
    obtain ⟨-, hyes, -⟩ := hrelaxed hfield
    cases hyes.symm.trans hoptional
  | made hfield hdefault =>
    rw [(hrelaxed (List.mem_of_getElem? hfield)).1] at hdefault
    cases hdefault
  | notMade hfield hdefault =>
    rw [(hrelaxed (List.mem_of_getElem? hfield)).1] at hdefault
    cases hdefault

/-! ## Visits -/

/-- What a visit finds on the value itself, its rule comes to by its own check. -/
theorem Visit.Finds.reports {t : Visit} (h : t.Finds policy finding) :
    t.rule.Reports policy finding := by
  cases h with
  | kind h => exact .kind _ h
  | refined h =>
    cases h with
    | rejected hr hkind hcheck hfinding => exact .rejected hr hkind hcheck hfinding
    | refused input hr hwords => exact .refused input hr hwords
  | notAList => exact .notAList _
  | notAnObject model => exact .notAnObject model _
  | strange h => exact .strange _ h
  | omitted hfield _ h =>
    cases h with
    | given h => exact h.elim
    | made _ h => exact h.elim
    | missing hdefault hoptional =>
      exact .missing (List.mem_of_getElem? hfield) hdefault hoptional
    | notMade hdefault => exact .notMade hfield hdefault

/-- What the rule of a part comes to, below the step to the part. -/
theorem Visit.Step.reports {s t : Visit} {step : PathSegment} (h : s.Step policy step t)
    (hreports : t.rule.Reports policy finding) : s.rule.Reports policy (finding.under step) := by
  cases h with
  | item => exact .item _ hreports
  | field h =>
    obtain ⟨place, name, hplace, rfl | ⟨rfl, hdefault⟩⟩ := h.exists_field
    · exact .given (List.mem_of_getElem? hplace) hreports
    · rw [Nat.zero_add]
      exact .made hplace hdefault hreports

/-- **Findings of a check** come from the rule, by one of the ways to a finding. -/
theorem Visit.reports_of_run {s : Visit} (hrule : s.rule.IsWellFormed) {verdict : Verdict Value}
    {left : CallHistory} (hrun : s.run policy = (.ok verdict, left)) :
    ∀ finding ∈ verdict.findings, s.rule.Reports policy finding := by
  intro finding hfinding
  obtain ⟨p, t, inner, hreaches, hfinds, rfl⟩ := exists_finds_of_run hrule hrun finding hfinding
  clear hrun hfinding hrule
  induction hreaches with
  | here => exact hfinds.reports
  | further hstep _ ih => exact hstep.reports (ih hfinds)

/-- What a field comes to is found on what is supplied for it, or on its absence. -/
theorem findings_of_gives_checkField {R : Finding → Prop} {name : TextValue}
    {path : String} {done index : Nat}
    (hrule : ∀ v verdict, (check policy rule (fieldPath path name) done v).Gives verdict →
      ∀ finding ∈ verdict.findings, R finding)
    {earlier : EarlierFields} {given? : Option Value} {verdict : Verdict (Option Value)}
    (h : (checkField policy path done index earlier name rule given?).Gives verdict) :
    ∀ finding ∈ verdict.findings, FieldReports R name rule.facts index finding := by
  obtain ⟨history, left, h⟩ := h
  intro finding hfinding
  rcases suppliedAt_or_omittedAt policy path done index earlier name rule given? history with
    ⟨v, between, hsupplied⟩ | ⟨-, homitted⟩
  · obtain ⟨found, hfound, hown⟩ := hsupplied.exists_verdict h
    rw [hown] at hfinding
    obtain ⟨below, hbelow, rfl⟩ := List.mem_map.mp hfinding
    have hfound := hrule v found ⟨between, left, hfound⟩ below hbelow
    rcases hsupplied with ⟨rfl, -⟩ | ⟨rfl, default, hdefault, -⟩
    · exact .given hfound
    · exact .made (by rw [hdefault]; rfl) hfound
  · rw [h] at homitted
    exact homitted.reports rfl hfinding

end Rule

/-! ## Issues -/

/-- **Issues** of a schema are those of findings that its rule comes to. -/
theorem ValidationSchema.exists_of_issue {schema : ValidationSchema}
    {fields : List (TextValue × Rule)} (hschema : schema.rule = .ofFields fields)
    (hrule : schema.rule.IsWellFormed) {data : Value} {history : CallHistory} {r : Rejected}
    (h : (schema.parse data history).1.result = .error (.rejected r)) :
    ∀ issue ∈ r.issues, ∃ finding, schema.rule.Reports schema.policy finding ∧
      issue = finding.toIssue (expectedAt schema.rule) schema.options.overrides := by
  have hrun : (schema.start data history).run schema.policy = _ := run_start hschema
  have hinput : schema.inputRule.IsWellFormed := isWellFormed_inputRule hschema hrule
  rw [result_parse] at h
  rcases hcheck : schema.check data history with ⟨_ | _ | findings, left⟩ <;>
    rw [hcheck] at h hrun <;> cases h
  intro issue hissue
  obtain ⟨finding, hfinding, rfl⟩ := List.mem_map.mp hissue
  have hreports : schema.inputRule.Reports schema.policy finding :=
    Rule.Visit.reports_of_run hinput hrun finding hfinding
  refine ⟨finding, ?_, rfl⟩
  unfold inputRule at hreports
  split at hreports
  · rw [ValidationSchema.fields, hschema] at hreports
    exact hschema ▸ hreports.of_relaxFields
  · exact hreports

end FieldSchema
