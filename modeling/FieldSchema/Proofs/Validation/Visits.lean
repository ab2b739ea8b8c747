import FieldSchema.Proofs.Validation.Nesting
import FieldSchema.Proofs.Validation.TextKeys

/-!
# What a run visits

The check of a value goes on with the checks of its parts: of the items of a list one after the
other, and of what is supplied for the fields of an object, given or made by a default.  What a
default makes depends on the calls before it and on the fields before it.  So the parts that a check
visits, each with the rule for it and the steps to it, depend on the run (`Rule.Visit.Reaches`).

A run is taken apart along its visits, one step at a time:

* what is found on a part is among the findings of the whole, below the step to the part
  (`Rule.Visit.Step.exists_run`);
* what is found on the whole is found on the value itself (`Rule.Visit.Finds`) or on a part
  (`Rule.Visit.finds_or_of_run`);
* where a run stops without a verdict, the run on the value itself has stopped
  (`Rule.Visit.Halts`), or that on a part (`Rule.Visit.halts_or_of_run`).

From these, by induction, the same holds of all parts that a run visits, however deep.

The check of a whole input starts with a visit, too (`ValidationSchema.run_start`).  To leave out
what an input leaves out, as a partial schema does, is to check the input against a rule in which
all fields are optional and none has a default (`ValidationSchema.inputRule`).
-/

namespace FieldSchema

/-! ## Findings below a path -/

/-- The finding with a path in front of its own. -/
def Finding.below (p : Path) (finding : Finding) : Finding :=
  { finding with path := p ++ finding.path }

/-! ## Runs over lists -/

namespace Checking

variable {α β : Type} {history left : CallHistory}

/-- A run in two steps stops in the first step, or in the second one. -/
theorem andThen_eq_error_iff {first : Checking α} {next : α → Checking β} {cause : Raised} :
    first.andThen next history = (.error cause, left) ↔
      first history = (.error cause, left) ∨
        ∃ a between, first history = (.ok a, between) ∧ next a between = (.error cause, left) := by
  unfold andThen
  rcases first history with ⟨stop | a, between⟩
  · simp
  · simp

variable {checkItem : Value → Checking (Verdict Value)} {index place : Nat} {items : List Value}
  {v part : Value} {rest : List Value} {cause : Raised} {between reached : CallHistory}

/-- A run over a list comes to a verdict when the runs on the first item and on the others do. -/
theorem exists_of_each_cons {verdict : Verdict (List Value)}
    (h : each checkItem index (v :: rest) history = (.ok verdict, left)) :
    ∃ first between others, checkItem v history = (.ok first, between) ∧
      each checkItem (index + 1) rest between = (.ok others, left) ∧
      verdict.findings = first.findings.map (Finding.under (.index index)) ++ others.findings := by
  obtain ⟨first, between, hfirst, h⟩ := andThen_eq_ok_iff.mp h
  obtain ⟨others, last, hothers, h⟩ := andThen_eq_ok_iff.mp h
  obtain ⟨rfl, rfl⟩ := value_eq_ok_iff.mp h
  exact ⟨first, between, others, hfirst, hothers, by
    rw [Verdict.findings_both, Verdict.findings_under]⟩

/-- A run over a list visits an item, after the calls that the items before it have made. -/
inductive ItemAt (checkItem : Value → Checking (Verdict Value)) :
    Nat → List Value → CallHistory → Nat → Value → CallHistory → Prop
  | first (index : Nat) (v : Value) (rest : List Value) (history : CallHistory) :
    ItemAt checkItem index (v :: rest) history index v history
  | later {index place : Nat} {v part : Value} {rest : List Value} {verdict : Verdict Value}
    {history between reached : CallHistory} (hfirst : checkItem v history = (.ok verdict, between))
    (h : ItemAt checkItem (index + 1) rest between place part reached) :
    ItemAt checkItem index (v :: rest) history place part reached

theorem ItemAt.mem (h : ItemAt checkItem index items history place part reached) :
    part ∈ items := by
  induction h with
  | first => exact List.mem_cons_self
  | later _ _ ih => exact List.mem_cons_of_mem _ ih

/-- A run over a list that comes to a verdict has found on it what it has found on an item. -/
theorem ItemAt.exists_run (h : ItemAt checkItem index items history place part reached)
    {verdict : Verdict (List Value)}
    (hrun : each checkItem index items history = (.ok verdict, left)) :
    ∃ found last, checkItem part reached = (.ok found, last) ∧
      ∀ finding ∈ found.findings, finding.under (.index place) ∈ verdict.findings := by
  induction h generalizing verdict with
  | first =>
    obtain ⟨found, last, others, hfound, -, hfindings⟩ := exists_of_each_cons hrun
    refine ⟨found, last, hfound, fun finding hfinding => ?_⟩
    rw [hfindings]
    exact List.mem_append_left _ (List.mem_map_of_mem hfinding)
  | later hfirst _ ih =>
    obtain ⟨first, between, others, hfirst', hothers, hfindings⟩ := exists_of_each_cons hrun
    obtain ⟨-, rfl⟩ := Prod.mk.inj (hfirst.symm.trans hfirst')
    obtain ⟨found, last, hfound, hkept⟩ := ih hothers
    refine ⟨found, last, hfound, fun finding hfinding => ?_⟩
    rw [hfindings]
    exact List.mem_append_right _ (hkept finding hfinding)

/-- What a run over a list finds is found on an item. -/
theorem exists_itemAt_of_mem {verdict : Verdict (List Value)}
    (hrun : each checkItem index items history = (.ok verdict, left)) {finding : Finding}
    (hfinding : finding ∈ verdict.findings) :
    ∃ place part reached found last, ItemAt checkItem index items history place part reached ∧
      checkItem part reached = (.ok found, last) ∧
      ∃ inner ∈ found.findings, finding = inner.under (.index place) := by
  induction items generalizing index history verdict with
  | nil =>
    obtain ⟨rfl, -⟩ := value_eq_ok_iff.mp hrun
    cases hfinding
  | cons v rest ih =>
    obtain ⟨first, between, others, hfirst, hothers, hfindings⟩ := exists_of_each_cons hrun
    rw [hfindings] at hfinding
    rcases List.mem_append.mp hfinding with hmem | hmem
    · obtain ⟨inner, hinner, rfl⟩ := List.mem_map.mp hmem
      exact ⟨index, v, history, first, between, .first index v rest history, hfirst,
        inner, hinner, rfl⟩
    · obtain ⟨place, part, reached, found, last, hitem, hfound, hinner⟩ := ih hothers hmem
      exact ⟨place, part, reached, found, last, .later hfirst hitem, hfound, hinner⟩

/-- A run over a list that stops does so at an item. -/
theorem exists_itemAt_of_error (hrun : each checkItem index items history = (.error cause, left)) :
    ∃ place part reached last, ItemAt checkItem index items history place part reached ∧
      checkItem part reached = (.error cause, last) := by
  induction items generalizing index history with
  | nil => cases (Prod.mk.inj hrun).1
  | cons v rest ih =>
    rcases andThen_eq_error_iff.mp hrun with hstop | ⟨first, between, hfirst, hrun⟩
    · exact ⟨index, v, history, left, .first index v rest history, hstop⟩
    · rcases andThen_eq_error_iff.mp hrun with hstop | ⟨others, last, -, hrun⟩
      · obtain ⟨place, part, reached, last, hitem, hfound⟩ := ih hstop
        exact ⟨place, part, reached, last, .later hfirst hitem, hfound⟩
      · cases (Prod.mk.inj hrun).1

end Checking

namespace Rule

variable {policy : ObjectPolicy} {path : String} {done index : Nat} {earlier : EarlierFields}
  {entries : Entries} {history between left : CallHistory} {name : TextValue} {rule : Rule}
  {given? : Option Value} {v : Value} {cause : Raised}

/-! ## Refinements -/

/-- A refinement of a rule comes to a finding on a value of the kind of the rule: it rejects the
value, or it refuses its own parts. -/
inductive Refines (rule : Rule) : Finding → Prop
  | rejected {r : Refinement} {v : Value} {rejection : Rejection} {input : Value}
    {finding : Finding} (hr : r ∈ rule.facts.refinements) (hkind : rule.kind.Holds v)
    (hcheck : r.check v = .ok (some rejection))
    (hfinding : findingOf input rejection = .ok finding) : Refines rule finding
  | refused {r : Refinement} {v : Value} {words : String} (input : Value)
    (hr : r ∈ rule.facts.refinements) (hwords : Refinement.refusal? (r.check v) = some words) :
    Refines rule (refusalOf input words)

/-- Refinements in order come to findings on values of the kind of the rule. -/
theorem refines_of_checkRefinements {rule : Rule} {refinements : List Refinement}
    {input v : Value} {verdict : Verdict Value}
    (hrefinements : ∀ r ∈ refinements, r ∈ rule.facts.refinements) (hkind : rule.kind.Holds v)
    (h : checkRefinements input refinements v = .ok verdict) :
    ∀ finding ∈ verdict.findings, rule.Refines finding := by
  induction refinements generalizing v with
  | nil =>
    obtain rfl := Except.ok.inj h
    exact List.forall_mem_nil _
  | cons r rest ih =>
    obtain ⟨hr, hrest⟩ := List.forall_mem_cons.mp hrefinements
    have htransformed := Refinement.holds_transform r hkind
    rw [checkRefinements] at h
    split at h
    · exact ih hrest htransformed h
    · rename_i rejection hcheck
      split at h
      · rename_i words hwords
        obtain rfl := Except.ok.inj h
        exact List.forall_mem_singleton.mpr (.refused input hr (by rw [hcheck]; exact hwords))
      · obtain ⟨finding, hfinding, h⟩ := Logged.bind_eq_ok_iff.mp h
        obtain rfl := Except.ok.inj h
        exact List.forall_mem_singleton.mpr (.rejected hr htransformed hcheck hfinding)
    · rename_i cause hcheck
      split at h
      · rename_i words hwords
        obtain rfl := Except.ok.inj h
        exact List.forall_mem_singleton.mpr (.refused input hr (by rw [hcheck]; exact hwords))
      · cases h

/-- Refinements of what a kind has accepted come to findings; those of the kind stay. -/
theorem findings_of_gives_refineVerdict {rule : Rule} {input : Value}
    {found verdict : Verdict Value} (hkind : ∀ v, found = .accepted v → rule.kind.Holds v)
    (h : (refineVerdict input rule.facts.refinements found).Gives verdict) :
    ∀ finding ∈ verdict.findings, finding ∈ found.findings ∨ rule.Refines finding := by
  cases found with
  | rejected list =>
    obtain rfl := Checking.gives_value_iff.mp h
    exact fun finding => .inl
  | accepted v =>
    exact fun finding hfinding => .inr (refines_of_checkRefinements (fun _ hr => hr) (hkind v rfl)
      (Checking.eq_ok_of_gives_ofExcept h) finding hfinding)

/-- Where refinements have no answer, a run stops. -/
theorem exists_of_refineVerdict_error {input : Value} {refinements : List Refinement}
    {found : Verdict Value} (h : refineVerdict input refinements found history =
      (.error cause, left)) : ∃ v, checkRefinements input refinements v = .error cause := by
  cases found with
  | accepted v => exact ⟨v, (Prod.mk.inj h).1⟩
  | rejected list => cases (Prod.mk.inj h).1

/-! ## Runs over fields -/

/-- The step to what is supplied for a field: by its name, or by its place if that is a default. -/
def suppliedStep (name : TextValue) (index : Nat) (given? : Option Value) : PathSegment :=
  .field (if given?.isSome then name.text else placeName index)

/-- The check of a field for which a value is supplied is the check of that value. -/
theorem checkField_of_suppliedAt (h : rule.SuppliedAt given? earlier history v between) :
    checkField policy path done index earlier name rule given? history =
      ((check policy rule (fieldPath path name) done v between).1.map fun verdict =>
        (verdict.under (suppliedStep name index given?)).map Value.unlessAbsent,
        (check policy rule (fieldPath path name) done v between).2) := by
  rcases h with ⟨rfl, rfl⟩ | ⟨rfl, default, hdefault, hasks, hmake⟩
  · exact Checking.andThen_value_apply _ _ history
  · unfold checkField checkAbsent
    simp only [hdefault]
    rw [Checking.andThen_value_apply, checkDefault_eq, if_neg (by rw [hasks]; decide),
      Checking.andThen, hmake]
    rfl

/-- What is found on a field is what is found on the value that is supplied, below the step to
it. -/
theorem SuppliedAt.exists_verdict (h : rule.SuppliedAt given? earlier history v between)
    {first : Verdict (Option Value)}
    (hfirst : checkField policy path done index earlier name rule given? history =
      (.ok first, left)) :
    ∃ found, check policy rule (fieldPath path name) done v between = (.ok found, left) ∧
      first.findings = found.findings.map (Finding.under (suppliedStep name index given?)) := by
  rw [checkField_of_suppliedAt h] at hfirst
  rcases hfound : check policy rule (fieldPath path name) done v between with ⟨_ | found, last⟩ <;>
    rw [hfound] at hfirst <;> cases hfirst
  exact ⟨found, rfl, by rw [Verdict.findings_map, Verdict.findings_under]⟩

/-- What the check of a field comes to for which no value is supplied: a verdict on its absence, a
default that is not made, or a failure to make it. -/
inductive OmittedAt (index : Nat) (earlier : EarlierFields) (name : TextValue) (rule : Rule)
    (history : CallHistory) : Except Raised (Verdict (Option Value)) × CallHistory → Prop
  | absent (hdefault : rule.facts.default? = none) : OmittedAt index earlier name rule history
    (.ok (if rule.facts.isOptional then .accepted none else .rejected [missingField name.text]),
      history)
  | notMade {default : Value} (hdefault : rule.facts.default? = some default) :
    OmittedAt index earlier name rule history
      (.ok (.rejected [defaultNotMade.under (.field (placeName index))]), history)
  | raised {default : Value} {cause : Raised} {left : CallHistory}
    (hdefault : rule.facts.default? = some default)
    (hmake : default.make earlier.values history = (.error cause, left)) :
    OmittedAt index earlier name rule history (.error cause, left)

/-- For a field a value is supplied, or it is left out. -/
theorem suppliedAt_or_omittedAt (policy : ObjectPolicy) (path : String) (done index : Nat)
    (earlier : EarlierFields) (name : TextValue) (rule : Rule) (given? : Option Value)
    (history : CallHistory) :
    (∃ v between, rule.SuppliedAt given? earlier history v between) ∨
      given? = none ∧ OmittedAt index earlier name rule history
        (checkField policy path done index earlier name rule given? history) := by
  cases given? with
  | some v => exact .inl ⟨v, history, .inl ⟨rfl, rfl⟩⟩
  | none =>
    unfold checkField checkAbsent
    cases hdefault : rule.facts.default? with
    | none => exact .inr ⟨rfl, .absent hdefault⟩
    | some default =>
      dsimp only
      rw [Checking.andThen_value_apply, checkDefault_eq]
      split
      · exact .inr ⟨rfl, .notMade hdefault⟩
      · rename_i hasks
        unfold Checking.andThen
        rcases hmake : default.make earlier.values history with ⟨cause | made, between⟩
        · exact .inr ⟨rfl, .raised hdefault hmake⟩
        · exact .inl ⟨made, between, .inr ⟨rfl, default, hdefault, Bool.eq_false_iff.mpr hasks,
            hmake⟩⟩

/-- A run over fields comes to a verdict when the runs on the first field and on the others do. -/
theorem exists_of_checkFields_cons {rest : List (TextValue × Rule)} {verdict : Verdict Entries}
    (h : checkFields policy ((name, rule) :: rest) path done index earlier entries history =
      (.ok verdict, left)) :
    ∃ first between others, checkField policy path done index earlier name rule
        (entries.getText? name.text) history = (.ok first, between) ∧
      checkFields policy rest path (done + modelCount rule) (index + 1)
        (earlier.record index (hasValue rule.facts (entries.getText? name.text)) first) entries
        between = (.ok others, left) ∧
      verdict.findings = first.findings ++ others.findings := by
  rw [checkFields_cons] at h
  obtain ⟨first, between, hfirst, h⟩ := Checking.andThen_eq_ok_iff.mp h
  obtain ⟨others, last, hothers, h⟩ := Checking.andThen_eq_ok_iff.mp h
  obtain ⟨rfl, rfl⟩ := Checking.value_eq_ok_iff.mp h
  exact ⟨first, between, others, hfirst, hothers, Verdict.findings_both _ _ _⟩

/-! ## Visits -/

/-- A rule that is about to check a value in a run. -/
structure Visit where
  rule : Rule
  path : String
  done : Nat
  value : Value
  history : CallHistory

/-- The check that is about to run. -/
def Visit.run (policy : ObjectPolicy) (s : Visit) : Except Raised (Verdict Value) × CallHistory :=
  check policy s.rule s.path s.done s.value s.history

/-- A run over fields visits what is supplied for one of them, after the calls that the fields
before it have made. -/
inductive FieldAt (policy : ObjectPolicy) (path : String) (entries : Entries) :
    List (TextValue × Rule) → Nat → Nat → EarlierFields → CallHistory →
      PathSegment → Visit → Prop
  | first {name : TextValue} {rule : Rule} {rest : List (TextValue × Rule)} {done index : Nat}
    {earlier : EarlierFields} {history between : CallHistory} {v : Value}
    (h : rule.SuppliedAt (entries.getText? name.text) earlier history v between) :
    FieldAt policy path entries ((name, rule) :: rest) done index earlier history
      (suppliedStep name index (entries.getText? name.text))
      ⟨rule, fieldPath path name, done, v, between⟩
  | later {name : TextValue} {rule : Rule} {rest : List (TextValue × Rule)} {done index : Nat}
    {earlier : EarlierFields} {history between : CallHistory} {verdict : Verdict (Option Value)}
    {step : PathSegment} {t : Visit}
    (hfirst : checkField policy path done index earlier name rule (entries.getText? name.text)
      history = (.ok verdict, between))
    (h : FieldAt policy path entries rest (done + modelCount rule) (index + 1)
      (earlier.record index (hasValue rule.facts (entries.getText? name.text)) verdict) between step
      t) :
    FieldAt policy path entries ((name, rule) :: rest) done index earlier history step t

variable {fields : List (TextValue × Rule)} {step : PathSegment} {s t : Visit}

/-- What is supplied for a field is given under its name, or made by its default. -/
theorem FieldAt.exists_field
    (h : FieldAt policy path entries fields done index earlier history step t) :
    ∃ place name, fields[place]? = some (name, t.rule) ∧
      (step = .field name.text ∨
        step = .field (placeName (index + place)) ∧ t.rule.facts.default?.isSome = true) := by
  induction h with
  | @first name rule rest done index earlier history between v h =>
    refine ⟨0, name, rfl, ?_⟩
    rcases h with ⟨hgiven, rfl⟩ | ⟨hgiven, default, hdefault, -⟩
    · exact .inl (by rw [suppliedStep, hgiven]; rfl)
    · exact .inr ⟨by rw [suppliedStep, hgiven]; rfl, by rw [hdefault]; rfl⟩
  | later hfirst h ih =>
    obtain ⟨place, name, hplace, horigin⟩ := ih
    refine ⟨place + 1, name, hplace, ?_⟩
    rwa [Nat.add_right_comm, Nat.add_assoc] at horigin

/-- A run over fields that comes to a verdict has found on them what it has found on what is
supplied for one. -/
theorem FieldAt.exists_run
    (h : FieldAt policy path entries fields done index earlier history step t)
    {verdict : Verdict Entries}
    (hrun : checkFields policy fields path done index earlier entries history =
      (.ok verdict, left)) :
    ∃ found last, t.run policy = (.ok found, last) ∧
      ∀ finding ∈ found.findings, finding.under step ∈ verdict.findings := by
  induction h generalizing verdict with
  | @first name rule rest done index earlier history between v hsupplied =>
    obtain ⟨first, last, others, hfirst, -, hfindings⟩ := exists_of_checkFields_cons hrun
    obtain ⟨found, hfound, hown⟩ := hsupplied.exists_verdict hfirst
    refine ⟨found, last, hfound, fun finding hfinding => ?_⟩
    rw [hfindings, hown]
    exact List.mem_append_left _ (List.mem_map_of_mem hfinding)
  | later hfirst _ ih =>
    obtain ⟨first, between, others, hfirst', hothers, hfindings⟩ := exists_of_checkFields_cons hrun
    obtain ⟨hsame, rfl⟩ := Prod.mk.inj (hfirst.symm.trans hfirst')
    obtain rfl := Except.ok.inj hsame
    obtain ⟨found, last, hfound, hkept⟩ := ih hothers
    refine ⟨found, last, hfound, fun finding hfinding => ?_⟩
    rw [hfindings]
    exact List.mem_append_right _ (hkept finding hfinding)

/-- The findings on one field, given the ways to findings of its rule. -/
inductive FieldReports (R : Finding → Prop) (name : TextValue) (facts : RuleFacts) (index : Nat) :
    Finding → Prop
  | given {finding : Finding} (h : R finding) :
    FieldReports R name facts index (finding.under (.field name.text))
  | missing (hdefault : facts.default? = none) (hoptional : facts.isOptional = false) :
    FieldReports R name facts index (missingField name.text)
  | made {finding : Finding} (hdefault : facts.default?.isSome = true) (h : R finding) :
    FieldReports R name facts index (finding.under (.field (placeName index)))
  | notMade (hdefault : facts.default?.isSome = true) :
    FieldReports R name facts index (defaultNotMade.under (.field (placeName index)))

/-- What is found on a field for which no value is supplied. -/
theorem OmittedAt.reports {R : Finding → Prop}
    {outcome : Except Raised (Verdict (Option Value)) × CallHistory}
    (h : OmittedAt index earlier name rule history outcome) {verdict : Verdict (Option Value)}
    (houtcome : outcome.1 = .ok verdict) {finding : Finding}
    (hfinding : finding ∈ verdict.findings) : FieldReports R name rule.facts index finding := by
  cases h with
  | absent hdefault =>
    obtain rfl := Except.ok.inj houtcome
    cases hoptional : rule.facts.isOptional with
    | true =>
      rw [hoptional] at hfinding
      cases hfinding
    | false =>
      rw [hoptional] at hfinding
      obtain rfl := List.mem_singleton.mp hfinding
      exact .missing hdefault hoptional
  | notMade hdefault =>
    obtain rfl := Except.ok.inj houtcome
    obtain rfl := List.mem_singleton.mp hfinding
    exact .notMade (by rw [hdefault]; rfl)
  | raised => cases houtcome

/-- What a run over fields finds is found on what is supplied for one of them, or stands for one
for which nothing is. -/
theorem exists_of_mem_checkFields {verdict : Verdict Entries}
    (hrun : checkFields policy fields path done index earlier entries history = (.ok verdict, left))
    {finding : Finding} (hfinding : finding ∈ verdict.findings) :
    (∃ step t found last, FieldAt policy path entries fields done index earlier history step t ∧
      t.run policy = (.ok found, last) ∧ ∃ inner ∈ found.findings, finding = inner.under step) ∨
    ∃ place name rule, fields[place]? = some (name, rule) ∧ entries.getText? name.text = none ∧
      FieldReports (fun _ => False) name rule.facts (index + place) finding := by
  induction fields generalizing done index earlier history verdict with
  | nil =>
    rw [checkFields] at hrun
    obtain ⟨rfl, -⟩ := Checking.value_eq_ok_iff.mp hrun
    cases hfinding
  | cons field rest ih =>
    obtain ⟨name, rule⟩ := field
    obtain ⟨first, between, others, hfirst, hothers, hfindings⟩ := exists_of_checkFields_cons hrun
    rw [hfindings] at hfinding
    rcases List.mem_append.mp hfinding with hmem | hmem
    · rcases suppliedAt_or_omittedAt policy path done index earlier name rule
        (entries.getText? name.text) history with ⟨v, reached, hsupplied⟩ | ⟨hgiven, homitted⟩
      · obtain ⟨found, hfound, hown⟩ := hsupplied.exists_verdict hfirst
        rw [hown] at hmem
        obtain ⟨inner, hinner, rfl⟩ := List.mem_map.mp hmem
        exact .inl ⟨_, _, found, between, .first hsupplied, hfound, inner, hinner, rfl⟩
      · rw [hfirst] at homitted
        exact .inr ⟨0, name, rule, rfl, hgiven, homitted.reports rfl hmem⟩
    · rcases ih hothers hmem with ⟨step, t, found, last, hfield, hfound⟩ |
        ⟨place, name', rule', hplace, hgiven, hreports⟩
      · exact .inl ⟨step, t, found, last, .later hfirst hfield, hfound⟩
      · refine .inr ⟨place + 1, name', rule', hplace, hgiven, ?_⟩
        rwa [show index + (place + 1) = index + 1 + place by omega]

/-- A field that is left out, with no default, and that must not be, is reported. -/
theorem missingField_mem_of_checkFields {verdict : Verdict Entries}
    (hrun : checkFields policy fields path done index earlier entries history = (.ok verdict, left))
    (hfield : (name, rule) ∈ fields) (hgiven : entries.getText? name.text = none)
    (hdefault : rule.facts.default? = none) (hoptional : rule.facts.isOptional = false) :
    missingField name.text ∈ verdict.findings := by
  induction fields generalizing done index earlier history verdict with
  | nil => cases hfield
  | cons field rest ih =>
    obtain ⟨name', rule'⟩ := field
    obtain ⟨first, between, others, hfirst, hothers, hfindings⟩ := exists_of_checkFields_cons hrun
    rw [hfindings]
    rcases List.mem_cons.mp hfield with hhead | htail
    · obtain ⟨rfl, rfl⟩ := Prod.mk.inj hhead
      refine List.mem_append_left _ ?_
      simp only [checkField, checkAbsent, hgiven, hdefault, hoptional] at hfirst
      obtain ⟨rfl, -⟩ := Checking.value_eq_ok_iff.mp hfirst
      exact List.mem_singleton_self _
    · exact List.mem_append_right _ (ih hothers htail)

/-- A run over fields that stops does so at what is supplied for one of them, or where a default is
made. -/
theorem exists_of_checkFields_error
    (hrun : checkFields policy fields path done index earlier entries history =
      (.error cause, left)) :
    (∃ step t last, FieldAt policy path entries fields done index earlier history step t ∧
      t.run policy = (.error cause, last)) ∨
    ∃ name rule default values between last, (name, rule) ∈ fields ∧
      entries.getText? name.text = none ∧ rule.facts.default? = some default ∧
      default.make values between = (.error cause, last) := by
  induction fields generalizing done index earlier history with
  | nil =>
    rw [checkFields] at hrun
    cases (Prod.mk.inj hrun).1
  | cons field rest ih =>
    obtain ⟨name, rule⟩ := field
    rw [checkFields_cons] at hrun
    rcases Checking.andThen_eq_error_iff.mp hrun with hfirst | ⟨first, between, hfirst, hrun⟩
    · rcases suppliedAt_or_omittedAt policy path done index earlier name rule
        (entries.getText? name.text) history with ⟨v, reached, hsupplied⟩ | ⟨hgiven, homitted⟩
      · rw [checkField_of_suppliedAt hsupplied] at hfirst
        rcases hfound : check policy rule (fieldPath path name) done v reached with
          ⟨stop | found, last⟩ <;> rw [hfound] at hfirst <;> cases hfirst
        exact .inl ⟨_, _, last, .first hsupplied, hfound⟩
      · rw [hfirst] at homitted
        cases homitted with
        | raised hdefault hmake =>
          exact .inr ⟨name, rule, _, _, _, _, List.mem_cons_self, hgiven, hdefault, hmake⟩
    · rcases Checking.andThen_eq_error_iff.mp hrun with hothers | ⟨others, last, -, hvalue⟩
      · rcases ih hothers with ⟨step, t, last, hfield, hfound⟩ | ⟨name', rule', default, values,
          reached, last, hmem, hfailed⟩
        · exact .inl ⟨step, t, last, .later hfirst hfield, hfound⟩
        · exact .inr ⟨name', rule', default, values, reached, last, List.mem_cons_of_mem _ hmem,
            hfailed⟩
      · cases (Prod.mk.inj hvalue).1

namespace Visit

/-! ## One step -/

/-- A run goes on with a part of the value, after a step to it. -/
inductive Step (policy : ObjectPolicy) : Visit → PathSegment → Visit → Prop
  | item {facts : RuleFacts} {item : Rule} {path : String} {done : Nat} {v part : Value}
    {items : List Value} {history reached : CallHistory} {place : Nat}
    (hitems : v.listItems? = some items)
    (h : Checking.ItemAt (fun part => check policy item path done part) 0 items history place part
      reached) :
    Step policy ⟨.array facts item, path, done, v, history⟩ (.index place)
      ⟨item, path, done, part, reached⟩
  | field {facts : RuleFacts} {fields : List (TextValue × Rule)} {path : String} {done : Nat}
    {entries : Entries} {history : CallHistory} {step : PathSegment} {t : Visit}
    (h : FieldAt policy path entries fields done 0 {} history step t) :
    Step policy ⟨.object facts fields, path, done, .map entries, history⟩ step t

/-- A visit comes to a finding on the value itself, not on a part that has a rule. -/
inductive Finds (policy : ObjectPolicy) : Visit → Finding → Prop
  | kind {facts : RuleFacts} {kind : RuleKind} {path : String} {done : Nat} {v : Value}
    {history : CallHistory} {finding : Finding} (h : finding ∈ (kind.check v).findings) :
    Finds policy ⟨.leaf facts kind, path, done, v, history⟩ finding
  | refined {s : Visit} {finding : Finding} (h : s.rule.Refines finding) : Finds policy s finding
  | notAList {facts : RuleFacts} {item : Rule} {path : String} {done : Nat} {v : Value}
    {history : CallHistory} (hitems : v.listItems? = none) :
    Finds policy ⟨.array facts item, path, done, v, history⟩
      (.wrongType "list_type" "Input should be a valid list" v)
  | notAnObject {facts : RuleFacts} {fields : List (TextValue × Rule)} {path : String} {done : Nat}
    {v : Value} {history : CallHistory} (model : String) (hv : ∀ entries, v ≠ .map entries) :
    Finds policy ⟨.object facts fields, path, done, v, history⟩ (notAnObject model v)
  | strange {facts : RuleFacts} {fields : List (TextValue × Rule)} {path : String} {done : Nat}
    {entries : Entries} {history : CallHistory} {finding : Finding}
    (h : finding ∈ strangeKeys policy (fieldTexts fields) entries) :
    Finds policy ⟨.object facts fields, path, done, .map entries, history⟩ finding
  | omitted {facts : RuleFacts} {fields : List (TextValue × Rule)} {path : String} {done : Nat}
    {entries : Entries} {history : CallHistory} {finding : Finding} {place : Nat}
    {name : TextValue} {rule : Rule} (hfield : fields[place]? = some (name, rule))
    (hgiven : entries.getText? name.text = none)
    (h : FieldReports (fun _ => False) name rule.facts place finding) :
    Finds policy ⟨.object facts fields, path, done, .map entries, history⟩ finding

/-- A visit stops at the value itself: a refinement has no answer, or a default cannot be made. -/
inductive Halts : Visit → Raised → Prop
  | refinements {s : Visit} {v : Value} {cause : Raised}
    (h : checkRefinements s.value s.rule.facts.refinements v = .error cause) : Halts s cause
  | default {facts : RuleFacts} {fields : List (TextValue × Rule)} {path : String} {done : Nat}
    {entries values : Entries} {history between left : CallHistory} {name : TextValue} {rule : Rule}
    {default : Value} {cause : Raised} (hfield : (name, rule) ∈ fields)
    (hgiven : entries.getText? name.text = none) (hdefault : rule.facts.default? = some default)
    (hmake : default.make values between = (.error cause, left)) :
    Halts ⟨.object facts fields, path, done, .map entries, history⟩ cause

theorem Step.isWellFormed (h : s.Step policy step t) (hrule : s.rule.IsWellFormed) :
    t.rule.IsWellFormed := by
  cases h with
  | item =>
    cases hrule with
    | array _ hitem => exact hitem
  | field h =>
    obtain ⟨place, name, hplace, -⟩ := h.exists_field
    cases hrule with
    | object _ _ hfields => exact hfields _ (List.mem_of_getElem? hplace)

/-- What a part comes to is found by the whole, below the step to the part. -/
theorem Step.exists_run (h : s.Step policy step t) (hrule : s.rule.IsWellFormed)
    {verdict : Verdict Value} (hrun : s.run policy = (.ok verdict, left)) :
    ∃ found last, t.run policy = (.ok found, last) ∧
      ∀ finding ∈ found.findings, finding.under step ∈ verdict.findings := by
  cases h with
  | item hitems h =>
    rw [run, check] at hrun
    simp only [hitems] at hrun
    obtain ⟨parts, between, hparts, hrun⟩ := Checking.andThen_eq_ok_iff.mp hrun
    obtain ⟨found, last, hfound, hkept⟩ := h.exists_run hparts
    refine ⟨found, last, hfound, fun finding hfinding => ?_⟩
    have hmem := hkept finding hfinding
    cases parts with
    | accepted => cases hmem
    | rejected list =>
      obtain ⟨rfl, -⟩ := Checking.value_eq_ok_iff.mp hrun
      exact hmem
  | field h =>
    cases hrule with
    | object hfacts =>
      rw [run, check_object_map (hfacts.eq_nil (by decide))] at hrun
      obtain ⟨parts, between, hparts, hrun⟩ := Checking.andThen_eq_ok_iff.mp hrun
      obtain ⟨rfl, -⟩ := Checking.value_eq_ok_iff.mp hrun
      obtain ⟨found, last, hfound, hkept⟩ := h.exists_run hparts
      refine ⟨found, last, hfound, fun finding hfinding => ?_⟩
      rw [Verdict.findings_map, Verdict.findings_withFindings]
      exact List.mem_append_left _ (hkept finding hfinding)

/-- **What a run finds** is found on the value itself or on a part, below the step to it. -/
theorem finds_or_of_run (hrule : s.rule.IsWellFormed) {verdict : Verdict Value}
    (hrun : s.run policy = (.ok verdict, left)) {finding : Finding}
    (hfinding : finding ∈ verdict.findings) :
    s.Finds policy finding ∨ ∃ step t found last, s.Step policy step t ∧
      t.run policy = (.ok found, last) ∧ ∃ inner ∈ found.findings, finding = inner.under step := by
  obtain ⟨rule, path, done, v, history⟩ := s
  cases hrule with
  | @leaf facts kind =>
    rw [run, check] at hrun
    rcases @findings_of_gives_refineVerdict (.leaf facts kind) _ _ _
      (fun w hw => RuleKind.holds_of_check hw) ⟨history, left, hrun⟩ finding hfinding with
      hmem | hrefined
    · exact .inl (.kind hmem)
    · exact .inl (.refined hrefined)
  | @array facts item =>
    rw [run, check] at hrun
    cases hitems : v.listItems? with
    | none =>
      simp only [hitems] at hrun
      obtain ⟨rfl, -⟩ := Checking.value_eq_ok_iff.mp hrun
      obtain rfl := List.mem_singleton.mp hfinding
      exact .inl (.notAList hitems)
    | some items =>
      simp only [hitems] at hrun
      obtain ⟨parts, between, hparts, hrun⟩ := Checking.andThen_eq_ok_iff.mp hrun
      have hkind : ∀ w, parts.map Value.list = .accepted w →
          (Rule.array facts item).kind.Holds w := by
        intro w hw
        obtain ⟨list, -, rfl⟩ := Verdict.map_eq_accepted_iff.mp hw
        exact ⟨list, rfl⟩
      rcases @findings_of_gives_refineVerdict (.array facts item) _ _ _ hkind
        ⟨between, left, hrun⟩ finding hfinding with hmem | hrefined
      · rw [Verdict.findings_map] at hmem
        obtain ⟨place, part, reached, found, last, hitem, hfound, hinner⟩ :=
          Checking.exists_itemAt_of_mem hparts hmem
        exact .inr ⟨_, _, found, last, .item hitems hitem, hfound, hinner⟩
      · exact .inl (.refined hrefined)
  | @object facts fields hfacts =>
    cases v with
    | map entries =>
      rw [run, check_object_map (hfacts.eq_nil (by decide))] at hrun
      obtain ⟨parts, between, hparts, hrun⟩ := Checking.andThen_eq_ok_iff.mp hrun
      obtain ⟨rfl, -⟩ := Checking.value_eq_ok_iff.mp hrun
      rw [Verdict.findings_map, Verdict.findings_withFindings] at hfinding
      rcases List.mem_append.mp hfinding with hmem | hstrange
      · rcases exists_of_mem_checkFields hparts hmem with ⟨step, t, found, last, hfield, hfound⟩ |
          ⟨place, name, rule, hplace, hgiven, hreports⟩
        · exact .inr ⟨step, t, found, last, .field hfield, hfound⟩
        · rw [Nat.zero_add] at hreports
          exact .inl (.omitted hplace hgiven hreports)
      · exact .inl (.strange hstrange)
    | _ =>
      simp only [run, check] at hrun
      obtain ⟨rfl, -⟩ := Checking.value_eq_ok_iff.mp hrun
      obtain rfl := List.mem_singleton.mp hfinding
      exact .inl (.notAnObject _ nofun)

/-- **A run that stops** does so at the value itself or at a part. -/
theorem halts_or_of_run (hrule : s.rule.IsWellFormed) (hrun : s.run policy = (.error cause, left)) :
    s.Halts cause ∨
      ∃ step t last, s.Step policy step t ∧ t.run policy = (.error cause, last) := by
  obtain ⟨rule, path, done, v, history⟩ := s
  cases hrule with
  | @leaf facts kind =>
    rw [run, check] at hrun
    obtain ⟨w, hw⟩ := exists_of_refineVerdict_error hrun
    exact .inl (.refinements hw)
  | @array facts item =>
    rw [run, check] at hrun
    cases hitems : v.listItems? with
    | none =>
      simp only [hitems] at hrun
      cases (Prod.mk.inj hrun).1
    | some items =>
      simp only [hitems] at hrun
      rcases Checking.andThen_eq_error_iff.mp hrun with hstop | ⟨parts, between, -, hrun⟩
      · obtain ⟨place, part, reached, last, hitem, hfound⟩ := Checking.exists_itemAt_of_error hstop
        exact .inr ⟨_, _, last, .item hitems hitem, hfound⟩
      · obtain ⟨w, hw⟩ := exists_of_refineVerdict_error hrun
        exact .inl (.refinements hw)
  | @object facts fields hfacts =>
    cases v with
    | map entries =>
      rw [run, check_object_map (hfacts.eq_nil (by decide))] at hrun
      rcases Checking.andThen_eq_error_iff.mp hrun with hstop | ⟨parts, between, -, hrun⟩
      · rcases exists_of_checkFields_error hstop with ⟨step, t, last, hfield, hfound⟩ |
          ⟨name, rule, default, values, between, last, hfield, hgiven, hdefault, hmake⟩
        · exact .inr ⟨step, t, last, .field hfield, hfound⟩
        · exact .inl (.default hfield hgiven hdefault hmake)
      · cases (Prod.mk.inj hrun).1
    | _ =>
      simp only [run, check] at hrun
      cases (Prod.mk.inj hrun).1

/-! ## All parts -/

/-- What holds of a visit when it holds of those one step further holds of all visits, since a rule
has finitely many rules inside. -/
theorem step_induction (policy : ObjectPolicy) {P : Visit → Prop}
    (h : ∀ s, s.rule.IsWellFormed → (∀ step t, s.Step policy step t → P t) → P s)
    (s : Visit) (hrule : s.rule.IsWellFormed) : P s := by
  obtain ⟨rule, path, done, v, history⟩ := s
  change rule.IsWellFormed at hrule
  induction hrule generalizing path done v history with
  | leaf hfacts => exact h _ (.leaf hfacts) nofun
  | array hfacts hitem ih =>
    refine h _ (.array hfacts hitem) fun step t hstep => ?_
    cases hstep with
    | item => exact ih _ _ _ _
  | object hfacts hdistinct hfields ih =>
    refine h _ (.object hfacts hdistinct hfields) fun step t hstep => ?_
    cases hstep with
    | field hfield =>
      obtain ⟨place, name, hplace, -⟩ := hfield.exists_field
      exact ih _ (List.mem_of_getElem? hplace) _ _ _ _

/-- A run comes to a part of the value, along the steps to it. -/
inductive Reaches (policy : ObjectPolicy) : Visit → Path → Visit → Prop
  | here (s : Visit) : Reaches policy s [] s
  | further {s t u : Visit} {step : PathSegment} {p : Path} (hstep : s.Step policy step t)
    (h : Reaches policy t p u) : Reaches policy s (step :: p) u

variable {p : Path}

/-- What a part comes to is found by the whole, below the path to the part. -/
theorem Reaches.exists_run (h : s.Reaches policy p t) (hrule : s.rule.IsWellFormed)
    {verdict : Verdict Value} (hrun : s.run policy = (.ok verdict, left)) :
    ∃ found last, t.run policy = (.ok found, last) ∧
      ∀ finding ∈ found.findings, finding.below p ∈ verdict.findings := by
  induction h generalizing verdict left with
  | here => exact ⟨verdict, left, hrun, fun finding => id⟩
  | further hstep _ ih =>
    obtain ⟨part, between, hpart, hkept⟩ := hstep.exists_run hrule hrun
    obtain ⟨found, last, hfound, hbelow⟩ := ih (hstep.isWellFormed hrule) hpart
    exact ⟨found, last, hfound, fun finding hfinding => hkept _ (hbelow finding hfinding)⟩

/-- **What a run finds** is found on a value that the run visits, below the path to it. -/
theorem exists_finds_of_run (hrule : s.rule.IsWellFormed) {verdict : Verdict Value}
    (hrun : s.run policy = (.ok verdict, left)) :
    ∀ finding ∈ verdict.findings, ∃ p t inner, s.Reaches policy p t ∧ t.Finds policy inner ∧
      finding = inner.below p := by
  refine step_induction policy (P := fun s => ∀ {verdict left},
    s.run policy = (.ok verdict, left) → ∀ finding ∈ verdict.findings, ∃ p t inner,
      s.Reaches policy p t ∧ t.Finds policy inner ∧ finding = inner.below p) ?_ s hrule hrun
  intro s hrule ih verdict left hrun finding hfinding
  rcases finds_or_of_run hrule hrun hfinding with hown |
    ⟨step, t, found, last, hstep, hfound, inner, hinner, rfl⟩
  · exact ⟨[], s, finding, .here s, hown, rfl⟩
  · obtain ⟨p, u, own, hreaches, hown, rfl⟩ := ih step t hstep hfound inner hinner
    exact ⟨step :: p, u, own, .further hstep hreaches, hown, rfl⟩

/-- **A run that stops** does so at a value that it visits. -/
theorem exists_halts_of_run (hrule : s.rule.IsWellFormed)
    (hrun : s.run policy = (.error cause, left)) :
    ∃ p t, s.Reaches policy p t ∧ t.Halts cause := by
  refine step_induction policy (P := fun s => ∀ {left},
    s.run policy = (.error cause, left) → ∃ p t, s.Reaches policy p t ∧ t.Halts cause) ?_ s hrule
      hrun
  intro s hrule ih left hrun
  rcases halts_or_of_run hrule hrun with hown | ⟨step, t, last, hstep, hfound⟩
  · exact ⟨[], s, .here s, hown⟩
  · obtain ⟨p, u, hreaches, hown⟩ := ih step t hstep hfound
    exact ⟨step :: p, u, .further hstep hreaches, hown⟩

/-! ## Keys of the values -/

/-- What is known of a visit: the rule is one that a definition has, and the mappings in the value
and in the defaults have texts as keys. -/
structure IsTextKeyed (s : Visit) : Prop where
  isWellFormed : s.rule.IsWellFormed
  defaults : s.rule.DefaultsHaveTextKeys
  value : s.value.HasTextKeys

end Visit

/-- What is supplied for a field has texts as keys, given or made of the fields before it. -/
theorem FieldAt.hasTextKeys
    (h : FieldAt policy path entries fields done index earlier history step t)
    (hfields : ∀ field ∈ fields, field.2.IsWellFormed)
    (hdefaults : ∀ field ∈ fields, (∀ default ∈ field.2.facts.default?, default.MakesTextKeys) ∧
      field.2.DefaultsHaveTextKeys)
    (hentries : ∀ entry ∈ entries, entry.2.HasTextKeys) (hearlier : earlier.IsPlaced index) :
    t.value.HasTextKeys := by
  induction h with
  | @first name rule rest done index earlier history between v h =>
    exact h.hasTextKeys (hdefaults _ List.mem_cons_self).1
      (Value.hasTextKeys_of_getText? hentries name.text) hearlier
  | @later name rule rest done index earlier history between verdict step t hfirst h ih =>
    obtain ⟨hrule, hrest⟩ := List.forall_mem_cons.mp hfields
    obtain ⟨⟨hown, hinner⟩, hrestDefaults⟩ := List.forall_mem_cons.mp hdefaults
    refine ih hrest hrestDefaults (hearlier.record (fun w hw => ?_) _)
    have hgives : (checkField policy path done index earlier name rule
        (entries.getText? name.text)).Gives (.accepted (some w)) :=
      ⟨history, between, hw ▸ hfirst⟩
    exact hasTextKeys_of_gives_checkField (keepsTextKeys hrule hinner) hown
      (Value.hasTextKeys_of_getText? hentries name.text) hearlier hgives

namespace Visit

theorem Step.isTextKeyed (h : s.Step policy step t) (hs : s.IsTextKeyed) : t.IsTextKeyed := by
  refine ⟨h.isWellFormed hs.isWellFormed, ?_, ?_⟩
  · cases h with
    | item => exact hs.defaults
    | field h =>
      obtain ⟨place, name, hplace, -⟩ := h.exists_field
      exact (hs.defaults.fields _ (List.mem_of_getElem? hplace)).2
  · cases h with
    | item hitems h => exact Value.hasTextKeys_of_listItems? hs.value hitems _ h.mem
    | field h =>
      obtain ⟨-, hvalues⟩ := Value.hasTextKeys_map_iff.mp hs.value
      cases hs.isWellFormed with
      | object _ _ hfields =>
        exact h.hasTextKeys hfields hs.defaults.fields hvalues EarlierFields.isPlaced_empty

/-- Every value that a run visits has texts as keys, and a rule that a definition has. -/
theorem Reaches.isTextKeyed (h : s.Reaches policy p t) (hs : s.IsTextKeyed) : t.IsTextKeyed := by
  induction h with
  | here => exact hs
  | further hstep _ ih => exact ih (hstep.isTextKeyed hs)

end Visit

/-! ## Fields of which nothing is required -/

/-- The rule for a field of which nothing is required and for which nothing is filled in. -/
def relaxed (rule : Rule) : Rule :=
  rule.withFacts { rule.facts with isOptional := true, default? := none }

/-- Fields of which nothing is required. -/
def relaxFields (fields : List (TextValue × Rule)) : List (TextValue × Rule) :=
  fields.map fun field => (field.1, field.2.relaxed)

theorem withFacts_relaxed (rule : Rule) : rule.relaxed.withFacts rule.facts = rule := by
  cases rule <;> rfl

theorem check_relaxed (policy : ObjectPolicy) (rule : Rule) :
    check policy rule.relaxed = check policy rule := by
  funext path done v
  cases rule <;> simp only [relaxed, withFacts, facts, check]

theorem modelCount_relaxed (rule : Rule) : rule.relaxed.modelCount = rule.modelCount := by
  cases rule <;> rfl

theorem fieldTexts_relaxFields (fields : List (TextValue × Rule)) :
    fieldTexts (relaxFields fields) = fieldTexts fields := by
  rw [fieldTexts, relaxFields, List.map_map]
  rfl

/-- To check the fields that are given is to check all of them with nothing required. -/
theorem checkGivenFields_eq (policy : ObjectPolicy) (fields : List (TextValue × Rule))
    (done index : Nat) (earlier : EarlierFields) (entries : Entries) :
    checkGivenFields policy fields done index entries =
      checkFields policy (relaxFields fields) "" done index earlier entries := by
  induction fields generalizing done index earlier with
  | nil => rw [relaxFields, List.map_nil, checkGivenFields, checkFields]
  | cons field rest ih =>
    obtain ⟨name, rule⟩ := field
    have hfirst : checkGiven policy name rule done entries =
        checkField policy "" done index earlier name rule.relaxed (entries.getText? name.text) := by
      unfold checkGiven checkField
      rw [check_relaxed]
      cases entries.getText? name.text with
      | some v => rfl
      | none =>
        unfold checkAbsent
        rw [relaxed, facts_withFacts]
        rfl
    rw [checkGivenFields, hfirst, relaxFields, List.map_cons, checkFields_cons, modelCount_relaxed]
    congr 1
    funext verdict
    rw [ih]
    rfl

theorem isWellFormed_relaxFields (h : (ofFields fields).IsWellFormed) :
    (ofFields (relaxFields fields)).IsWellFormed := by
  cases h with
  | object hfacts hdistinct hfields =>
    refine .object hfacts ?_ (List.forall_mem_map.mpr fun field hfield => ?_)
    · change (fieldTexts fields).Nodup at hdistinct
      rwa [← fieldTexts_relaxFields] at hdistinct
    · have hrule := hfields field hfield
      have hrelaxed : field.2.Becomes field.2.relaxed :=
        .changed ⟨hrule.fits.ruleKind_eq, hrule.fits.lowerFirst⟩
      exact hrelaxed.isWellFormed hrule

theorem defaultsHaveTextKeys_relaxFields (h : (ofFields fields).DefaultsHaveTextKeys) :
    (ofFields (relaxFields fields)).DefaultsHaveTextKeys := by
  intro default hdefault
  rw [ofFields, innerDefaults, fieldDefaults_eq] at hdefault
  obtain ⟨relaxed, hrelaxed, hmem⟩ := List.mem_flatMap.mp hdefault
  obtain ⟨⟨name, rule⟩, hfield, rfl⟩ := List.mem_map.mp hrelaxed
  refine (h.fields _ hfield).2 default ?_
  cases rule <;> exact hmem

/-- What is said of the kinds of parts stays when nothing is required of the fields. -/
theorem map_kind_at?_relaxFields (fields : List (TextValue × Rule)) (path : Path) :
    ((ofFields (relaxFields fields)).at? path).map kind =
      ((ofFields fields).at? path).map kind := by
  have hlookup : ∀ name, TextValue.lookup name (relaxFields fields) =
      (TextValue.lookup name fields).map relaxed := by
    intro name
    induction fields with
    | nil => rfl
    | cons field rest ih =>
      rw [relaxFields, List.map_cons, TextValue.lookup_cons, TextValue.lookup_cons, ← relaxFields,
        ih]
      split <;> rfl
  have hpart : ∀ (rule : Rule) path,
      (rule.relaxed.at? path).map kind = (rule.at? path).map kind := by
    intro rule path
    cases path with
    | nil => exact congrArg some (kind_withFacts rule _)
    | cons step rest => rw [at?, at?, step?, step?, relaxed, item?_withFacts, fields?_withFacts]
  cases path with
  | nil => rfl
  | cons step rest =>
    rw [at?, at?, step?, step?]
    split
    · rfl
    · cases step.text? with
      | none => rfl
      | some name =>
        show ((TextValue.lookup name (relaxFields fields)).bind _).map kind =
          ((TextValue.lookup name fields).bind _).map kind
        rw [hlookup]
        cases TextValue.lookup name fields with
        | none => rfl
        | some part => exact hpart part rest

end Rule

/-! ## Whole inputs -/

namespace ValidationSchema

variable {schema : ValidationSchema} {fields : List (TextValue × Rule)} {data : Value}
  {history left : CallHistory}

/-- The rule that an input has to follow: nothing is required of the fields of a partial schema. -/
def inputRule (schema : ValidationSchema) : Rule :=
  if schema.isPartial then .ofFields (Rule.relaxFields schema.fields) else schema.rule

/-- The visit with which the check of an input starts. -/
def start (schema : ValidationSchema) (data : Value) (history : CallHistory) : Rule.Visit :=
  ⟨schema.inputRule, "", 0, data, history⟩

/-- The check of an input comes to a part of it, along the steps to it. -/
def Reaches (schema : ValidationSchema) (data : Value) (history : CallHistory) (p : Path)
    (t : Rule.Visit) : Prop :=
  (schema.start data history).Reaches schema.policy p t

theorem exists_inputRule (hrule : schema.rule = .ofFields fields) :
    ∃ inputFields, schema.inputRule = .ofFields inputFields := by
  unfold inputRule
  split
  · exact ⟨_, rfl⟩
  · exact ⟨fields, hrule⟩

/-- A schema checks inputs as the schema that requires what its rule for inputs does. -/
theorem check_eq_checkObject (hrule : schema.rule = .ofFields fields) :
    schema.check data = Rule.checkObject schema.policy false schema.inputRule data := by
  unfold check inputRule
  cases hpartial : schema.isPartial with
  | false => rfl
  | true =>
    rw [if_pos rfl, ValidationSchema.fields, hrule]
    cases data with
    | map entries =>
      simp only [Rule.checkObject, Rule.ofFields, Rule.fields?, Option.getD_some, if_true,
        Bool.false_eq_true, if_false, Rule.fieldTexts_relaxFields]
      rw [Rule.checkGivenFields_eq schema.policy fields 0 0 {} entries]
    | _ => rfl

/-- The visit with which a check starts comes to what the check comes to. -/
theorem run_start (hrule : schema.rule = .ofFields fields) :
    (schema.start data history).run schema.policy =
      ((schema.check data history).1.map (Verdict.map .map), (schema.check data history).2) := by
  obtain ⟨inputFields, hinput⟩ := exists_inputRule hrule
  let full : ValidationSchema := { schema with rule := schema.inputRule, isPartial := false }
  have hrule' : full.rule = .ofFields inputFields := hinput
  have hfull := congrFun (check_rule hrule' rfl data) history
  rw [Checking.andThen_value_apply] at hfull
  rw [check_eq_checkObject hrule]
  exact hfull

theorem isWellFormed_inputRule (hrule : schema.rule = .ofFields fields)
    (hwell : schema.rule.IsWellFormed) : schema.inputRule.IsWellFormed := by
  unfold inputRule
  split
  · rw [ValidationSchema.fields, hrule]
    exact Rule.isWellFormed_relaxFields (hrule ▸ hwell)
  · exact hwell

theorem isTextKeyed_start (hrule : schema.rule = .ofFields fields)
    (hwell : schema.rule.IsWellFormed) (hdefaults : schema.rule.DefaultsHaveTextKeys)
    (hdata : data.HasTextKeys) : (schema.start data history).IsTextKeyed := by
  refine ⟨isWellFormed_inputRule hrule hwell, ?_, hdata⟩
  show schema.inputRule.DefaultsHaveTextKeys
  unfold inputRule
  split
  · rw [ValidationSchema.fields, hrule]
    exact Rule.defaultsHaveTextKeys_relaxFields (hrule ▸ hdefaults)
  · exact hdefaults

/-- The rule for inputs has the kinds of parts that the rule of the schema has. -/
theorem map_kind_at?_inputRule (hrule : schema.rule = .ofFields fields) (path : Path) :
    (schema.inputRule.at? path).map Rule.kind = (schema.rule.at? path).map Rule.kind := by
  unfold inputRule
  split
  · rw [ValidationSchema.fields, hrule]
    exact Rule.map_kind_at?_relaxFields fields path
  · rfl

end ValidationSchema

end FieldSchema
