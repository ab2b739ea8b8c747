import FieldSchema.Proofs.Validation.Fitting
import FieldSchema.Proofs.Validation.Positions
import FieldSchema.Proofs.Validation.Visits

/-!
# What issues expect

An issue about a type says which kind of values was expected, and an issue about a missing field
says which field.  The check that comes to the finding knows both.  But the words of the issue are
made later and from its path only: the kind is that of the rule to which the path leads from the
root, by names and indexes, and the name is the innermost one on the path.  So they are right when
the path of a finding leads to the rule that made it.

It does, but for defaults.  A default is reported under the place of its field among its siblings,
written as a name, where no rule is, or the rule of another field (`Rule.Misnames`).  And no rule is
in a mapping whose values are texts, though its values are reported one by one (`Rule.EntersMap`).

* `Rule.Visit.Reaches.at?_eq`: the path of a visit leads to its rule.
* `Finding.ExpectsKind`: findings whose issues expect a kind.
* `Rule.Visit.Finds.expects`: what a visit finds expects the kind of the rule at its path.
* `ValidationSchema.issues_name_rules`: missing fields and expected kinds, for whole inputs.
-/

namespace FieldSchema

/-! ## Findings that expect a kind -/

namespace Finding

/-- What is expected is a kind, or nothing yet; then the kind is looked up at the path, which is not
done for what is plainly of an invalid type. -/
def ExpectsKind (kind : RuleKind) (finding : Finding) : Prop :=
  finding.expected = .text kind.name ∨
    finding.expected = .null ∧ finding.kind ≠ "invalid_type"

/-- An issue about a type expects the kind that its finding expects, if the path leads to a rule
for that kind. -/
theorem ExpectsKind.expected_toIssue {kind : RuleKind} {finding : Finding}
    (h : finding.ExpectsKind kind) {expectedAt : Path → Option String} {overrides : Overrides}
    (hpath : expectedAt finding.path = some kind.name)
    (hcode : (finding.toIssue expectedAt overrides).code = .text "invalid_type") :
    (finding.toIssue expectedAt overrides).expected = .text kind.name := by
  have htruthy : (Value.text kind.name).truthy = true := by cases kind <;> decide
  unfold toIssue at hcode ⊢
  dsimp only at hcode ⊢
  rw [hpath] at hcode ⊢
  split
  · rfl
  · rename_i hmissing
    rw [if_neg hmissing] at hcode
    split
    · rename_i hextra
      rw [if_pos hextra] at hcode
      exact absurd (Value.text.inj hcode) (by decide)
    · rename_i hextra
      rw [if_neg hextra] at hcode
      rcases h with hexpected | ⟨hexpected, hkind⟩
      · rw [hexpected, if_pos htruthy]
        split <;> rfl
      · split
        · rw [hexpected]
          rfl
        · rename_i hwrong
          rw [if_neg hwrong] at hcode
          exact absurd hcode fun hsame => hkind (by
            cases hfinding : finding.kind with
            | plain s =>
              rw [hfinding] at hsame
              exact congrArg TextValue.plain (Value.text.inj hsame)
            | category t =>
              rw [hfinding] at hsame
              cases hsame)

end Finding

/-- The check of a kind expects the kind, or it rejects a value in a mapping of texts. -/
theorem RuleKind.expectsKind_of_check {kind : RuleKind} {v : Value} (hv : v.HasTextKeys) :
    ∀ finding ∈ (kind.check v).findings,
      finding.path = [] ∧ finding.ExpectsKind kind ∨ kind = .map ∧ finding.path ≠ [] := by
  have hown : ∀ own : Finding, own.path = [] → own.ExpectsKind kind → ∀ finding ∈ [own],
      finding.path = [] ∧ finding.ExpectsKind kind ∨ kind = .map ∧ finding.path ≠ [] :=
    fun own hpath hexpects => List.forall_mem_singleton.mpr (.inl ⟨hpath, hexpects⟩)
  have htype : ∀ (name message : String), TextValue.plain name ≠ "invalid_type" →
      ∀ finding ∈ [Finding.wrongType name message v],
        finding.path = [] ∧ finding.ExpectsKind kind ∨ kind = .map ∧ finding.path ≠ [] :=
    fun _ _ hname => hown _ rfl (.inr ⟨rfl, hname⟩)
  have hmapping : ∀ {checkValue : Value → Verdict Value},
      (∀ key u, ∀ finding ∈ (checkValue u).findings.map (Finding.under key), kind = .map) →
      ∀ finding ∈ (checkMapping checkValue v).findings,
        finding.path = [] ∧ finding.ExpectsKind kind ∨ kind = .map ∧ finding.path ≠ [] := by
    intro checkValue hvalue
    unfold checkMapping
    split
    · obtain ⟨hkeys, -⟩ := Value.hasTextKeys_map_iff.mp hv
      rw [Verdict.findings_map, findings_checkEntries hkeys.texts]
      intro finding hfinding
      obtain ⟨entry, -, hentry⟩ := List.mem_flatMap.mp hfinding
      obtain ⟨inner, -, rfl⟩ := List.mem_map.mp hentry
      exact .inr ⟨hvalue _ _ _ hentry, List.cons_ne_nil _ _⟩
    · exact htype _ _ (by decide)
  cases kind with
  | any => exact List.forall_mem_nil _
  | object => exact hmapping fun _ _ _ h => by cases h
  | map => exact hmapping fun _ _ _ _ => rfl
  | string =>
    show ∀ finding ∈ (checkText v).findings, _
    unfold checkText
    split
    · exact List.forall_mem_nil _
    · exact htype _ _ (by decide)
  | date =>
    show ∀ finding ∈ (checkDate v).findings, _
    unfold checkDate
    split
    · exact List.forall_mem_nil _
    · exact List.forall_mem_nil _
    · split
      · split
        · exact List.forall_mem_nil _
        · exact hown _ rfl (.inl rfl)
      · exact hown _ rfl (.inl rfl)
  | number =>
    unfold check
    dsimp only
    split
    · exact List.forall_mem_nil _
    · exact hown _ rfl (.inl rfl)
  | boolean =>
    unfold check
    dsimp only
    split
    · exact List.forall_mem_nil _
    · exact htype _ _ (by decide)
  | array =>
    unfold check
    dsimp only
    split
    · exact List.forall_mem_nil _
    · exact htype _ _ (by decide)

namespace Rule

/-! ## Where paths lead -/

/-- A path goes by the place of a field with a default, instead of its name. -/
inductive Misnames : Rule → Path → Prop
  | made {facts : RuleFacts} {fields : List (TextValue × Rule)} {field : TextValue × Rule}
    {index : Nat} (hfield : fields[index]? = some field)
    (hdefault : field.2.facts.default?.isSome = true) (p : Path) :
    Misnames (.object facts fields) (.field (placeName index) :: p)
  | item {facts : RuleFacts} {item : Rule} {p : Path} (index : Nat) (h : Misnames item p) :
    Misnames (.array facts item) (.index index :: p)
  | given {facts : RuleFacts} {fields : List (TextValue × Rule)} {field : TextValue × Rule}
    {p : Path} (hfield : field ∈ fields) (h : Misnames field.2 p) :
    Misnames (.object facts fields) (.field field.1.text :: p)

/-- A path that goes by a name does so by the place of a field, or it goes on below a field. -/
theorem Misnames.of_field {facts : RuleFacts} {fields : List (TextValue × Rule)} {name : String}
    {p : Path} (h : (Rule.object facts fields).Misnames (.field name :: p)) :
    (∃ index field, fields[index]? = some field ∧ field.2.facts.default?.isSome = true ∧
      name = placeName index) ∨ ∃ field ∈ fields, field.1.text = name ∧ field.2.Misnames p := by
  generalize hpath : PathSegment.field name :: p = path at h
  cases h with
  | made hfield hdefault =>
    exact .inl ⟨_, _, hfield, hdefault, PathSegment.field.inj (List.cons.inj hpath).1⟩
  | given hfield h =>
    obtain ⟨hname, rfl⟩ := List.cons.inj hpath
    exact .inr ⟨_, hfield, (PathSegment.field.inj hname).symm, h⟩

theorem Misnames.of_item {facts : RuleFacts} {item : Rule} {n : Int} {p : Path}
    (h : (Rule.array facts item).Misnames (.index n :: p)) : item.Misnames p := by
  generalize hpath : PathSegment.index n :: p = path at h
  cases h with
  | item index h =>
    obtain ⟨-, rfl⟩ := List.cons.inj hpath
    exact h

/-- A path leads into a mapping whose values are texts. -/
def EntersMap (rule : Rule) (path : Path) : Prop :=
  ∃ p step q part, path = p ++ step :: q ∧ rule.at? p = some part ∧ part.kind = .map

variable {policy : ObjectPolicy} {p : Path} {s t : Visit}

theorem step?_field {facts : RuleFacts} {fields : List (TextValue × Rule)} {name : TextValue}
    {rule : Rule} (hdistinct : (fields.map fun field => field.1.text).Nodup)
    (hfield : (name, rule) ∈ fields) :
    (Rule.object facts fields).step? (.field name.text) = some rule :=
  TextValue.lookup_of_mem hdistinct hfield

/-- **The path of a visit** leads to its rule, unless it goes by the place of a field. -/
theorem Visit.Reaches.at?_eq (h : s.Reaches policy p t) (hs : s.rule.IsWellFormed) :
    (∀ q, s.rule.Misnames (p ++ q)) ∨ s.rule.at? p = some t.rule := by
  induction h with
  | here => exact .inr rfl
  | @further s t u step p hstep _ ih =>
    have ih := ih (hstep.isWellFormed hs)
    cases hstep with
    | item => exact ih.imp (fun hmis q => .item _ (hmis q)) id
    | @field facts fields path done entries history step t hfield =>
      cases hs with
      | object _ hdistinct _ =>
        obtain ⟨place, name, hplace, rfl | ⟨rfl, hdefault⟩⟩ := hfield.exists_field
        · have hmem := List.mem_of_getElem? hplace
          refine ih.imp (fun hmis q => .given hmem (hmis q)) fun hat => ?_
          rw [at?, step?_field hdistinct hmem]
          exact hat
        · rw [Nat.zero_add]
          exact .inl fun q => .made hplace hdefault (p ++ q)

/-! ## What a visit expects -/

/-- **What a visit finds** about a type expects the kind of the rule to which the path leads from
the rule of the visit. -/
theorem Visit.Finds.expects {finding : Finding} (h : t.Finds policy finding) (ht : t.IsTextKeyed)
    (hkind : Finding.isTypeKind finding.kind = true) :
    (∃ part, t.rule.at? finding.path = some part ∧ finding.ExpectsKind part.kind) ∨
      t.rule.kind = .map ∧ finding.path ≠ [] := by
  cases h with
  | @kind facts kind path done v history _ h =>
    refine (RuleKind.expectsKind_of_check ht.value _ h).imp ?_ id
    rintro ⟨hpath, hexpects⟩
    exact ⟨.leaf facts kind, by rw [hpath]; rfl, hexpects⟩
  | refined h =>
    rw [h.isTypeKind_eq_false ht.isWellFormed] at hkind
    cases hkind
  | notAList => exact .inl ⟨_, rfl, .inr ⟨rfl, (by decide : TextValue.plain "list_type" ≠ _)⟩⟩
  | notAnObject => exact .inl ⟨_, rfl, .inr ⟨rfl, (by decide : TextValue.plain "model_type" ≠ _)⟩⟩
  | strange h =>
    rcases kind_of_mem_strangeKeys h with ⟨hstrange, -⟩ | hstrange <;> rw [hstrange] at hkind <;>
      exact absurd hkind (by decide)
  | @omitted facts fields path done entries history _ place name rule hfield hgiven h =>
    cases h with
    | given h => exact h.elim
    | made _ h => exact h.elim
    | missing =>
      have hdistinct : (fields.map fun field => field.1.text).Nodup := by
        cases ht.isWellFormed with
        | object _ hdistinct _ => exact hdistinct
      refine .inl ⟨rule, ?_, .inr ⟨rfl, (by decide : TextValue.plain "missing" ≠ _)⟩⟩
      show ((Rule.object facts fields).step? (.field name.text)).bind some = some rule
      rw [step?_field hdistinct (List.mem_of_getElem? hfield)]
      rfl
    | notMade =>
      exact absurd hkind (show Finding.isTypeKind "default_factory_not_called" ≠ true by decide)

/-! ## Fields that are missing -/

/-- An object lacks a field that it must have. -/
inductive Visit.Lacks : Visit → String → Prop
  | field {facts : RuleFacts} {fields : List (TextValue × Rule)} {path : String} {done : Nat}
    {entries : Entries} {history : CallHistory} {name : TextValue} {rule : Rule}
    (hfield : (name, rule) ∈ fields) (hgiven : entries.getText? name.text = none)
    (hdefault : rule.facts.default? = none) (hoptional : rule.facts.isOptional = false) :
    Lacks ⟨.object facts fields, path, done, .map entries, history⟩ name.text

/-- What an object lacks is found missing. -/
theorem Visit.Lacks.mem_findings {name : String} (h : t.Lacks name) (ht : t.rule.IsWellFormed)
    {verdict : Verdict Value} {left : CallHistory} (hrun : t.run policy = (.ok verdict, left)) :
    missingField name ∈ verdict.findings := by
  cases h with
  | field hfield hgiven hdefault hoptional =>
    cases ht with
    | object hfacts =>
      rw [Visit.run, check_object_map (hfacts.eq_nil (by decide))] at hrun
      obtain ⟨parts, between, hparts, hrun⟩ := Checking.andThen_eq_ok_iff.mp hrun
      obtain ⟨rfl, -⟩ := Checking.value_eq_ok_iff.mp hrun
      rw [Verdict.findings_map, Verdict.findings_withFindings]
      exact List.mem_append_left _
        (missingField_mem_of_checkFields hparts hfield hgiven hdefault hoptional)

end Rule

/-- Of findings that are apart, another one stands at the path of a finding only if the path
clashes with itself. -/
theorem Finding.Apart.clash_of_path_eq {C : Path → Path → Prop} {before after : List Finding}
    {finding other : Finding} (h : Finding.Apart C (before ++ finding :: after))
    (hother : other ∈ before ++ after) (hpath : other.path = finding.path) :
    C finding.path finding.path := by
  obtain ⟨-, hafter, hbefore⟩ := List.pairwise_append.mp h
  rcases List.mem_append.mp hother with hmem | hmem
  · have hclash := hbefore other hmem finding List.mem_cons_self
    rw [hpath] at hclash
    exact hclash (.inl (List.prefix_refl _))
  · have hclash := (List.pairwise_cons.mp hafter).1 other hmem
    rw [hpath] at hclash
    exact hclash (.inl (List.prefix_refl _))

/-! ## Whole inputs -/

namespace ValidationSchema

/-- The issue of a field that is missing in the object at a path. -/
def requiredIssue (schema : ValidationSchema) (p : Path) (name : String) : Issue where
  path := p ++ [.field name]
  message := Message.ofRule schema.options.overrides name "required" .null none
  code := .text "invalid_type"
  expected := .ofText? (expectedAt schema.rule (p ++ [.field name]))

theorem toIssue_missingField (schema : ValidationSchema) (p : Path) (name : String) :
    ((Rule.missingField name).below p).toIssue (expectedAt schema.rule) schema.options.overrides =
      schema.requiredIssue p name := by
  have hmissing : ((Rule.missingField name).below p).isMissing = true :=
    beq_self_eq_true ("missing" : String)
  have hleaf : ((Rule.missingField name).below p).path.leafName = name :=
    Path.leafName_of_getLast? List.getLast?_concat
  rw [Finding.toIssue, if_pos hmissing, hleaf]
  rfl

variable {schema : ValidationSchema} {fields : List (TextValue × Rule)} {data : Value}
  {history : CallHistory}

/-- What an object lacks, at any depth, is an issue, and the only one at its path unless paths
clash; or the check has stopped at some value. -/
theorem exists_requiredIssue (hrule : schema.rule = .ofFields fields)
    (hwell : schema.rule.IsWellFormed) (hdefaults : schema.rule.DefaultsHaveTextKeys)
    (hdata : data.HasTextKeys) {p : Path} {t : Rule.Visit}
    (hreaches : schema.Reaches data history p t) {name : String} (hlacks : t.Lacks name) :
    (∃ before after, (schema.parse data history).1.result =
        .error (.rejected ⟨before ++ schema.requiredIssue p name :: after⟩) ∧
      ∀ issue ∈ before ++ after, issue.path = p ++ [.field name] →
        schema.Clash (p ++ [.field name]) (p ++ [.field name])) ∨
    ∃ cause q u, (schema.parse data history).1.result = .error (.stopped cause) ∧
      schema.Reaches data history q u ∧ u.Halts cause := by
  have hstart : (schema.start data history).IsTextKeyed :=
    isTextKeyed_start hrule hwell hdefaults hdata
  have hrun : (schema.start data history).run schema.policy = _ := run_start hrule
  rw [result_parse]
  rcases hcheck : schema.check data history with ⟨cause | verdict, left⟩ <;> rw [hcheck] at hrun
  · obtain ⟨q, u, hreached, hhalts⟩ := Rule.Visit.exists_halts_of_run hstart.isWellFormed hrun
    exact .inr ⟨cause, q, u, rfl, hreached, hhalts⟩
  · obtain ⟨found, last, hfound, hkept⟩ := hreaches.exists_run hstart.isWellFormed hrun
    have hmem := hkept _ (hlacks.mem_findings (hreaches.isTextKeyed hstart).isWellFormed hfound)
    rw [Verdict.findings_map] at hmem
    have hapart := apart_of_gives_check hrule hwell hdefaults hdata ⟨history, left, hcheck⟩
    cases verdict with
    | accepted => cases hmem
    | rejected findings =>
      obtain ⟨before, after, hsplit⟩ := List.append_of_mem hmem
      have hsplit : findings = _ := hsplit
      change Finding.Apart schema.Clash findings at hapart
      rw [hsplit] at hapart
      refine .inl ⟨before.map (Finding.toIssue (expectedAt schema.rule) schema.options.overrides),
        after.map (Finding.toIssue (expectedAt schema.rule) schema.options.overrides), ?_, ?_⟩
      · rw [← toIssue_missingField, hsplit, Parsed.ofVerdict, List.map_append, List.map_cons]
      · rw [← List.map_append]
        refine List.forall_mem_map.mpr fun other hother hpath => ?_
        rw [Finding.path_toIssue] at hpath
        exact hapart.clash_of_path_eq hother hpath

/-- What an issue about a type expects is the kind of the rule at its path, unless the path leads
into a mapping of texts or goes by the place of a field. -/
theorem exists_expected (hrule : schema.rule = .ofFields fields)
    (hwell : schema.rule.IsWellFormed) (hdefaults : schema.rule.DefaultsHaveTextKeys)
    (hdata : data.HasTextKeys) {r : Rejected}
    (hparse : (schema.parse data history).1.result = .error (.rejected r)) {issue : Issue}
    (hissue : issue ∈ r.issues) (hcode : issue.code = .text "invalid_type")
    (hmap : ¬schema.rule.EntersMap issue.path) (hmis : ¬schema.inputRule.Misnames issue.path) :
    ∃ part, schema.rule.at? issue.path = some part ∧ issue.expected = .text part.kind.name := by
  have hstart : (schema.start data history).IsTextKeyed :=
    isTextKeyed_start hrule hwell hdefaults hdata
  have hrun : (schema.start data history).run schema.policy = _ := run_start hrule
  have hkinds : ∀ path part, schema.inputRule.at? path = some part →
      ∃ part', schema.rule.at? path = some part' ∧ part'.kind = part.kind := by
    intro path part hpart
    have hsame := map_kind_at?_inputRule hrule path
    rw [hpart] at hsame
    exact Option.map_eq_some_iff.mp hsame.symm
  rw [result_parse] at hparse
  rcases hcheck : schema.check data history with ⟨_ | _ | findings, left⟩ <;>
    rw [hcheck] at hparse hrun <;> cases hparse
  obtain ⟨finding, hfinding, rfl⟩ := List.mem_map.mp hissue
  obtain ⟨p, t, inner, hreaches, hfinds, rfl⟩ :=
    Rule.Visit.exists_finds_of_run hstart.isWellFormed hrun finding hfinding
  rw [Finding.path_toIssue] at hmap hmis ⊢
  rcases hreaches.at?_eq hstart.isWellFormed with hmisnamed | hat
  · exact absurd (hmisnamed inner.path) hmis
  · have htype : Finding.isTypeKind (inner.below p).kind = true := Finding.isTypeKind_of_code hcode
    rcases hfinds.expects (hreaches.isTextKeyed hstart) htype with
      ⟨part, hpart, hexpects⟩ | ⟨hkind, hpath⟩
    · have hinput : schema.inputRule.at? (p ++ inner.path) = some part := by
        rw [Rule.at?_append]
        show (Rule.at? (schema.start data history).rule p).bind _ = _
        rw [hat]
        exact hpart
      obtain ⟨part', hpart', hkind⟩ := hkinds _ _ hinput
      have hbelow : (inner.below p).ExpectsKind part'.kind := hkind ▸ hexpects
      refine ⟨part', hpart', hbelow.expected_toIssue ?_ hcode⟩
      rw [expectedAt]
      show (schema.rule.at? (p ++ inner.path)).map _ = _
      rw [hpart']
      rfl
    · obtain ⟨part', hpart', hkind'⟩ := hkinds p t.rule hat
      obtain ⟨step, q, hstep⟩ := List.exists_cons_of_ne_nil hpath
      exact absurd ⟨p, step, q, part', congrArg (p ++ ·) hstep, hpart', hkind'.trans hkind⟩ hmap

/-- **Issues name the right rule.**  When all mappings in an input and in the defaults have texts as
keys, then for a schema and for its partial schema:

1. An object that the check comes to, at any path, and that lacks a field that it must have, makes
   the input rejected, with an issue that says so, and with no other one at the path to the field
   unless issues clash there; or the check stops without an answer, at a value for which a
   refinement has none or a default cannot be made.
2. An issue about a type expects the kind of the rule to which its path leads from the root, unless
   the path leads into a mapping of texts or goes by the place of a field with a default. -/
theorem issues_name_rules {options : ValidationOptions} {definition : Value}
    (hkeys : definition.IsWellKeyed) {schema : ValidationSchema}
    (hschema : (ofDefinition options definition).result = .ok schema)
    (hdefaults : schema.rule.DefaultsHaveTextKeys) {view : ValidationSchema}
    (hview : view = schema ∨ view = schema.asPartial) {data : Value} (hdata : data.HasTextKeys)
    (history : CallHistory) :
    (∀ p t name, view.Reaches data history p t → t.Lacks name →
      (∃ before after, (view.parse data history).1.result =
          .error (.rejected ⟨before ++ view.requiredIssue p name :: after⟩) ∧
        ∀ issue ∈ before ++ after, issue.path = p ++ [.field name] →
          view.Clash (p ++ [.field name]) (p ++ [.field name])) ∨
      ∃ cause q u, (view.parse data history).1.result = .error (.stopped cause) ∧
        view.Reaches data history q u ∧ u.Halts cause) ∧
    ∀ r, (view.parse data history).1.result = .error (.rejected r) →
      ∀ issue ∈ r.issues, issue.code = .text "invalid_type" →
        ¬view.rule.EntersMap issue.path → ¬view.inputRule.Misnames issue.path →
          ∃ part, view.rule.at? issue.path = some part ∧
            issue.expected = .text part.kind.name := by
  obtain ⟨forms, fields, -, hrule, -, hwell, -⟩ := exists_fields_of_ofDefinition hschema hkeys
  have hviewRule : view.rule = schema.rule := by rcases hview with rfl | rfl <;> rfl
  rw [← hviewRule] at hrule hwell hdefaults
  exact ⟨fun p t name hreaches hlacks =>
      exists_requiredIssue hrule hwell hdefaults hdata hreaches hlacks,
    fun r hparse issue hissue hcode hmap hmis =>
      exists_expected hrule hwell hdefaults hdata hparse hissue hcode hmap hmis⟩

/-- A list of parts of which one has a text in place of a number and lacks a text. -/
def lackingData : Value := .map [(.text "0", .list [.map [(.text "field_1", .text "x")]])]

/-- The check comes to the part in the list. -/
theorem reaches_lackingData : ∃ t, placedSchema.Reaches lackingData .empty
    [.field "0", .index 0] t ∧ t.Lacks "a.b" := by
  refine ⟨_, .further (.field (.first (.inl ⟨rfl, rfl⟩)))
    (.further (.item rfl (.first 0 _ [] _)) (.here _)), ?_⟩
  exact .field (List.mem_cons_of_mem _ List.mem_cons_self) rfl rfl rfl

/-- The name that is like that of a place is of a field at a place without a default. -/
theorem not_misnames_lackingData :
    ¬placedSchema.inputRule.Misnames [.field "0", .index 0, .field "field_1"] := by
  intro h
  have hroot : ∀ field ∈ placedSchema.fields, field.2.facts.default? = none := by
    simp [placedSchema, ValidationSchema.fields, Rule.ofFields, Rule.fields?, Rule.facts]
  rcases Rule.Misnames.of_field h with
    ⟨index, field, hfield, hdefault, -⟩ | ⟨field, hfield, hname, h⟩
  · rw [hroot field (List.mem_of_getElem? hfield)] at hdefault
    cases hdefault
  · rcases List.mem_cons.mp hfield with rfl | hfield
    · rcases Rule.Misnames.of_field (Rule.Misnames.of_item h) with
        ⟨index, field, hfield, hdefault, hname⟩ | ⟨field, hfield, hname, h⟩
      · obtain rfl := Rule.placeName_injective (show Rule.placeName 1 = _ from hname)
        obtain rfl := Option.some.inj hfield
        cases hdefault
      · rcases List.mem_cons.mp hfield with rfl | hfield
        · cases h
        · obtain rfl := List.mem_singleton.mp hfield
          cases h
    · obtain rfl := List.mem_singleton.mp hfield
      cases h

/-- The part in the list lacks one field, and the issue about the other one expects a number: it has
a name like that of a place, but of the place of a field without a default. -/
theorem issues_name_rules_placed :
    placed.IsWellKeyed ∧ (ofDefinition {} placed).result = .ok placedSchema ∧
      placedSchema.rule.DefaultsHaveTextKeys ∧ lackingData.HasTextKeys ∧
      ∃ before after, (placedSchema.parse lackingData .empty).1.result = .error (.rejected
          ⟨before ++ placedSchema.requiredIssue [.field "0", .index 0] "a.b" :: after⟩) ∧
        ∃ issue ∈ before ++ after, issue.path = [.field "0", .index 0, .field "field_1"] ∧
          ∃ part, placedSchema.rule.at? issue.path = some part ∧
            issue.expected = .text part.kind.name := by
  have hdefaults : placedSchema.rule.DefaultsHaveTextKeys :=
    List.forall_mem_singleton.mpr (show (Value.int 7).HasTextKeys from trivial)
  have hkeyed : ∀ (key : String) (v : Value), v.HasTextKeys →
      (Value.map [(.text key, v)]).HasTextKeys := fun key v hv =>
    Value.hasTextKeys_map_iff.mpr ⟨⟨List.forall_mem_singleton.mpr rfl, List.pairwise_singleton _ _⟩,
      List.forall_mem_singleton.mpr hv⟩
  have hdata : lackingData.HasTextKeys := hkeyed _ _ (Value.haveTextKeys_iff.mpr
    (List.forall_mem_singleton.mpr (hkeyed _ _ trivial)))
  obtain ⟨hlacking, hexpected⟩ := issues_name_rules isWellKeyed_placed ofDefinition_placed
    hdefaults (.inl rfl) hdata .empty
  obtain ⟨t, hreaches, hlacks⟩ := reaches_lackingData
  obtain ⟨first, second, hparse, hpath, hcode⟩ : ∃ first second,
      (placedSchema.parse lackingData .empty).1.result = .error (.rejected ⟨[first, second]⟩) ∧
        first.path = [.field "0", .index 0, .field "field_1"] ∧
        first.code = .text "invalid_type" :=
    ⟨_, _, by with_unfolding_all rfl, by with_unfolding_all rfl, by with_unfolding_all rfl⟩
  have hmap : ¬placedSchema.rule.EntersMap first.path := by
    rw [hpath]
    rintro ⟨p, step, q, part, hsplit, hpart, hkind⟩
    rcases p with _ | ⟨_, _ | ⟨_, _ | ⟨_, p⟩⟩⟩
    · cases hpart
      cases hkind
    · cases hsplit
      cases hpart
      cases hkind
    · cases hsplit
      cases hpart
      cases hkind
    · exact absurd hsplit (by simp)
  rcases hlacking _ t _ hreaches hlacks with ⟨before, after, hrejected, -⟩ | ⟨cause, q, u, hstop, -⟩
  · refine ⟨isWellKeyed_placed, ofDefinition_placed, hdefaults, hdata, before, after, hrejected,
      first, ?_, hpath, hexpected _ hparse first List.mem_cons_self hcode hmap
        (hpath ▸ not_misnames_lackingData)⟩
    have hsplit := Rejected.mk.inj (ParseFailure.rejected.inj (Except.error.inj
      (hrejected.symm.trans hparse)))
    have hmem : first ∈ [first, second] := List.mem_cons_self
    rw [← hsplit] at hmem
    rcases List.mem_append.mp hmem with hbefore | hmem
    · exact List.mem_append_left _ hbefore
    · rcases List.mem_cons.mp hmem with hsame | hafter
      · have hother := (congrArg Issue.path hsame).symm.trans hpath
        have hnames : "a.b" = "field_1" :=
          PathSegment.field.inj (Option.some.inj (congrArg List.getLast? hother))
        exact absurd hnames (by decide)
      · exact List.mem_append_right _ hafter
  · cases hstop.symm.trans hparse

end ValidationSchema

end FieldSchema
