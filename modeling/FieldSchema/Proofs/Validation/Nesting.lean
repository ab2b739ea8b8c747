import FieldSchema.Proofs.Validation.Mirrored
import FieldSchema.Proofs.Validation.Names

/-!
# Nested definitions

A definition may stand inside another one: as the parts of a field, or as the parts of the items of
a field.  What it makes of a value does not depend on where it stands.  The issues are the same, in
the same order, with the steps to the value in front of their paths, and the output stands under the
name of the field.  Only the names of models differ, which occur in the words for a value that is no
object.

Four things have to agree for this: the rule that is compiled for the field, the check of that rule
(`Rule.mirrors_check`), the output under the name of the field, and the search for the rule and the
name that an issue is about, which goes along the whole path.  An issue asks for the innermost name
on its path only if the path ends in a name (`Finding.IsNamed`), so the steps in front do not matter
to it.

* `Finding.toIssue_under`: issues below a step.
* `Parsed.SameUpToModel`: results that are the same up to the names of models.
* `Parsed.inList`: the results of items, put together.
* `ValidationSchema.parse_nested`: nested definitions.
-/

namespace FieldSchema

/-! ## Issues below a step -/

/-- The innermost name on a path that ends in a name. -/
theorem Path.leafName_of_getLast? {path : Path} {name : String}
    (h : path.getLast? = some (.field name)) : path.leafName = name := by
  obtain ⟨front, rfl⟩ := List.getLast?_eq_some_iff.mp h
  rw [leafName, List.reverse_append, List.reverse_singleton, List.singleton_append,
    List.findSome?_cons]
  rfl

namespace Issue

/-- An issue with a step in front of its path. -/
def under (segment : PathSegment) (issue : Issue) : Issue :=
  { issue with path := segment :: issue.path }

/-- The issue of a value that is no object, as a model was expected. -/
def notAnObject (path : Path) (v expected : Value) (model : String) : Issue where
  path := path
  message := .text ("Input should be a valid dictionary or instance of " ++ model)
  code := .text "invalid_type"
  input := v
  expected := expected

/-- The same issue, up to the model that is named when a value is no object. -/
inductive SameUpToModel : Issue → Issue → Prop
  | same (issue : Issue) : SameUpToModel issue issue
  | noObject (path : Path) (v expected : Value) (model model' : String) :
    SameUpToModel (notAnObject path v expected model) (notAnObject path v expected model')

end Issue

namespace Finding

variable {finding finding' : Finding}

/-- Below a step an issue is the same when the same is expected below it. -/
theorem toIssue_under {expectedAt expectedBelow : Path → Option String} {segment : PathSegment}
    (hexpected : ∀ path, expectedAt (segment :: path) = expectedBelow path)
    (h : finding.IsNamed) (overrides : Overrides) :
    (finding.under segment).toIssue expectedAt overrides =
      (finding.toIssue expectedBelow overrides).under segment := by
  have hleaf : finding.isMissing = true ∨ finding.isExtra = true →
      Path.leafName (segment :: finding.path) = finding.path.leafName := by
    intro hkind
    obtain ⟨name, hname⟩ := h hkind
    have hlonger : List.getLast? (segment :: finding.path) = some (.field name) := by
      rw [List.getLast?_cons, hname, Option.getD_some]
    rw [Path.leafName_of_getLast? hname, Path.leafName_of_getLast? hlonger]
  have hmissing : (finding.under segment).isMissing = finding.isMissing := rfl
  have hextra : (finding.under segment).isExtra = finding.isExtra := rfl
  have hwrong : (finding.under segment).isWrongType = finding.isWrongType := rfl
  have hpath : (finding.under segment).path = segment :: finding.path := rfl
  unfold toIssue
  dsimp only
  rw [hmissing, hextra, hwrong, hpath, hexpected]
  cases hkind : finding.isMissing with
  | true =>
    rw [hleaf (.inl hkind)]
    rfl
  | false =>
    cases hkind : finding.isExtra with
    | true =>
      rw [hleaf (.inr hkind)]
      rfl
    | false => cases finding.isWrongType <;> rfl

/-- A value that is no object makes an issue about its type. -/
theorem toIssue_notAnObject (path : Path) (model : String) (v : Value)
    (expectedAt : Path → Option String) (overrides : Overrides) :
    Finding.toIssue expectedAt overrides { Rule.notAnObject model v with path } =
      Issue.notAnObject path v (.ofText? (expectedAt path)) model := by
  have hmissing : ("model_type" == "missing") = false := by decide
  have hextra : ("model_type" == "extra_forbidden") = false := by decide
  have hwrong : "_type".toList.isSuffixOf "model_type".toList = true := by decide
  unfold toIssue isMissing isExtra isWrongType
  simp only [Rule.notAnObject, wrongType, TextValue.text_plain, hmissing, hextra, hwrong]
  rfl

/-- Findings that are the same up to models make such issues. -/
theorem SameUpToModel.toIssue (h : SameUpToModel finding finding')
    (expectedAt : Path → Option String) (overrides : Overrides) :
    Issue.SameUpToModel (finding.toIssue expectedAt overrides)
      (finding'.toIssue expectedAt overrides) := by
  cases h with
  | same h => exact .same _
  | noObject path model model' v =>
    rw [toIssue_notAnObject, toIssue_notAnObject]
    exact .noObject path v _ model model'

end Finding

/-! ## Results of parts -/

theorem Issue.SameUpToModel.under {issue issue' : Issue} (h : issue.SameUpToModel issue')
    (segment : PathSegment) : (issue.under segment).SameUpToModel (issue'.under segment) := by
  cases h with
  | same => exact .same _
  | noObject path v expected model model' =>
    exact .noObject (segment :: path) v expected model model'

namespace Parsed

variable {α β γ : Type}

/-- A result with a step in front of the paths of its issues. -/
def under (segment : PathSegment) : Parsed α → Parsed α
  | .error (.rejected r) => .error (.rejected ⟨r.issues.map (Issue.under segment)⟩)
  | result => result

/-- Two results in one, of checks one after the other: the first one that stops counts, and else the
issues of both. -/
def both (f : α → β → γ) : Parsed α → Parsed β → Parsed γ
  | .error (.stopped cause), _ => .error (.stopped cause)
  | _, .error (.stopped cause) => .error (.stopped cause)
  | .ok a, .ok b => .ok (f a b)
  | .ok _, .error (.rejected more) => .error (.rejected more)
  | .error (.rejected r), .ok _ => .error (.rejected r)
  | .error (.rejected r), .error (.rejected more) => .error (.rejected ⟨r.issues ++ more.issues⟩)

/-- The results of objects as the result of a list, with the index of each in front of its
issues. -/
def inList (index : Nat) : List (Parsed Entries) → Parsed (List Value)
  | [] => .ok []
  | result :: rest =>
    both List.cons (under (.index index) (result.map .map)) (inList (index + 1) rest)

/-- The same results up to the names of models. -/
inductive SameUpToModel : Parsed α → Parsed α → Prop
  | ok (a : α) : SameUpToModel (.ok a) (.ok a)
  | rejected {issues issues' : List Issue} (h : List.Forall₂ Issue.SameUpToModel issues issues') :
    SameUpToModel (.error (.rejected ⟨issues⟩)) (.error (.rejected ⟨issues'⟩))
  | stopped (cause : Raised) : SameUpToModel (.error (.stopped cause)) (.error (.stopped cause))

namespace SameUpToModel

variable {result result' : Parsed α}

/-- What is accepted does not depend on the names of models. -/
theorem eq_ok {a : α} (h : SameUpToModel result (.ok a)) : result = .ok a := by
  cases h
  rfl

theorem map (h : SameUpToModel result result') (f : α → β) :
    SameUpToModel (result.map f) (result'.map f) := by
  cases h with
  | ok a => exact .ok (f a)
  | rejected h => exact .rejected h
  | stopped cause => exact .stopped cause

theorem under (h : SameUpToModel result result') (segment : PathSegment) :
    SameUpToModel (Parsed.under segment result) (Parsed.under segment result') := by
  cases h with
  | ok a => exact .ok a
  | stopped cause => exact .stopped cause
  | rejected h =>
    refine .rejected ?_
    rw [List.forall₂_map_left_iff, List.forall₂_map_right_iff]
    exact h.imp fun _ _ hissue => hissue.under segment

end SameUpToModel

/-! ## Results of verdicts -/

variable {rule part : Rule} {overrides : Overrides} {found found' : Except Raised (Verdict α)}

/-- Verdicts that are the same up to models come to such results. -/
theorem sameUpToModel_ofVerdict
    (h : Checking.Ends (Verdict.Like Finding.SameUpToModel) found found') :
    SameUpToModel (ofVerdict rule overrides found) (ofVerdict rule overrides found') := by
  cases h with
  | stopped cause => exact .stopped cause
  | ok h =>
    cases h with
    | accepted a => exact .ok a
    | rejected _ h =>
      refine .rejected ?_
      rw [List.forall₂_map_left_iff, List.forall₂_map_right_iff]
      exact h.imp fun _ _ hfinding => hfinding.toIssue _ _

theorem ofVerdict_map (f : α → β) :
    ofVerdict rule overrides (found.map (Verdict.map f)) =
      (ofVerdict rule overrides found).map f := by
  rcases found with cause | a | list <;> rfl

/-- The result of the verdict on a part, with the step to the part in front. -/
theorem ofVerdict_under {segment : PathSegment} (hpart : rule.step? segment = some part)
    (hreported : Checking.Ends (Verdict.Like Finding.SameNamed) found found) :
    ofVerdict rule overrides (found.map (Verdict.under segment)) =
      under segment (ofVerdict part overrides found) := by
  have hexpected : ∀ path, ValidationSchema.expectedAt rule (segment :: path) =
      ValidationSchema.expectedAt part path := by
    intro path
    rw [ValidationSchema.expectedAt, Rule.at?, hpart]
    rfl
  cases hreported with
  | stopped => rfl
  | ok h =>
    cases h with
    | accepted => rfl
    | @rejected list _ _ h =>
      have hissues : (list.map (Finding.under segment)).map
          (Finding.toIssue (ValidationSchema.expectedAt rule) overrides) =
          (list.map (Finding.toIssue (ValidationSchema.expectedAt part) overrides)).map
            (Issue.under segment) := by
        rw [List.map_map, List.map_map]
        refine List.map_congr_left fun finding hfinding => ?_
        exact Finding.toIssue_under hexpected (List.forall₂_same.mp h finding hfinding).2 overrides
      exact congrArg (fun issues => (.error (.rejected ⟨issues⟩) : Parsed α)) hissues

/-- The result of two verdicts in one. -/
theorem ofVerdict_both (f : α → β → γ) (verdict : Verdict α) (others : Except Raised (Verdict β)) :
    ofVerdict rule overrides (others.map (verdict.both f)) =
      both f (ofVerdict rule overrides (.ok verdict)) (ofVerdict rule overrides others) := by
  rcases others with cause | b | more
  · cases verdict <;> rfl
  · cases verdict <;> rfl
  · cases verdict with
    | accepted a => rfl
    | rejected list =>
      exact congrArg (fun issues => (.error (.rejected ⟨issues⟩) : Parsed γ)) List.map_append

end Parsed

/-! ## Rules of nested definitions -/

namespace Value

/-- What describes an object whose parts a definition describes. -/
def nested (token definition : Value) : Value :=
  .map [(.text "type", token), (.text "schema", definition)]

/-- The ways to describe an array by what describes its items. -/
inductive IsArrayOf (part : Value) : Value → Prop
  | items {token : Value} (htoken : token.category? = some .array) :
    IsArrayOf part (.map [(.text "type", token), (.text "items", part)])
  | list : IsArrayOf part (.list [part])
  | tuple : IsArrayOf part (.tuple [part])

end Value

namespace Rule

variable {overrides : Overrides} {field : TextValue} {token definition : Value} {rule : Rule}

/-- The type of a nested definition has the rule of the definition. -/
theorem ofType_nested (h : (ofDefinition overrides definition).result = .ok rule) :
    (ofType overrides field .object ⟨token, [(.text "schema", definition)]⟩).result = .ok rule := by
  obtain ⟨forms, hforms, hparts⟩ := Logged.result_andThen_eq_ok_iff.mp h
  cases definition with
  | map entries =>
    have hread : Definition.readEntries entries = .ok forms :=
      Compiling.result_ofDefinition_eq_ok_iff.mp hforms
    have hschema : FieldSpec.schema? ⟨token, [(.text "schema", .map entries)]⟩ = some entries := rfl
    unfold ofType
    split
    · rename_i entries' hsome
      obtain rfl := Option.some.inj (hschema.symm.trans hsome)
      split
      · rename_i parts hok
        obtain rfl := Except.ok.inj (hread.symm.trans hok)
        exact hparts
      · rename_i cause herror
        cases hread.symm.trans herror
    · rename_i hnone
      cases hschema.symm.trans hnone
  | _ => cases hforms

/-- Items that a nested definition describes have its rule. -/
theorem ofItemSpec_nested (htoken : token.category? = some .object)
    (h : (ofDefinition overrides definition).result = .ok rule) :
    (ofItemSpec overrides field ⟨token, [(.text "schema", definition)]⟩).result =
      .ok (some rule) := by
  rw [ofItemSpec, htoken]
  exact Logged.result_andThen_eq_ok_iff.mpr ⟨rule, ofType_nested h, rfl⟩

/-- A field that a nested definition describes has the rule of the definition. -/
theorem ofField_nested (htoken : token.category? = some .object)
    (h : (ofDefinition overrides definition).result = .ok rule) :
    (ofField overrides field (.nested token definition)).result = .ok rule := by
  obtain ⟨forms, rules, -, -, rfl⟩ := ofDefinition_eq_ok h
  refine Logged.result_andThen_eq_ok_iff.mpr
    ⟨.single ⟨token, [(.text "schema", definition)]⟩, rfl, ?_⟩
  rw [ofForm]
  exact Logged.result_andThen_eq_ok_iff.mpr ⟨.object,
    Compiling.result_ofDefinition_eq_ok_iff.mpr ((Value.categoryFor_eq_ok_iff _ _ _).mpr htoken),
    Logged.result_andThen_eq_ok_iff.mpr ⟨_, ofType_nested h, rfl⟩⟩

/-- A field that is an array of objects that a nested definition describes. -/
theorem ofField_arrayOf_nested (htoken : token.category? = some .object) {described : Value}
    (hdescribed : Value.IsArrayOf (.nested token definition) described)
    (h : (ofDefinition overrides definition).result = .ok rule) :
    (ofField overrides field described).result = .ok (.array {} rule) := by
  have hitem : FieldForm.itemSpec (.nested token definition) =
      ⟨token, [(.text "schema", definition)]⟩ := by
    cases token with
    | null => cases htoken
    | _ => rfl
  have hshort : (ofForm overrides field
      (.arrayOf (FieldForm.itemSpec (.nested token definition)))).result =
        .ok (.array {} rule) := by
    rw [hitem, ofForm]
    exact Logged.result_andThen_eq_ok_iff.mpr ⟨_, ofItemSpec_nested htoken h, rfl⟩
  cases hdescribed with
  | list => exact Logged.result_andThen_eq_ok_iff.mpr ⟨_, rfl, hshort⟩
  | tuple => exact Logged.result_andThen_eq_ok_iff.mpr ⟨_, rfl, hshort⟩
  | @items listToken hlist =>
    let spec : FieldSpec := ⟨listToken, [(.text "items", .nested token definition)]⟩
    have hspec : (ofType overrides field .array spec).result = .ok (.array {} rule) := by
      unfold ofType
      exact Logged.result_andThen_eq_ok_iff.mpr ⟨_, ofItemSpec_nested htoken h, rfl⟩
    refine Logged.result_andThen_eq_ok_iff.mpr ⟨.single spec, rfl, ?_⟩
    rw [ofForm]
    exact Logged.result_andThen_eq_ok_iff.mpr ⟨.array,
      Compiling.result_ofDefinition_eq_ok_iff.mpr ((Value.categoryFor_eq_ok_iff _ _ _).mpr hlist),
      Logged.result_andThen_eq_ok_iff.mpr ⟨_, hspec, rfl⟩⟩

/-- The rule of a definition of one field. -/
theorem ofDefinition_field {described : Value}
    (h : (ofField overrides field described).result = .ok rule) :
    (ofDefinition overrides (.map [(.ofTextValue field, described)])).result =
      .ok (.ofFields [(field, rule)]) := by
  obtain ⟨form, hform, hrule⟩ := Logged.result_andThen_eq_ok_iff.mp h
  have hread : Definition.read (.map [(.ofTextValue field, described)]) = .ok [(field, form)] := by
    rw [Definition.read, Definition.readEntries, Value.asTextValue?_ofTextValue]
    dsimp only
    rw [Compiling.result_ofDefinition_eq_ok_iff.mp hform]
    rfl
  refine Logged.result_andThen_eq_ok_iff.mpr
    ⟨_, Compiling.result_ofDefinition_eq_ok_iff.mpr hread, ?_⟩
  rw [ofParts, ofForms, ofForms]
  exact Logged.result_andThen_eq_ok_iff.mpr
    ⟨_, Logged.result_andThen_eq_ok_iff.mpr ⟨rule, hrule, rfl⟩, rfl⟩

end Rule

/-! ## Runs of nested definitions -/

namespace ValidationSchema

variable {schema : ValidationSchema} {fields : List (TextValue × Rule)} {field : TextValue}
  {rule : Rule}

/-- The results of inputs one after the other; none comes after a check that stops. -/
def parseEach (schema : ValidationSchema) :
    List Value → CallHistory → List (Parsed Entries) × CallHistory
  | [], history => ([], history)
  | v :: rest, history =>
    match schema.parse v history with
    | (⟨_, .error (.stopped cause)⟩, left) => ([.error (.stopped cause)], left)
    | (first, between) =>
      let (others, left) := schema.parseEach rest between
      (first.result :: others, left)

theorem parseEach_cons_of_stopped {v : Value} {rest : List Value} {history : CallHistory}
    {cause : Raised} (h : (schema.parse v history).1.result = .error (.stopped cause)) :
    schema.parseEach (v :: rest) history =
      ([.error (.stopped cause)], (schema.parse v history).2) := by
  rw [parseEach]
  revert h
  rcases schema.parse v history with ⟨⟨events, result⟩, left⟩
  rintro (rfl : result = _)
  rfl

theorem parseEach_cons {v : Value} {history : CallHistory}
    (h : ∀ cause, (schema.parse v history).1.result ≠ .error (.stopped cause))
    (rest : List Value) : schema.parseEach (v :: rest) history =
      ((schema.parse v history).1.result :: (schema.parseEach rest (schema.parse v history).2).1,
        (schema.parseEach rest (schema.parse v history).2).2) := by
  rw [parseEach]
  rcases hparse : schema.parse v history with ⟨⟨events, result⟩, left⟩
  rw [hparse] at h
  split
  · rename_i hstopped
    obtain ⟨hresult, -⟩ := Prod.mk.inj hstopped
    exact absurd (congrArg Logged.result hresult) (h _)
  · rename_i hfirst
    obtain ⟨rfl, rfl⟩ := Prod.mk.inj hfirst
    rfl

/-- A whole input is checked as the object that it is. -/
theorem check_rule (hrule : schema.rule = .ofFields fields) (hpartial : schema.isPartial = false)
    (v : Value) : Rule.check schema.policy schema.rule "" 0 v =
      (schema.check v).andThen fun verdict => .value (verdict.map .map) := by
  rw [check, hpartial, hrule]
  cases v with
  | map entries =>
    rw [Rule.ofFields, Rule.check_object_map rfl, Rule.checkObject]
    refine Eq.trans ?_ (Checking.andThen_value_andThen _ _ _).symm
    congr 1
    funext verdict
    show _ = Checking.value (Verdict.map Value.map (Verdict.map Entries.ofPairs
      (verdict.withFindings (Rule.strangeKeys schema.policy (Rule.fieldTexts fields) entries))))
    cases verdict.withFindings (Rule.strangeKeys schema.policy (Rule.fieldTexts fields) entries) <;>
      rfl
  | _ => rfl

/-- The result of a whole input as a value. -/
theorem map_result_parse (hrule : schema.rule = .ofFields fields)
    (hpartial : schema.isPartial = false) (v : Value) (history : CallHistory) :
    (schema.parse v history).1.result.map .map =
      Parsed.ofVerdict schema.rule schema.options.overrides
        (Rule.check schema.policy schema.rule "" 0 v history).1 := by
  rw [check_rule hrule hpartial, Checking.andThen_value_apply, Parsed.ofVerdict_map, result_parse]

/-- A whole input makes the calls of the object that it is. -/
theorem snd_parse_eq_check (hrule : schema.rule = .ofFields fields)
    (hpartial : schema.isPartial = false) (v : Value) (history : CallHistory) :
    (schema.parse v history).2 = (Rule.check schema.policy schema.rule "" 0 v history).2 := by
  rw [check_rule hrule hpartial, Checking.andThen_value_apply, snd_parse]

/-- The result of a list of objects is made of those of the objects. -/
theorem ofVerdict_each (hrule : schema.rule = .ofFields fields)
    (hpartial : schema.isPartial = false) (hwell : schema.rule.IsWellFormed) (index : Nat)
    (items : List Value) (history : CallHistory) :
    let checked := Checking.each (Rule.check schema.policy schema.rule "" 0) index items history
    Parsed.ofVerdict (.array {} schema.rule) schema.options.overrides checked.1 =
        Parsed.inList index (schema.parseEach items history).1 ∧
      checked.2 = (schema.parseEach items history).2 := by
  induction items generalizing index history with
  | nil => exact ⟨rfl, rfl⟩
  | cons v rest ih =>
    have hcheck := congrFun (check_rule hrule hpartial v) history
    have hreported := Rule.ends_check hwell schema.policy "" 0 v history
    rw [Checking.andThen_value_apply] at hcheck
    rw [hcheck] at hreported
    rcases hfound : schema.check v history with ⟨cause | verdict, between⟩ <;>
      rw [hfound] at hcheck hreported
    · have hstopped : (schema.parse v history).1.result = .error (.stopped cause) := by
        rw [result_parse, hfound]
        rfl
      rw [parseEach_cons_of_stopped hstopped, snd_parse, hfound,
        Checking.each_cons_of_error hcheck]
      exact ⟨rfl, rfl⟩
    · have hresult : (schema.parse v history).1.result =
          Parsed.ofVerdict schema.rule schema.options.overrides (.ok verdict) := by
        rw [result_parse, hfound]
      have hgoes : ∀ cause, (schema.parse v history).1.result ≠ .error (.stopped cause) := by
        intro cause hstopped
        rw [hresult] at hstopped
        cases verdict <;> cases hstopped
      have hfirst : Parsed.ofVerdict (.array {} schema.rule) schema.options.overrides
          (.ok ((verdict.map Value.map).under (.index index))) =
            Parsed.under (.index index) ((Parsed.ofVerdict schema.rule schema.options.overrides
              (.ok verdict)).map Value.map) := by
        rw [← Parsed.ofVerdict_map]
        exact Parsed.ofVerdict_under rfl hreported
      obtain ⟨hothers, hlast⟩ := ih (index + 1) between
      rw [parseEach_cons hgoes, snd_parse, hfound, hresult, Parsed.inList, ← hothers, ← hfirst,
        ← Parsed.ofVerdict_both, Checking.each_cons_of_ok hcheck]
      exact ⟨rfl, hlast⟩

/-- A value under the name of a field comes to a result, up to the names of models, with calls. -/
def FieldComesTo (schema : ValidationSchema) (field : TextValue) (v : Value)
    (history : CallHistory) (result : Parsed Value) (left : CallHistory) : Prop :=
  ∀ key : Value, key.asText? = some field.text →
    Parsed.SameUpToModel (schema.parse (.map [(key, v)]) history).1.result
      ((Parsed.under (.field field.text) result).map fun w => [(.ofTextValue field, w)]) ∧
    (schema.parse (.map [(key, v)]) history).2 = left

/-- The schema with one field. -/
def ofField (options : ValidationOptions) (field : TextValue) (rule : Rule) : ValidationSchema where
  rule := .ofFields [(field, rule)]
  options := options

/-- The schema of a definition of one field. -/
theorem ofDefinition_field {options : ValidationOptions} {described : Value}
    (h : (Rule.ofField options.overrides field described).result = .ok rule) :
    (ofDefinition options (.map [(.ofTextValue field, described)])).result =
      .ok (ofField options field rule) :=
  Logged.result_andThen_eq_ok_iff.mpr ⟨_, Rule.ofDefinition_field h, rfl⟩

/-- The check of an object with one field is that of the field. -/
theorem check_ofField (options : ValidationOptions) {key : Value}
    (hkey : key.asText? = some field.text) (v : Value) :
    (ofField options field rule).check (.map [(key, v)]) =
      (Rule.check (ofField options field rule).policy rule (Rule.fieldPath "" field) 0 v).andThen
        fun verdict => .value ((verdict.under (.field field.text)).map fun w =>
          Entries.ofPairs (Rule.putField field 0 w.unlessAbsent [])) := by
  let policy := (ofField options field rule).policy
  have hgiven : Entries.getText? [(key, v)] field.text = some v := if_pos hkey
  have hstrange : Rule.strangeKeys policy (Rule.fieldTexts [(field, rule)]) [(key, v)] = [] := by
    have hknown :
        Rule.strangeKey? (Rule.fieldTexts [(field, rule)]) [(key, v)] (key, v) = none := by
      simp [Rule.strangeKey?, Rule.fieldTexts, hkey, hgiven]
    rw [Rule.strangeKeys, List.filterMap_cons_none hknown]
    exact ite_self _
  show (Rule.checkFields policy [(field, rule)] "" 0 0 {} [(key, v)]).andThen (fun verdict =>
    .value ((verdict.withFindings (Rule.strangeKeys policy (Rule.fieldTexts [(field, rule)])
      [(key, v)])).map Entries.ofPairs)) = _
  rw [hstrange, Rule.checkFields_cons, hgiven, Rule.checkField]
  simp only [Rule.checkFields, Checking.value_andThen, Checking.andThen_value_andThen]
  congr 1
  funext verdict
  cases verdict <;> rfl

/-- The result of an object with one field is that of the value of the field. -/
theorem result_parse_ofField (hwell : rule.IsWellFormed) (options : ValidationOptions) {key : Value}
    (hkey : key.asText? = some field.text) (v : Value) (history : CallHistory) :
    ((ofField options field rule).parse (.map [(key, v)]) history).1.result =
      ((Parsed.ofVerdict rule options.overrides (Rule.check (ofField options field rule).policy rule
        (Rule.fieldPath "" field) 0 v history).1).under (.field field.text)).map fun w =>
          Entries.ofPairs (Rule.putField field 0 w.unlessAbsent []) := by
  have hstep : (Rule.ofFields [(field, rule)]).step? (.field field.text) = some rule := if_pos rfl
  have hmap : ∀ (found : Except Raised (Verdict Value)) (f : Value → Entries),
      found.map (fun verdict => (verdict.under (.field field.text)).map f) =
        (found.map (Verdict.under (.field field.text))).map (Verdict.map f) := by
    rintro (cause | verdict) f <;> rfl
  rw [result_parse, check_ofField options hkey, Checking.andThen_value_apply, hmap,
    Parsed.ofVerdict_map]
  exact congrArg _ (Parsed.ofVerdict_under hstep (Rule.ends_check hwell _ _ 0 v history))

/-- A field of an object is dealt with as its value is. -/
theorem fieldComesTo {options : ValidationOptions} (hwell : rule.IsWellFormed)
    (hfield : field.text ≠ "") {policy : Rule.ObjectPolicy}
    (hstrict : options.strict = policy.strict) {v : Value} {history left : CallHistory}
    {found : Except Raised (Verdict Value)}
    (hfound : Rule.check policy rule "" 0 v history = (found, left))
    (hvalue : ∀ w, found = .ok (.accepted w) → w.unlessAbsent = some w) :
    (ofField options field rule).FieldComesTo field v history
      (Parsed.ofVerdict rule options.overrides found) left := by
  intro key hkey
  have hmirrors : Checking.Mirrors (.same history.outside) (Verdict.Like Finding.SameUpToModel)
      (Rule.check (ofField options field rule).policy rule (Rule.fieldPath "" field) 0 v)
      (Rule.check policy rule "" 0 v) :=
    Rule.mirrors_check Finding.isKept_sameUpToModel hstrict hwell
      (fun default _ => RunPair.settles_same history.outside default) (.upToModel _ _ _ _ _ _) v
  obtain ⟨hends, hleft⟩ := hmirrors history history (RunPair.relates_same_iff.mpr ⟨rfl, rfl⟩)
  rw [hfound] at hends hleft
  have hone : ((Parsed.ofVerdict rule options.overrides found).under (.field field.text)).map
        (fun w => Entries.ofPairs (Rule.putField field 0 w.unlessAbsent [])) =
      ((Parsed.ofVerdict rule options.overrides found).under (.field field.text)).map
          fun w => [(.ofTextValue field, w)] := by
    rcases found with cause | w | list
    · rfl
    · have hname : Rule.outputName field 0 = field := if_neg (by simpa using hfield)
      show Except.ok (Entries.ofPairs (Rule.putField field 0 w.unlessAbsent [])) = _
      rw [hvalue w rfl, Rule.putField, hname]
      rfl
    · rfl
  rw [result_parse_ofField hwell options hkey, snd_parse, check_ofField options hkey,
    Checking.andThen_value_apply, ← hone]
  exact ⟨((Parsed.sameUpToModel_ofVerdict hends).under _).map _,
    (RunPair.relates_same_iff.mp hleft).2⟩

/-- A list is checked item by item. -/
theorem check_list (policy : Rule.ObjectPolicy) (rule : Rule) {v : Value} {items : List Value}
    (hitems : v.listItems? = some items) :
    Rule.check policy (.array {} rule) "" 0 v =
      (Checking.each (Rule.check policy rule "" 0) 0 items).andThen fun verdict =>
        .value (verdict.map .list) := by
  have hnone : ∀ verdict, Rule.refineVerdict v [] verdict = .value verdict := by
    intro verdict
    cases verdict <;> rfl
  rw [Rule.check, hitems]
  simp only [hnone]

/-- An object under the name of a field. -/
theorem fieldComesTo_object (hrule : schema.rule = .ofFields fields)
    (hpartial : schema.isPartial = false) (hwell : schema.rule.IsWellFormed)
    (hfield : field.text ≠ "") (v : Value) (history : CallHistory) :
    (ofField schema.options field schema.rule).FieldComesTo field v history
      ((schema.parse v history).1.result.map .map) (schema.parse v history).2 := by
  have hcheck := check_rule hrule hpartial v
  rw [map_result_parse hrule hpartial, snd_parse_eq_check hrule hpartial]
  refine fieldComesTo hwell hfield rfl rfl fun w hw => ?_
  rw [hcheck, Checking.andThen_value_apply] at hw
  obtain ⟨document, rfl⟩ := Verdict.exists_of_map_eq_accepted hw
  rfl

/-- A list of objects under the name of a field. -/
theorem fieldComesTo_list (hrule : schema.rule = .ofFields fields)
    (hpartial : schema.isPartial = false) (hwell : schema.rule.IsWellFormed)
    (hfield : field.text ≠ "") {v : Value} {items : List Value} (hitems : v.listItems? = some items)
    (history : CallHistory) :
    (ofField schema.options field (.array {} schema.rule)).FieldComesTo field v history
      ((Parsed.inList 0 (schema.parseEach items history).1).map .list)
      (schema.parseEach items history).2 := by
  obtain ⟨hresult, hleft⟩ := ofVerdict_each hrule hpartial hwell 0 items history
  rw [← hresult, ← hleft, ← Parsed.ofVerdict_map]
  have hcheck := congrFun (check_list schema.policy schema.rule hitems) history
  rw [Checking.andThen_value_apply] at hcheck
  refine fieldComesTo (.array (Rule.fits_nil .array) hwell) hfield rfl hcheck fun w hw => ?_
  obtain ⟨parts, rfl⟩ := Verdict.exists_of_map_eq_accepted hw
  rfl

/-- **Nested definitions**: a definition makes the same of a value wherever it stands, as the parts
of a field or of the items of a field.  What it accepts is given out under the name of the field,
and the issues are the same with the steps to the value in front, up to the names of models. -/
theorem parse_nested {definition : Value} (hkeys : definition.IsWellKeyed)
    {options : ValidationOptions} {inner : ValidationSchema}
    (hinner : (ofDefinition options definition).result = .ok inner) {field : TextValue}
    (hfield : field.text ≠ "") {token : Value} (htoken : token.category? = some .object) :
    (∃ outer, (ofDefinition options
        (.map [(.ofTextValue field, .nested token definition)])).result = .ok outer ∧
      ∀ v history, outer.FieldComesTo field v history
        ((inner.parse v history).1.result.map .map) (inner.parse v history).2) ∧
    ∀ described, Value.IsArrayOf (.nested token definition) described →
      ∃ outer, (ofDefinition options (.map [(.ofTextValue field, described)])).result = .ok outer ∧
        ∀ (v : Value) (items : List Value) (history : CallHistory), v.listItems? = some items →
          outer.FieldComesTo field v history
            ((Parsed.inList 0 (inner.parseEach items history).1).map .list)
            (inner.parseEach items history).2 := by
  obtain ⟨-, fields, -, hrule, -, hwell, hpartial⟩ := exists_fields_of_ofDefinition hinner hkeys
  have hcompiled := (ofDefinition_eq_ok hinner).1
  obtain rfl : inner.options = options := by
    obtain ⟨rule, -, hmade⟩ := Logged.result_andThen_eq_ok_iff.mp hinner
    rw [← Except.ok.inj hmade]
  refine ⟨⟨_, ofDefinition_field (Rule.ofField_nested htoken hcompiled), ?_⟩,
    fun described hdescribed => ⟨_, ofDefinition_field
      (Rule.ofField_arrayOf_nested htoken hdescribed hcompiled), ?_⟩⟩
  · exact fieldComesTo_object hrule hpartial hwell hfield
  · exact fun v items history hitems => fieldComesTo_list hrule hpartial hwell hfield hitems history

/-- A definition with the parts of another one. -/
def withPart : Value :=
  .map [(.text "part", .nested (.canonical .object) placed)]

/-- A definition with a list of such parts. -/
def withParts : Value :=
  .map [(.text "parts", .list [.nested (.canonical .object) placed])]

/-- An object is accepted under the name of a field as it is on its own, and of a list with another
value that value is rejected at its index. -/
theorem parse_nested_placed :
    placed.IsWellKeyed ∧ (ofDefinition {} placed).result = .ok placedSchema ∧
      (TextValue.plain "part").text ≠ "" ∧ (TextValue.plain "parts").text ≠ "" ∧
      (Value.canonical .object).category? = some .object ∧
      (∃ outer, (ofDefinition {} withPart).result = .ok outer ∧
        (outer.parse (.map [(.text "part", placedData)]) .empty).1.result =
          .ok [(.text "part", .map placedDocument)]) ∧
      ∃ outer, (ofDefinition {} withParts).result = .ok outer ∧
        Parsed.SameUpToModel
          (outer.parse (.map [(.text "parts", .list [placedData, .int 5])]) .empty).1.result
          (.error (.rejected ⟨[.notAnObject [.field "parts", .index 1] (.int 5) (.text "object")
            "ValidationModel"]⟩)) := by
  have hpart : (TextValue.plain "part").text ≠ "" := by decide
  have hparts : (TextValue.plain "parts").text ≠ "" := by decide
  obtain ⟨⟨outer, houter, hcomes⟩, -⟩ := parse_nested isWellKeyed_placed ofDefinition_placed hpart
    (Value.category?_canonical .object)
  obtain ⟨-, hlists⟩ := parse_nested isWellKeyed_placed ofDefinition_placed hparts
    (Value.category?_canonical .object)
  obtain ⟨listed, hlisted, hcomesListed⟩ := hlists _ .list
  refine ⟨isWellKeyed_placed, ofDefinition_placed, hpart, hparts, rfl, ⟨outer, houter, ?_⟩,
    listed, hlisted, ?_⟩
  · obtain ⟨hsame, -⟩ := hcomes placedData .empty (.text "part") rfl
    rw [parse_placed] at hsame
    exact hsame.eq_ok
  · obtain ⟨hsame, -⟩ :=
      hcomesListed (.list [placedData, .int 5]) _ .empty rfl (.text "parts") rfl
    have hissues : Parsed.inList 0 (placedSchema.parseEach [placedData, .int 5] .empty).1 =
        .error (.rejected ⟨[.notAnObject [.index 1] (.int 5) (.text "object")
          "ValidationModel"]⟩) := by
      with_unfolding_all rfl
    rw [hissues] at hsame
    exact hsame

end ValidationSchema

end FieldSchema
