import FieldSchema.Proofs.Validation.Mirrored
import FieldSchema.Proofs.Validation.Names

/-!
# Partial schemas

A partial schema passes over the fields that an input leaves out.  A full schema fills them in or
misses them, and this is all that tells the two apart: the full schema accepts an input when the
partial one does and every field that is left out is optional, or has a default that makes what its
rule accepts.  The partial output is then the full one without the fields that were left out.

That they have the same values under the names of fields that are supplied has to be shown for runs
that differ in their calls.  Only the full run makes defaults for fields that are left out, so later
checks in it start from more calls.  Two things keep them from seeing these:

1. a check depends on the calls that the defaults inside it heed (`Rule.mirrors_check`);
2. a check calls nothing but the defaults that it holds (`Rule.spares_check`).

So it is enough that the defaults inside the fields that are supplied do not heed what is called for
the fields that are left out.  This is a condition on what functions answer, whatever state they
keep and share.  When it fails, the outputs may differ (`ValidationSchema.parse_asPartial_sharing`).

* `Rule.AbsentAreFilled`: every field that is left out can be filled in or passed over.
* `ValidationSchema.parse_asPartial_iff`: full and partial schemas.
-/

namespace FieldSchema

/-! ## Calls of a check -/

/-- The function that is called for a default. -/
def Value.callee? : Value → Option Nat
  | .function identity _ _ _ => some identity
  | _ => none

/-- The calls of a value are not heeded. -/
def RunPair.Ignores (pair : RunPair) (f : Value) : Prop :=
  ∀ k, f.callee? = some k → ¬pair.heeds k

namespace Checking

variable {α β : Type} {pair : RunPair}

/-- A check makes no call that is heeded. -/
def Spares (pair : RunPair) (check : Checking α) : Prop :=
  ∀ history, (check history).2.outside = history.outside ∧
    pair.heeded (check history).2.calls = pair.heeded history.calls

theorem spares_value (a : α) : Spares pair (value a) := fun _ => ⟨rfl, rfl⟩

theorem spares_ofExcept (result : Except Raised α) : Spares pair (ofExcept result) :=
  fun _ => ⟨rfl, rfl⟩

theorem Spares.andThen {first : Checking α} {next : α → Checking β} (h : Spares pair first)
    (hnext : ∀ a, Spares pair (next a)) : Spares pair (first.andThen next) := by
  intro history
  have hfirst := h history
  unfold Checking.andThen
  split
  · rename_i a between heq
    rw [heq] at hfirst
    obtain ⟨houtside, hcalls⟩ := hnext a between
    exact ⟨houtside.trans hfirst.1, hcalls.trans hfirst.2⟩
  · rename_i stop between heq
    rwa [heq] at hfirst

theorem spares_each {check : Value → Checking (Verdict Value)} (h : ∀ v, Spares pair (check v))
    (index : Nat) (items : List Value) : Spares pair (each check index items) := by
  induction items generalizing index with
  | nil => exact spares_value _
  | cons v rest ih =>
    exact (h v).andThen fun _ => (ih (index + 1)).andThen fun _ => spares_value _

end Checking

/-- Making a default calls its function only. -/
theorem Value.spares_make {pair : RunPair} {default : Value}
    (h : pair.Ignores default) (earlier : Entries) :
    (default.make earlier).Spares pair := by
  have hcall : ∀ arguments, Checking.Spares pair (default.call arguments) := by
    intro arguments history
    cases default with
    | function identity isShared kind parameters =>
      exact ⟨rfl, RunPair.heeded_cons_of_not_heeds (h identity rfl)⟩
    | _ => exact ⟨rfl, rfl⟩
  unfold make
  split
  · exact hcall _
  · split
    · exact hcall _
    · exact Checking.spares_value _

namespace Rule

variable {policy policy' : ObjectPolicy} {pair : RunPair}

/-- Refinements call nothing. -/
theorem spares_refineVerdict (input : Value) (refinements : List Refinement)
    (verdict : Verdict Value) : (refineVerdict input refinements verdict).Spares pair := by
  cases verdict with
  | accepted v => exact Checking.spares_ofExcept _
  | rejected list => exact Checking.spares_value _

/-- The check of a field calls its default and what the rule of the field calls. -/
theorem spares_checkField {rule : Rule} {path : String} {done : Nat}
    (hrule : ∀ path v, (check policy rule path done v).Spares pair)
    (hdefault : ∀ default ∈ rule.facts.default?, pair.Ignores default) (index : Nat)
    (earlier : EarlierFields) (name : TextValue) (given? : Option Value) :
    (checkField policy path done index earlier name rule given?).Spares pair := by
  unfold checkField
  cases given? with
  | some v => exact (hrule _ v).andThen fun _ => Checking.spares_value _
  | none =>
    dsimp only
    unfold checkAbsent
    split
    · rename_i default hsome
      refine Checking.Spares.andThen ?_ fun _ => Checking.spares_value _
      rw [checkDefault_eq]
      split
      · exact Checking.spares_value _
      · exact (Value.spares_make (hdefault default hsome) _).andThen fun v => hrule _ v
    · exact Checking.spares_value _

mutual

/-- **Calls of a check**: a rule calls nothing but the defaults inside it. -/
theorem spares_check (rule : Rule) (h : ∀ default ∈ rule.innerDefaults, pair.Ignores default)
    (path : String) (done : Nat) (v : Value) : (check policy rule path done v).Spares pair := by
  cases rule with
  | leaf facts kind =>
    rw [check]
    exact spares_refineVerdict _ _ _
  | array facts item =>
    rw [check]
    split
    · exact Checking.spares_value _
    · exact (Checking.spares_each (spares_check item h path done) 0 _).andThen fun _ =>
        spares_refineVerdict _ _ _
  | object facts fields =>
    cases v with
    | map entries =>
      rw [check]
      refine (spares_checkFields fields h path done 0 {} entries).andThen fun verdict => ?_
      cases hverdict : verdict.withFindings (strangeKeys policy (fieldTexts fields) entries) with
      | rejected list => exact Checking.spares_value _
      | accepted output =>
        exact (spares_refineVerdict _ _ _).andThen fun _ => Checking.spares_value _
    | _ =>
      simp only [check]
      exact Checking.spares_value _

/-- Fields call nothing but their defaults and those inside them. -/
theorem spares_checkFields (fields : List (TextValue × Rule))
    (h : ∀ default ∈ fieldDefaults fields, pair.Ignores default) (path : String)
    (done index : Nat) (earlier : EarlierFields) (entries : Entries) :
    (checkFields policy fields path done index earlier entries).Spares pair := by
  cases fields with
  | nil =>
    rw [checkFields]
    exact Checking.spares_value _
  | cons field rest =>
    obtain ⟨name, rule⟩ := field
    rw [fieldDefaults] at h
    obtain ⟨hfield, hrest⟩ := List.forall_mem_append.mp h
    obtain ⟨hdefault, hinner⟩ := List.forall_mem_append.mp hfield
    rw [checkFields_cons]
    refine (spares_checkField (fun path v => spares_check rule hinner path done v)
      (fun default hsome => hdefault default (Option.mem_toList.mpr hsome)) _ _ _ _).andThen
      fun _ => (spares_checkFields rest hrest _ _ _ _ _).andThen fun _ => Checking.spares_value _

end

/-! ## Fields that are supplied -/

/-- The defaults inside the fields that an input supplies. -/
def SuppliedDefaults (fields : List (TextValue × Rule)) (input : Entries) (default : Value) :
    Prop :=
  ∃ field ∈ fields, (input.getText? field.1.text).isSome = true ∧ default ∈ field.2.innerDefaults

/-- What may be called for the defaults of fields that an input leaves out. -/
def AbsentCallees (fields : List (TextValue × Rule)) (input : Entries) (k : Nat) : Prop :=
  ∃ field ∈ fields, input.getText? field.1.text = none ∧
    ∃ own, field.2.facts.default? = some own ∧
      ∃ default ∈ own :: field.2.innerDefaults, default.callee? = some k

/-- Every field that is left out is optional without a default, or its default makes a value that
its rule accepts. -/
def AbsentAreFilled (policy : ObjectPolicy) :
    List (TextValue × Rule) → Nat → Nat → EarlierFields → Entries → CallHistory → Prop
  | [], _, _, _, _, _ => True
  | (name, rule) :: rest, done, index, earlier, input, history =>
    let given? := input.getText? name.text
    (given? = none →
      rule.facts.default? = none ∧ rule.facts.isOptional = true ∨
      ∃ v between w left, rule.SuppliedAt none earlier history v between ∧
        check policy rule (fieldPath "" name) done v between = (.ok (.accepted w), left)) ∧
    ∀ verdict left,
      checkField policy "" done index earlier name rule given? history = (.ok verdict, left) →
      AbsentAreFilled policy rest (done + modelCount rule) (index + 1)
        (earlier.record index (hasValue rule.facts given?) verdict) input left

/-- Whether the input supplies the field that an entry of the output is from. -/
def isSuppliedEntry (input : Entries) (entry : Value × Value) : Bool :=
  (entry.1.asText?.bind input.getText?).isSome

/-- A partial check passes over a field that is left out, and else checks what is given. -/
theorem checkGiven_eq (policy : ObjectPolicy) (name : TextValue) (rule : Rule) (done index : Nat)
    (earlier : EarlierFields) (input : Entries) :
    checkGiven policy name rule done input =
      if (input.getText? name.text).isSome then
        checkField policy "" done index earlier name rule (input.getText? name.text)
      else .value (.accepted none) := by
  unfold checkGiven checkField
  cases input.getText? name.text <;> rfl

/-- A partial run accepts fields when it accepts the first one and the others after it. -/
theorem checkGivenFields_cons_eq_accepted_iff {name : TextValue} {rule : Rule}
    {rest : List (TextValue × Rule)} {done index : Nat} {input output : Entries}
    {history left : CallHistory} :
    checkGivenFields policy ((name, rule) :: rest) done index input history =
        (.ok (.accepted output), left) ↔
      ∃ outcome between others,
        checkGiven policy name rule done input history = (.ok (.accepted outcome), between) ∧
        checkGivenFields policy rest (done + modelCount rule) (index + 1) input between =
          (.ok (.accepted others), left) ∧
        putField name index outcome others = output := by
  rw [checkGivenFields, Checking.andThen_eq_ok_iff]
  constructor
  · rintro ⟨verdict, between, hfirst, h⟩
    obtain ⟨others, last, hothers, h⟩ := Checking.andThen_eq_ok_iff.mp h
    obtain ⟨hboth, rfl⟩ := Checking.value_eq_ok_iff.mp h
    obtain ⟨outcome, output', rfl, rfl, hput⟩ := Verdict.both_eq_accepted_iff.mp hboth
    exact ⟨outcome, between, output', hfirst, hothers, hput⟩
  · rintro ⟨outcome, between, others, hfirst, hothers, rfl⟩
    exact ⟨_, between, hfirst, Checking.andThen_eq_ok_iff.mpr ⟨_, left, hothers, rfl⟩⟩

/-- A field that is left out is accepted when it is optional without a default, or when its default
makes a value that its rule accepts. -/
theorem exists_checkField_none_iff {rule : Rule} {path : String} {done index : Nat}
    {earlier : EarlierFields} {name : TextValue} {history : CallHistory} :
    (∃ outcome left, checkField policy path done index earlier name rule none history =
        (.ok (.accepted outcome), left)) ↔
      rule.facts.default? = none ∧ rule.facts.isOptional = true ∨
      ∃ v between w left, rule.SuppliedAt none earlier history v between ∧
        check policy rule (fieldPath path name) done v between = (.ok (.accepted w), left) := by
  simp only [checkField_eq_accepted_iff]
  constructor
  · rintro ⟨outcome, left, ⟨v, between, w, hsupplied, hcheck, -⟩ | ⟨-, hdefault, hoptional, -⟩⟩
    · exact .inr ⟨v, between, w, left, hsupplied, hcheck⟩
    · exact .inl ⟨hdefault, hoptional⟩
  · rintro (⟨hdefault, hoptional⟩ | ⟨v, between, w, left, hsupplied, hcheck⟩)
    · exact ⟨none, history, .inr ⟨trivial, hdefault, hoptional, rfl, rfl⟩⟩
    · exact ⟨_, left, .inl ⟨v, between, w, hsupplied, hcheck, rfl⟩⟩

/-! ## Full and partial runs -/

/-- Two runs keep the fields apart when what the defaults inside the fields that are supplied answer
is settled by the calls that are heeded, and nothing is heeded that is called for the fields that
are left out. -/
structure KeepsApart (pair : RunPair) (fields : List (TextValue × Rule)) (input : Entries) :
    Prop where
  supplied : ∀ default, SuppliedDefaults fields input default → pair.Settles default
  absent : ∀ k, AbsentCallees fields input k → ¬pair.heeds k

variable {name : TextValue} {rule : Rule} {rest : List (TextValue × Rule)} {input : Entries}
  {done index : Nat} {earlier : EarlierFields} {history history' left : CallHistory}

theorem KeepsApart.tail {field : TextValue × Rule} (h : KeepsApart pair (field :: rest) input) :
    KeepsApart pair rest input where
  supplied := fun default ⟨other, hother, hinner⟩ =>
    h.supplied default ⟨other, List.mem_cons_of_mem _ hother, hinner⟩
  absent := fun k ⟨other, hother, hcallee⟩ =>
    h.absent k ⟨other, List.mem_cons_of_mem _ hother, hcallee⟩

/-- A field that is left out makes no call that is heeded. -/
theorem KeepsApart.relates_of_absent (h : KeepsApart pair ((name, rule) :: rest) input)
    (hgiven : input.getText? name.text = none) (hrelated : pair.Relates history history')
    (policy : ObjectPolicy) (done index : Nat) (earlier : EarlierFields) :
    pair.Relates (checkField policy "" done index earlier name rule none history).2 history' := by
  have hspares : (checkField policy "" done index earlier name rule none).Spares pair := by
    cases hdefault : rule.facts.default? with
    | none =>
      unfold checkField checkAbsent
      rw [hdefault]
      exact Checking.spares_value _
    | some own =>
      have hcallee : ∀ default ∈ own :: rule.innerDefaults, pair.Ignores default :=
        fun default hmem k hsame => h.absent k
          ⟨(name, rule), List.mem_cons_self, hgiven, own, hdefault, default, hmem, hsame⟩
      obtain ⟨hown, hinner⟩ := List.forall_mem_cons.mp hcallee
      refine spares_checkField (fun path v => spares_check rule hinner path done v)
        (fun default hsome => ?_) index earlier name none
      obtain rfl := Option.some.inj (hdefault.symm.trans hsome)
      exact hown
  obtain ⟨houtside, hcalls⟩ := hspares history
  exact ⟨houtside.trans hrelated.first, hrelated.second, hcalls.trans hrelated.calls⟩

/-- A field that is supplied is checked alike in a full and in a partial run. -/
theorem KeepsApart.mirrors_of_supplied (h : KeepsApart pair ((name, rule) :: rest) input)
    (hrule : rule.IsWellFormed) (hstrict : policy.strict = policy'.strict) {v : Value}
    (hgiven : input.getText? name.text = some v) (done index : Nat) (earlier : EarlierFields) :
    Checking.Mirrors pair (Verdict.Like Finding.SameUpToModel)
      (checkField policy "" done index earlier name rule (some v))
      (checkField policy' "" done index earlier name rule (some v)) :=
  have hsettled : ∀ default ∈ rule.innerDefaults, pair.Settles default := fun default hdefault =>
    h.supplied default
      ⟨(name, rule), List.mem_cons_self, Option.isSome_of_eq_some hgiven, hdefault⟩
  mirrors_checkField_some Finding.isKept_sameUpToModel
    (mirrors_check Finding.isKept_sameUpToModel hstrict hrule hsettled (.upToModel _ _ _ _ _ _) v)
    index earlier

/-- What a full run makes of a field, a partial one makes of it when it is supplied. -/
theorem KeepsApart.exists_checkGiven (h : KeepsApart pair ((name, rule) :: rest) input)
    (hrule : rule.IsWellFormed) (hstrict : policy.strict = policy'.strict)
    (hrelated : pair.Relates history history') {outcome : Option Value}
    (hcheck : checkField policy "" done index earlier name rule (input.getText? name.text) history =
      (.ok (.accepted outcome), left)) :
    ∃ left', checkGiven policy' name rule done input history' =
        (.ok (.accepted (if (input.getText? name.text).isSome then outcome else none)), left') ∧
      pair.Relates left left' := by
  rw [checkGiven_eq policy' name rule done index earlier input]
  cases hgiven : input.getText? name.text with
  | none =>
    rw [hgiven] at hcheck
    have hleft := h.relates_of_absent hgiven hrelated policy done index earlier
    rw [hcheck] at hleft
    exact ⟨history', rfl, hleft⟩
  | some v =>
    rw [hgiven] at hcheck
    exact (h.mirrors_of_supplied hrule hstrict hgiven done index earlier).accepted hrelated hcheck

/-- What a partial run accepts of a field, a full one accepts when it can fill the field in. -/
theorem KeepsApart.exists_checkField (h : KeepsApart pair ((name, rule) :: rest) input)
    (hrule : rule.IsWellFormed) (hstrict : policy.strict = policy'.strict)
    (hrelated : pair.Relates history history')
    (hfilled : input.getText? name.text = none → ∃ outcome left,
      checkField policy "" done index earlier name rule none history =
        (.ok (.accepted outcome), left)) {part : Option Value} {left' : CallHistory}
    (hcheck : checkGiven policy' name rule done input history' = (.ok (.accepted part), left')) :
    ∃ outcome left, checkField policy "" done index earlier name rule (input.getText? name.text)
        history = (.ok (.accepted outcome), left) ∧ pair.Relates left left' := by
  rw [checkGiven_eq policy' name rule done index earlier input] at hcheck
  cases hgiven : input.getText? name.text with
  | none =>
    rw [hgiven] at hcheck
    obtain ⟨-, rfl⟩ := Checking.value_eq_ok_iff.mp hcheck
    obtain ⟨outcome, left, hfield⟩ := hfilled hgiven
    have hleft := h.relates_of_absent hgiven hrelated policy done index earlier
    rw [hfield] at hleft
    exact ⟨outcome, left, hfield, hleft⟩
  | some v =>
    rw [hgiven] at hcheck
    have hmirrors := h.mirrors_of_supplied hrule hstrict hgiven done index earlier
    obtain ⟨left, hfield, hleft⟩ := hmirrors.accepted_of_second hrelated hcheck
    exact ⟨part, left, hfield, hleft⟩

/-- Without the fields that are left out, an output starts with a field that is supplied. -/
theorem filter_putField (hname : name.text ≠ "") (outcome : Option Value) (others : Entries) :
    (putField name index outcome others).filter (isSuppliedEntry input) =
      putField name index (if (input.getText? name.text).isSome then outcome else none)
        (others.filter (isSuppliedEntry input)) := by
  have hkey : ∀ v, isSuppliedEntry input (.ofTextValue (outputName name index), v) =
      (input.getText? name.text).isSome := by
    intro v
    rw [isSuppliedEntry, outputName, String.isEmpty_eq_false_iff.mpr hname]
    simp
  cases outcome with
  | none => split <;> rfl
  | some v =>
    rw [putField, List.filter_cons, hkey]
    split <;> rfl

/-- **What a full run accepts, a partial run accepts**, without the fields that are left out; and
these were filled in. -/
theorem exists_part_of_accepted {fields : List (TextValue × Rule)}
    (hapart : KeepsApart pair fields input) (hfields : ∀ field ∈ fields, field.2.IsWellFormed)
    (hstrict : policy.strict = policy'.strict) (hrelated : pair.Relates history history')
    {output : Entries}
    (h : checkFields policy fields "" done index earlier input history =
      (.ok (.accepted output), left)) :
    (∃ part left', checkGivenFields policy' fields done index input history' =
        (.ok (.accepted part), left') ∧
      ((∀ field ∈ fields, field.1.text ≠ "") → part = output.filter (isSuppliedEntry input))) ∧
      AbsentAreFilled policy fields done index earlier input history := by
  induction fields generalizing done index earlier output history history' with
  | nil =>
    rw [checkFields] at h
    obtain ⟨houtput, -⟩ := Checking.value_eq_ok_iff.mp h
    obtain rfl := Verdict.accepted.inj houtput
    exact ⟨⟨[], history', by rw [checkGivenFields]; rfl, fun _ => rfl⟩, trivial⟩
  | cons field rest ih =>
    obtain ⟨name, rule⟩ := field
    obtain ⟨hrule, hrest⟩ := List.forall_mem_cons.mp hfields
    obtain ⟨outcome, between, others, hfirst, hothers, rfl⟩ :=
      checkFields_cons_eq_accepted_iff.mp h
    obtain ⟨between', hgivenCheck, hbetween⟩ :=
      hapart.exists_checkGiven hrule hstrict hrelated hfirst
    obtain ⟨⟨part, left', hpart, hfilter⟩, hfilled⟩ := ih hapart.tail hrest hbetween hothers
    refine ⟨⟨_, left', checkGivenFields_cons_eq_accepted_iff.mpr
      ⟨_, between', part, hgivenCheck, hpart, rfl⟩, fun hnames => ?_⟩, fun hgiven => ?_, ?_⟩
    · obtain ⟨hname, hrestNames⟩ := List.forall_mem_cons.mp hnames
      rw [filter_putField hname, hfilter hrestNames]
    · rw [hgiven] at hfirst
      exact exists_checkField_none_iff.mp ⟨outcome, between, hfirst⟩
    · intro verdict left'' hsame
      obtain ⟨hverdict, rfl⟩ := Prod.mk.inj (hfirst.symm.trans hsame)
      obtain rfl := Except.ok.inj hverdict
      exact hfilled

/-- **What a partial run accepts, a full run accepts** when it can fill in the fields that are left
out. -/
theorem exists_accepted_of_part {fields : List (TextValue × Rule)}
    (hapart : KeepsApart pair fields input) (hfields : ∀ field ∈ fields, field.2.IsWellFormed)
    (hstrict : policy.strict = policy'.strict) (hrelated : pair.Relates history history')
    {part : Entries} {left' : CallHistory}
    (h : checkGivenFields policy' fields done index input history' = (.ok (.accepted part), left'))
    (hfilled : AbsentAreFilled policy fields done index earlier input history) :
    ∃ output left, checkFields policy fields "" done index earlier input history =
      (.ok (.accepted output), left) := by
  induction fields generalizing done index earlier part history history' with
  | nil => exact ⟨[], history, by rw [checkFields]; rfl⟩
  | cons field rest ih =>
    obtain ⟨name, rule⟩ := field
    obtain ⟨hrule, hrest⟩ := List.forall_mem_cons.mp hfields
    obtain ⟨hown, hlater⟩ := hfilled
    obtain ⟨outcome, between', others, hfirst, hothers, -⟩ :=
      checkGivenFields_cons_eq_accepted_iff.mp h
    obtain ⟨outcome, between, hfield, hbetween⟩ := hapart.exists_checkField hrule hstrict hrelated
      (fun hgiven => exists_checkField_none_iff.mpr (hown hgiven)) hfirst
    obtain ⟨output, left, houtput⟩ :=
      ih hapart.tail hrest hbetween hothers (hlater _ between hfield)
    exact ⟨_, left, checkFields_cons_eq_accepted_iff.mpr
      ⟨outcome, between, output, hfield, houtput, rfl⟩⟩

end Rule

/-! ## Schemas -/

namespace ValidationSchema

/-- Every field that an input leaves out can be filled in or passed over. -/
def AbsentAreFilled (schema : ValidationSchema) (input : Entries) (history : CallHistory) : Prop :=
  Rule.AbsentAreFilled schema.policy schema.fields 0 0 {} input history

/-- A schema accepts an object when it accepts the fields and no key is strange. -/
theorem parse_map_eq_ok_iff {schema : ValidationSchema} {input document : Entries}
    {history left : CallHistory} :
    schema.parse (.map input) history = (.ok document, left) ↔
      ∃ output,
        (if schema.isPartial then Rule.checkGivenFields schema.policy schema.fields 0 0 input
          else Rule.checkFields schema.policy schema.fields "" 0 0 {} input) history =
            (.ok (.accepted output), left) ∧
        Rule.strangeKeys schema.policy (Rule.fieldTexts schema.fields) input = [] ∧
        document = Entries.ofPairs output := by
  rw [parse_eq_ok_iff, check, Rule.checkObject_eq_accepted_iff]
  constructor
  · rintro ⟨input', output, hsame, hcheck, hkeys, hdocument⟩
    obtain rfl := Value.map.inj hsame
    exact ⟨output, hcheck, hkeys, hdocument⟩
  · rintro ⟨output, hcheck, hkeys, hdocument⟩
    exact ⟨input, output, rfl, hcheck, hkeys, hdocument⟩

/-- **Partial and full schemas**: when what the defaults inside the fields that are supplied answer
depends on the calls of some functions only, none of which is called for a field that is left out,
and the same calls of these functions were made before both runs, then the full schema accepts an
input just when the partial one does and all that is left out can be filled in; and then the partial
output is the full one without the fields that are left out. -/
theorem parse_asPartial_iff {definition : Value} (hkeys : definition.IsWellKeyed)
    {options : ValidationOptions} {schema : ValidationSchema}
    (hschema : (ofDefinition options definition).result = .ok schema) (input : Entries)
    {pair : RunPair} (hapart : Rule.KeepsApart pair schema.fields input)
    {history history' : CallHistory} (hrelated : pair.Relates history history') :
    ((∃ document left, schema.parse (.map input) history = (.ok document, left)) ↔
      (∃ part left, schema.asPartial.parse (.map input) history' = (.ok part, left)) ∧
        schema.AbsentAreFilled input history) ∧
    ∀ document left part left', schema.parse (.map input) history = (.ok document, left) →
      schema.asPartial.parse (.map input) history' = (.ok part, left') →
      (∀ name ∈ schema.fieldNames, name.text ≠ "") →
      part = document.filter (Rule.isSuppliedEntry input) := by
  obtain ⟨forms, fields, -, hrule, -, hwell, hpartial⟩ :=
    exists_fields_of_ofDefinition hschema hkeys
  have hfields : schema.fields = fields := by rw [ValidationSchema.fields, hrule]; rfl
  rw [hrule] at hwell
  cases hwell with
  | object hfacts hdistinct hwells =>
    rw [← hfields] at hdistinct hwells
    have hstrict : schema.policy.strict = schema.asPartial.policy.strict := rfl
    have hgivenOnly : schema.asPartial.isPartial = true := rfl
    simp only [parse_map_eq_ok_iff, hpartial, hgivenOnly, if_true, Bool.false_eq_true, if_false]
    refine ⟨⟨?_, ?_⟩, ?_⟩
    · rintro ⟨document, left, output, hcheck, hstrange, -⟩
      obtain ⟨⟨part, left', hpart, -⟩, hfilled⟩ :=
        Rule.exists_part_of_accepted hapart hwells hstrict hrelated hcheck
      exact ⟨⟨_, left', part, hpart, hstrange, rfl⟩, hfilled⟩
    · rintro ⟨⟨-, left', part, hpart, hstrange, -⟩, hfilled⟩
      obtain ⟨output, left, hcheck⟩ :=
        Rule.exists_accepted_of_part hapart hwells hstrict hrelated hpart hfilled
      exact ⟨_, left, output, hcheck, hstrange, rfl⟩
    · rintro document left part left' ⟨output, hcheck, -, rfl⟩ ⟨given, hgiven, -, rfl⟩ hnames
      have hnames' : ∀ field ∈ schema.fields, field.1.text ≠ "" := fun field hfield =>
        hnames field.1 (List.mem_map_of_mem hfield)
      obtain ⟨⟨part, last, hpart, hfilter⟩, -⟩ :=
        Rule.exists_part_of_accepted hapart hwells hstrict hrelated hcheck
      obtain ⟨hsame, -⟩ := Prod.mk.inj (hgiven.symm.trans hpart)
      obtain rfl := Verdict.accepted.inj (Except.ok.inj hsame)
      obtain ⟨outcomes, -, rfl⟩ := Rule.fieldOutcomes_of_gives ⟨history, left, hcheck⟩
      have hdistinctKeys : Entries.HasDistinctKeys (Rule.outputOf schema.fields 0 outcomes) :=
        Rule.hasDistinctKeys_outputOf hnames' hdistinct
      rw [hdistinctKeys.ofPairs_eq, hfilter hnames']
      exact Entries.HasDistinctKeys.ofPairs_eq (hdistinctKeys.filter _)

/-- A function that counts up from zero. -/
def fromZero : Value := .function 0 true .counter [.int 0]

/-- What describes a number with a default. -/
def numbered (default : Value) : Value :=
  .map [(.text "type", .canonical .number), (.text "default", default)]

/-- A number with a default, and an object with a number that has one. -/
def parented (own inner : Value) : Value :=
  .map [(.text "id", numbered own),
    (.text "child", .map [(.text "type", .canonical .object),
      (.text "schema", .map [(.text "id", numbered inner)])])]

/-- The validation schema of the definition. -/
def parentedSchema (own inner : Value) : ValidationSchema where
  rule := .ofFields [
    (.plain "id", .leaf { isOptional := true, default? := some own } .number),
    (.plain "child", .ofFields
      [(.plain "id", .leaf { isOptional := true, default? := some inner } .number)])]

theorem ofForm_numbered (name : TextValue) (default : Value) :
    (Rule.ofForm .none name (.single ⟨.canonical .number, [(.text "default", default)]⟩)).result =
      .ok (.leaf { isOptional := true, default? := some default } .number) := by
  rw [Rule.ofForm]
  unfold Rule.ofType
  rfl

theorem ofDefinition_parented (own inner : Value) :
    (ofDefinition {} (parented own inner)).result = .ok (parentedSchema own inner) := by
  let parts : Value := .map [(.text "id", numbered inner)]
  let childRule : Rule := .ofFields
    [(.plain "id", .leaf { isOptional := true, default? := some inner } .number)]
  have hparts : (Rule.ofParts .none
      [(.plain "id", .single ⟨.canonical .number, [(.text "default", inner)]⟩)]).result =
        .ok childRule := by
    rw [Rule.ofParts, Rule.ofForms, Rule.ofForms]
    exact Logged.result_andThen_eq_ok_iff.mpr ⟨_, Logged.result_andThen_eq_ok_iff.mpr
      ⟨_, ofForm_numbered _ _, rfl⟩, rfl⟩
  have hchild : (Rule.ofForm .none (.plain "child")
      (.single ⟨.canonical .object, [(.text "schema", parts)]⟩)).result = .ok childRule := by
    rw [Rule.ofForm]
    refine Logged.result_andThen_eq_ok_iff.mpr ⟨.object, rfl,
      Logged.result_andThen_eq_ok_iff.mpr ⟨childRule, ?_, rfl⟩⟩
    unfold Rule.ofType
    exact hparts
  refine Logged.result_andThen_eq_ok_iff.mpr ⟨(parentedSchema own inner).rule,
    Logged.result_andThen_eq_ok_iff.mpr ⟨_, rfl, ?_⟩, rfl⟩
  rw [Rule.ofParts, Rule.ofForms, Rule.ofForms, Rule.ofForms]
  exact Logged.result_andThen_eq_ok_iff.mpr ⟨_, Logged.result_andThen_eq_ok_iff.mpr
    ⟨_, ofForm_numbered _ _, Logged.result_andThen_eq_ok_iff.mpr
      ⟨_, Logged.result_andThen_eq_ok_iff.mpr ⟨_, hchild, rfl⟩, rfl⟩⟩, rfl⟩

theorem isWellKeyed_parented {own inner : Value} (hown : own.IsWellKeyed)
    (hinner : inner.IsWellKeyed) : (parented own inner).IsWellKeyed := by
  simp [parented, numbered, Value.IsWellKeyed, Value.EntriesAreWellKeyed,
    Entries.HasDistinctKeys, Value.equals, Value.asText?, hown, hinner]

/-- An input that supplies the object, without its number, and leaves out the number beside it. -/
def childOnly : Entries := [(.text "child", .map [])]

/-- **A counter in two places**: when the number that is left out and the number of the object that
is supplied count up together, the full run takes the first number for itself, and the object comes
out with another number than in a partial run. -/
theorem parse_asPartial_sharing :
    (parented fromZero fromZero).IsWellKeyed ∧
      (ofDefinition {} (parented fromZero fromZero)).result =
        .ok (parentedSchema fromZero fromZero) ∧
      ∃ document left part left',
        (parentedSchema fromZero fromZero).parse (.map childOnly) .empty = (.ok document, left) ∧
        (parentedSchema fromZero fromZero).asPartial.parse (.map childOnly) .empty =
          (.ok part, left') ∧
        part ≠ document.filter (Rule.isSuppliedEntry childOnly) := by
  refine ⟨isWellKeyed_parented trivial trivial, ofDefinition_parented fromZero fromZero,
    [(.text "id", .int 0), (.text "child", .map [(.text "id", .int 1)])],
    (CallHistory.empty.record 0 []).record 0 [], [(.text "child", .map [(.text "id", .int 0)])],
    CallHistory.empty.record 0 [], ?_, ?_, ?_⟩
  · with_unfolding_all rfl
  · with_unfolding_all rfl
  · simp [Rule.isSuppliedEntry, childOnly, Entries.getText?, Value.asText?]

/-- Functions from outside that answer how often they were called, each with a count of its own. -/
def tickets : Outside where
  answer calls identity _ := .ok (.int (Value.callCount calls identity))
  answer_ne_mark _ _ _ := nofun

/-- One of these functions. -/
def ticket (identity : Nat) : Value := .function identity true (.outside "ticket" false) []

/-- Two runs in which the first of these functions is heeded. -/
def ticketRuns : RunPair := ⟨tickets, tickets, (· = 0)⟩

theorem settles_ticket_zero : ticketRuns.Settles (ticket 0) := by
  intro calls calls' hcalls arguments
  show Except.ok (Value.int _) = Except.ok (Value.int _)
  rw [RunPair.callCount_eq hcalls rfl]

/-- Two functions that keep their counts apart do not heed each other's calls, so both runs give the
object the same number, even if the partial one comes after a call for the number beside it. -/
theorem parse_asPartial_iff_parented :
    (parented (ticket 1) (ticket 0)).IsWellKeyed ∧
      (ofDefinition {} (parented (ticket 1) (ticket 0))).result =
        .ok (parentedSchema (ticket 1) (ticket 0)) ∧
      Rule.KeepsApart ticketRuns (parentedSchema (ticket 1) (ticket 0)).fields childOnly ∧
      ticketRuns.Relates ⟨[], tickets⟩ ⟨[⟨1, []⟩], tickets⟩ ∧
      (parentedSchema (ticket 1) (ticket 0)).AbsentAreFilled childOnly ⟨[], tickets⟩ ∧
      ∃ document left part left',
        (parentedSchema (ticket 1) (ticket 0)).parse (.map childOnly) ⟨[], tickets⟩ =
          (.ok document, left) ∧
        (parentedSchema (ticket 1) (ticket 0)).asPartial.parse (.map childOnly)
          ⟨[⟨1, []⟩], tickets⟩ = (.ok part, left') ∧
        document = [(.text "id", .int 0), (.text "child", .map [(.text "id", .int 0)])] ∧
        part = document.filter (Rule.isSuppliedEntry childOnly) := by
  have hapart :
      Rule.KeepsApart ticketRuns (parentedSchema (ticket 1) (ticket 0)).fields childOnly := by
    constructor
    · rintro default ⟨field, hfield, hgiven, hdefault⟩
      rcases List.mem_pair.mp hfield with rfl | rfl
      · cases hgiven
      · obtain rfl := List.mem_singleton.mp hdefault
        exact settles_ticket_zero
    · rintro k ⟨field, hfield, hgiven, own, hown, default, hdefault, hcallee⟩
      rcases List.mem_pair.mp hfield with rfl | rfl
      · obtain rfl := Option.some.inj hown
        obtain rfl := List.mem_singleton.mp hdefault
        obtain rfl : 1 = k := Option.some.inj hcallee
        exact Nat.one_ne_zero
      · cases hgiven
  have hrelated : ticketRuns.Relates ⟨[], tickets⟩ ⟨[⟨1, []⟩], tickets⟩ :=
    ⟨rfl, rfl, (RunPair.heeded_cons_of_not_heeds Nat.one_ne_zero).symm⟩
  have hfull : (parentedSchema (ticket 1) (ticket 0)).parse (.map childOnly) ⟨[], tickets⟩ =
      (.ok [(.text "id", .int 0), (.text "child", .map [(.text "id", .int 0)])],
        ⟨[⟨0, []⟩, ⟨1, []⟩], tickets⟩) := by
    with_unfolding_all rfl
  have hkeyed : (parented (ticket 1) (ticket 0)).IsWellKeyed := isWellKeyed_parented trivial trivial
  obtain ⟨hiff, hpart⟩ := parse_asPartial_iff hkeyed (ofDefinition_parented _ _) childOnly hapart
    hrelated
  obtain ⟨⟨part, left', hpartial⟩, hfilled⟩ := hiff.mp ⟨_, _, hfull⟩
  refine ⟨hkeyed, ofDefinition_parented _ _, hapart, hrelated, hfilled, _, _, part, left', hfull,
    hpartial, rfl, hpart _ _ _ _ hfull hpartial ?_⟩
  decide

end ValidationSchema

end FieldSchema
