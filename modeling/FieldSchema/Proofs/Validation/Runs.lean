import FieldSchema.Proofs.Validation.Acceptance
import FieldSchema.Validation.Schema

/-!
# Runs of checks

A check starts from a history of calls, gives a verdict, and leaves a history to the checks after
it.  A run that accepts a value is taken apart here into the runs that it consists of, each of which
accepts its part and starts from the history that the one before it has left.

The fields of an object are checked one by one.  What a field is checked against is either given or
made by its default, and neither the value of another field nor a key that no field has comes into
it (`Rule.checkField`).

* `Checking.andThen_eq_ok_iff`: runs in two steps.
* `Rule.SuppliedAt`: what a field is checked against in a run.
* `Rule.checkFields_cons_eq_accepted_iff`, `Rule.check_array_eq_accepted_iff`,
  `Rule.check_object_eq_accepted_iff`: runs that accept fields, lists and objects.
* `Parsed.ofVerdict`, `ValidationSchema.parse_eq_ok_iff`: results of whole inputs, and runs that
  accept them.
-/

namespace FieldSchema

/-! ## Checks in two steps -/

namespace Checking

variable {α β : Type} {history left : CallHistory}

theorem value_eq_ok_iff {a b : α} : value a history = (.ok b, left) ↔ a = b ∧ history = left := by
  simp [value]

/-- A run in two steps ends as the second step does after the first one. -/
theorem fst_andThen (first : Checking α) (next : α → Checking β) (history : CallHistory) :
    (first.andThen next history).1 =
      (first history).1 >>= fun a => (next a (first history).2).1 := by
  unfold andThen
  rcases first history with ⟨_ | a, left⟩ <;> rfl

/-- A step that only changes what was found makes no calls. -/
theorem andThen_value_apply (first : Checking α) (f : α → β) (history : CallHistory) :
    (first.andThen fun a => value (f a)) history =
      ((first history).1.map f, (first history).2) := by
  unfold andThen
  rcases first history with ⟨_ | a, left⟩ <;> rfl

/-- What comes after such a step starts from what was changed. -/
theorem andThen_value_andThen {γ : Type} (first : Checking α) (f : α → β)
    (next : β → Checking γ) :
    (first.andThen fun a => value (f a)).andThen next = first.andThen fun a => next (f a) := by
  funext history
  unfold andThen
  rcases first history with ⟨_ | a, left⟩ <;> rfl

/-- A run in two steps ends well when both steps do, the second one on what the first one has
left. -/
theorem andThen_eq_ok_iff {first : Checking α} {next : α → Checking β} {b : β} :
    first.andThen next history = (.ok b, left) ↔
      ∃ a between, first history = (.ok a, between) ∧ next a between = (.ok b, left) := by
  unfold andThen
  constructor
  · intro h
    split at h
    · rename_i a between hfirst
      exact ⟨a, between, hfirst, h⟩
    · cases (Prod.mk.inj h).1
  · rintro ⟨a, between, hfirst, hnext⟩
    rw [hfirst]
    exact hnext

/-- A run over a list goes on after the first item. -/
theorem each_cons_of_ok {checkItem : Value → Checking (Verdict Value)} {index : Nat} {v : Value}
    {verdict : Verdict Value} {between : CallHistory}
    (h : checkItem v history = (.ok verdict, between)) (rest : List Value) :
    each checkItem index (v :: rest) history =
      ((each checkItem (index + 1) rest between).1.map
        ((verdict.under (.index index)).both List.cons),
        (each checkItem (index + 1) rest between).2) := by
  rw [each]
  refine Eq.trans ?_ (andThen_value_apply _ _ between)
  rw [andThen, h]

/-- A run over a list stops with the first item. -/
theorem each_cons_of_error {checkItem : Value → Checking (Verdict Value)} {index : Nat} {v : Value}
    {cause : Raised} (h : checkItem v history = (.error cause, left)) (rest : List Value) :
    each checkItem index (v :: rest) history = (.error cause, left) := by
  rw [each, andThen, h]

/-- A run over a list accepts it when the run on the first item and the one on the others do. -/
theorem each_cons_eq_accepted_iff {checkItem : Value → Checking (Verdict Value)} {index : Nat}
    {v : Value} {rest parts : List Value} :
    each checkItem index (v :: rest) history = (.ok (.accepted parts), left) ↔
      ∃ w others between, checkItem v history = (.ok (.accepted w), between) ∧
        each checkItem (index + 1) rest between = (.ok (.accepted others), left) ∧
        w :: others = parts := by
  rw [each, andThen_eq_ok_iff]
  constructor
  · rintro ⟨first, between, hfirst, h⟩
    obtain ⟨others, last, hothers, h⟩ := andThen_eq_ok_iff.mp h
    obtain ⟨hparts, rfl⟩ := value_eq_ok_iff.mp h
    obtain ⟨w, others', hw, rfl, hcons⟩ := Verdict.both_eq_accepted_iff.mp hparts
    obtain rfl := Verdict.under_eq_accepted_iff.mp hw
    exact ⟨w, others', between, hfirst, hothers, hcons⟩
  · rintro ⟨w, others, between, hw, hothers, rfl⟩
    exact ⟨_, between, hw, andThen_eq_ok_iff.mpr ⟨_, left, hothers, rfl⟩⟩

end Checking

/-- What is accepted after a change was changed. -/
theorem Verdict.exists_of_map_eq_accepted {α β : Type} {f : α → β}
    {found : Except Raised (Verdict α)} {b : β}
    (h : found.map (Verdict.map f) = .ok (.accepted b)) : ∃ a, b = f a := by
  rcases found with cause | a | list
  · cases h
  · exact ⟨a, (Verdict.accepted.inj (Except.ok.inj h)).symm⟩
  · cases Except.ok.inj h

theorem Verdict.withFindings_eq_accepted_iff {α : Type} {more : List Finding} {verdict : Verdict α}
    {a : α} : verdict.withFindings more = .accepted a ↔ more = [] ∧ verdict = .accepted a := by
  cases more with
  | nil => simp [withFindings]
  | cons finding rest => simp [withFindings]

/-- A key is found in the mapping that it is from. -/
theorem Entries.isSome_getText?_of_mem {entries : Entries} {entry : Value × Value} {name : String}
    (h : entry ∈ entries) (hname : entry.1.asText? = some name) :
    (entries.getText? name).isSome = true := by
  induction entries with
  | nil => cases h
  | cons first rest ih =>
    rw [Entries.getText?]
    split
    · rfl
    · rename_i hfirst
      rcases List.mem_cons.mp h with rfl | hrest
      · exact absurd hname hfirst
      · exact ih hrest

namespace Rule

variable {policy : ObjectPolicy} {path : String} {done index : Nat} {history left : CallHistory}

/-! ## Fields -/

/-- The check of one field, from what is given for it. -/
def checkField (policy : ObjectPolicy) (path : String) (done index : Nat) (earlier : EarlierFields)
    (name : TextValue) (rule : Rule) (given? : Option Value) : Checking (Verdict (Option Value)) :=
  let checkValue := fun v => check policy rule (fieldPath path name) done v
  match given? with
  | some v => (checkValue v).andThen fun verdict =>
      .value ((verdict.under (.field name.text)).map Value.unlessAbsent)
  | none => checkAbsent rule.facts earlier checkValue name.text index

/-- Fields are checked one by one, each from what is given under its name. -/
theorem checkFields_cons (policy : ObjectPolicy) (name : TextValue) (rule : Rule)
    (rest : List (TextValue × Rule)) (path : String) (done index : Nat) (earlier : EarlierFields)
    (entries : Entries) :
    checkFields policy ((name, rule) :: rest) path done index earlier entries =
      (checkField policy path done index earlier name rule (entries.getText? name.text)).andThen
        fun verdict =>
          (checkFields policy rest path (done + modelCount rule) (index + 1)
            (earlier.record index (hasValue rule.facts (entries.getText? name.text)) verdict)
            entries).andThen
            fun others => .value (verdict.both (putField name index) others) := by
  rw [checkFields]
  cases hgiven : entries.getText? name.text <;> rfl

/-- In a run a field is checked against what is given for it, or else against what its default
makes, at the history that the default leaves. -/
def SuppliedAt (rule : Rule) (given? : Option Value) (earlier : EarlierFields)
    (history : CallHistory) (v : Value) (between : CallHistory) : Prop :=
  given? = some v ∧ history = between ∨ given? = none ∧ ∃ default,
    rule.facts.default? = some default ∧
      (asksEarlierFields default && earlier.anyRejected) = false ∧
      default.make earlier.values history = (.ok v, between)

/-- A run accepts a default when it makes a value that the run accepts. -/
theorem checkDefault_eq_accepted_iff {default w : Value} {earlier : EarlierFields}
    {checkValue : Value → Checking (Verdict Value)} :
    checkDefault default earlier checkValue history = (.ok (.accepted w), left) ↔
      (asksEarlierFields default && earlier.anyRejected) = false ∧
        ∃ v between, default.make earlier.values history = (.ok v, between) ∧
          checkValue v between = (.ok (.accepted w), left) := by
  rw [checkDefault_eq]
  cases asksEarlierFields default && earlier.anyRejected with
  | true => simp [Checking.value]
  | false => simp [Checking.andThen_eq_ok_iff]

/-- A run accepts a field when what is supplied for it is accepted, or when nothing is and the
field may be left out. -/
theorem checkField_eq_accepted_iff {earlier : EarlierFields} {name : TextValue} {rule : Rule}
    {given? outcome : Option Value} :
    checkField policy path done index earlier name rule given? history =
        (.ok (.accepted outcome), left) ↔
      (∃ v between w, rule.SuppliedAt given? earlier history v between ∧
        check policy rule (fieldPath path name) done v between = (.ok (.accepted w), left) ∧
        w.unlessAbsent = outcome) ∨
      (given? = none ∧ rule.facts.default? = none ∧ rule.facts.isOptional = true ∧
        outcome = none ∧ history = left) := by
  have hunder : ∀ {segment : PathSegment} {verdict : Verdict Value},
      (verdict.under segment).map Value.unlessAbsent = .accepted outcome ↔
        ∃ w, verdict = .accepted w ∧ w.unlessAbsent = outcome := by
    intro segment verdict
    rw [Verdict.map_eq_accepted_iff]
    simp only [Verdict.under_eq_accepted_iff]
  cases given? with
  | some v =>
    rw [checkField, Checking.andThen_eq_ok_iff]
    constructor
    · rintro ⟨verdict, between, hcheck, h⟩
      obtain ⟨hverdict, rfl⟩ := Checking.value_eq_ok_iff.mp h
      obtain ⟨w, rfl, hw⟩ := hunder.mp hverdict
      exact .inl ⟨v, history, w, .inl ⟨rfl, rfl⟩, hcheck, hw⟩
    · rintro (⟨v', between, w, (⟨hv, rfl⟩ | ⟨hnone, -⟩), hcheck, hw⟩ | ⟨hnone, -⟩)
      · obtain rfl := Option.some.inj hv
        exact ⟨_, left, hcheck, Checking.value_eq_ok_iff.mpr ⟨hunder.mpr ⟨w, rfl, hw⟩, rfl⟩⟩
      · contradiction
      · contradiction
  | none =>
    unfold checkField checkAbsent
    cases hdefault : rule.facts.default? with
    | none =>
      constructor
      · intro h
        obtain ⟨hverdict, rfl⟩ := Checking.value_eq_ok_iff.mp h
        split at hverdict
        · rename_i hoptional
          exact .inr ⟨rfl, rfl, hoptional, (Verdict.accepted.inj hverdict).symm, rfl⟩
        · contradiction
      · rintro (⟨v, between, w, (⟨hv, -⟩ | ⟨-, default, hsome, -⟩), -⟩ |
          ⟨-, -, hoptional, rfl, rfl⟩)
        · contradiction
        · rw [hdefault] at hsome
          contradiction
        · exact Checking.value_eq_ok_iff.mpr ⟨if_pos hoptional, rfl⟩
    | some default =>
      rw [Checking.andThen_eq_ok_iff]
      constructor
      · rintro ⟨verdict, last, hcheck, h⟩
        obtain ⟨hverdict, rfl⟩ := Checking.value_eq_ok_iff.mp h
        obtain ⟨w, rfl, hw⟩ := hunder.mp hverdict
        obtain ⟨hasks, v, between, hmake, hcheck⟩ := checkDefault_eq_accepted_iff.mp hcheck
        exact .inl ⟨v, between, w, .inr ⟨rfl, default, hdefault, hasks, hmake⟩, hcheck, hw⟩
      · rintro (⟨v, between, w, (⟨hv, -⟩ | ⟨-, default', hsome, hasks, hmake⟩), hcheck, hw⟩ |
          ⟨-, hnone, -⟩)
        · contradiction
        · obtain rfl := Option.some.inj (hdefault.symm.trans hsome)
          exact ⟨_, left, checkDefault_eq_accepted_iff.mpr ⟨hasks, v, between, hmake, hcheck⟩,
            Checking.value_eq_ok_iff.mpr ⟨hunder.mpr ⟨w, rfl, hw⟩, rfl⟩⟩
        · contradiction

/-- A run accepts fields when it accepts the first one and the others after it. -/
theorem checkFields_cons_eq_accepted_iff {earlier : EarlierFields} {name : TextValue} {rule : Rule}
    {rest : List (TextValue × Rule)} {entries output : Entries} :
    checkFields policy ((name, rule) :: rest) path done index earlier entries history =
        (.ok (.accepted output), left) ↔
      ∃ outcome between others,
        checkField policy path done index earlier name rule (entries.getText? name.text) history =
          (.ok (.accepted outcome), between) ∧
        checkFields policy rest path (done + modelCount rule) (index + 1)
          (earlier.record index (hasValue rule.facts (entries.getText? name.text))
            (.accepted outcome)) entries between = (.ok (.accepted others), left) ∧
        putField name index outcome others = output := by
  rw [checkFields_cons, Checking.andThen_eq_ok_iff]
  constructor
  · rintro ⟨verdict, between, hfirst, h⟩
    obtain ⟨others, last, hothers, h⟩ := Checking.andThen_eq_ok_iff.mp h
    obtain ⟨hboth, rfl⟩ := Checking.value_eq_ok_iff.mp h
    obtain ⟨outcome, output', rfl, rfl, hput⟩ := Verdict.both_eq_accepted_iff.mp hboth
    exact ⟨outcome, between, output', hfirst, hothers, hput⟩
  · rintro ⟨outcome, between, others, hfirst, hothers, rfl⟩
    exact ⟨_, between, hfirst, Checking.andThen_eq_ok_iff.mpr ⟨_, left, hothers, rfl⟩⟩

/-! ## Lists and objects -/

/-- A run applies refinements to what was accepted before. -/
theorem refineVerdict_eq_accepted_iff {input w : Value} {refinements : List Refinement}
    {verdict : Verdict Value} :
    refineVerdict input refinements verdict history = (.ok (.accepted w), left) ↔
      ∃ v, verdict = .accepted v ∧
        refineVerdict input refinements (.accepted v) history = (.ok (.accepted w), left) := by
  cases verdict <;> simp [refineVerdict, Checking.value]

/-- A run accepts a list when it accepts the items one after the other, and then the
refinements. -/
theorem check_array_eq_accepted_iff {facts : RuleFacts} {item : Rule} {v w : Value} :
    check policy (.array facts item) path done v history = (.ok (.accepted w), left) ↔
      ∃ items parts between, v.listItems? = some items ∧
        Checking.each (check policy item path done) 0 items history =
          (.ok (.accepted parts), between) ∧
        refineVerdict v facts.refinements (.accepted (.list parts)) between =
          (.ok (.accepted w), left) := by
  rw [check]
  cases hitems : v.listItems? with
  | none => simp [Checking.value]
  | some items =>
    simp only [Checking.andThen_eq_ok_iff]
    constructor
    · rintro ⟨verdict, between, heach, hrefine⟩
      obtain ⟨u, hmap, hrefine⟩ := refineVerdict_eq_accepted_iff.mp hrefine
      obtain ⟨parts, rfl, rfl⟩ := Verdict.map_eq_accepted_iff.mp hmap
      exact ⟨items, parts, between, rfl, heach, hrefine⟩
    · rintro ⟨items', parts, between, hsame, heach, hrefine⟩
      obtain rfl := Option.some.inj hsame
      exact ⟨_, between, heach, hrefine⟩

/-- A run accepts an object when it accepts its fields, no key is strange where that matters, and
the refinements accept the object. -/
theorem check_object_eq_accepted_iff {facts : RuleFacts} {fields : List (TextValue × Rule)}
    {v w : Value} :
    check policy (.object facts fields) path done v history = (.ok (.accepted w), left) ↔
      ∃ entries output between u, v = .map entries ∧
        checkFields policy fields path done 0 {} entries history =
          (.ok (.accepted output), between) ∧
        strangeKeys policy (fieldTexts fields) entries = [] ∧
        refineVerdict v facts.refinements (.accepted (.other
          (modelName policy.name path (done + modelCountOfFields fields + 1)))) between =
          (.ok (.accepted u), left) ∧
        w = .map (Entries.ofPairs output) := by
  cases v with
  | map entries =>
    rw [check, Checking.andThen_eq_ok_iff]
    constructor
    · rintro ⟨verdict, between, hfields, h⟩
      cases houtput : verdict.withFindings (strangeKeys policy (fieldTexts fields) entries) with
      | rejected list =>
        rw [houtput] at h
        cases (Prod.mk.inj h).1
      | accepted output =>
        rw [houtput] at h
        obtain ⟨hkeys, rfl⟩ := Verdict.withFindings_eq_accepted_iff.mp houtput
        obtain ⟨refined, last, hrefine, h⟩ := Checking.andThen_eq_ok_iff.mp h
        obtain ⟨hmap, rfl⟩ := Checking.value_eq_ok_iff.mp h
        obtain ⟨u, rfl, rfl⟩ := Verdict.map_eq_accepted_iff.mp hmap
        exact ⟨entries, output, between, u, rfl, hfields, hkeys, hrefine, rfl⟩
    · rintro ⟨entries', output, between, u, hsame, hfields, hkeys, hrefine, rfl⟩
      obtain rfl := Value.map.inj hsame
      refine ⟨_, between, hfields, ?_⟩
      rw [hkeys]
      exact Checking.andThen_eq_ok_iff.mpr ⟨_, left, hrefine, rfl⟩
  | _ => simp [check, Checking.value]

/-- A run accepts a whole input when that is an object, the run accepts its fields, and no key is
strange where that matters. -/
theorem checkObject_eq_accepted_iff {isPartial : Bool} {rule : Rule} {v : Value}
    {document : Entries} :
    checkObject policy isPartial rule v history = (.ok (.accepted document), left) ↔
      ∃ entries output, v = .map entries ∧
        (if isPartial then checkGivenFields policy (rule.fields?.getD []) 0 0 entries
          else checkFields policy (rule.fields?.getD []) "" 0 0 {} entries) history =
            (.ok (.accepted output), left) ∧
        strangeKeys policy (fieldTexts (rule.fields?.getD [])) entries = [] ∧
        document = Entries.ofPairs output := by
  cases v with
  | map entries =>
    rw [checkObject, Checking.andThen_eq_ok_iff]
    constructor
    · rintro ⟨verdict, between, hfields, h⟩
      obtain ⟨hmap, rfl⟩ := Checking.value_eq_ok_iff.mp h
      obtain ⟨output, hverdict, rfl⟩ := Verdict.map_eq_accepted_iff.mp hmap
      obtain ⟨hkeys, rfl⟩ := Verdict.withFindings_eq_accepted_iff.mp hverdict
      exact ⟨entries, output, rfl, hfields, hkeys, rfl⟩
    · rintro ⟨entries', output, hsame, hfields, hkeys, rfl⟩
      obtain rfl := Value.map.inj hsame
      refine ⟨_, left, hfields, ?_⟩
      rw [hkeys]
      rfl
  | _ => simp [checkObject, Checking.value]

end Rule

/-! ## Whole inputs -/

/-- The fields of a schema. -/
def ValidationSchema.fields (schema : ValidationSchema) : List (TextValue × Rule) :=
  schema.rule.fields?.getD []

/-- The result of checking against a rule: what is accepted, or why there is nothing. -/
abbrev Parsed (α : Type) := Except ParseFailure α

/-- The result that a verdict of a rule comes to. -/
def Parsed.ofVerdict {α : Type} (rule : Rule) (overrides : Overrides) :
    Except Raised (Verdict α) → Parsed α
  | .ok (.accepted a) => .ok a
  | .ok (.rejected findings) => .error (.rejected
      ⟨findings.map (Finding.toIssue (ValidationSchema.expectedAt rule) overrides)⟩)
  | .error cause => .error (.stopped cause)

/-- The result of a schema comes from its verdict. -/
theorem ValidationSchema.result_parse (schema : ValidationSchema) (data : Value)
    (history : CallHistory) : (schema.parse data history).1.result =
      Parsed.ofVerdict schema.rule schema.options.overrides (schema.check data history).1 := by
  unfold parse
  rcases schema.check data history with ⟨_ | _ | _, left⟩ <;> rfl

theorem ValidationSchema.snd_parse (schema : ValidationSchema) (data : Value)
    (history : CallHistory) :
    (schema.parse data history).2 = (schema.check data history).2 := by
  unfold parse
  rcases schema.check data history with ⟨_ | _ | _, left⟩ <;> rfl

/-- A schema accepts an input when its check does, with the same output and the same calls. -/
theorem ValidationSchema.parse_eq_ok_iff {schema : ValidationSchema} {data : Value}
    {document : Entries} {history left : CallHistory} :
    schema.parse data history = (.ok document, left) ↔
      schema.check data history = (.ok (.accepted document), left) := by
  have hfail : ∀ {events : List LogEvent} {failure : ParseFailure},
      (⟨events, .error failure⟩ : Logged ParseFailure Entries) ≠ .ok document := by
    intro events failure h
    cases congrArg Logged.result h
  unfold parse
  constructor
  · intro h
    split at h
    · rename_i output between hcheck
      obtain ⟨houtput, rfl⟩ := Prod.mk.inj h
      rw [hcheck, Except.ok.inj (congrArg Logged.result houtput)]
    · exact absurd (Prod.mk.inj h).1 hfail
    · exact absurd (Prod.mk.inj h).1 hfail
  · intro h
    rw [h]

end FieldSchema
