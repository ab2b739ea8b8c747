import FieldSchema.Proofs.Rule.Wording
import FieldSchema.Proofs.Validation.Mirrored

/-!
# Overrides change words only

Two schemas of one definition may differ in the messages that override those of its rules.  They
accept the same inputs, with the same output, and they reject the same inputs, for issues that
differ in their words only.

Their rules are the same without their words.  Two such rules check a value alike, step by step, as
long as what is given for words are texts.  A check stops when it comes to words that are none, and
words that hold a surrogate cannot be given out, so that the value is rejected for their sake
(`ValidationSchema.parse_shortest_of_broken`).

* `Finding.SameUpToMessage`, `Issue.SameUpToMessage`: the same up to words.
* `Rule.agree_check`: runs of rules that are the same without their words.
* `ValidationSchema.parse_agrees_under_overrides`: schemas of one definition under two overrides.
-/

namespace FieldSchema

/-! ## Findings up to words -/

/-- The same finding in other words. -/
structure Finding.SameUpToMessage (first second : Finding) : Prop where
  path : first.path = second.path
  kind : first.kind = second.kind
  input : first.input = second.input
  expected : first.expected = second.expected
  format : first.format = second.format

namespace Finding.SameUpToMessage

theorem refl (finding : Finding) : SameUpToMessage finding finding := ⟨rfl, rfl, rfl, rfl, rfl⟩

theorem isKept : IsKept SameUpToMessage where
  same _ := refl _
  under segment h := ⟨congrArg (segment :: ·) h.path, h.kind, h.input, h.expected, h.format⟩

end Finding.SameUpToMessage

/-! ## Refinements up to words -/

/-- A rejection without its words. -/
def Rejection.withoutMessage (rejection : Rejection) : Rejection :=
  { rejection with message := .null }

namespace Refinement

/-- What a refinement says, without words. -/
def silent (answer : Except CheckFailure (Option Rejection)) :
    Except CheckFailure (Option Rejection) :=
  answer.map (Option.map Rejection.withoutMessage)

theorem silent_checkBounds (measure : Measure) (least most message message' : Value)
    (size : Number) : silent (checkBounds measure least most message size) =
      silent (checkBounds measure least most message' size) := by
  unfold checkBounds
  cases boundNumber least with
  | error cause => rfl
  | ok lower =>
    simp only [bind, Except.bind]
    split
    · rfl
    · cases boundNumber most with
      | error cause => rfl
      | ok upper =>
        dsimp only
        split <;> rfl

theorem silent_answerOf (found : Except PatternFailure Bool) {first second : Rejection}
    (h : first.withoutMessage = second.withoutMessage) :
    silent (answerOf found first) = silent (answerOf found second) := by
  unfold answerOf
  split
  · rfl
  · exact congrArg (fun rejection => Except.ok (some rejection)) h
  · rfl

theorem silent_checkObjectId (lengthMessage formatMessage lengthMessage' formatMessage' : Value)
    (text : String) :
    silent (.ok (checkObjectId ObjectId.isValid lengthMessage formatMessage text)) =
      silent (.ok (checkObjectId ObjectId.isValid lengthMessage' formatMessage' text)) := by
  unfold checkObjectId
  split
  · rfl
  · split <;> rfl

theorem silent_checkText (r : Refinement) (text : String) :
    silent (r.withoutMessages.checkText text) = silent (r.checkText text) := by
  cases r with
  | bounds => rfl
  | lowercase => rfl
  | pattern source flags message =>
    rw [withoutMessages, checkText, checkText]
    exact silent_answerOf _ rfl
  | email message =>
    rw [withoutMessages, checkText, checkText]
    exact silent_answerOf _ rfl
  | objectId lengthMessage formatMessage =>
    rw [withoutMessages, checkText, checkText]
    exact silent_checkObjectId _ _ _ _ text
  | oneOf allowed message =>
    rw [withoutMessages, checkText, checkText]
    split <;> rfl

/-- A refinement says the same without its words, up to words. -/
theorem silent_check (r : Refinement) (v : Value) :
    silent (r.withoutMessages.check v) = silent (r.check v) := by
  by_cases hbounds : ∃ measure, r.kind = .bounds measure
  · cases r with
    | bounds measure least most message =>
      rw [withoutMessages, check, check]
      split
      · exact silent_checkBounds measure least most .null message _
      · rfl
    | _ => obtain ⟨measure, hkind⟩ := hbounds; cases hkind
  · have hkind : ∀ measure, r.kind ≠ .bounds measure := fun measure h => hbounds ⟨measure, h⟩
    have hsilent : ∀ measure, r.withoutMessages.kind ≠ .bounds measure := by
      rwa [kind_withoutMessages]
    cases htext : v.asText? with
    | none => rw [check_of_noText hsilent htext, check_of_noText hkind htext]
    | some text =>
      rw [check_of_text hsilent htext, check_of_text hkind htext]
      exact silent_checkText r text

/-! ## Words of rejections -/

theorem message_of_checkBounds {measure : Measure} {least most message : Value} {size : Number}
    {rejection : Rejection}
    (h : checkBounds measure least most message size = .ok (some rejection)) :
    rejection.message = message := by
  obtain ⟨lower, -, h⟩ := Logged.bind_eq_ok_iff.mp h
  split at h
  · obtain rfl := Option.some.inj (Except.ok.inj h)
    rfl
  · obtain ⟨upper, -, h⟩ := Logged.bind_eq_ok_iff.mp h
    split at h
    · obtain rfl := Option.some.inj (Except.ok.inj h)
      rfl
    · cases Except.ok.inj h

theorem eq_of_answerOf {found : Except PatternFailure Bool} {given rejection : Rejection}
    (h : answerOf found given = .ok (some rejection)) : rejection = given := by
  unfold answerOf at h
  split at h
  · cases Except.ok.inj h
  · exact (Option.some.inj (Except.ok.inj h)).symm
  · contradiction

theorem message_of_checkText {r : Refinement} {text : String} {rejection : Rejection}
    (h : r.checkText text = .ok (some rejection)) : rejection.message ∈ r.messages := by
  cases r with
  | bounds => cases Except.ok.inj h
  | lowercase => cases Except.ok.inj h
  | pattern source flags message =>
    rw [checkText] at h
    rw [eq_of_answerOf h]
    exact List.mem_singleton_self message
  | email message =>
    rw [checkText] at h
    rw [eq_of_answerOf h]
    exact List.mem_singleton_self message
  | objectId lengthMessage formatMessage =>
    have hid := Except.ok.inj h
    unfold checkObjectId at hid
    split at hid
    · obtain rfl := Option.some.inj hid
      exact List.mem_cons_self
    · split at hid
      · obtain rfl := Option.some.inj hid
        exact List.mem_cons_of_mem _ (List.mem_singleton_self formatMessage)
      · contradiction
  | oneOf allowed message =>
    rw [checkText] at h
    have hone := Except.ok.inj h
    split at hone
    · contradiction
    · obtain rfl := Option.some.inj hone
      exact List.mem_singleton_self message

/-- A refinement rejects a value in words of its own, or because it is of the wrong kind. -/
theorem message_of_check {r : Refinement} {v : Value} {rejection : Rejection}
    (h : r.check v = .ok (some rejection)) :
    rejection.message ∈ r.messages ∨ ∃ expected, rejection = .wrongKind expected v := by
  unfold check at h
  split at h
  · split at h
    · rw [message_of_checkBounds h]
      exact .inl (List.mem_singleton_self _)
    · exact .inr ⟨_, (Option.some.inj (Except.ok.inj h)).symm⟩
  · split at h
    · exact .inl (message_of_checkText h)
    · exact .inr ⟨_, (Option.some.inj (Except.ok.inj h)).symm⟩

/-- A refinement that has words rejects a value in words. -/
theorem isWords_of_check {r : Refinement} {v : Value} {rejection : Rejection}
    (hr : ∀ message ∈ r.messages, message.IsWords) (h : r.check v = .ok (some rejection)) :
    rejection.message.IsWords := by
  rcases message_of_check h with hmessage | ⟨expected, rfl⟩
  · exact hr _ hmessage
  · exact Value.isWords_text (by simp)

end Refinement

namespace Rule

/-- A refinement that refuses its own parts shows as an error of the value. -/
theorem toIssue_refusalOf (expectedAt : Path → Option String) (overrides : Overrides)
    (input : Value) (words : String) (segment : PathSegment) :
    ((refusalOf input words).under segment).toIssue expectedAt overrides =
      { path := [segment]
        message := .text ("Value error, " ++ words)
        code := .text "value_error"
        input } := by
  have hkind : ("value_error" == "missing") = false ∧ ("value_error" == "extra_forbidden") = false ∧
      "_type".toList.isSuffixOf "value_error".toList = false := by decide
  unfold Finding.toIssue Finding.isMissing Finding.isExtra Finding.isWrongType
  show (if ("value_error" == "missing") = true then _ else
    if ("value_error" == "extra_forbidden") = true then _ else
    if "_type".toList.isSuffixOf "value_error".toList = true then _ else _) = _
  rw [hkind.1, hkind.2.1, hkind.2.2]
  rfl

/-- Words are given out with the parts of the rejection filled in. -/
theorem messageOf_eq_ok {rejection : Rejection} (h : rejection.message.IsWords) :
    ∃ words, rejection.message.asText? = some words ∧ messageOf rejection = .ok words := by
  obtain ⟨htext, htruthy⟩ := h
  obtain ⟨words, hwords⟩ := Option.isSome_iff_exists.mp htext
  exact ⟨words, hwords, by rw [messageOf, htruthy, hwords]; rfl⟩

/-- Words have a coding. -/
theorem refusal?_of_isWords {rejection : Rejection} (h : rejection.message.IsWords) :
    rejection.refusal? = none := by
  unfold Rejection.refusal?
  split
  · rename_i hbroken
    have htext := h.1
    rw [hbroken] at htext
    contradiction
  · rfl

/-- Rejections in other words make findings in other words. -/
theorem sameUpToMessage_findingOf {first second : Rejection}
    (h : first.withoutMessage = second.withoutMessage) (hfirst : first.message.IsWords)
    (hsecond : second.message.IsWords) (input : Value) :
    ∃ finding finding', findingOf input first = .ok finding ∧
      findingOf input second = .ok finding' ∧ finding.SameUpToMessage finding' := by
  obtain ⟨words, -, hwords⟩ := messageOf_eq_ok hfirst
  obtain ⟨words', -, hwords'⟩ := messageOf_eq_ok hsecond
  have hconstraint : first.constraint = second.constraint :=
    congrArg (·.constraint) h
  have hexpected : first.expected = second.expected := congrArg (·.expected) h
  have hformat : first.format = second.format := congrArg (·.format) h
  rw [findingOf, findingOf, hwords, hwords', hconstraint, hexpected, hformat]
  exact ⟨_, _, rfl, rfl, rfl, rfl, rfl, rfl, rfl⟩

/-! ## Runs up to words -/

/-- Two checks run alike up to words: from the same history they end alike, and leave the same
history. -/
abbrev AgreeUpToMessage {α : Type} (outside : Outside) (first second : Checking (Verdict α)) :
    Prop :=
  Checking.Mirrors (.same outside) (Verdict.Like Finding.SameUpToMessage) first second

variable {outside : Outside}

theorem like_of_isReported {α : Type} {verdict : Verdict α} (h : verdict.IsReported) :
    Verdict.Like Finding.SameUpToMessage verdict verdict :=
  h.like Finding.SameUpToMessage.isKept

/-- The refinements of two rules that are the same without their words. -/
theorem ends_checkRefinements {refinements refinements' : List Refinement}
    (h : refinements.map Refinement.withoutMessages =
      refinements'.map Refinement.withoutMessages)
    (hwords : ∀ r ∈ refinements, ∀ message ∈ r.messages, message.IsWords)
    (hwords' : ∀ r ∈ refinements', ∀ message ∈ r.messages, message.IsWords) (input v : Value) :
    Checking.Ends (Verdict.Like Finding.SameUpToMessage)
      (checkRefinements input refinements v) (checkRefinements input refinements' v) := by
  induction refinements generalizing refinements' v with
  | nil =>
    obtain rfl := List.map_eq_nil_iff.mp h.symm
    exact .ok (.accepted v)
  | cons r rest ih =>
    obtain ⟨r', rest', rfl, hr, hrest⟩ := List.map_eq_cons_iff.mp h.symm
    obtain ⟨hwordsR, hwordsRest⟩ := List.forall_mem_cons.mp hwords
    obtain ⟨hwordsR', hwordsRest'⟩ := List.forall_mem_cons.mp hwords'
    have htransform : r'.transform = r.transform := by
      rw [← Refinement.transform_withoutMessages, hr, Refinement.transform_withoutMessages]
    have hanswer : Refinement.silent (r.check (r.transform v)) =
        Refinement.silent (r'.check (r.transform v)) := by
      rw [← Refinement.silent_check, ← hr, Refinement.silent_check]
    rw [checkRefinements, checkRefinements, htransform]
    -- The answers are of one kind, as they are the same without their words.
    rcases hcheck : r.check (r.transform v) with cause | ⟨_ | first⟩ <;>
      rcases hcheck' : r'.check (r.transform v) with cause' | ⟨_ | second⟩ <;>
      rw [hcheck, hcheck'] at hanswer <;> try cases hanswer
    · dsimp only
      cases cause.refusal? with
      | none => exact .stopped _
      | some words =>
        exact .ok (like_of_isReported (Verdict.isReported_rejected
          (.of_kind "value_error" rfl (by decide))))
    · exact ih hrest.symm hwordsRest hwordsRest' _
    · have hfirst := Refinement.isWords_of_check hwordsR hcheck
      have hsecond := Refinement.isWords_of_check hwordsR' hcheck'
      obtain ⟨finding, finding', hfinding, hfinding', hsame⟩ := sameUpToMessage_findingOf
        (Option.some.inj (Except.ok.inj hanswer)) hfirst hsecond input
      dsimp only
      rw [refusal?_of_isWords hfirst, refusal?_of_isWords hsecond]
      dsimp only
      rw [hfinding, hfinding']
      exact .ok (.rejected (List.cons_ne_nil _ _) (.cons hsame .nil))

theorem agree_refineVerdict {verdict verdict' : Verdict Value}
    {refinements refinements' : List Refinement}
    (hverdict : Verdict.Like Finding.SameUpToMessage verdict verdict')
    (h : refinements.map Refinement.withoutMessages =
      refinements'.map Refinement.withoutMessages)
    (hwords : ∀ r ∈ refinements, ∀ message ∈ r.messages, message.IsWords)
    (hwords' : ∀ r ∈ refinements', ∀ message ∈ r.messages, message.IsWords) (input : Value) :
    AgreeUpToMessage outside (refineVerdict input refinements verdict)
      (refineVerdict input refinements' verdict') := by
  cases hverdict with
  | rejected hsome hfindings => exact Checking.mirrors_value (.rejected hsome hfindings)
  | accepted v => exact Checking.mirrors_ofExcept (ends_checkRefinements h hwords hwords' input v)

mutual

theorem modelCount_withoutMessages (rule : Rule) :
    modelCount rule.withoutMessages = modelCount rule := by
  cases rule with
  | leaf facts kind => rfl
  | array facts item => exact modelCount_withoutMessages item
  | object facts fields => exact congrArg (· + 1) (modelCountOfFields_withoutMessages fields)

theorem modelCountOfFields_withoutMessages (fields : List (TextValue × Rule)) :
    modelCountOfFields (fieldsWithoutMessages fields) = modelCountOfFields fields := by
  match fields with
  | [] => rfl
  | (name, rule) :: rest =>
    rw [fieldsWithoutMessages, modelCountOfFields, modelCountOfFields,
      modelCount_withoutMessages rule, modelCountOfFields_withoutMessages rest]

end

theorem fieldTexts_withoutMessages (fields : List (TextValue × Rule)) :
    fieldTexts (fieldsWithoutMessages fields) = fieldTexts fields := by
  induction fields with
  | nil => rfl
  | cons field rest ih => exact congrArg (field.1.text :: ·) ih

variable {policy : ObjectPolicy} {overrides overrides' : Overrides}

/-- A field is checked alike by rules that are the same without their words, when they check values
alike. -/
theorem agree_checkField {rule rule' : Rule} {path : String} {done : Nat} {name : TextValue}
    (h : rule.withoutMessages = rule'.withoutMessages)
    (hrule : ∀ v, AgreeUpToMessage outside (check policy rule (fieldPath path name) done v)
      (check policy rule' (fieldPath path name) done v))
    (index : Nat) (earlier : EarlierFields) (given? : Option Value) :
    AgreeUpToMessage outside (checkField policy path done index earlier name rule given?)
      (checkField policy path done index earlier name rule' given?) := by
  have hfacts : rule.facts.withoutMessages = rule'.facts.withoutMessages := by
    rw [← facts_withoutMessages, h, facts_withoutMessages]
  have hdefault : rule.facts.default? = rule'.facts.default? := congrArg (·.default?) hfacts
  have hoptional : rule.facts.isOptional = rule'.facts.isOptional :=
    congrArg (·.isOptional) hfacts
  have hunder : ∀ segment, ∀ verdict verdict',
      Verdict.Like Finding.SameUpToMessage verdict verdict' →
      AgreeUpToMessage outside (.value ((verdict.under segment).map Value.unlessAbsent))
        (.value ((verdict'.under segment).map Value.unlessAbsent)) :=
    fun segment _ _ hverdict => Checking.mirrors_value
      ((hverdict.under Finding.SameUpToMessage.isKept segment).map _)
  cases given? with
  | some v => exact (hrule v).andThen (hunder _)
  | none =>
    unfold checkField checkAbsent
    rw [hdefault, hoptional]
    cases rule'.facts.default? with
    | none =>
      refine Checking.mirrors_value ?_
      split
      · exact .accepted none
      · exact like_of_isReported (Verdict.isReported_rejected fun _ => ⟨name.text, rfl⟩)
    | some default =>
      refine Checking.Mirrors.andThen (S := Verdict.Like Finding.SameUpToMessage) ?_ (hunder _)
      rw [checkDefault_eq, checkDefault_eq]
      split
      · exact Checking.mirrors_value (like_of_isReported (Verdict.isReported_rejected
          (.of_kind "default_factory_not_called" rfl (by decide))))
      · have hsettled := RunPair.settles_same outside default
        refine (Value.mirrors_make hsettled _).andThen fun v v' hv => ?_
        subst hv
        exact hrule v

theorem hasValue_withoutMessages (rule : Rule) :
    hasValue rule.withoutMessages.facts = hasValue rule.facts := by
  rw [facts_withoutMessages]
  rfl

/-- Fields are checked alike when their rules check values alike. -/
theorem agree_checkFields {fields fields' : List (TextValue × Rule)}
    (h : fieldsWithoutMessages fields = fieldsWithoutMessages fields')
    (hfields : ∀ field ∈ fields, ∀ field' ∈ fields',
      field.2.withoutMessages = field'.2.withoutMessages → ∀ path done v,
        AgreeUpToMessage outside (check policy field.2 path done v)
          (check policy field'.2 path done v))
    (path : String) (done index : Nat) (earlier : EarlierFields) (entries : Entries) :
    AgreeUpToMessage outside (checkFields policy fields path done index earlier entries)
      (checkFields policy fields' path done index earlier entries) := by
  induction fields generalizing fields' done index earlier with
  | nil =>
    cases fields' with
    | nil =>
      rw [checkFields]
      exact Checking.mirrors_value (.accepted [])
    | cons => cases h
  | cons field rest ih =>
    cases fields' with
    | nil => cases h
    | cons field' rest' =>
      obtain ⟨name, rule⟩ := field
      obtain ⟨name', rule'⟩ := field'
      obtain ⟨hfirst, hrest⟩ := List.cons.inj h
      obtain ⟨rfl, hrule⟩ := Prod.mk.inj hfirst
      have hcount : modelCount rule = modelCount rule' := by
        rw [← modelCount_withoutMessages, hrule, modelCount_withoutMessages]
      have hsupplied : hasValue rule.facts = hasValue rule'.facts := by
        rw [← hasValue_withoutMessages, hrule, hasValue_withoutMessages]
      rw [checkFields_cons, checkFields_cons, hcount, hsupplied]
      refine (agree_checkField hrule (hfields _ List.mem_cons_self _ List.mem_cons_self hrule _ _)
        index earlier _).andThen fun verdict verdict' hverdict => ?_
      rw [record_eq_of_like hverdict]
      exact (ih hrest (fun field hfield field' hfield' => hfields field
        (List.mem_cons_of_mem _ hfield) field' (List.mem_cons_of_mem _ hfield')) _ _ _).andThen
        fun others others' hothers => Checking.mirrors_value (hverdict.both hothers _)

/-- **Runs of two rules** that are the same without their words: after the same calls they give the
same verdict up to words, and leave the same calls. -/
theorem agree_check (hoverrides : overrides.AreWords) (hoverrides' : overrides'.AreWords)
    {rule rule' : Rule} {field field' : TextValue} (hrule : rule.IsWorded overrides field)
    (hrule' : rule'.IsWorded overrides' field')
    (h : rule.withoutMessages = rule'.withoutMessages) (path : String) (done : Nat) (v : Value) :
    AgreeUpToMessage outside (check policy rule path done v) (check policy rule' path done v) := by
  have hrefine : ∀ {field field' : TextValue} {facts facts' : RuleFacts},
      (∀ r ∈ facts.refinements, r.IsWorded overrides field) →
      (∀ r ∈ facts'.refinements, r.IsWorded overrides' field') →
      facts.withoutMessages = facts'.withoutMessages → ∀ verdict verdict',
      Verdict.Like Finding.SameUpToMessage verdict verdict' → ∀ input,
      AgreeUpToMessage outside (refineVerdict input facts.refinements verdict)
        (refineVerdict input facts'.refinements verdict') :=
    fun hfacts hfacts' hsame _ _ hverdict input => agree_refineVerdict hverdict
      (congrArg (·.refinements) hsame) (fun r hr => (hfacts r hr).isWords hoverrides)
      (fun r hr => (hfacts' r hr).isWords hoverrides') input
  induction hrule generalizing rule' field' path done v with
  | @leaf field facts kind hfacts =>
    cases hrule' with
    | @leaf _ facts' kind' hfacts' =>
      obtain ⟨hsame, rfl⟩ := Rule.leaf.inj h
      rw [check, check]
      exact hrefine hfacts hfacts' hsame _ _
        (like_of_isReported (RuleKind.isReported_check kind v)) v
    | _ => cases h
  | @array field facts item hfacts hitem ih =>
    cases hrule' with
    | @array _ facts' item' hfacts' hitem' =>
      obtain ⟨hsame, hitems⟩ := Rule.array.inj h
      rw [check, check]
      cases v.listItems? with
      | none =>
        exact Checking.mirrors_value (like_of_isReported
          (Verdict.isReported_rejected (.of_kind "list_type" rfl (by decide))))
      | some items =>
        exact (Checking.mirrors_each Finding.SameUpToMessage.isKept (ih hitem' hitems path done)
          0 items).andThen fun verdict verdict' hverdict =>
            hrefine hfacts hfacts' hsame _ _ (hverdict.map .list) v
    | _ => cases h
  | @object field facts fields hfacts hparts ih =>
    cases hrule' with
    | @object _ facts' fields' hfacts' hparts' =>
      obtain ⟨hsame, hfields⟩ := Rule.object.inj h
      have hcount : modelCountOfFields fields = modelCountOfFields fields' := by
        rw [← modelCountOfFields_withoutMessages, hfields, modelCountOfFields_withoutMessages]
      have htexts : fieldTexts fields = fieldTexts fields' := by
        rw [← fieldTexts_withoutMessages, hfields, fieldTexts_withoutMessages]
      cases v with
      | map entries =>
        rw [check, check, hcount, htexts]
        refine (agree_checkFields hfields (fun part hpart part' hpart' hwithout path done v =>
          ih part hpart (hparts' part' hpart') hwithout path done v) path done 0 {}
          entries).andThen fun verdict verdict' hverdict => ?_
        generalize strangeKeys policy (fieldTexts fields') entries = strange
        have hfound := hverdict.withFindings
          (List.forall₂_same.mpr fun finding (_ : finding ∈ strange) => .refl finding)
        dsimp only
        generalize verdict.withFindings strange = found at hfound ⊢
        generalize verdict'.withFindings strange = found' at hfound ⊢
        cases hfound with
        | rejected hsome hfindings => exact Checking.mirrors_value (.rejected hsome hfindings)
        | accepted output =>
          exact (hrefine hfacts hfacts' hsame _ _ (.accepted _) _).andThen
            fun refined refined' hrefined => Checking.mirrors_value (hrefined.map _)
      | _ =>
        simp only [check, hcount]
        exact Checking.mirrors_value (like_of_isReported
          (Verdict.isReported_rejected (.of_kind "model_type" rfl (by decide))))
    | _ => cases h

/-- The fields that are given are checked alike when their rules check values alike. -/
theorem agree_checkGivenFields {fields fields' : List (TextValue × Rule)}
    (h : fieldsWithoutMessages fields = fieldsWithoutMessages fields')
    (hfields : ∀ field ∈ fields, ∀ field' ∈ fields',
      field.2.withoutMessages = field'.2.withoutMessages → ∀ path done v,
        AgreeUpToMessage outside (check policy field.2 path done v)
          (check policy field'.2 path done v))
    (done index : Nat) (entries : Entries) :
    AgreeUpToMessage outside (checkGivenFields policy fields done index entries)
      (checkGivenFields policy fields' done index entries) := by
  induction fields generalizing fields' done index with
  | nil =>
    cases fields' with
    | nil =>
      rw [checkGivenFields]
      exact Checking.mirrors_value (.accepted [])
    | cons => cases h
  | cons field rest ih =>
    cases fields' with
    | nil => cases h
    | cons field' rest' =>
      obtain ⟨name, rule⟩ := field
      obtain ⟨name', rule'⟩ := field'
      obtain ⟨hfirst, hrest⟩ := List.cons.inj h
      obtain ⟨rfl, hrule⟩ := Prod.mk.inj hfirst
      have hcount : modelCount rule = modelCount rule' := by
        rw [← modelCount_withoutMessages, hrule, modelCount_withoutMessages]
      have hgiven : AgreeUpToMessage outside (checkGiven policy name rule done entries)
          (checkGiven policy name rule' done entries) := by
        unfold checkGiven
        cases entries.getText? name.text with
        | none => exact Checking.mirrors_value (.accepted none)
        | some v =>
          exact (hfields _ List.mem_cons_self _ List.mem_cons_self hrule _ _ v).andThen
            fun _ _ hverdict => Checking.mirrors_value
              ((hverdict.under Finding.SameUpToMessage.isKept _).map _)
      rw [checkGivenFields, checkGivenFields, hcount]
      exact hgiven.andThen fun verdict verdict' hverdict =>
        (ih hrest (fun field hfield field' hfield' => hfields field
          (List.mem_cons_of_mem _ hfield) field' (List.mem_cons_of_mem _ hfield')) _ _).andThen
          fun others others' hothers => Checking.mirrors_value (hverdict.both hothers _)

/-- Whole inputs are checked alike by rules that are the same without their words. -/
theorem agree_checkObject (hoverrides : overrides.AreWords) (hoverrides' : overrides'.AreWords)
    {rule rule' : Rule} {field field' : TextValue} (hrule : rule.IsWorded overrides field)
    (hrule' : rule'.IsWorded overrides' field')
    (h : rule.withoutMessages = rule'.withoutMessages) (isPartial : Bool) (v : Value) :
    AgreeUpToMessage outside (checkObject policy isPartial rule v)
      (checkObject policy isPartial rule' v) := by
  have hfields : fieldsWithoutMessages (rule.fields?.getD []) =
      fieldsWithoutMessages (rule'.fields?.getD []) := by
    have hgetD : ∀ rule : Rule, fieldsWithoutMessages (rule.fields?.getD []) =
        rule.withoutMessages.fields?.getD [] := fun rule => by cases rule <;> rfl
    rw [hgetD, h, hgetD]
  have hparts : ∀ part ∈ rule.fields?.getD [], ∀ part' ∈ rule'.fields?.getD [],
      part.2.withoutMessages = part'.2.withoutMessages → ∀ path done v,
      AgreeUpToMessage outside (check policy part.2 path done v)
        (check policy part'.2 path done v) :=
    fun part hpart part' hpart' hsame path done v => agree_check hoverrides hoverrides'
      (hrule.fields part hpart) (hrule'.fields part' hpart') hsame path done v
  have htexts : fieldTexts (rule.fields?.getD []) = fieldTexts (rule'.fields?.getD []) := by
    rw [← fieldTexts_withoutMessages, hfields, fieldTexts_withoutMessages]
  unfold checkObject
  dsimp only
  split
  · rename_i entries
    have hfound : AgreeUpToMessage outside
        (if isPartial then checkGivenFields policy (rule.fields?.getD []) 0 0 entries
          else checkFields policy (rule.fields?.getD []) "" 0 0 {} entries)
        (if isPartial then checkGivenFields policy (rule'.fields?.getD []) 0 0 entries
          else checkFields policy (rule'.fields?.getD []) "" 0 0 {} entries) := by
      split
      · exact agree_checkGivenFields hfields hparts 0 0 entries
      · exact agree_checkFields hfields hparts "" 0 0 {} entries
    rw [htexts]
    exact hfound.andThen fun verdict verdict' hverdict => Checking.mirrors_value
      ((hverdict.withFindings (List.forall₂_same.mpr fun finding _ => .refl finding)).map _)
  · exact Checking.mirrors_value (like_of_isReported
      (Verdict.isReported_rejected (.of_kind "model_type" rfl (by decide))))

end Rule

/-! ## Results up to words -/

/-- The same issue in other words. -/
structure Issue.SameUpToMessage (first second : Issue) : Prop where
  path : first.path = second.path
  code : first.code = second.code
  input : first.input = second.input
  expected : first.expected = second.expected
  format : first.format = second.format

/-- Findings in other words make issues in other words. -/
theorem Finding.SameUpToMessage.toIssue {first second : Finding} (h : first.SameUpToMessage second)
    (expectedAt : Path → Option String) (overrides overrides' : Overrides) :
    (first.toIssue expectedAt overrides).SameUpToMessage
      (second.toIssue expectedAt overrides') := by
  have hmissing : first.isMissing = second.isMissing := by rw [isMissing, isMissing, h.kind]
  have hextra : first.isExtra = second.isExtra := by rw [isExtra, isExtra, h.kind]
  have hwrong : first.isWrongType = second.isWrongType := by
    rw [isWrongType, isWrongType, h.kind]
  unfold Finding.toIssue
  rw [hmissing, hextra, hwrong, h.path, h.kind, h.input, h.expected, h.format]
  dsimp only
  split
  · exact ⟨rfl, rfl, rfl, rfl, rfl⟩
  · split
    · exact ⟨rfl, rfl, rfl, rfl, rfl⟩
    · split <;> exact ⟨rfl, rfl, rfl, rfl, rfl⟩

namespace Parsed

variable {α : Type}

/-- The same results in other words: the same is accepted, or the input is rejected for the same
issues in the same order, or the check stops for the same cause. -/
inductive SameUpToMessage : Parsed α → Parsed α → Prop
  | ok (a : α) : SameUpToMessage (.ok a) (.ok a)
  | rejected {issues issues' : List Issue}
    (h : List.Forall₂ Issue.SameUpToMessage issues issues') :
    SameUpToMessage (.error (.rejected ⟨issues⟩)) (.error (.rejected ⟨issues'⟩))
  | stopped (cause : Raised) : SameUpToMessage (.error (.stopped cause)) (.error (.stopped cause))

/-- Verdicts that are the same up to words come to such results, by rules that expect the same. -/
theorem sameUpToMessage_ofVerdict {rule rule' : Rule} (overrides overrides' : Overrides)
    {found found' : Except Raised (Verdict α)}
    (hexpected : ValidationSchema.expectedAt rule = ValidationSchema.expectedAt rule')
    (h : Checking.Ends (Verdict.Like Finding.SameUpToMessage) found found') :
    SameUpToMessage (ofVerdict rule overrides found) (ofVerdict rule' overrides' found') := by
  cases h with
  | stopped cause => exact .stopped cause
  | ok h =>
    cases h with
    | accepted a => exact .ok a
    | rejected _ h =>
      refine .rejected ?_
      rw [List.forall₂_map_left_iff, List.forall₂_map_right_iff, hexpected]
      exact h.imp fun _ _ hfinding => hfinding.toIssue _ _ _

end Parsed

/-! ## Schemas -/

namespace ValidationSchema

theorem expectedAt_withoutMessages (rule : Rule) (path : Path) :
    expectedAt rule.withoutMessages path = expectedAt rule path := by
  unfold expectedAt
  rw [Rule.at?_withoutMessages, Option.map_map]
  congr 1
  funext part
  exact congrArg RuleKind.name (Rule.kind_withoutMessages part)

theorem expectedAt_eq_of_withoutMessages {rule rule' : Rule}
    (h : rule.withoutMessages = rule'.withoutMessages) : expectedAt rule = expectedAt rule' := by
  funext path
  rw [← expectedAt_withoutMessages, h, expectedAt_withoutMessages]

/-- Two schemas come to the same for every input, up to words, and make the same calls. -/
def ParsesAlike (schema schema' : ValidationSchema) : Prop :=
  ∀ data history,
    Parsed.SameUpToMessage (schema.parse data history).1.result
      (schema'.parse data history).1.result ∧
    (schema.parse data history).2 = (schema'.parse data history).2

/-- Schemas with rules that are the same without their words come to the same, up to words, when
what they share besides is the same. -/
theorem parsesAlike_of_withoutMessages {schema schema' : ValidationSchema}
    {field field' : TextValue} (hpolicy : schema.policy = schema'.policy)
    (hpartial : schema.isPartial = schema'.isPartial)
    (hoverrides : schema.options.overrides.AreWords)
    (hoverrides' : schema'.options.overrides.AreWords)
    (hrule : schema.rule.IsWorded schema.options.overrides field)
    (hrule' : schema'.rule.IsWorded schema'.options.overrides field')
    (h : schema.rule.withoutMessages = schema'.rule.withoutMessages) :
    schema.ParsesAlike schema' := by
  intro data history
  have hagree : Rule.AgreeUpToMessage history.outside
      (Rule.checkObject schema.policy schema.isPartial schema.rule data)
      (Rule.checkObject schema.policy schema.isPartial schema'.rule data) :=
    Rule.agree_checkObject hoverrides hoverrides' hrule hrule' h schema.isPartial data
  obtain ⟨hends, hleft⟩ := hagree history history (RunPair.relates_same_iff.mpr ⟨rfl, rfl⟩)
  rw [result_parse, result_parse, snd_parse, snd_parse, check, check, ← hpolicy, ← hpartial]
  exact ⟨Parsed.sameUpToMessage_ofVerdict _ _ (expectedAt_eq_of_withoutMessages h) hends,
    (RunPair.relates_same_iff.mp hleft).2⟩

/-- **Overrides change words only.**  Two schemas of one definition, both strict or both not, under
any overrides: there is a schema under the ones just when there is one under the others, and if not
then for the same cause; and their rules are the same without their words.  If the overrides are
texts that have a coding, then for every input they accept the same, reject it for issues that are
the same one by one but for their words, or stop for the same cause.  The same holds of their
partial schemas. -/
theorem parse_agrees_under_overrides (messages messages' : Entries) (strict : Bool)
    (definition : Value) :
    (ofDefinition ⟨strict, .ofEntries messages⟩ definition).result.map
        (fun schema => schema.rule.withoutMessages) =
      (ofDefinition ⟨strict, .ofEntries messages'⟩ definition).result.map
        (fun schema => schema.rule.withoutMessages) ∧
    ((∀ entry ∈ messages, entry.2.isText = true) →
      (∀ entry ∈ messages', entry.2.isText = true) → ∀ schema schema',
      (ofDefinition ⟨strict, .ofEntries messages⟩ definition).result = .ok schema →
      (ofDefinition ⟨strict, .ofEntries messages'⟩ definition).result = .ok schema' →
      schema.ParsesAlike schema' ∧ schema.asPartial.ParsesAlike schema'.asPartial) := by
  have hrules := Rule.agrees_ofDefinition (.ofEntries messages) (.ofEntries messages') definition
  refine ⟨hrules.andThen fun rule rule' hrule => .ok hrule,
    fun h h' schema schema' hmade hmade' => ?_⟩
  obtain ⟨rule, hrule, hschema⟩ := Logged.result_andThen_eq_ok_iff.mp hmade
  obtain ⟨rule', hrule', hschema'⟩ := Logged.result_andThen_eq_ok_iff.mp hmade'
  obtain rfl := Except.ok.inj hschema
  obtain rfl := Except.ok.inj hschema'
  unfold Logged.AgreesUpTo at hrules
  rw [hrule, hrule'] at hrules
  have hsame : rule.withoutMessages = rule'.withoutMessages := Except.ok.inj hrules
  have hworded := Rule.isWorded_ofDefinition hrule default
  have hworded' := Rule.isWorded_ofDefinition hrule' default
  have hwords := Overrides.areWords_ofEntries h
  have hwords' := Overrides.areWords_ofEntries h'
  exact ⟨parsesAlike_of_withoutMessages rfl rfl hwords hwords' hworded hworded' hsame,
    parsesAlike_of_withoutMessages rfl rfl hwords hwords' hworded hworded' hsame⟩

/-- A definition of a name with a least length. -/
def shortest : Value :=
  .map [(.text "name", .map [(.text "type", .canonical .string), (.text "minlength", .int 3)])]

/-- Words for names that are too short. -/
def shortestWords : Entries := [(.text "name.minlength", .text "Too short")]

/-- The schema of the definition under overrides. -/
def shortestSchema (overrides : Overrides) : ValidationSchema where
  rule := .ofFields [(.plain "name", .ofKind .string [.bounds .length (.int 3) .null
    (overrides.orElse (.plain "name") "minlength" "name must be at least 3 characters")])]
  options := ⟨true, overrides⟩

theorem ofDefinition_shortest (overrides : Overrides) :
    (ofDefinition ⟨true, overrides⟩ shortest).result = .ok (shortestSchema overrides) := by
  refine Logged.result_andThen_eq_ok_iff.mpr ⟨(shortestSchema overrides).rule,
    Logged.result_andThen_eq_ok_iff.mpr ⟨_, rfl, ?_⟩, rfl⟩
  rw [Rule.ofParts, Rule.ofForms, Rule.ofForms, Rule.ofForm]
  unfold Rule.ofType
  rfl

/-- The issue of a short name, in the words that a schema has for it. -/
def shortestIssue (words : String) : Issue where
  path := [.field "name"]
  message := .text words
  code := .text "too_small"
  input := .text "ab"
  expected := .text "string"

/-- A short name is rejected in both words, and what one schema says of it is known from the
other but for the words. -/
theorem parse_agrees_under_overrides_shortest :
    (∀ entry ∈ shortestWords, entry.2.isText = true) ∧
      (∀ entry ∈ ([] : Entries), entry.2.isText = true) ∧
      (shortestSchema (.ofEntries shortestWords)).ParsesAlike (shortestSchema (.ofEntries [])) ∧
      ((shortestSchema (.ofEntries shortestWords)).parse
          (.map [(.text "name", .text "ab")]) .empty).1.result =
        .error (.rejected ⟨[shortestIssue "Too short"]⟩) ∧
      ((shortestSchema (.ofEntries [])).parse (.map [(.text "name", .text "ab")]) .empty).1.result =
        .error (.rejected ⟨[shortestIssue "name must be at least 3 characters"]⟩) := by
  have hwords : ∀ entry ∈ shortestWords, entry.2.isText = true := by decide
  have hnone : ∀ entry ∈ ([] : Entries), entry.2.isText = true := List.forall_mem_nil _
  refine ⟨hwords, hnone, ?_, by with_unfolding_all rfl, by with_unfolding_all rfl⟩
  exact ((parse_agrees_under_overrides shortestWords [] true shortest).2 hwords hnone _ _
    (ofDefinition_shortest _) (ofDefinition_shortest _)).1

/-- Words that no coding has change more than words: the short name is rejected for another reason,
under which the kind that is expected is not told. -/
theorem parse_shortest_of_broken (broken : BrokenText) :
    ((shortestSchema (.ofEntries [(.text "name.minlength", .brokenText broken)])).parse
        (.map [(.text "name", .text "ab")]) .empty).1.result =
      .error (.rejected ⟨[{
        path := [.field "name"]
        message := .text ("Value error, " ++ broken.refusal)
        code := .text "value_error"
        input := .text "ab" }]⟩) := by
  have hcheck : ((shortestSchema (.ofEntries [(.text "name.minlength", .brokenText broken)])).check
      (.map [(.text "name", .text "ab")]) .empty).1 =
        .ok (.rejected [(Rule.refusalOf (.text "ab") broken.refusal).under (.field "name")]) := by
    with_unfolding_all rfl
  rw [result_parse, hcheck, Parsed.ofVerdict, List.map_singleton, Rule.toIssue_refusalOf]

end ValidationSchema

end FieldSchema
