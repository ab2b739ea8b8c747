import FieldSchema.Proofs.Validation.Provenance
import FieldSchema.Proofs.Validation.Wording

/-!
# Words of rejected values

A refinement that rejects a value has words for it, and the issue that callers see has these words
with parts of the rejection filled in: where the words hold one of a few placeholders, in braces,
they have the code, the expectation or the format of the rejection in its place.  So the issue has
the words as they are stored as long as they hold no placeholder.  Words come from names of fields,
from allowed values and from overrides, and nothing keeps placeholders out of these.

Every issue with one of the codes that only refinements have is traced to a refinement at its path
that has rejected a value, and whose words are those of the override for its field, if there is one.

* `Rejection.placeholders`, `Rule.fillMessage_eq_self`: words that stay as they are.
* `Rule.HasRefinementAt`: the refinements of a rule and of its parts, by the paths of findings.
* `ValidationSchema.parse_rejected_in_stored_words`: the words of issues.
-/

namespace FieldSchema

/-! ## Placeholders -/

namespace Text

theorem replaceChars_of_not_occur {part new text : List Char} (h : charsOccurIn part text = false) :
    replaceChars part new 0 text = text := by
  induction text with
  | nil => rfl
  | cons c rest ih =>
    obtain ⟨hhere, hlater⟩ := Bool.or_eq_false_iff.mp h
    rw [replaceChars, hhere, ih hlater]
    rfl

/-- A text that does not hold a part stays as it is when the part is replaced. -/
theorem replaceAll_of_not_occurs {part new text : String} (h : occursIn part text = false) :
    replaceAll part new text = text := by
  unfold replaceAll
  split
  · rfl
  · rw [replaceChars_of_not_occur h, String.ofList_toList]

end Text

/-- What is filled in when the words of a rejection hold it. -/
def Rejection.placeholders (rejection : Rejection) : List String :=
  "\x7berror_code\x7d" :: (rejection.expected.toList.map fun _ => "\x7bexpected\x7d") ++
    rejection.format.toList.map fun _ => "\x7bformat\x7d"

/-- Words without placeholders stay as they are. -/
theorem Rule.fillMessage_eq_self {rejection : Rejection} {words : String}
    (h : ∀ part ∈ rejection.placeholders, Text.occursIn part words = false) :
    fillMessage rejection words = words := by
  obtain ⟨hrest, hformat⟩ := List.forall_mem_append.mp h
  obtain ⟨hcode, hexpected⟩ := List.forall_mem_cons.mp hrest
  have hfillExpected : rejection.expected.elim words
      (fun part => Text.replaceAll "\x7bexpected\x7d" part words) = words := by
    cases hpart : rejection.expected with
    | none => rfl
    | some part =>
      rw [hpart] at hexpected
      exact Text.replaceAll_of_not_occurs (hexpected _ (List.mem_singleton_self _))
  have hfillFormat : rejection.format.elim words
      (fun part => Text.replaceAll "\x7bformat\x7d" part words) = words := by
    cases hpart : rejection.format with
    | none => rfl
    | some part =>
      rw [hpart] at hformat
      exact Text.replaceAll_of_not_occurs (hformat _ (List.mem_singleton_self _))
  unfold fillMessage
  rw [Text.replaceAll_of_not_occurs hcode]
  dsimp only
  rw [hfillExpected, hfillFormat]

/-! ## Codes of refinements -/

namespace Refinement

/-- The codes of issues that only refinements have. -/
def codes : List String := ["too_small", "too_big", "invalid_format", "invalid_value"]

/-- A value of the kind that a refinement is about has what it looks at. -/
theorem isSome_of?_of_holds {measure : Measure} {v : Value} (h : measure.ruleKind.Holds v) :
    (measure.of? v).isSome = true := by
  cases measure with
  | length =>
    obtain ⟨text, rfl⟩ := h
    rfl
  | number => exact h
  | count =>
    obtain ⟨items, rfl⟩ := h
    rfl

/-- A refinement rejects values of its kind in words of its own and under a code of refinements. -/
theorem rejects_of_check {r : Refinement} {v : Value} {rejection : Rejection}
    (hkind : r.ruleKind.Holds v) (h : r.check v = .ok (some rejection)) :
    rejection.constraint ∈ codes ∧ rejection.message ∈ r.messages := by
  have hformats : ∀ {text : String}, r.checkText text = .ok (some rejection) →
      rejection.constraint ∈ codes ∧ rejection.message ∈ r.messages := by
    intro text htext
    refine ⟨?_, message_of_checkText htext⟩
    rcases constraint_of_checkText htext with hcode | hcode <;> rw [hcode] <;> decide
  unfold check at h
  split at h
  · rename_i measure least most message
    obtain ⟨size, hsize⟩ := Option.isSome_iff_exists.mp (isSome_of?_of_holds hkind)
    rw [hsize] at h
    refine ⟨?_, List.mem_singleton.mpr (message_of_checkBounds h)⟩
    rcases constraint_of_checkBounds h with hcode | hcode <;> rw [hcode] <;> decide
  · rename_i hother
    have htext : ∃ text, v = .text text := by
      cases r with
      | bounds measure least most message => exact absurd rfl (hother measure least most message)
      | _ => exact hkind
    obtain ⟨text, rfl⟩ := htext
    exact hformats h

end Refinement

/-- Refinements have other codes than the check of a kind. -/
theorem RuleKind.not_mem_codes_of_check {kind : RuleKind} {v : Value} {finding : Finding}
    (h : finding ∈ (kind.check v).findings) : finding.kind.text ∉ Refinement.codes := by
  have hother : ∀ kind ∈ findingKinds, kind.text ∉ Refinement.codes := by decide
  have hown := findsOwn_check kind v
  revert h hown
  cases kind.check v with
  | accepted a => exact fun h => absurd h List.not_mem_nil
  | rejected list => exact fun h hown => hother _ (hown.2 finding h)

/-! ## Refinements at paths -/

namespace Rule

/-- A refinement of a rule, or of a part that the path of a finding leads to, with the name of its
field.  The items of an array go by the name of the array. -/
inductive HasRefinementAt : TextValue → Rule → Path → TextValue → Refinement → Prop
  | own {field : TextValue} {rule : Rule} {r : Refinement} (hr : r ∈ rule.facts.refinements) :
    HasRefinementAt field rule [] field r
  | item {field name : TextValue} {facts : RuleFacts} {item : Rule} {path : Path} {r : Refinement}
    (index : Nat) (h : HasRefinementAt field item path name r) :
    HasRefinementAt field (.array facts item) (.index index :: path) name r
  | given {field name : TextValue} {facts : RuleFacts} {fields : List (TextValue × Rule)}
    {part : TextValue × Rule} {path : Path} {r : Refinement} (hpart : part ∈ fields)
    (h : HasRefinementAt part.1 part.2 path name r) :
    HasRefinementAt field (.object facts fields) (.field part.1.text :: path) name r
  | made {field name : TextValue} {facts : RuleFacts} {fields : List (TextValue × Rule)}
    {part : TextValue × Rule} {index : Nat} {path : Path} {r : Refinement}
    (hpart : fields[index]? = some part) (hdefault : part.2.facts.default?.isSome = true)
    (h : HasRefinementAt part.1 part.2 path name r) :
    HasRefinementAt field (.object facts fields) (.field (placeName index) :: path) name r

/-- The refinements of a rule have the words for the field that they are found for. -/
theorem HasRefinementAt.isWorded {overrides : Overrides} {field name : TextValue} {rule : Rule}
    {path : Path} {r : Refinement} (h : HasRefinementAt field rule path name r)
    (hrule : rule.IsWorded overrides field) : r.IsWorded overrides name := by
  induction h with
  | own hr => exact hrule.facts _ hr
  | item index h ih =>
    cases hrule with
    | array _ hitem => exact ih hitem
  | given hpart h ih =>
    cases hrule with
    | object _ hfields => exact ih (hfields _ hpart)
  | made hpart hdefault h ih =>
    cases hrule with
    | object _ hfields => exact ih (hfields _ (List.mem_of_getElem? hpart))

end Rule

/-- A finding says what a rejection says, with the words of the rejection filled in. -/
structure Finding.Tells (finding : Finding) (rejection : Rejection) : Prop where
  kind : finding.kind = .plain rejection.constraint
  message : ∃ words, Rule.messageOf rejection = .ok words ∧
    finding.message = some (.text (Rule.fillMessage rejection words))
  expected : finding.expected = .ofText? rejection.expected
  format : finding.format = .ofText? rejection.format

theorem Finding.Tells.under {finding : Finding} {rejection : Rejection}
    (h : finding.Tells rejection) (segment : PathSegment) :
    (finding.under segment).Tells rejection :=
  ⟨h.kind, h.message, h.expected, h.format⟩

namespace Rule

theorem tells_of_findingOf {input : Value} {rejection : Rejection} {finding : Finding}
    (h : findingOf input rejection = .ok finding) :
    finding.path = [] ∧ finding.Tells rejection := by
  obtain ⟨words, hwords, h⟩ := Logged.bind_eq_ok_iff.mp h
  obtain rfl := Except.ok.inj h
  exact ⟨rfl, rfl, ⟨words, hwords, rfl⟩, rfl, rfl⟩

/-- A finding under a code of refinements comes from a refinement at its path that has rejected a
value in words of its own. -/
theorem exists_refinement_of_reports {policy : ObjectPolicy} {rule : Rule} {finding : Finding}
    (h : rule.Reports policy finding) (hrule : rule.IsWellFormed)
    (hcode : finding.kind.text ∈ Refinement.codes) (field : TextValue) :
    ∃ name r v rejection, HasRefinementAt field rule finding.path name r ∧
      r.check v = .ok (some rejection) ∧ rejection.message ∈ r.messages ∧
      finding.Tells rejection := by
  induction h generalizing field with
  | kind v h =>
    exact absurd hcode (RuleKind.not_mem_codes_of_check h)
  | @rejected rule r v rejection input finding hr hkind hcheck hfinding =>
    obtain ⟨hpath, htells⟩ := tells_of_findingOf hfinding
    rw [← hrule.fits.ruleKind_eq r hr] at hkind
    rw [hpath]
    exact ⟨field, r, v, rejection, .own hr, hcheck, (Refinement.rejects_of_check hkind hcheck).2,
      htells⟩
  | refused => exact absurd hcode (show "value_error" ∉ Refinement.codes by decide)
  | notAList => exact absurd hcode (show "list_type" ∉ Refinement.codes by decide)
  | notAnObject => exact absurd hcode (show "model_type" ∉ Refinement.codes by decide)
  | missing => exact absurd hcode (show "missing" ∉ Refinement.codes by decide)
  | notMade => exact absurd hcode (show "default_factory_not_called" ∉ Refinement.codes by decide)
  | strange entries h =>
    rcases kind_of_mem_strangeKeys h with ⟨hkind, -⟩ | hkind <;> rw [hkind] at hcode
    · exact absurd hcode (show "extra_forbidden" ∉ Refinement.codes by decide)
    · exact absurd hcode (show "invalid_key" ∉ Refinement.codes by decide)
  | item index h ih =>
    cases hrule with
    | array _ hitem =>
      obtain ⟨name, r, v, rejection, hat, hcheck, hmessage, htells⟩ := ih hitem hcode field
      exact ⟨name, r, v, rejection, .item index hat, hcheck, hmessage, htells.under _⟩
  | given hfield h ih =>
    cases hrule with
    | object _ _ hfields =>
      obtain ⟨name, r, v, rejection, hat, hcheck, hmessage, htells⟩ :=
        ih (hfields _ hfield) hcode _
      exact ⟨name, r, v, rejection, .given hfield hat, hcheck, hmessage, htells.under _⟩
  | made hfield hdefault h ih =>
    cases hrule with
    | object _ _ hfields =>
      obtain ⟨name, r, v, rejection, hat, hcheck, hmessage, htells⟩ :=
        ih (hfields _ (List.mem_of_getElem? hfield)) hcode _
      exact ⟨name, r, v, rejection, .made hfield hdefault hat, hcheck, hmessage, htells.under _⟩

end Rule

/-! ## Issues -/

/-- The issue under a code of refinements has the words of its finding. -/
theorem Finding.Tells.toIssue_eq {finding : Finding} {rejection : Rejection}
    (h : finding.Tells rejection) (hcode : rejection.constraint ∈ Refinement.codes)
    (expectedAt : Path → Option String) (overrides : Overrides) :
    finding.toIssue expectedAt overrides =
      ⟨finding.path, finding.message.getD (.text validationFailed), .text rejection.constraint,
        finding.input, .ofText? rejection.expected, .ofText? rejection.format⟩ := by
  have hplain : ∀ code ∈ Refinement.codes, (code == "missing") = false ∧
      (code == "extra_forbidden") = false ∧
      "_type".toList.isSuffixOf code.toList = false := by decide
  obtain ⟨hcodeMissing, hcodeExtra, hcodeWrong⟩ := hplain _ hcode
  have hmissing : finding.isMissing = false := by rw [isMissing, h.kind]; exact hcodeMissing
  have hextra : finding.isExtra = false := by rw [isExtra, h.kind]; exact hcodeExtra
  have hwrong : finding.isWrongType = false := by rw [isWrongType, h.kind]; exact hcodeWrong
  unfold Finding.toIssue
  rw [hmissing, hextra, hwrong, h.kind, h.expected, h.format]
  rfl

/-- The kind of a finding with an issue under a code of refinements. -/
theorem Finding.kind_of_code_toIssue {finding : Finding} {code : String}
    {expectedAt : Path → Option String} {overrides : Overrides} (hcode : code ∈ Refinement.codes)
    (h : (finding.toIssue expectedAt overrides).code = .text code) : finding.kind.text = code := by
  have hplain : ∀ code ∈ Refinement.codes, code ≠ "invalid_type" ∧ code ≠ "unrecognized_keys" := by
    decide
  obtain ⟨htype, hkeys⟩ := hplain _ hcode
  unfold Finding.toIssue at h
  dsimp only at h
  split at h
  · exact absurd (Value.text.inj h).symm htype
  · split at h
    · exact absurd (Value.text.inj h).symm hkeys
    · split at h
      · exact absurd (Value.text.inj h).symm htype
      · have htext := congrArg Value.asText? h
        rw [Value.asText?_ofTextValue] at htext
        exact Option.some.inj htext

namespace ValidationSchema

/-- **The words of rejected values.**  Every issue of a schema, or of its partial schema, under a
code of refinements comes from a refinement at its path that has rejected a value.  The refinement
has the words of the override for its field, if there is one, and else its own.  The issue has the
words of the refinement with the parts of the rejection filled in, and the words as they are stored
when they hold no placeholder. -/
theorem parse_rejected_in_stored_words {messages : Entries}
    (htexts : ∀ entry ∈ messages, entry.2.isText = true) {strict : Bool} {definition : Value}
    (hkeys : definition.IsWellKeyed) {schema view : ValidationSchema}
    (hmade : (ofDefinition ⟨strict, .ofEntries messages⟩ definition).result = .ok schema)
    (hview : view = schema ∨ view = schema.asPartial) {data : Value} {history : CallHistory}
    {r : Rejected} (hparse : (view.parse data history).1.result = .error (.rejected r)) :
    ∀ issue ∈ r.issues, ∀ code ∈ Refinement.codes, issue.code = .text code →
      ∃ name refinement v rejection words,
        schema.rule.HasRefinementAt (.plain "") issue.path name refinement ∧
        refinement.IsWorded (.ofEntries messages) name ∧
        refinement.check v = .ok (some rejection) ∧ rejection.constraint = code ∧
        rejection.message ∈ refinement.messages ∧ rejection.message.asText? = some words ∧
        issue.expected = .ofText? rejection.expected ∧ issue.format = .ofText? rejection.format ∧
        issue.message = .text (Rule.fillMessage rejection words) ∧
        ((∀ part ∈ rejection.placeholders, Text.occursIn part words = false) →
          issue.message = .text words) := by
  obtain ⟨rule, hrule, hschema⟩ := Logged.result_andThen_eq_ok_iff.mp hmade
  obtain rfl := Except.ok.inj hschema
  obtain ⟨hwell, forms, fields, -, hfields, -⟩ := Rule.isWellFormed_ofDefinition hrule hkeys
  have hworded := Rule.isWorded_ofDefinition hrule (.plain "")
  have hviewRule : view.rule = rule := by rcases hview with rfl | rfl <;> rfl
  intro issue hissue code hcode hissueCode
  obtain ⟨finding, hreports, rfl⟩ := exists_of_issue (hviewRule.trans hfields)
    (hviewRule.symm ▸ hwell) hparse issue hissue
  have hkind := Finding.kind_of_code_toIssue hcode hissueCode
  rw [hviewRule] at hreports
  obtain ⟨name, refinement, v, rejection, hat, hcheck, hmessage, htells⟩ :=
    Rule.exists_refinement_of_reports hreports hwell (hkind.symm ▸ hcode) (.plain "")
  have hconstraint : rejection.constraint = code := by
    rw [htells.kind] at hkind
    exact hkind
  have hnamed := hat.isWorded hworded
  -- The words are there, so nothing stands in for them.
  obtain ⟨words, htext, hwords⟩ := Rule.messageOf_eq_ok
    (hnamed.isWords (Overrides.areWords_ofEntries htexts) _ hmessage)
  obtain ⟨words', hwords', hfinding⟩ := htells.message
  obtain rfl := Except.ok.inj (hwords.symm.trans hwords')
  rw [htells.toIssue_eq (hconstraint.symm ▸ hcode), hfinding]
  exact ⟨name, refinement, v, rejection, words, hat, hnamed, hcheck, hconstraint, hmessage, htext,
    rfl, rfl, rfl, fun hplain => congrArg Value.text (Rule.fillMessage_eq_self hplain)⟩

/-- A definition of a field that has the name of a placeholder, with a least length. -/
def braced : Value :=
  .map [(.text "\x7bexpected\x7d",
    .map [(.text "type", .canonical .string), (.text "minlength", .int 3)])]

/-- Its schema.  The words of the bound hold the placeholder. -/
def bracedSchema : ValidationSchema where
  rule := .ofFields [(.plain "\x7bexpected\x7d", .ofKind .string [.bounds .length (.int 3) .null
    (.text "\x7bexpected\x7d must be at least 3 characters")])]
  options := ⟨false, .ofEntries []⟩

theorem ofDefinition_braced :
    (ofDefinition ⟨false, .ofEntries []⟩ braced).result = .ok bracedSchema := by
  refine Logged.result_andThen_eq_ok_iff.mpr ⟨bracedSchema.rule,
    Logged.result_andThen_eq_ok_iff.mpr ⟨_, rfl, ?_⟩, rfl⟩
  rw [Rule.ofParts, Rule.ofForms, Rule.ofForms, Rule.ofForm]
  unfold Rule.ofType
  with_unfolding_all rfl

/-- The issue of a text that is too short for the field, which it no longer names. -/
def bracedIssue : Issue where
  path := [.field "\x7bexpected\x7d"]
  message := .text "string must be at least 3 characters"
  code := .text "too_small"
  input := .text "a"
  expected := .text "string"

/-- The name of the field is taken for a placeholder: its issue has the stored words with the
expectation in the place of the name. -/
theorem parse_rejected_in_stored_words_braced :
    (∀ entry ∈ ([] : Entries), entry.2.isText = true) ∧ braced.IsWellKeyed ∧
      (ofDefinition ⟨false, .ofEntries []⟩ braced).result = .ok bracedSchema ∧
      (bracedSchema.parse (.map [(.text "\x7bexpected\x7d", .text "a")]) .empty).1.result =
        .error (.rejected ⟨[bracedIssue]⟩) ∧
      ∃ name refinement v rejection words,
        bracedSchema.rule.HasRefinementAt (.plain "") bracedIssue.path name refinement ∧
        refinement.IsWorded (.ofEntries []) name ∧
        refinement.check v = .ok (some rejection) ∧ rejection.constraint = "too_small" ∧
        rejection.message ∈ refinement.messages ∧ rejection.message.asText? = some words ∧
        bracedIssue.message = .text (Rule.fillMessage rejection words) := by
  have hnone : ∀ entry ∈ ([] : Entries), entry.2.isText = true := List.forall_mem_nil _
  have hkeys : braced.IsWellKeyed := by
    simp [braced, Value.IsWellKeyed, Value.EntriesAreWellKeyed, Entries.HasDistinctKeys,
      Value.equals, Value.asText?]
  have hparse : (bracedSchema.parse (.map [(.text "\x7bexpected\x7d", .text "a")])
      .empty).1.result = .error (.rejected ⟨[bracedIssue]⟩) := by
    with_unfolding_all rfl
  obtain ⟨name, refinement, v, rejection, words, hat, hworded, hcheck, hcode, hmessage, htext,
    -, -, hfilled, -⟩ := parse_rejected_in_stored_words hnone hkeys ofDefinition_braced (.inl rfl)
      hparse bracedIssue List.mem_cons_self "too_small" (by decide) rfl
  exact ⟨hnone, hkeys, ofDefinition_braced, hparse, name, refinement, v, rejection, words, hat,
    hworded, hcheck, hcode, hmessage, htext, hfilled⟩

end ValidationSchema

end FieldSchema
