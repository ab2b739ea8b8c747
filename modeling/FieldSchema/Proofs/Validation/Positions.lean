import FieldSchema.Proofs.Validation.Provenance
import FieldSchema.Proofs.Validation.TextKeys

/-!
# One issue at a position

An issue is about one position of the input, and what is wrong there is said once: nothing else is
reported at the position or below it.  The check of a kind comes first, refinements are asked only
when it and the parts had nothing to say, the first of them that fails counts, and the parts of a
value are told apart by the steps to them.

There is one exception.  What is wrong with a default is reported under the place of its field among
its siblings, written as a name, instead of under its name; and such a name may be taken.  Then the
issues of two fields meet, or those of a field and of a key that a strict schema does not know
(`Rule.Clash`).

* `Path.Meets`: paths of which one leads to the other or through it.
* `Rule.Clash`: where the issues of a rule may meet.
* `Finding.Apart`: findings whose paths do not meet, with the ways to put such lists together.
* `Rule.findsApart`: the findings of a rule, by induction on the rule.
* `ValidationSchema.parse_issues_apart`: the issues of whole inputs.
-/

namespace FieldSchema

/-! ## Paths -/

namespace Path

/-- One of two paths leads to the other one or through it. -/
def Meets (p q : Path) : Prop := p <+: q ∨ q <+: p

theorem meets_cons_iff {step other : PathSegment} {p q : Path} :
    Meets (step :: p) (other :: q) ↔ step = other ∧ Meets p q := by
  unfold Meets
  rw [List.cons_prefix_cons, List.cons_prefix_cons]
  constructor
  · rintro (⟨rfl, h⟩ | ⟨rfl, h⟩)
    · exact ⟨rfl, .inl h⟩
    · exact ⟨rfl, .inr h⟩
  · rintro ⟨rfl, h | h⟩
    · exact .inl ⟨rfl, h⟩
    · exact .inr ⟨rfl, h⟩

end Path

/-! ## Lists of findings -/

namespace Finding

/-- No two findings have paths that meet, unless the paths clash. -/
def Apart (C : Path → Path → Prop) (findings : List Finding) : Prop :=
  findings.Pairwise fun first second => first.path.Meets second.path → C first.path second.path

variable {C D : Path → Path → Prop} {findings more : List Finding}

theorem apart_nil : Apart C [] := .nil

theorem apart_singleton (finding : Finding) : Apart C [finding] := List.pairwise_singleton _ _

/-- Findings after others are apart when none of them meets one of the others. -/
theorem Apart.append (h : Apart C findings) (hmore : Apart C more)
    (hcross : ∀ first ∈ findings, ∀ second ∈ more, first.path.Meets second.path →
      C first.path second.path) : Apart C (findings ++ more) :=
  List.pairwise_append.mpr ⟨h, hmore, hcross⟩

/-- A step in front of all findings keeps them apart. -/
theorem Apart.map_under (h : Apart C findings) {step : PathSegment}
    (hstep : ∀ p q, C p q → D (step :: p) (step :: q)) :
    Apart D (findings.map (Finding.under step)) := by
  refine List.pairwise_map.mpr (h.imp fun {first second} hclash hmeets => ?_)
  exact hstep _ _ (hclash (Path.meets_cons_iff.mp hmeets).2)

theorem Apart.mono (h : Apart C findings) (hC : ∀ p q, C p q → D p q) : Apart D findings :=
  h.imp fun hclash hmeets => hC _ _ (hclash hmeets)

end Finding

namespace Rule

/-! ## Clashes -/

/-- Where the issues of a rule may meet, if its policy is strict or not: the place of a field with
a default is the name of another field, or a key that no field has. -/
inductive Clash (strict : Bool) : Rule → Path → Path → Prop
  | sibling {facts : RuleFacts} {fields : List (TextValue × Rule)} {made named : TextValue × Rule}
    {index other : Nat} (hmade : fields[index]? = some made)
    (hdefault : made.2.facts.default?.isSome = true) (hnamed : fields[other]? = some named)
    (hother : other ≠ index) (hname : named.1.text = placeName index) (p q : Path) :
    Clash strict (.object facts fields) (.field (placeName index) :: p)
      (.field (placeName index) :: q)
  | strange {facts : RuleFacts} {fields : List (TextValue × Rule)} {made : TextValue × Rule}
    {index : Nat} (hstrict : strict = true) (hmade : fields[index]? = some made)
    (hdefault : made.2.facts.default?.isSome = true) (hname : placeName index ∉ fieldTexts fields)
    (p : Path) :
    Clash strict (.object facts fields) (.field (placeName index) :: p)
      [.field (placeName index)]
  | item {facts : RuleFacts} {item : Rule} {p q : Path} (index : Nat) (h : Clash strict item p q) :
    Clash strict (.array facts item) (.index index :: p) (.index index :: q)
  | given {facts : RuleFacts} {fields : List (TextValue × Rule)} {field : TextValue × Rule}
    {p q : Path} (hfield : field ∈ fields) (h : Clash strict field.2 p q) :
    Clash strict (.object facts fields) (.field field.1.text :: p) (.field field.1.text :: q)
  | made {facts : RuleFacts} {fields : List (TextValue × Rule)} {field : TextValue × Rule}
    {index : Nat} {p q : Path} (hfield : fields[index]? = some field)
    (hdefault : field.2.facts.default?.isSome = true) (h : Clash strict field.2 p q) :
    Clash strict (.object facts fields) (.field (placeName index) :: p)
      (.field (placeName index) :: q)

/-! ## Single values -/

variable {policy : ObjectPolicy} {C : Path → Path → Prop}

/-- The first refinement that fails is the only one that is reported. -/
theorem apart_of_checkRefinements {input v : Value} {refinements : List Refinement}
    {verdict : Verdict Value} (h : checkRefinements input refinements v = .ok verdict) :
    Finding.Apart C verdict.findings := by
  induction refinements generalizing v with
  | nil =>
    obtain rfl := Except.ok.inj h
    exact Finding.apart_nil
  | cons r rest ih =>
    rw [checkRefinements] at h
    split at h
    · exact ih h
    · split at h
      · obtain rfl := Except.ok.inj h
        exact Finding.apart_singleton _
      · obtain ⟨finding, -, h⟩ := Logged.bind_eq_ok_iff.mp h
        obtain rfl := Except.ok.inj h
        exact Finding.apart_singleton _
    · split at h
      · obtain rfl := Except.ok.inj h
        exact Finding.apart_singleton _
      · contradiction

/-- Refinements are asked only when nothing was found before. -/
theorem apart_of_gives_refineVerdict {input : Value} {refinements : List Refinement}
    {found verdict : Verdict Value} (hfound : Finding.Apart C found.findings)
    (h : (refineVerdict input refinements found).Gives verdict) :
    Finding.Apart C verdict.findings := by
  cases found with
  | accepted v => exact apart_of_checkRefinements (Checking.eq_ok_of_gives_ofExcept h)
  | rejected list =>
    obtain rfl := Checking.gives_value_iff.mp h
    exact hfound

end Rule

/-! ## Kinds -/

theorem Value.keySegment_of_asText? {key : Value} {name : String} (h : key.asText? = some name) :
    key.keySegment = .field name := by
  cases key <;> first | contradiction | (obtain rfl := Option.some.inj h; rfl)

theorem Value.keyText_of_asText? {key : Value} {name : String} (h : key.asText? = some name) :
    key.keyText = .accepted name := by
  cases key <;> first | contradiction | (obtain rfl := Option.some.inj h; rfl)

namespace RuleKind

variable {C : Path → Path → Prop} {checkValue : Value → Verdict Value}

/-- What is found in a mapping with texts as keys is found on its values. -/
theorem findings_checkEntries {entries : Entries}
    (htexts : ∀ entry ∈ entries, entry.1.isText = true) :
    (checkEntries checkValue entries).findings = entries.flatMap fun entry =>
      (checkValue entry.2).findings.map (Finding.under entry.1.keySegment) := by
  induction entries with
  | nil => rfl
  | cons entry rest ih =>
    obtain ⟨hentry, hrest⟩ := List.forall_mem_cons.mp htexts
    obtain ⟨name, hname⟩ := Option.isSome_iff_exists.mp hentry
    simp only [checkEntries, List.flatMap_cons, Verdict.findings_both, ih hrest,
      Value.keyText_of_asText? hname, Verdict.findings_under]
    rfl

/-- Values under different texts are reported apart. -/
theorem apart_checkMapping (hvalue : ∀ v, Finding.Apart C (checkValue v).findings)
    (hstep : ∀ step p q, C p q → C (step :: p) (step :: q)) {v : Value} (hv : v.HasTextKeys) :
    Finding.Apart C (checkMapping checkValue v).findings := by
  unfold checkMapping
  split
  · rename_i entries
    obtain ⟨hkeys, -⟩ := Value.hasTextKeys_map_iff.mp hv
    rw [Verdict.findings_map, findings_checkEntries hkeys.texts]
    refine List.pairwise_flatMap.mpr ⟨fun entry _ => (hvalue entry.2).map_under (hstep _), ?_⟩
    refine hkeys.pairwise.imp fun {first second} hnames => ?_
    obtain ⟨name, name', hname, hname', hne⟩ := hnames
    rintro _ hbelow _ hbelow' hmeets
    obtain ⟨below, -, rfl⟩ := List.mem_map.mp hbelow
    obtain ⟨below', -, rfl⟩ := List.mem_map.mp hbelow'
    have hsame := (Path.meets_cons_iff.mp hmeets).1
    rw [Value.keySegment_of_asText? hname, Value.keySegment_of_asText? hname'] at hsame
    exact absurd (PathSegment.field.inj hsame) hne
  · exact Finding.apart_singleton _

/-- The check of a kind reports a value once, or what is in it. -/
theorem apart_check {kind : RuleKind} {v : Value} (hv : v.HasTextKeys) :
    Finding.Apart C (kind.check v).findings := by
  have htext : ∀ v, Finding.Apart (fun _ _ => False) (checkText v).findings := by
    intro v
    unfold checkText
    split
    · exact Finding.apart_nil
    · exact Finding.apart_singleton _
  refine Finding.Apart.mono (C := fun _ _ => False) ?_ fun _ _ => False.elim
  cases kind with
  | any => exact Finding.apart_nil
  | string => exact htext v
  | object => exact apart_checkMapping (fun _ => Finding.apart_nil) (fun _ _ _ => id) hv
  | map => exact apart_checkMapping htext (fun _ _ _ => id) hv
  | date =>
    show Finding.Apart _ (checkDate v).findings
    unfold checkDate
    split
    · exact Finding.apart_nil
    · exact Finding.apart_nil
    · split
      · split
        · exact Finding.apart_nil
        · exact Finding.apart_singleton _
      · exact Finding.apart_singleton _
  | _ =>
    unfold check
    dsimp only
    split
    · exact Finding.apart_nil
    · exact Finding.apart_singleton _

end RuleKind

/-! ## Parts -/

namespace Rule

variable {policy : ObjectPolicy} {C D : Path → Path → Prop} {path : String} {done index : Nat}

/-- The items of a list are reported one by one, each under its index. -/
theorem apart_of_gives_each {checkItem : Value → Checking (Verdict Value)} {items : List Value}
    (hitem : ∀ v ∈ items, ∀ verdict, (checkItem v).Gives verdict →
      Finding.Apart C verdict.findings)
    (hstep : ∀ (index : Nat) p q, C p q → D (.index index :: p) (.index index :: q))
    {verdict : Verdict (List Value)} (h : (Checking.each checkItem index items).Gives verdict) :
    Finding.Apart D verdict.findings ∧ ∀ finding ∈ verdict.findings, ∃ (place : Nat) (p : Path),
      index ≤ place ∧ finding.path = .index place :: p := by
  induction items generalizing index verdict with
  | nil =>
    obtain rfl := Checking.gives_value_iff.mp h
    exact ⟨Finding.apart_nil, List.forall_mem_nil _⟩
  | cons v rest ih =>
    obtain ⟨hv, hrest⟩ := List.forall_mem_cons.mp hitem
    obtain ⟨first, hfirst, h⟩ := Checking.exists_of_gives_andThen h
    obtain ⟨others, hothers, h⟩ := Checking.exists_of_gives_andThen h
    obtain rfl := Checking.gives_value_iff.mp h
    obtain ⟨hapart, hplaces⟩ := ih hrest hothers
    rw [Verdict.findings_both, Verdict.findings_under]
    refine ⟨((hv first hfirst).map_under (hstep index)).append hapart ?_,
      List.forall_mem_append.mpr ⟨List.forall_mem_map.mpr fun below _ =>
        ⟨index, below.path, le_refl index, rfl⟩, fun finding hfinding => ?_⟩⟩
    · refine List.forall_mem_map.mpr fun below _ second hsecond hmeets => ?_
      obtain ⟨place, p, hplace, hpath⟩ := hplaces second hsecond
      rw [hpath] at hmeets
      obtain ⟨hsame, -⟩ := Path.meets_cons_iff.mp hmeets
      have hindex : index = place := Int.ofNat.inj (PathSegment.index.inj hsame)
      omega
    · obtain ⟨place, p, hplace, hpath⟩ := hplaces finding hfinding
      exact ⟨place, p, by omega, hpath⟩

/-- A finding on a field stands under its name, or under its place if it is on its default. -/
theorem FieldReports.exists_path {R : Finding → Prop} {name : TextValue} {facts : RuleFacts}
    {finding : Finding} (h : FieldReports R name facts index finding) :
    ∃ p, finding.path = .field name.text :: p ∨
      facts.default?.isSome = true ∧ finding.path = .field (placeName index) :: p := by
  cases h with
  | given => exact ⟨_, .inl rfl⟩
  | missing => exact ⟨_, .inl rfl⟩
  | made hdefault => exact ⟨_, .inr ⟨hdefault, rfl⟩⟩
  | notMade hdefault => exact ⟨_, .inr ⟨hdefault, rfl⟩⟩

/-- **Two fields** are reported under different steps, unless the place of one is the name of the
other. -/
theorem clash_of_fieldReports {strict : Bool} {facts : RuleFacts} {fields : List (TextValue × Rule)}
    (hdistinct : (fieldTexts fields).Nodup) {field field' : TextValue × Rule} {other : Nat}
    (hfield : fields[index]? = some field) (hfield' : fields[other]? = some field')
    (hother : index ≠ other) {R R' : Finding → Prop} {first second : Finding}
    (hfirst : FieldReports R field.1 field.2.facts index first)
    (hsecond : FieldReports R' field'.1 field'.2.facts other second)
    (hmeets : first.path.Meets second.path) :
    Clash strict (.object facts fields) first.path second.path := by
  obtain ⟨p, hp⟩ := hfirst.exists_path
  obtain ⟨q, hq⟩ := hsecond.exists_path
  rcases hp with hp | ⟨hdefault, hp⟩ <;> rcases hq with hq | ⟨hdefault', hq⟩ <;>
    rw [hp, hq] at hmeets ⊢ <;>
    have hsame := PathSegment.field.inj (Path.meets_cons_iff.mp hmeets).1
  · -- Names of different fields differ.
    have htexts : (fieldTexts fields)[index]? = (fieldTexts fields)[other]? := by
      rw [fieldTexts, List.getElem?_map, List.getElem?_map, hfield, hfield']
      exact congrArg some hsame
    obtain ⟨hindex, -⟩ := List.getElem?_eq_some_iff.mp hfield
    exact absurd ((List.getElem?_inj (by simpa [fieldTexts] using hindex) hdistinct).mp
      htexts) hother
  · rw [hsame]
    exact .sibling hfield' hdefault' hfield hother hsame p q
  · rw [← hsame]
    exact .sibling hfield hdefault hfield' hother.symm hsame.symm p q
  · exact absurd (placeName_injective hsame) hother

/-! ## Keys that no field has -/

/-- A key that no field has is reported alone, under its text. -/
theorem path_of_strangeKey? {names : List String} {entries : Entries} {entry : Value × Value}
    {name : String} (hentry : entry ∈ entries) (hname : entry.1.asText? = some name)
    {finding : Finding} (h : strangeKey? names entries entry = some finding) :
    name ∉ names ∧ finding.path = [.field name] := by
  unfold strangeKey? at h
  rw [hname] at h
  dsimp only at h
  split at h
  · contradiction
  · rename_i hnames
    obtain rfl := Option.some.inj h
    refine ⟨fun hmem => hnames ?_, rfl⟩
    rw [Bool.and_eq_true, List.contains_iff_mem]
    exact ⟨hmem, Entries.isSome_getText?_of_mem hentry hname⟩

/-- Only a strict policy reports keys. -/
theorem path_of_mem_strangeKeys {names : List String} {entries : Entries}
    (hkeys : entries.IsTextKeyed) {finding : Finding}
    (h : finding ∈ strangeKeys policy names entries) :
    policy.strict = true ∧ ∃ name ∉ names, finding.path = [.field name] := by
  unfold strangeKeys at h
  split at h
  · rename_i hstrict
    obtain ⟨entry, hentry, hstrange⟩ := List.mem_filterMap.mp h
    obtain ⟨name, hname⟩ := Option.isSome_iff_exists.mp (hkeys.texts entry hentry)
    exact ⟨hstrict, name, path_of_strangeKey? hentry hname hstrange⟩
  · cases h

/-- Keys that no field has are reported apart. -/
theorem apart_strangeKeys {names : List String} {entries : Entries} (hkeys : entries.IsTextKeyed) :
    Finding.Apart C (strangeKeys policy names entries) := by
  unfold strangeKeys
  split
  · refine List.pairwise_filterMap.mpr (hkeys.pairwise.imp_of_mem ?_)
    rintro first second hfirst hsecond ⟨name, name', hname, hname', hne⟩ finding hfinding finding'
      hfinding' hmeets
    rw [(path_of_strangeKey? hfirst hname hfinding).2,
      (path_of_strangeKey? hsecond hname' hfinding').2] at hmeets
    exact absurd (PathSegment.field.inj (Path.meets_cons_iff.mp hmeets).1) hne
  · exact Finding.apart_nil

/-- A key that no field has is reported under another step than a field, unless it is the place of
the field. -/
theorem clash_of_mem_strangeKeys {facts : RuleFacts} {fields : List (TextValue × Rule)}
    {field : TextValue × Rule} (hfield : fields[index]? = some field) {R : Finding → Prop}
    {first second : Finding} (hfirst : FieldReports R field.1 field.2.facts index first)
    {entries : Entries} (hkeys : entries.IsTextKeyed)
    (hsecond : second ∈ strangeKeys policy (fieldTexts fields) entries)
    (hmeets : first.path.Meets second.path) :
    Clash policy.strict (.object facts fields) first.path second.path := by
  obtain ⟨hstrict, name, hname, hq⟩ := path_of_mem_strangeKeys hkeys hsecond
  obtain ⟨p, hp | ⟨hdefault, hp⟩⟩ := hfirst.exists_path <;> rw [hp, hq] at hmeets ⊢ <;>
    obtain rfl := PathSegment.field.inj (Path.meets_cons_iff.mp hmeets).1
  · exact absurd (List.mem_map_of_mem (List.mem_of_getElem? hfield)) hname
  · exact .strange hstrict hfield hdefault hname p

/-! ## Rules -/

/-- Whether the findings of a rule are apart on all values whose keys are texts. -/
def FindsApart (policy : ObjectPolicy) (rule : Rule) : Prop :=
  ∀ path done v verdict, v.HasTextKeys → (check policy rule path done v).Gives verdict →
    Finding.Apart (rule.Clash policy.strict) verdict.findings

/-- The findings on a field are those on one value, or a single one. -/
theorem apart_of_gives_checkField {rule : Rule} (hrule : rule.FindsApart policy)
    (hdefault : ∀ default ∈ rule.facts.default?, default.MakesTextKeys) {name : TextValue}
    (hgiven : ∀ p q, rule.Clash policy.strict p q →
      D (.field name.text :: p) (.field name.text :: q))
    (hmade : rule.facts.default?.isSome = true → ∀ p q, rule.Clash policy.strict p q →
      D (.field (placeName index) :: p) (.field (placeName index) :: q))
    {given? : Option Value} (hvalue : ∀ v, given? = some v → v.HasTextKeys)
    {earlier : EarlierFields} (hearlier : earlier.IsPlaced index) {verdict : Verdict (Option Value)}
    (h : (checkField policy path done index earlier name rule given?).Gives verdict) :
    Finding.Apart D verdict.findings := by
  obtain ⟨history, left, h⟩ := h
  rcases suppliedAt_or_omittedAt policy path done index earlier name rule given? history with
    ⟨v, between, hsupplied⟩ | ⟨-, homitted⟩
  · obtain ⟨found, hfound, hown⟩ := hsupplied.exists_verdict h
    have hkeys := hsupplied.hasTextKeys hdefault hvalue hearlier
    have hapart := hrule _ _ v found hkeys ⟨between, left, hfound⟩
    rw [hown]
    rcases hsupplied with ⟨rfl, -⟩ | ⟨rfl, default, hsome, -⟩
    · exact hapart.map_under hgiven
    · exact hapart.map_under (hmade (by rw [hsome]; rfl))
  · rw [h] at homitted
    cases homitted with
    | absent =>
      split
      · exact Finding.apart_nil
      · exact Finding.apart_singleton _
    | notMade => exact Finding.apart_singleton _

/-- What is known of the rules of fields, by induction. -/
structure FieldsFindApart (policy : ObjectPolicy) (fields : List (TextValue × Rule)) : Prop where
  keeps : ∀ field ∈ fields, field.2.KeepsTextKeys policy
  defaults : ∀ field ∈ fields, ∀ default ∈ field.2.facts.default?, default.MakesTextKeys
  apart : ∀ field ∈ fields, field.2.FindsApart policy

theorem fieldsFindApart {facts : RuleFacts} {fields : List (TextValue × Rule)}
    (hfields : ∀ field ∈ fields, field.2.IsWellFormed)
    (hdefaults : (Rule.object facts fields).DefaultsHaveTextKeys)
    (hapart : ∀ field ∈ fields, field.2.FindsApart policy) : FieldsFindApart policy fields where
  keeps field hfield := keepsTextKeys (hfields field hfield) (hdefaults.fields field hfield).2
  defaults field hfield := (hdefaults.fields field hfield).1
  apart := hapart

/-- **The fields of an object** are reported apart but for clashes: of the fields from some place
on, each is reported under its own step. -/
theorem apart_of_gives_checkFields (facts : RuleFacts) {all fields : List (TextValue × Rule)}
    (hdistinct : (fieldTexts all).Nodup) (hall : all.drop index = fields)
    (hfields : FieldsFindApart policy all) {entries : Entries}
    (hentries : ∀ entry ∈ entries, entry.2.HasTextKeys) {earlier : EarlierFields}
    (hearlier : earlier.IsPlaced index) {verdict : Verdict Entries}
    (h : (checkFields policy fields path done index earlier entries).Gives verdict) :
    Finding.Apart (Clash policy.strict (.object facts all)) verdict.findings ∧
      ∀ finding ∈ verdict.findings, ∃ place field, index ≤ place ∧ all[place]? = some field ∧
        FieldReports (fun _ => True) field.1 field.2.facts place finding := by
  induction fields generalizing done index earlier verdict with
  | nil =>
    rw [checkFields] at h
    obtain rfl := Checking.gives_value_iff.mp h
    exact ⟨Finding.apart_nil, List.forall_mem_nil _⟩
  | cons field rest ih =>
    obtain ⟨name, rule⟩ := field
    have hfield : all[index]? = some (name, rule) := by
      rw [← List.head?_drop, hall]
      rfl
    have hmem := List.mem_of_getElem? hfield
    have hdefault := hfields.defaults _ hmem
    have hvalue := Value.hasTextKeys_of_getText? hentries name.text
    rw [checkFields_cons] at h
    obtain ⟨first, hfirst, h⟩ := Checking.exists_of_gives_andThen h
    obtain ⟨others, hothers, h⟩ := Checking.exists_of_gives_andThen h
    obtain rfl := Checking.gives_value_iff.mp h
    have hmade : ∀ w, first = .accepted (some w) → w.HasTextKeys := fun w hw =>
      hasTextKeys_of_gives_checkField (hfields.keeps _ hmem) hdefault hvalue hearlier
        (hw ▸ hfirst)
    have hrecord := hearlier.record hmade (hasValue rule.facts (entries.getText? name.text))
    have hown := apart_of_gives_checkField (D := Clash policy.strict (.object facts all))
      (hfields.apart _ hmem) hdefault (fun p q => .given hmem) (fun hsome p q => .made hfield hsome)
      hvalue hearlier hfirst
    have hreports := findings_of_gives_checkField (R := fun _ => True)
      (fun _ _ _ _ _ => trivial) hfirst
    obtain ⟨hrest, hplaces⟩ := ih (by rw [← List.tail_drop, hall]; rfl) hrecord hothers
    rw [Verdict.findings_both]
    refine ⟨hown.append hrest fun finding hfinding finding' hfinding' hmeets => ?_,
      List.forall_mem_append.mpr ⟨fun finding hfinding =>
        ⟨index, _, le_refl index, hfield, hreports finding hfinding⟩,
        fun finding hfinding => ?_⟩⟩
    · obtain ⟨place, other, hplace, hother, hreports'⟩ := hplaces finding' hfinding'
      exact clash_of_fieldReports hdistinct hfield hother (by omega) (hreports finding hfinding)
        hreports' hmeets
    · obtain ⟨place, other, hplace, hother, hreports'⟩ := hplaces finding hfinding
      exact ⟨place, other, by omega, hother, hreports'⟩

/-- What is found in an object, on its fields and on its keys, is apart but for clashes. -/
theorem apart_of_gives_object (facts : RuleFacts) {fields : List (TextValue × Rule)}
    (hdistinct : (fieldTexts fields).Nodup) (hfields : FieldsFindApart policy fields)
    {entries : Entries} (hentries : (Value.map entries).HasTextKeys) {found : Verdict Entries}
    (h : (checkFields policy fields path done 0 {} entries).Gives found) :
    Finding.Apart (Clash policy.strict (.object facts fields))
      (found.findings ++ strangeKeys policy (fieldTexts fields) entries) := by
  obtain ⟨hkeys, hvalues⟩ := Value.hasTextKeys_map_iff.mp hentries
  obtain ⟨hapart, hplaces⟩ := apart_of_gives_checkFields facts hdistinct rfl hfields
    hvalues EarlierFields.isPlaced_empty h
  refine hapart.append (apart_strangeKeys hkeys) fun finding hfinding other hother hmeets => ?_
  obtain ⟨place, field, -, hfield, hreports⟩ := hplaces finding hfinding
  exact clash_of_mem_strangeKeys hfield hreports hkeys hother hmeets

/-- **The findings of a rule** are apart but for clashes, by induction on the rule. -/
theorem findsApart {rule : Rule} (hrule : rule.IsWellFormed)
    (hdefaults : rule.DefaultsHaveTextKeys) : rule.FindsApart policy := by
  induction hrule with
  | @leaf facts kind hfacts =>
    intro path done v verdict hv h
    rw [check] at h
    exact apart_of_gives_refineVerdict (RuleKind.apart_check hv) h
  | @array facts item hfacts hitem ih =>
    intro path done v verdict hv h
    rw [check] at h
    cases hitems : v.listItems? with
    | none =>
      rw [hitems] at h
      obtain rfl := Checking.gives_value_iff.mp h
      exact Finding.apart_singleton _
    | some items =>
      rw [hitems] at h
      obtain ⟨found, hfound, h⟩ := Checking.exists_of_gives_andThen h
      have hkeys := Value.hasTextKeys_of_listItems? hv hitems
      obtain ⟨hapart, -⟩ := apart_of_gives_each
        (D := Clash policy.strict (.array facts item))
        (fun part hpart verdict => ih hdefaults path done part verdict (hkeys part hpart))
        (fun index p q => .item index) hfound
      refine apart_of_gives_refineVerdict ?_ h
      rwa [Verdict.findings_map]
  | @object facts fields hfacts hdistinct hfields ih =>
    intro path done v verdict hv h
    cases v with
    | map entries =>
      have hparts := fieldsFindApart hfields hdefaults fun field hfield =>
        ih field hfield (hdefaults.fields field hfield).2
      rw [check_object_map (hfacts.eq_nil (by decide))] at h
      obtain ⟨found, hfound, h⟩ := Checking.exists_of_gives_andThen h
      obtain rfl := Checking.gives_value_iff.mp h
      rw [Verdict.findings_map, Verdict.findings_withFindings]
      exact apart_of_gives_object facts hdistinct hparts hv hfound
    | _ =>
      simp only [check] at h
      obtain rfl := Checking.gives_value_iff.mp h
      exact Finding.apart_singleton _

/-! ## Whole inputs -/

/-- Where issues meet does not depend on what a rule says whatever its kind. -/
theorem Clash.withFacts {strict : Bool} {rule : Rule} {p q : Path} (h : rule.Clash strict p q)
    (facts : RuleFacts) : (rule.withFacts facts).Clash strict p q := by
  cases h with
  | sibling hmade hdefault hnamed hother hname p q =>
    exact .sibling hmade hdefault hnamed hother hname p q
  | strange hstrict hmade hdefault hname p => exact .strange hstrict hmade hdefault hname p
  | item index h => exact .item index h
  | given hfield h => exact .given hfield h
  | made hfield hdefault h => exact .made hfield hdefault h

/-- Where nothing is required, issues meet below a field only. -/
theorem Clash.of_relaxFields {strict : Bool} {fields : List (TextValue × Rule)} {p q : Path}
    (h : (ofFields (relaxFields fields)).Clash strict p q) :
    ∃ field ∈ fields, ∃ below below', field.2.Clash strict below below' ∧
      p = .field field.1.text :: below ∧ q = .field field.1.text :: below' := by
  have hnone : ∀ {index : Nat} {field : TextValue × Rule},
      (relaxFields fields)[index]? = some field → field.2.facts.default?.isSome ≠ true := by
    intro index field hfield hsome
    obtain ⟨full, -, rfl⟩ := List.mem_map.mp (List.mem_of_getElem? hfield)
    rw [relaxed, facts_withFacts] at hsome
    cases hsome
  unfold ofFields at h
  cases h with
  | sibling hmade hdefault => exact absurd hdefault (hnone hmade)
  | strange _ hmade hdefault => exact absurd hdefault (hnone hmade)
  | made hfield hdefault => exact absurd hdefault (hnone hfield)
  | given hfield h =>
    obtain ⟨full, hfull, rfl⟩ := List.mem_map.mp hfield
    refine ⟨full, hfull, _, _, ?_, rfl, rfl⟩
    rw [← full.2.withFacts_relaxed]
    exact h.withFacts full.2.facts

/-- Where there is no default, nothing clashes. -/
theorem Clash.innerDefaults_ne_nil {strict : Bool} {rule : Rule} {p q : Path}
    (h : rule.Clash strict p q) : rule.innerDefaults ≠ [] := by
  have hmem : ∀ {fields : List (TextValue × Rule)} {field : TextValue × Rule} {default : Value},
      field ∈ fields → default ∈ field.2.facts.default?.toList ++ field.2.innerDefaults →
        fieldDefaults fields ≠ [] := by
    intro fields field default hfield hdefault
    rw [fieldDefaults_eq]
    exact List.ne_nil_of_mem (List.mem_flatMap.mpr ⟨field, hfield, hdefault⟩)
  have hown : ∀ {fields : List (TextValue × Rule)} {field : TextValue × Rule} {index : Nat},
      fields[index]? = some field → field.2.facts.default?.isSome = true →
        fieldDefaults fields ≠ [] := by
    intro fields field index hfield hsome
    obtain ⟨default, hdefault⟩ := Option.isSome_iff_exists.mp hsome
    exact hmem (List.mem_of_getElem? hfield)
      (List.mem_append_left _ (Option.mem_toList.mpr hdefault))
  induction h with
  | sibling hmade hdefault => exact hown hmade hdefault
  | strange _ hmade hdefault => exact hown hmade hdefault
  | made hfield hdefault => exact hown hfield hdefault
  | item _ _ ih => exact ih
  | given hfield _ ih =>
    obtain ⟨default, hdefault⟩ := List.exists_mem_of_ne_nil _ ih
    exact hmem hfield (List.mem_append_right _ hdefault)

end Rule

namespace ValidationSchema

/-- Where the issues of a schema may meet.  A partial schema makes no defaults for its own fields,
so there they meet below a field only. -/
def Clash (schema : ValidationSchema) (p q : Path) : Prop :=
  if schema.isPartial then
    ∃ field ∈ schema.fields, ∃ below below', field.2.Clash schema.options.strict below below' ∧
      p = .field field.1.text :: below ∧ q = .field field.1.text :: below'
  else schema.rule.Clash schema.options.strict p q

variable {schema : ValidationSchema} {fields : List (TextValue × Rule)}

theorem Clash.innerDefaults_ne_nil {p q : Path} (hrule : schema.rule = .ofFields fields)
    (h : schema.Clash p q) : schema.rule.innerDefaults ≠ [] := by
  unfold Clash at h
  split at h
  · obtain ⟨field, hfield, below, below', hclash, -, -⟩ := h
    rw [ValidationSchema.fields, hrule] at hfield
    have hrules : (Rule.ofFields fields).Clash schema.options.strict
        (.field field.1.text :: below) (.field field.1.text :: below') := .given hfield hclash
    rw [hrule]
    exact hrules.innerDefaults_ne_nil
  · exact h.innerDefaults_ne_nil

/-- The issues of the rule for inputs meet where those of the schema do. -/
theorem Clash.of_inputRule {p q : Path} (h : schema.inputRule.Clash schema.options.strict p q) :
    schema.Clash p q := by
  unfold inputRule at h
  unfold Clash
  split at h
  · rename_i hpartial
    rw [if_pos hpartial]
    exact h.of_relaxFields
  · rename_i hpartial
    rwa [if_neg hpartial]

/-- The findings of a schema are apart but for clashes. -/
theorem apart_of_gives_check (hrule : schema.rule = .ofFields fields)
    (hwell : schema.rule.IsWellFormed) (hdefaults : schema.rule.DefaultsHaveTextKeys) {data : Value}
    (hdata : data.HasTextKeys) {verdict : Verdict Entries} (h : (schema.check data).Gives verdict) :
    Finding.Apart schema.Clash verdict.findings := by
  obtain ⟨history, left, h⟩ := h
  have hstart : (schema.start data history).IsTextKeyed :=
    isTextKeyed_start hrule hwell hdefaults hdata
  have hrun : (schema.start data history).run schema.policy = _ := run_start hrule
  rw [h] at hrun
  have hapart := Rule.findsApart hstart.isWellFormed hstart.defaults _ _ _ _ hstart.value
    ⟨history, left, hrun⟩
  rw [Verdict.findings_map] at hapart
  exact hapart.mono fun p q hclash => Clash.of_inputRule hclash

/-- **One issue at a position.**  When all mappings in an input and in the defaults have texts as
keys, no issue of a schema or of its partial schema is at the position of another one or above it,
unless the place of a field with a default is taken as a name.  Without defaults this holds
throughout. -/
theorem parse_issues_apart {options : ValidationOptions} {definition : Value}
    (hkeys : definition.IsWellKeyed) {schema : ValidationSchema}
    (hschema : (ofDefinition options definition).result = .ok schema)
    (hdefaults : schema.rule.DefaultsHaveTextKeys) {view : ValidationSchema}
    (hview : view = schema ∨ view = schema.asPartial) {data : Value} (hdata : data.HasTextKeys)
    {history : CallHistory} {r : Rejected}
    (hparse : (view.parse data history).1.result = .error (.rejected r)) :
    (r.issues.Pairwise fun first second => first.path.Meets second.path →
      view.Clash first.path second.path) ∧
    (schema.rule.innerDefaults = [] →
      r.issues.Pairwise fun first second => ¬first.path.Meets second.path) := by
  obtain ⟨forms, fields, -, hrule, -, hwell, -⟩ := exists_fields_of_ofDefinition hschema hkeys
  have hviewRule : view.rule = schema.rule := by rcases hview with rfl | rfl <;> rfl
  rw [← hviewRule] at hrule hwell hdefaults ⊢
  rw [result_parse] at hparse
  rcases hcheck : view.check data history with ⟨_ | _ | findings, left⟩ <;>
    rw [hcheck] at hparse <;> cases hparse
  have hapart : Finding.Apart view.Clash findings :=
    apart_of_gives_check hrule hwell hdefaults hdata ⟨history, left, hcheck⟩
  refine ⟨List.pairwise_map.mpr (hapart.imp fun {first second} hclash hmeets => ?_),
    fun hnone => List.pairwise_map.mpr (hapart.imp fun {first second} hclash hmeets => ?_)⟩
  · rw [Finding.path_toIssue, Finding.path_toIssue] at hmeets ⊢
    exact hclash hmeets
  · rw [Finding.path_toIssue, Finding.path_toIssue] at hmeets
    exact (hclash hmeets).innerDefaults_ne_nil hrule hnone

/-- A definition of a number with a default that is none, and of a text under the name of its
place. -/
def crossed : Value :=
  .map [(.text "a", .map [(.text "type", .text "Number"), (.text "default", .text "x")]),
    (.text "field_0", .map [(.text "type", .text "String")])]

/-- The schema of the definition. -/
def crossedSchema : ValidationSchema where
  rule := .ofFields [
    (.plain "a", .leaf { isOptional := true, default? := some (.text "x") } .number),
    (.plain "field_0", .leaf {} .string)]

theorem ofDefinition_crossed : (ofDefinition {} crossed).result = .ok crossedSchema := by
  refine Logged.result_andThen_eq_ok_iff.mpr ⟨crossedSchema.rule,
    Logged.result_andThen_eq_ok_iff.mpr ⟨_, rfl, ?_⟩, rfl⟩
  rw [Rule.ofParts, Rule.ofForms, Rule.ofForms, Rule.ofForms, Rule.ofForm, Rule.ofForm]
  unfold Rule.ofType
  with_unfolding_all rfl

/-- The text that is no number is reported under the name of its field when it is given, and under
the name of the other field when it is the default. -/
theorem parse_issues_apart_crossed :
    let given : Value := .map [(.text "a", .text "x")]
    crossed.IsWellKeyed ∧ (ofDefinition {} crossed).result = .ok crossedSchema ∧
      crossedSchema.rule.DefaultsHaveTextKeys ∧ given.HasTextKeys ∧
      (∃ r, (crossedSchema.parse given .empty).1.result = .error (.rejected r) ∧
        r.issues.map Issue.path = [[.field "a"], [.field "field_0"]]) ∧
      (∃ r, (crossedSchema.parse (.map []) .empty).1.result = .error (.rejected r) ∧
        r.issues.map Issue.path = [[.field "field_0"], [.field "field_0"]]) ∧
      crossedSchema.Clash [.field "field_0"] [.field "field_0"] := by
  intro given
  have hkeys : crossed.IsWellKeyed := by
    simp [crossed, Value.IsWellKeyed, Value.EntriesAreWellKeyed, Entries.HasDistinctKeys,
      Value.equals, Value.asText?]
  have hdefaults : crossedSchema.rule.DefaultsHaveTextKeys :=
    List.forall_mem_singleton.mpr (show (Value.text "x").HasTextKeys from trivial)
  have hgiven : given.HasTextKeys := Value.hasTextKeys_map_iff.mpr
    ⟨⟨List.forall_mem_singleton.mpr rfl, List.pairwise_singleton _ _⟩,
      List.forall_mem_singleton.mpr trivial⟩
  have hempty : (Value.map []).HasTextKeys :=
    Value.hasTextKeys_map_iff.mpr ⟨⟨List.forall_mem_nil _, .nil⟩, List.forall_mem_nil _⟩
  have hrun : ∃ issue issue',
      (crossedSchema.parse (.map []) .empty).1.result = .error (.rejected ⟨[issue, issue']⟩) ∧
        [issue, issue'].map Issue.path = [[.field "field_0"], [.field "field_0"]] :=
    ⟨_, _, by with_unfolding_all rfl, by with_unfolding_all rfl⟩
  obtain ⟨issue, issue', hparse, hpaths⟩ := hrun
  obtain ⟨hapart, -⟩ :=
    parse_issues_apart hkeys ofDefinition_crossed hdefaults (.inl rfl) hempty hparse
  obtain ⟨hpath, htail⟩ := List.cons.inj hpaths
  obtain ⟨hpath', -⟩ := List.cons.inj htail
  have hclash := (List.pairwise_cons.mp hapart).1 issue' List.mem_cons_self
  rw [hpath, hpath'] at hclash
  exact ⟨hkeys, ofDefinition_crossed, hdefaults, hgiven,
    ⟨_, by with_unfolding_all rfl, by with_unfolding_all rfl⟩, ⟨_, hparse, hpaths⟩,
    hclash (.inl (List.prefix_refl _))⟩

end ValidationSchema

end FieldSchema
