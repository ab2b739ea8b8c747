import FieldSchema.Proofs.Rule.AllowedValues
import Mathlib.Data.List.Perm.Basic

/-!
# What a run of modifiers adds up to

A modifier that states no allowed values makes one change of a rule: it adds a refinement, refers to
a stored object, lets the field be left out, states a default, or does nothing.  Which change this
is depends on the modifier and on the kind of the rule, and on nothing that was built before
(`Change.IsOf`).  The kind stays, so modifiers in order make their own changes in order
(`Rule.applyModifiers_eq_ok_iff`).

What changes in order add up to is said once for each part of a rule: the refinements that they add
come after those of the rule, the format of object identifiers comes in at most once, and a field
may be left out if any change says so.

* `Change`, `Rule.change`, `Rule.changed`: the changes and what they make of a rule.
* `Rule.perm_changed`, `Rule.isOptional_changed`: the sums.
* `Rule.ownPattern?`, `Rule.patterns_changed`: the patterns of a run, in order.
-/

namespace FieldSchema

/-- What a modifier changes of a rule, when it states no allowed values. -/
inductive Change where
  | nothing
  /-- One more refinement, which does not change values.  Object identifiers have a change of their
  own. -/
  | adds (r : Refinement) (hobjectId : r.kind ≠ .objectId) (hlower : r.kind ≠ .lowercase)
  /-- A reference to a stored object. -/
  | refers
  /-- The field may be left out. -/
  | optional
  /-- What stands for the field when it is left out. -/
  | default (v : Value)

namespace Change

/-- The refinement that a change adds. -/
@[simp] def refinement? : Change → Option Refinement
  | .adds r _ _ => some r
  | .nothing | .refers | .optional | .default _ => none

/-- Whether a change is a reference. -/
@[simp] def isReference : Change → Bool
  | .refers => true
  | .nothing | .adds _ _ _ | .optional | .default _ => false

/-- Whether a change lets a field be left out. -/
@[simp] def isOptional : Change → Bool
  | .optional => true
  | .nothing | .adds _ _ _ | .refers | .default _ => false

end Change

namespace Rule

/-- A rule after a change. -/
def change (rule : Rule) : Change → Rule
  | .nothing => rule
  | .adds r _ _ => rule.refine [r]
  | .refers => rule.referTo
  | .optional => rule.markOptional
  | .default v => rule.withDefault v

/-- A rule after changes in order. -/
def changed (rule : Rule) (changes : List Change) : Rule := changes.foldl change rule

variable {overrides : Overrides} {field : TextValue} {rule rule' : Rule} {modifier : String}
  {kind : RuleKind} {v : Value} {modifiers : List (Value × Value)} {changes : List Change}

/-! ## Patterns -/

/-- Whether a refinement is a pattern. -/
def isPattern (r : Refinement) : Bool := r.kind == .pattern

/-- The pattern that a modifier states, as a refinement of a field: texts, categories and compiled
patterns are patterns, and other values state none. -/
def ownPattern? (overrides : Overrides) (field : TextValue) (modifier : Value × Value) :
    Option Refinement :=
  if modifier.1.asText? = some "regex" then
    match modifier.2 with
    | .text source => some (.pattern (.text source) (.int 0)
        (Message.ofPattern overrides field source))
    | .canonical t => some (.pattern (.canonical t) (.int 0)
        (Message.ofPattern overrides field t.label))
    | .pattern source flags => some (.pattern (.text source) (.int flags.withoutUnicode.toNat)
        (Message.ofPattern overrides field source))
    | _ => none
  else none

theorem ownPattern?_of_ne {modifier : Value × Value}
    (h : modifier.1.asText? ≠ some "regex") : ownPattern? overrides field modifier = none :=
  if_neg h

/-! ## Single changes -/

end Rule

/-- A change is what a modifier makes of every rule of a kind.  Of a rule for texts its pattern is
the one that the modifier states. -/
structure Change.IsOf (overrides : Overrides) (field : TextValue) (kind : RuleKind)
    (modifier : Value × Value) (change : Change) : Prop where
  applied : ∀ rule : Rule, rule.kind = kind →
    Rule.applyModifiers overrides field rule [modifier] = .ok (rule.change change)
  pattern_eq : kind = .string →
    change.refinement?.filter Rule.isPattern = Rule.ownPattern? overrides field modifier

namespace Rule

variable {overrides : Overrides} {field : TextValue} {rule rule' : Rule} {modifier : String}
  {kind : RuleKind} {v : Value} {modifiers : List (Value × Value)} {changes : List Change}

@[simp] theorem kind_change (rule : Rule) (change : Change) :
    (rule.change change).kind = rule.kind := by
  cases change with
  | nothing => rfl
  | adds r => exact kind_refine rule [r]
  | refers =>
    rw [Rule.change, referTo]
    split
    · exact kind_refine rule _
    · rfl
  | optional => exact kind_withFacts rule _
  | default v => exact kind_withFacts rule _

@[simp] theorem item?_change (rule : Rule) (change : Change) :
    (rule.change change).item? = rule.item? := by
  cases change with
  | nothing => rfl
  | adds r => exact item?_refine rule [r]
  | refers =>
    rw [Rule.change, referTo]
    split
    · exact item?_refine rule _
    · rfl
  | optional => exact item?_withFacts rule _
  | default v => exact item?_withFacts rule _

@[simp] theorem fields?_change (rule : Rule) (change : Change) :
    (rule.change change).fields? = rule.fields? := by
  cases change with
  | nothing => rfl
  | adds r => exact fields?_withFacts rule _
  | refers =>
    rw [Rule.change, referTo]
    split
    · exact fields?_withFacts rule _
    · rfl
  | optional => exact fields?_withFacts rule _
  | default v => exact fields?_withFacts rule _

/-! ## The change of a modifier -/

theorem applyModifiers_singleton {key : Value} (h : key.asText? = some modifier) :
    applyModifiers overrides field rule [(key, v)] =
      applyModifier overrides field rule modifier v := by
  rw [applyModifiers, h]
  dsimp only
  cases applyModifier overrides field rule modifier v <;> rfl

/-- A bound is no pattern. -/
theorem isPattern_limit (measure : Measure) (isLeast : Bool) (n : Number) (message : Value) :
    isPattern (.limit measure isLeast n message) = false := by
  cases isLeast <;> rfl

/-- A bound as a change of a rule. -/
def limitChange (measure : Measure) (isLeast : Bool) (n : Number) (message : Value) : Change :=
  .adds (.limit measure isLeast n message) (by cases isLeast <;> exact RefinementKind.noConfusion)
    (kind_limit_ne measure isLeast n message)

theorem change_limitChange (measure : Measure) (isLeast : Bool) (n : Number) (message : Value) :
    rule.change (limitChange measure isLeast n message) =
      rule.bound measure isLeast n message :=
  (bound_eq_refine rule measure isLeast n message).symm

/-- Some change that adds no pattern is made of every rule of a kind. -/
def ChangesPlainly (kind : RuleKind) (step : Rule → Rule) : Prop :=
  ∃ change : Change, change.refinement?.filter isPattern = none ∧
    ∀ rule : Rule, rule.kind = kind → step rule = rule.change change

theorem changesPlainly_limit (measure : Measure) (isLeast : Bool) (n : Number) (message : Value) :
    ChangesPlainly kind fun rule => rule.bound measure isLeast n message := by
  refine ⟨limitChange measure isLeast n message, ?_, fun rule _ =>
    (change_limitChange measure isLeast n message).symm⟩
  rw [limitChange, Change.refinement?, Option.filter_some, isPattern_limit]
  rfl

theorem changesPlainly_id : ChangesPlainly kind id := ⟨.nothing, rfl, fun _ _ => rfl⟩

/-- What a step does to rules of a kind is all that counts. -/
theorem ChangesPlainly.congr {step step' : Rule → Rule} (h : ChangesPlainly kind step')
    (hsame : ∀ rule : Rule, rule.kind = kind → step rule = step' rule) :
    ChangesPlainly kind step := by
  obtain ⟨change, hplain, hstep⟩ := h
  exact ⟨change, hplain, fun rule hkind => (hsame rule hkind).trans (hstep rule hkind)⟩

theorem changesPlainly_boundLength (isLeast : Bool) :
    ChangesPlainly kind fun rule => boundLength overrides field modifier isLeast rule v := by
  by_cases hkind : kind = .string
  · cases hn : v.asNumber? with
    | some n =>
      refine (changesPlainly_limit .length isLeast n
        (Message.ofRule overrides field modifier v none)).congr fun rule hrule => ?_
      rw [boundLength, hrule, hkind, hn]
    | none =>
      refine changesPlainly_id.congr fun rule _ => ?_
      rw [boundLength, hn]
      split <;> first | rfl | contradiction
  · refine changesPlainly_id.congr fun rule hrule => ?_
    unfold boundLength
    split
    · rename_i hstring _
      exact absurd (hrule.symm.trans hstring) hkind
    · rfl

theorem changesPlainly_boundSize (isLeast : Bool) :
    ChangesPlainly kind fun rule => boundSize overrides field modifier isLeast rule v := by
  cases hn : v.asNumber? with
  | none =>
    refine changesPlainly_id.congr fun rule _ => ?_
    rw [boundSize, hn]
    split <;> first | rfl | contradiction
  | some n =>
    cases kind with
    | number =>
      refine (changesPlainly_limit .number isLeast n (Message.ofRule
        overrides field modifier v (some ((if isLeast then "Min" else "Max") ++ " value for " ++
          field.displayed ++ " is " ++ v.displayed)))).congr fun rule hrule => ?_
      rw [boundSize, hrule, hn]
    | array =>
      refine (changesPlainly_limit .count isLeast n (Message.ofRule
        overrides field modifier v (some ("Array " ++ field.displayed ++ " must have at " ++
          (if isLeast then "least" else "most") ++ " " ++ v.displayed ++ " items")))).congr
            fun rule hrule => ?_
      rw [boundSize, hrule, hn]
    | _ =>
      refine changesPlainly_id.congr fun rule hrule => ?_
      rw [boundSize, hrule]
      rfl

theorem changesPlainly_mailAddress :
    ChangesPlainly kind fun rule => mailAddress overrides field rule v := by
  by_cases hcounts : (v.isTrue && kind == .string) = true
  · refine ⟨.adds (.email (Message.ofRule overrides field "email" .null
      (some ("Invalid email format for " ++ field.displayed)))) (by simp [Refinement.kind])
      (by simp [Refinement.kind]), rfl, fun rule hrule => ?_⟩
    beta_reduce
    unfold mailAddress
    rw [hrule, if_pos hcounts]
    rfl
  · refine changesPlainly_id.congr fun rule hrule => ?_
    unfold mailAddress
    rw [hrule, if_neg hcounts]
    rfl

/-- A modifier other than a pattern whose step makes a change. -/
theorem isOf_of_changesPlainly {key : Value} {step : Rule → Rule}
    (hkey : key.asText? = some modifier) (hregex : modifier ≠ "regex")
    (hstep : ∀ rule, applyModifier overrides field rule modifier v = .ok (step rule))
    (h : ChangesPlainly kind step) :
    ∃ change, Change.IsOf overrides field kind (key, v) change := by
  obtain ⟨change, hplain, hchange⟩ := h
  refine ⟨change, fun rule hrule => ?_, fun _ => ?_⟩
  · rw [applyModifiers_singleton hkey, hstep, hchange rule hrule]
  · rw [hplain, ownPattern?_of_ne]
    intro hsame
    exact hregex (Option.some.inj (hkey.symm.trans hsame))

/-- A pattern text is usable, and then it is added to every rule, or it is not, and then every rule
is refused. -/
theorem matching_eq_ok_or (overrides : Overrides) (field : TextValue) (source : TextValue)
    (flags : Flags) :
    (∀ rule, matching overrides field rule source flags = .ok (rule.refine
      [.pattern (.ofTextValue source) (.int flags.toNat)
        (Message.ofPattern overrides field source.text)])) ∨
    ∃ failure, ∀ rule, matching overrides field rule source flags = .error failure := by
  unfold matching
  split
  · exact .inl fun _ => rfl
  · exact .inr ⟨_, fun _ => rfl⟩
  · exact .inr ⟨_, fun _ => rfl⟩

/-- A modifier that states a pattern. -/
theorem isOf_or_of_matchPattern {key : Value} (hkey : key.asText? = some "regex") :
    (∃ change, Change.IsOf overrides field kind (key, v) change) ∨
      ∀ rule : Rule, rule.kind = kind → ∃ failure,
        applyModifiers overrides field rule [(key, v)] = .error failure := by
  have happly : ∀ rule, applyModifiers overrides field rule [(key, v)] =
      matchPattern overrides field rule v := fun rule => applyModifiers_singleton hkey
  by_cases hkind : kind = .string
  · have hmatch : ∀ (source : TextValue) (flags : Flags),
        (∀ rule : Rule, rule.kind = kind → matchPattern overrides field rule v =
          matching overrides field rule source flags) →
        ownPattern? overrides field (key, v) = some (.pattern (.ofTextValue source)
          (.int flags.toNat) (Message.ofPattern overrides field source.text)) →
        (∃ change, Change.IsOf overrides field kind (key, v) change) ∨
          ∀ rule : Rule, rule.kind = kind → ∃ failure,
            applyModifiers overrides field rule [(key, v)] = .error failure := by
      intro source flags hstep hown
      rcases matching_eq_ok_or overrides field source flags with hadds | ⟨failure, hfails⟩
      · refine .inl ⟨.adds (.pattern (.ofTextValue source) (.int flags.toNat)
          (Message.ofPattern overrides field source.text)) (by simp [Refinement.kind])
          (by simp [Refinement.kind]), fun rule hrule => ?_, fun _ => hown.symm⟩
        rw [happly, hstep rule hrule, hadds]
        rfl
      · exact .inr fun rule hrule =>
          ⟨failure, by rw [happly, hstep rule hrule, hfails]⟩
    have hstring : ∀ rule : Rule, rule.kind = kind → (rule.kind == .string) = true :=
      fun rule hrule => beq_iff_eq.mpr (hrule.trans hkind)
    have hown : ownPattern? overrides field (key, v) = _ := if_pos hkey
    unfold matchPattern at happly hmatch
    cases v with
    | text source =>
      exact hmatch (.plain source) .none
        (fun rule hrule => if_pos (hstring rule hrule)) hown
    | canonical t =>
      exact hmatch (.category t) .none
        (fun rule hrule => if_pos (hstring rule hrule)) hown
    | pattern source flags =>
      exact hmatch (.plain source) flags.withoutUnicode
        (fun rule hrule => if_pos (hstring rule hrule)) hown
    | bytesPattern source flags =>
      exact .inr fun rule hrule => ⟨_, (happly rule).trans (if_pos (hstring rule hrule))⟩
    | _ =>
      exact .inl ⟨.nothing, fun rule hrule => (happly rule).trans (if_pos (hstring rule hrule)),
        fun _ => hown.symm⟩
  · refine .inl ⟨.nothing, fun rule hrule => ?_, fun hstring => absurd hstring hkind⟩
    rw [happly]
    unfold matchPattern
    rw [if_neg fun hstring => hkind (hrule.symm.trans (beq_iff_eq.mp hstring))]
    rfl

theorem changesPlainly_required :
    ChangesPlainly kind fun rule => if v.isFalse then rule.markOptional else rule := by
  cases hfalse : v.isFalse with
  | true => exact ⟨.optional, rfl, fun _ _ => rfl⟩
  | false => exact ⟨.nothing, rfl, fun _ _ => rfl⟩

/-- **One modifier makes one change**, whatever rule of a kind it is applied to, or it refuses every
rule of the kind. -/
theorem isOf_or (overrides : Overrides) (field : TextValue) (kind : RuleKind)
    {modifier : Value × Value} (henum : modifier.1.asText? ≠ some "enum") :
    (∃ change, Change.IsOf overrides field kind modifier change) ∨
      ∀ rule : Rule, rule.kind = kind → ∃ failure,
        applyModifiers overrides field rule [modifier] = .error failure := by
  obtain ⟨key, v⟩ := modifier
  cases hkey : key.asText? with
  | none =>
    -- A key that is no text is passed over, unless it cannot be looked up.
    by_cases hhashable : key.isHashable = true
    · refine .inl ⟨.nothing, fun rule _ => ?_, fun _ => (ownPattern?_of_ne ?_).symm⟩
      · rw [applyModifiers, hkey]
        exact if_pos hhashable
      · rw [hkey]
        exact (Option.some_ne_none _).symm
    · refine .inr fun rule _ => ⟨.raised .wrongType, ?_⟩
      rw [applyModifiers, hkey]
      exact if_neg hhashable
  | some name =>
    by_cases hrequired : name = "required"
    · exact .inl (isOf_of_changesPlainly hkey (by rw [hrequired]; decide)
        (fun rule => by rw [hrequired]; rfl) changesPlainly_required)
    by_cases hminlength : name = "minlength"
    · exact .inl (isOf_of_changesPlainly hkey (by rw [hminlength]; decide)
        (fun rule => by rw [hminlength]; rfl) (changesPlainly_boundLength true))
    by_cases hmaxlength : name = "maxlength"
    · exact .inl (isOf_of_changesPlainly hkey (by rw [hmaxlength]; decide)
        (fun rule => by rw [hmaxlength]; rfl) (changesPlainly_boundLength false))
    by_cases hmin : name = "min"
    · exact .inl (isOf_of_changesPlainly hkey (by rw [hmin]; decide)
        (fun rule => by rw [hmin]; rfl) (changesPlainly_boundSize true))
    by_cases hmax : name = "max"
    · exact .inl (isOf_of_changesPlainly hkey (by rw [hmax]; decide)
        (fun rule => by rw [hmax]; rfl) (changesPlainly_boundSize false))
    by_cases hemail : name = "email"
    · exact .inl (isOf_of_changesPlainly hkey (by rw [hemail]; decide)
        (fun rule => by rw [hemail]; rfl) changesPlainly_mailAddress)
    by_cases hregex : name = "regex"
    · exact isOf_or_of_matchPattern (hregex ▸ hkey)
    by_cases hdefault : name = "default"
    · exact .inl (isOf_of_changesPlainly hkey hregex (fun rule => by rw [hdefault]; rfl)
        ⟨.default v, rfl, fun _ _ => rfl⟩)
    by_cases href : name = "ref"
    · exact .inl (isOf_of_changesPlainly hkey hregex (fun rule => by rw [href]; rfl)
        ⟨.refers, rfl, fun _ _ => rfl⟩)
    refine .inl (isOf_of_changesPlainly hkey hregex (fun rule => ?_) changesPlainly_id)
    have hnotEnum : name ≠ "enum" := fun hsame => henum (hkey.trans (congrArg some hsame))
    simp only [applyModifier, beq_iff_eq, hrequired, hminlength, hmaxlength, hmin, hmax, hemail,
      hnotEnum, hregex, hdefault, href, if_false, id]

/-! ## Changes in order -/

@[simp] theorem changed_nil (rule : Rule) : rule.changed [] = rule := rfl

@[simp] theorem changed_cons (rule : Rule) (first : Change) (rest : List Change) :
    rule.changed (first :: rest) = (rule.change first).changed rest := rfl

/-- **Modifiers in order** make the changes of each in order. -/
theorem applyModifiers_eq_ok_iff
    (henum : ∀ modifier ∈ modifiers, modifier.1.asText? ≠ some "enum") :
    applyModifiers overrides field rule modifiers = .ok rule' ↔
      ∃ changes, List.Forall₂ (Change.IsOf overrides field rule.kind) modifiers changes ∧
        rule.changed changes = rule' := by
  induction modifiers generalizing rule with
  | nil => simp [applyModifiers]
  | cons modifier rest ih =>
    obtain ⟨hfirst, hrest⟩ := List.forall_mem_cons.mp henum
    rw [show modifier :: rest = [modifier] ++ rest from rfl, applyModifiers_append]
    constructor
    · intro h
      obtain ⟨made, hmade, hlast⟩ := Logged.bind_eq_ok_iff.mp h
      rcases isOf_or overrides field rule.kind hfirst with ⟨change, hchange⟩ | hfails
      · obtain rfl := Except.ok.inj (hmade.symm.trans (hchange.applied rule rfl))
        obtain ⟨changes, hchanges, rfl⟩ := (ih hrest).mp hlast
        rw [kind_change] at hchanges
        exact ⟨change :: changes, .cons hchange hchanges, rfl⟩
      · obtain ⟨failure, hfailure⟩ := hfails rule rfl
        cases hmade.symm.trans hfailure
    · rintro ⟨changes, hchanges, rfl⟩
      obtain ⟨change, others, hchange, hothers, rfl⟩ := List.forall₂_cons_left_iff.mp hchanges
      refine Logged.bind_eq_ok_iff.mpr ⟨rule.change change, hchange.applied rule rfl,
        (ih hrest).mpr ⟨others, ?_, rfl⟩⟩
      rwa [kind_change]

@[simp] theorem kind_changed (rule : Rule) (changes : List Change) :
    (rule.changed changes).kind = rule.kind := by
  induction changes generalizing rule with
  | nil => rfl
  | cons first rest ih => rw [changed_cons, ih, kind_change]

@[simp] theorem item?_changed (rule : Rule) (changes : List Change) :
    (rule.changed changes).item? = rule.item? := by
  induction changes generalizing rule with
  | nil => rfl
  | cons first rest ih => rw [changed_cons, ih, item?_change]

@[simp] theorem fields?_changed (rule : Rule) (changes : List Change) :
    (rule.changed changes).fields? = rule.fields? := by
  induction changes generalizing rule with
  | nil => rfl
  | cons first rest ih => rw [changed_cons, ih, fields?_change]

/-! ## Sums of changes -/

/-- What references among changes add to a rule: the format of object identifiers, if the rule is
for texts and does not have it. -/
def referred (rule : Rule) (changes : List Change) : List Refinement :=
  if changes.any Change.isReference && (rule.kind == .string && !rule.hasRefinement .objectId) then
    [objectId] else []

/-- References look at the kind of a rule and for the format of object identifiers. -/
theorem referred_congr (hkind : rule'.kind = rule.kind)
    (hhas : rule'.hasRefinement .objectId = rule.hasRefinement .objectId) (changes : List Change) :
    rule'.referred changes = rule.referred changes := by
  rw [referred, hkind, hhas, referred]

theorem referred_cons {first : Change} (h : first.isReference = false) (rest : List Change) :
    rule.referred (first :: rest) = rule.referred rest := by
  rw [referred, List.any_cons, h, Bool.false_or, referred]

/-- After a reference another one adds nothing. -/
theorem perm_referTo (rule : Rule) (rest : List Change) :
    List.Perm (rule.referTo.facts.refinements ++ rest.filterMap Change.refinement? ++
        rule.referTo.referred rest)
      (rule.facts.refinements ++ rest.filterMap Change.refinement? ++
        rule.referred (.refers :: rest)) := by
  by_cases hcounts : (rule.kind == .string && !rule.hasRefinement .objectId) = true
  · have hrefers : rule.referTo = rule.refine [objectId] := if_pos hcounts
    have hsecond : rule.referTo.referred rest = [] := by
      have hhas : rule.referTo.hasRefinement .objectId = true := by
        rw [hrefers, hasRefinement, facts_refine, List.any_append, List.any_cons]
        simp [objectId, Refinement.kind]
      rw [referred, hhas, Bool.not_true, Bool.and_false, Bool.and_false]
      rfl
    have hfirst : rule.referred (.refers :: rest) = [objectId] := if_pos hcounts
    rw [hsecond, hfirst, hrefers, facts_refine, List.append_nil, List.append_assoc,
      List.append_assoc]
    exact List.Perm.append_left _ List.perm_append_comm
  · have hnothing : ∀ changes : List Change, rule.referred changes = [] := fun changes =>
      if_neg fun hany => hcounts (Bool.and_eq_true_iff.mp hany).2
    rw [show rule.referTo = rule from if_neg hcounts, hnothing, hnothing]

/-- **Refinements of changes in order**: those that the changes add come after those of the rule,
and the format of object identifiers at most once, wherever it is among them. -/
theorem perm_changed (rule : Rule) (changes : List Change) :
    (rule.changed changes).facts.refinements.Perm
      (rule.facts.refinements ++ changes.filterMap Change.refinement? ++
        rule.referred changes) := by
  induction changes generalizing rule with
  | nil => simp [referred]
  | cons first rest ih =>
    rw [changed_cons]
    refine (ih (rule.change first)).trans ?_
    cases first with
    | refers => exact perm_referTo rule rest
    | adds r hobjectId hlower =>
      have hhas : (rule.refine [r]).hasRefinement .objectId = rule.hasRefinement .objectId := by
        simp [hasRefinement, hobjectId]
      rw [referred_cons rfl, Rule.change, referred_congr (kind_refine rule [r]) hhas, facts_refine]
      simp
    | optional =>
      have hhas : rule.markOptional.hasRefinement .objectId = rule.hasRefinement .objectId := by
        simp [hasRefinement, markOptional]
      have hkind : rule.markOptional.kind = rule.kind := kind_withFacts _ _
      rw [referred_cons rfl, Rule.change, referred_congr hkind hhas]
      simp [List.filterMap_cons, markOptional]
    | default v =>
      have hhas : (rule.withDefault v).hasRefinement .objectId = rule.hasRefinement .objectId := by
        simp [hasRefinement, withDefault]
      have hkind : (rule.withDefault v).kind = rule.kind := kind_withFacts _ _
      rw [referred_cons rfl, Rule.change, referred_congr hkind hhas]
      simp [List.filterMap_cons, withDefault]
    | nothing =>
      rw [referred_cons rfl, Rule.change, List.filterMap_cons_none rfl]

theorem isOptional_change (rule : Rule) (change : Change) :
    (rule.change change).facts.isOptional = (rule.facts.isOptional || change.isOptional) := by
  cases change with
  | refers =>
    rw [Rule.change, referTo]
    split <;> simp
  | _ => simp [Rule.change, markOptional, withDefault]

/-- A field may be left out if its rule or some change says so. -/
theorem isOptional_changed (rule : Rule) (changes : List Change) :
    (rule.changed changes).facts.isOptional =
      (rule.facts.isOptional || changes.any Change.isOptional) := by
  induction changes generalizing rule with
  | nil => simp
  | cons first rest ih => rw [changed_cons, ih, isOptional_change, List.any_cons, Bool.or_assoc]

theorem patterns_change (rule : Rule) (change : Change) :
    (rule.change change).facts.refinements.filter isPattern =
      rule.facts.refinements.filter isPattern ++
        (change.refinement?.filter isPattern).toList := by
  cases change with
  | adds r => cases hpattern : isPattern r <;> simp [Rule.change, Option.filter_some, hpattern]
  | refers =>
    rw [Rule.change, referTo]
    split <;> simp [isPattern, objectId, Refinement.kind]
  | _ => simp [Rule.change, markOptional, withDefault]

/-- **Patterns of changes in order** stay in order, since references add none. -/
theorem patterns_changed (rule : Rule) (changes : List Change) :
    (rule.changed changes).facts.refinements.filter isPattern =
      rule.facts.refinements.filter isPattern ++
        changes.filterMap fun change => change.refinement?.filter isPattern := by
  induction changes generalizing rule with
  | nil => simp
  | cons first rest ih =>
    rw [changed_cons, ih, patterns_change, List.append_assoc, List.filterMap_cons]
    cases first.refinement?.filter isPattern <;> rfl

/-- The patterns of a rule for texts after modifiers in order: those that it had, and those that
modifiers state. -/
theorem patterns_of_applyModifiers (hkind : rule.kind = .string)
    (henum : ∀ modifier ∈ modifiers, modifier.1.asText? ≠ some "enum")
    (h : applyModifiers overrides field rule modifiers = .ok rule') :
    rule'.facts.refinements.filter isPattern = rule.facts.refinements.filter isPattern ++
      modifiers.filterMap (ownPattern? overrides field) := by
  obtain ⟨changes, hchanges, rfl⟩ := (applyModifiers_eq_ok_iff henum).mp h
  rw [patterns_changed]
  congr 1
  clear h henum
  induction hchanges with
  | nil => rfl
  | cons hchange hrest ih =>
    rw [List.filterMap_cons, List.filterMap_cons, hchange.pattern_eq hkind, ih]

end Rule

end FieldSchema
