import FieldSchema.Proofs.Rule.Wording
import FieldSchema.Proofs.Validation.Fitting

/-!
# How lists of refinements are built

The refinements of a rule start from nothing, from the format of object identifiers, or from allowed
values behind lower case, and grow at the end, one refinement at a time.  What holds of the lists
that start and is kept by one more refinement (`Refinement.Grows`) therefore holds of every rule of
a definition, at every depth (`Rule.throughout_ofDefinition`).  The induction over the definition is
done here once, for all such properties.

Lower case and allowed values stay out of what is added.  So wherever a text is compared with
allowed values, it was brought to lower case by the first refinement
(`Rule.throughout_comparesInLowercase`).

* `Refinement.Grows`: properties of lists of refinements that growing keeps.
* `Rule.Throughout`: what holds of the refinements of a rule and of those inside it.
-/

namespace FieldSchema

/-- A property of lists of refinements holds of those that rules start from, and one more refinement
keeps it. -/
structure Refinement.Grows (P : List Refinement → Prop) : Prop where
  nil : P []
  objectId : P [Rule.objectId]
  oneOf : ∀ allowed message, P [.lowercase, .oneOf allowed message]
  append : ∀ refinements r, P refinements → r.kind ≠ .lowercase → r.kind ≠ .oneOf →
    P (refinements ++ [r])

namespace Rule

/-- A property holds of the refinements of a rule and of those of every rule inside it. -/
def Throughout (P : List Refinement → Prop) (rule : Rule) : Prop :=
  ∀ inner, rule.HasNode inner → P inner.facts.refinements

variable {P : List Refinement → Prop} {overrides : Overrides} {field : TextValue}
  {rule rule' : Rule} {modifier : String} {v : Value}

namespace Throughout

theorem refinements (h : rule.Throughout P) : P rule.facts.refinements := h rule (.self rule)

theorem leaf {facts : RuleFacts} {kind : RuleKind} (h : P facts.refinements) :
    (Rule.leaf facts kind).Throughout P := by
  rintro inner ⟨⟩
  exact h

theorem array {facts : RuleFacts} {item : Rule} (h : P facts.refinements)
    (hitem : item.Throughout P) : (Rule.array facts item).Throughout P := by
  intro inner hinner
  cases hinner with
  | self => exact h
  | item hinner => exact hitem inner hinner

theorem object {facts : RuleFacts} {fields : List (TextValue × Rule)} (h : P facts.refinements)
    (hfields : ∀ part ∈ fields, part.2.Throughout P) :
    (Rule.object facts fields).Throughout P := by
  intro inner hinner
  cases hinner with
  | self => exact h
  | field hfield hinner => exact hfields _ hfield inner hinner

theorem item {facts : RuleFacts} {item : Rule} (h : (Rule.array facts item).Throughout P) :
    item.Throughout P :=
  fun inner hinner => h inner (.item hinner)

theorem fields {facts : RuleFacts} {fields : List (TextValue × Rule)}
    (h : (Rule.object facts fields).Throughout P) : ∀ part ∈ fields, part.2.Throughout P :=
  fun _ hpart inner hinner => h inner (.field hpart hinner)

theorem withFacts {facts : RuleFacts} (h : rule.Throughout P) (hfacts : P facts.refinements) :
    (rule.withFacts facts).Throughout P := by
  cases rule with
  | leaf => exact leaf hfacts
  | array => exact array hfacts h.item
  | object => exact object hfacts h.fields

section

variable (hP : Refinement.Grows P)

include hP

theorem refine {r : Refinement} (h : rule.Throughout P) (hlower : r.kind ≠ .lowercase)
    (honeOf : r.kind ≠ .oneOf) : (rule.refine [r]).Throughout P :=
  h.withFacts (hP.append _ r h.refinements hlower honeOf)

theorem ofItem {item? : Option Rule} (h : ∀ item, item? = some item → item.Throughout P) :
    (Rule.ofItem item?).Throughout P := by
  cases item? with
  | none => exact leaf hP.nil
  | some item => exact array hP.nil (h item rfl)

theorem ofCategory (t : CanonicalType) : (Rule.ofCategory t).Throughout P := by
  cases t with
  | objectId => exact leaf hP.objectId
  | _ => exact leaf hP.nil

theorem oneOf (allowed : List TextValue) :
    (Rule.oneOf overrides field allowed).Throughout P :=
  leaf (hP.oneOf allowed _)

/-! ## Modifiers -/

section

variable (h : rule.Throughout P)

include h

theorem bound (measure : Measure) (isLeast : Bool) (n : Number) (message : Value) :
    (rule.bound measure isLeast n message).Throughout P := by
  rw [bound_eq_refine]
  cases isLeast <;> exact h.refine hP RefinementKind.noConfusion RefinementKind.noConfusion

theorem boundLength {isLeast : Bool} :
    (boundLength overrides field modifier isLeast rule v).Throughout P := by
  unfold Rule.boundLength
  split
  · exact h.bound hP _ _ _ _
  · exact h

theorem boundSize {isLeast : Bool} :
    (boundSize overrides field modifier isLeast rule v).Throughout P := by
  unfold Rule.boundSize
  split
  · exact h.bound hP _ _ _ _
  · exact h.bound hP _ _ _ _
  · exact h

theorem mailAddress : (mailAddress overrides field rule v).Throughout P := by
  unfold Rule.mailAddress
  split
  · exact h.refine hP RefinementKind.noConfusion RefinementKind.noConfusion
  · exact h

theorem referTo : rule.referTo.Throughout P := by
  unfold Rule.referTo
  split
  · exact h.refine hP RefinementKind.noConfusion RefinementKind.noConfusion
  · exact h

theorem matchPattern (hmade : matchPattern overrides field rule v = .ok rule') :
    rule'.Throughout P := by
  have hmatching : ∀ source flags, matching overrides field rule source flags = .ok rule' →
      rule'.Throughout P := by
    intro source flags hmatching
    obtain ⟨message, rfl⟩ := matching_eq_ok hmatching
    exact h.refine hP RefinementKind.noConfusion RefinementKind.noConfusion
  unfold Rule.matchPattern at hmade
  split at hmade
  · split at hmade
    · exact hmatching _ _ hmade
    · exact hmatching _ _ hmade
    · exact hmatching _ _ hmade
    · contradiction
    · exact Except.ok.inj hmade ▸ h
  · exact Except.ok.inj hmade ▸ h

/-- **One modifier** starts the refinements over, adds one, or leaves them. -/
theorem applyModifier (hmade : applyModifier overrides field rule modifier v = .ok rule') :
    rule'.Throughout P := by
  unfold Rule.applyModifier at hmade
  split at hmade
  · obtain rfl := Except.ok.inj hmade
    split
    · exact h.withFacts h.refinements
    · exact h
  split at hmade
  · exact Except.ok.inj hmade ▸ h.boundLength hP
  split at hmade
  · exact Except.ok.inj hmade ▸ h.boundLength hP
  split at hmade
  · exact Except.ok.inj hmade ▸ h.boundSize hP
  split at hmade
  · exact Except.ok.inj hmade ▸ h.boundSize hP
  split at hmade
  · exact Except.ok.inj hmade ▸ h.mailAddress hP
  split at hmade
  · split at hmade
    · exact Except.ok.inj hmade ▸ oneOf hP _
    · exact Except.ok.inj hmade ▸ h
    · contradiction
  split at hmade
  · exact h.matchPattern hP hmade
  split at hmade
  · exact Except.ok.inj hmade ▸ h.withFacts h.refinements
  split at hmade
  · exact Except.ok.inj hmade ▸ h.referTo hP
  · exact Except.ok.inj hmade ▸ h

theorem applyModifiers {modifiers : List (Value × Value)}
    (hmade : applyModifiers overrides field rule modifiers = .ok rule') :
    rule'.Throughout P := by
  induction modifiers generalizing rule with
  | nil => exact Except.ok.inj hmade ▸ h
  | cons modifier rest ih =>
    obtain ⟨key, v⟩ := modifier
    rw [Rule.applyModifiers] at hmade
    split at hmade
    · split at hmade
      · rename_i hstep
        exact ih (h.applyModifier hP hstep) hmade
      · contradiction
    · split at hmade
      · exact ih h hmade
      · contradiction

theorem finish (spec : FieldSpec) : (finish field spec rule).Throughout P := by
  have hstrengthen : (strengthen field spec rule).Throughout P := by
    unfold strengthen
    split
    · exact h.refine hP RefinementKind.noConfusion RefinementKind.noConfusion
    · exact h
  unfold Rule.finish relax
  split
  · exact hstrengthen.withFacts hstrengthen.refinements
  · exact hstrengthen

end

end

end Throughout

/-! ## Rules of definitions -/

/-- What growing keeps holds throughout rules, by induction on how they are made: of types, of
parts, of fields, of one field, and of items. -/
theorem throughout_of_made (overrides : Overrides) (hP : Refinement.Grows P) :
    (∀ field t spec rule, (ofType overrides field t spec).result = .ok rule →
      rule.Throughout P) ∧
    (∀ forms rule, (ofParts overrides forms).result = .ok rule → rule.Throughout P) ∧
    (∀ forms rules, (ofForms overrides forms).result = .ok rules →
      ∀ part ∈ rules, part.2.Throughout P) ∧
    (∀ field form rule, (ofForm overrides field form).result = .ok rule → rule.Throughout P) ∧
    (∀ field item item?, (ofItemSpec overrides field item).result = .ok item? →
      ∀ made, item? = some made → made.Throughout P) := by
  apply ofType.mutual_induct
  -- An array with described items.
  case case1 =>
    intro field spec item hitem ih rule hrule
    rw [ofType, hitem] at hrule
    obtain ⟨item?, hitem?, hrule⟩ := Logged.result_andThen_eq_ok_iff.mp hrule
    exact Except.ok.inj hrule ▸ .ofItem hP (ih item? hitem?)
  -- An array of anything.
  case case2 =>
    intro field spec hnone rule hrule
    rw [ofType, hnone] at hrule
    exact eq_of_orEndless hrule ▸ .ofCategory hP .array
  -- An object with parts.
  case case3 =>
    intro field spec entries hschema parts hread ih rule hrule
    rw [ofType_object hschema, hread] at hrule
    exact ih rule hrule
  -- An object whose parts cannot be read.
  case case4 =>
    intro field spec entries hschema cause hread rule hrule
    rw [ofType_object hschema, hread] at hrule
    cases hrule
  -- An object with any entries.
  case case5 =>
    intro field spec hnone rule hrule
    rw [ofType, hnone] at hrule
    exact eq_of_orEndless hrule ▸ .ofCategory hP .object
  -- Any other type.
  case case6 =>
    intro field spec t harray hobject rule hrule
    rw [ofType_ofCategory harray hobject] at hrule
    exact Except.ok.inj hrule ▸ .ofCategory hP t
  -- The parts of an object.
  case case7 =>
    intro forms ih rule hrule
    rw [ofParts] at hrule
    obtain ⟨rules, hrules, hrule⟩ := Logged.result_andThen_eq_ok_iff.mp hrule
    obtain ⟨noted, -, hrule⟩ := Logged.result_andThen_eq_ok_iff.mp hrule
    exact Except.ok.inj hrule ▸ .object hP.nil (ih rules hrules)
  -- No fields.
  case case8 =>
    intro rules hrules
    rw [ofForms] at hrules
    exact Except.ok.inj hrules ▸ List.forall_mem_nil _
  -- A field and the fields after it.
  case case9 =>
    intro field form rest ihForm ihRest rules hrules
    rw [ofForms] at hrules
    obtain ⟨rule, hrule, hrules⟩ := Logged.result_andThen_eq_ok_iff.mp hrules
    obtain ⟨others, hothers, hrules⟩ := Logged.result_andThen_eq_ok_iff.mp hrules
    exact Except.ok.inj hrules ▸ List.forall_mem_cons.mpr ⟨ihForm rule hrule, ihRest others hothers⟩
  -- A field that is described by its items.
  case case10 =>
    intro field item ih rule hrule
    rw [ofForm] at hrule
    obtain ⟨item?, hitem?, hrule⟩ := Logged.result_andThen_eq_ok_iff.mp hrule
    obtain ⟨allowed, -, hrule⟩ := Logged.result_andThen_eq_ok_iff.mp hrule
    cases allowed with
    | none => exact Except.ok.inj hrule ▸ .ofItem hP (ih item? hitem?)
    | some allowed =>
      exact Except.ok.inj hrule ▸
        .ofItem hP fun made hmade => Option.some.inj hmade ▸ .oneOf hP allowed
  -- A field that is described by a type and modifiers.
  case case11 =>
    intro field spec ih rule hrule
    obtain ⟨t, start, made, -, hstart, hmade, rfl⟩ := ofForm_single_eq_ok hrule
    exact ((ih t start hstart).applyModifiers hP hmade).finish hP spec
  -- Items of a known type.
  case case12 =>
    intro field item t ht ih item? hitem? made hmade
    rw [ofItemSpec, ht] at hitem?
    obtain ⟨rule, hrule, hitem?⟩ := Logged.result_andThen_eq_ok_iff.mp hitem?
    obtain rfl := Except.ok.inj hitem?
    exact Option.some.inj hmade ▸ ih rule hrule
  -- Items of a type that is not known.
  case case13 =>
    intro field item hnone item? hitem? made hmade
    rw [ofItemSpec, hnone] at hitem?
    obtain ⟨noted, -, hitem?⟩ := Logged.result_andThen_eq_ok_iff.mp hitem?
    obtain rfl := Except.ok.inj hitem?
    contradiction

/-- **Rules of definitions** have, at every depth, refinements of which everything holds that
growing keeps. -/
theorem throughout_ofDefinition (hP : Refinement.Grows P) {definition : Value}
    (h : (ofDefinition overrides definition).result = .ok rule) : rule.Throughout P := by
  obtain ⟨forms, -, hrule⟩ := Logged.result_andThen_eq_ok_iff.mp h
  exact (throughout_of_made overrides hP).2.1 forms rule hrule

/-! ## Allowed values -/

/-- Where texts are compared with allowed values, lower case comes first. -/
def ComparesInLowercase (refinements : List Refinement) : Prop :=
  (∃ r ∈ refinements, r.kind = .oneOf) → refinements.head? = some .lowercase

theorem grows_comparesInLowercase : Refinement.Grows ComparesInLowercase where
  nil := fun ⟨_, hr, _⟩ => absurd hr List.not_mem_nil
  objectId := by
    rintro ⟨r, hr, hkind⟩
    obtain rfl := List.mem_singleton.mp hr
    exact absurd hkind RefinementKind.noConfusion
  oneOf := fun _ _ _ => rfl
  append := by
    rintro refinements r h - honeOf ⟨r', hr', hkind⟩
    rcases List.mem_append.mp hr' with hold | hnew
    · rw [List.head?_append, h ⟨r', hold, hkind⟩, Option.some_or]
    · exact absurd (List.mem_singleton.mp hnew ▸ hkind) honeOf

/-- In rules of definitions texts are compared with allowed values in lower case. -/
theorem throughout_comparesInLowercase {definition : Value}
    (h : (ofDefinition overrides definition).result = .ok rule) :
    rule.Throughout ComparesInLowercase :=
  throughout_ofDefinition grows_comparesInLowercase h

end Rule

end FieldSchema
