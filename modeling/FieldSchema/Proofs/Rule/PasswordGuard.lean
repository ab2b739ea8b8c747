import FieldSchema.Proofs.Rule.Changes
import FieldSchema.Proofs.Rule.PasswordNames

/-!
# Patterns of passwords

A field for texts whose name mentions a password gets the pattern of strong passwords, unless it has
a pattern of its own.  Whether it has one is decided by the modifiers that occur, not by what they
state: a modifier for patterns that states none, such as null, a number or a list, adds nothing to
the rule, and yet the pattern of strong passwords is left out.

The patterns of such a rule are therefore known exactly (`Rule.patterns_ofField`): first those that
modifiers state, in order, and then that of strong passwords if no modifier for patterns occurs.  A
rule with no pattern at all comes from modifiers for patterns of which every one states none.
-/

namespace FieldSchema.Rule

variable {overrides : Overrides} {field : TextValue} {rule : Rule}

/-- Under a name that mentions a password, what is added to a rule for texts after the last modifier
is the pattern of strong passwords, if no modifier for patterns occurs. -/
theorem refinements_finish (spec : FieldSpec) (hname : isPasswordName field = true)
    (hkind : rule.kind = .string) :
    (finish field spec rule).facts.refinements = rule.facts.refinements ++
      if spec.has "regex" then [] else [.strong (.text (Message.strongPassword field))] := by
  have hrelax : ∀ made : Rule, (relax spec made).facts.refinements = made.facts.refinements := by
    intro made
    unfold relax
    split
    · rw [markOptional, facts_withFacts]
    · rfl
  rw [finish_of_string spec hkind, hrelax, hname, Bool.true_and]
  cases spec.has "regex" with
  | true => exact (List.append_nil _).symm
  | false =>
    rw [Bool.not_false, if_pos rfl, facts_refine]
    rfl

/-- **The patterns of a field for passwords.**  The rule of a field for texts without allowed
values, under a name that mentions a password, has the patterns that its modifiers state, in order,
and after them that of strong passwords if no modifier for patterns occurs.  So it has a pattern
exactly when no modifier for patterns occurs or one of them states a pattern; and when none occurs
it accepts nothing but strong passwords, with or without a line break after them. -/
theorem patterns_ofField {raw : Value} {spec : FieldSpec}
    (hread : FieldForm.read (some field) raw = .ok (.single spec))
    (htype : spec.type.category? = some .string)
    (henum : ∀ modifier ∈ spec.modifiers, modifier.1.asText? ≠ some "enum")
    (hname : isPasswordName field = true)
    (hrule : (ofField overrides field raw).result = .ok rule) :
    rule.kind = .string ∧
    rule.facts.refinements.filter isPattern =
      spec.modifiers.filterMap (ownPattern? overrides field) ++
        (if spec.has "regex" then [] else [.strong (.text (Message.strongPassword field))]) ∧
    ((∃ r ∈ rule.facts.refinements, r.kind = .pattern) ↔
      spec.has "regex" = false ∨
        ∃ modifier ∈ spec.modifiers, (ownPattern? overrides field modifier).isSome = true) ∧
    (spec.has "regex" = false → ∀ policy path done v w history left,
      check policy rule path done v history = (.ok (.accepted w), left) →
      ∃ text run rest, w = .text text ∧ text.toList = run ++ rest ∧ Text.IsStrongPassword run) := by
  obtain ⟨form, hform, hrule⟩ := Logged.result_andThen_eq_ok_iff.mp hrule
  obtain rfl := Except.ok.inj (hread.symm.trans (Compiling.result_ofDefinition_eq_ok_iff.mp hform))
  obtain ⟨t, start, made, ht, hstart, hmade, rfl⟩ := ofForm_single_eq_ok hrule
  obtain rfl := Option.some.inj (ht.symm.trans htype)
  obtain ⟨hkind, hfacts, -⟩ := ofType_eq_ok hstart
  have hmadeKind : made.kind = .string :=
    (run_of_applyModifiers spec.type henum hmade).kind_eq.trans hkind
  have hrefinements := refinements_finish spec hname hmadeKind
  have hpatterns : (finish field spec made).facts.refinements.filter isPattern =
      spec.modifiers.filterMap (ownPattern? overrides field) ++
        (if spec.has "regex" then [] else [.strong (.text (Message.strongPassword field))]) := by
    rw [hrefinements, List.filter_append, patterns_of_applyModifiers hkind henum hmade,
      hfacts (by decide)]
    cases spec.has "regex" <;> rfl
  have hfinishKind : (finish field spec made).kind = .string :=
    (keeps_finish spec).kind_eq.trans hmadeKind
  refine ⟨hfinishKind, hpatterns, ?_, ?_⟩
  · have hsome : (∃ r ∈ (finish field spec made).facts.refinements, r.kind = .pattern) ↔
        (finish field spec made).facts.refinements.filter isPattern ≠ [] := by
      simp [List.filter_eq_nil_iff, isPattern]
    rw [hsome, hpatterns]
    cases spec.has "regex" <;> simp [Option.isSome_iff_ne_none]
  · intro hregex policy path done v w history left hcheck
    obtain ⟨text, -, haccepted⟩ := exists_of_check_string hfinishKind hcheck
    rw [hrefinements, hregex] at haccepted
    obtain ⟨between, hfront, hback⟩ := exists_of_checkRefinements_append haccepted
    -- The refinements in front hand on a text, and the last one accepts it as it is.
    obtain ⟨handed, rfl⟩ : RuleKind.string.Holds between :=
      kept_of_checkRefinements (fun r _ _ => r.holds_transform) _ ⟨text, rfl⟩ hfront
    obtain ⟨hstrong, hlast⟩ := checkRefinements_cons_eq_accepted hback
    obtain ⟨run, rest, htext, hrun⟩ := Refinement.exists_of_strong_check hstrong
    exact ⟨handed, run, rest, (Verdict.accepted.inj (Except.ok.inj hlast)).symm, htext, hrun⟩

/-- A field for texts. -/
def plainField : Value := .map [(.text "type", .text "String")]

/-- A field for texts whose only pattern is null. -/
def openField : Value := .map [(.text "type", .text "String"), (.text "regex", .null)]

/-- A field for passwords accepts strong ones only, but if its only pattern is null it has none. -/
theorem patterns_ofField_open :
    (∃ rule, (ofField .none (.plain "newPassword") plainField).result = .ok rule ∧
      ∀ policy path done v w history left,
        check policy rule path done v history = (.ok (.accepted w), left) →
        ∃ text run rest, w = .text text ∧ text.toList = run ++ rest ∧
          Text.IsStrongPassword run) ∧
    ∃ rule, (ofField .none (.plain "PASSWORD") openField).result = .ok rule ∧
      ¬∃ r ∈ rule.facts.refinements, r.kind = .pattern := by
  have htype : (Value.text "String").category? = some .string := by with_unfolding_all rfl
  constructor
  · have hread : FieldForm.read (some (.plain "newPassword")) plainField =
        .ok (.single ⟨.text "String", []⟩) := by with_unfolding_all rfl
    have hrule : (ofField .none (.plain "newPassword") plainField).result = .ok (.leaf
        { refinements := [.strong (.text (Message.strongPassword (.plain "newPassword")))] }
        .string) := by
      refine Logged.result_andThen_eq_ok_iff.mpr
        ⟨_, Compiling.result_ofDefinition_eq_ok_iff.mpr hread, ?_⟩
      rw [ofForm]
      unfold ofType
      with_unfolding_all rfl
    obtain ⟨-, -, -, hstrong⟩ := patterns_ofField hread htype (by decide)
      (by with_unfolding_all rfl) hrule
    exact ⟨_, hrule, hstrong rfl⟩
  · have hread : FieldForm.read (some (.plain "PASSWORD")) openField =
        .ok (.single ⟨.text "String", [(.text "regex", .null)]⟩) := by with_unfolding_all rfl
    have hrule : (ofField .none (.plain "PASSWORD") openField).result =
        .ok (.leaf {} .string) := by
      refine Logged.result_andThen_eq_ok_iff.mpr
        ⟨_, Compiling.result_ofDefinition_eq_ok_iff.mpr hread, ?_⟩
      rw [ofForm]
      unfold ofType
      with_unfolding_all rfl
    obtain ⟨-, -, hsome, -⟩ := patterns_ofField hread htype (by decide)
      (by with_unfolding_all rfl) hrule
    refine ⟨_, hrule, fun hexists => ?_⟩
    rcases hsome.mp hexists with hnone | ⟨modifier, hmem, hown⟩
    · exact absurd hnone (by decide)
    · obtain rfl := List.mem_singleton.mp hmem
      exact absurd hown (by decide)

end FieldSchema.Rule
