import FieldSchema.Proofs.Rule.Modifiers
import FieldSchema.Proofs.Rule.WellFormed
import FieldSchema.Proofs.Text.Lowercase
import FieldSchema.Proofs.Validation.Runs

/-!
# Allowed values

A modifier that states allowed values starts the rule of its field over: the rule is one for texts
then, whatever the type of the field is, and nothing of the modifiers before it is left.  Those
after it change the new rule as they change any rule for texts.  Only what is added after the last
modifier looks at all of them again: whether there is a pattern, a default, and what is said last
about the field being required (`Rule.ofField_replaced`).

A rule of allowed values brings a text to lower case before anything else and compares it with the
allowed texts, whatever the case of their letters.  No later modifier undoes this, since it keeps
the refinements that are there and adds none that changes texts.  So what such a field accepts are
the allowed texts in lower case.

* `Value.StatesTexts`: values that state allowed texts.
* `Rule.applyModifiers_restart`: modifiers after allowed values.
* `Rule.eq_lowercase_of_check`: what a rule of allowed values accepts.
-/

namespace FieldSchema

/-! ## Values that state texts -/

/-- A value that states texts: a list or a tuple of some texts and nothing else. -/
structure Value.StatesTexts (v : Value) (texts : List TextValue) : Prop where
  some : texts ≠ []
  eq : v.asSequence? = .some (texts.map .ofTextValue)

theorem Value.mapM_asTextValue?_eq_some_iff {items : List Value} {texts : List TextValue} :
    items.mapM asTextValue? = some texts ↔ items = texts.map .ofTextValue := by
  constructor
  · intro h
    induction items generalizing texts with
    | nil =>
      obtain rfl := Option.some.inj h
      rfl
    | cons v rest ih =>
      rw [List.mapM_cons] at h
      obtain ⟨text, htext, h⟩ := Option.bind_eq_some_iff.mp h
      obtain ⟨others, hothers, h⟩ := Option.bind_eq_some_iff.mp h
      obtain rfl := Option.some.inj h
      rw [List.map_cons, ← ih hothers, eq_ofTextValue_of_asTextValue? htext]
  · rintro rfl
    induction texts with
    | nil => rfl
    | cons text rest ih =>
      rw [List.map_cons, List.mapM_cons, ih, asTextValue?_ofTextValue]
      rfl

/-- Allowed values are read off the values that state texts. -/
theorem Rule.allowedValues?_eq_ok_some_iff {field : TextValue} {v : Value}
    {texts : List TextValue} :
    allowedValues? field v = .ok (some texts) ↔ v.StatesTexts texts := by
  unfold allowedValues?
  constructor
  · intro h
    split at h
    · cases Except.ok.inj h
    · cases Except.ok.inj h
    · rename_i options hsome hoptions
      split at h
      · rename_i read hread
        obtain rfl := Option.some.inj (Except.ok.inj h)
        obtain rfl := Value.mapM_asTextValue?_eq_some_iff.mp hread
        refine ⟨fun hnil => hsome ?_, hoptions⟩
        rw [hnil, List.map_nil]
      · cases h
  · rintro ⟨hsome, hoptions⟩
    obtain ⟨first, rest, rfl⟩ := List.exists_cons_of_ne_nil hsome
    have hread : ((first :: rest).map Value.ofTextValue).mapM Value.asTextValue? =
        some (first :: rest) := Value.mapM_asTextValue?_eq_some_iff.mpr rfl
    rw [List.map_cons] at hoptions hread
    rw [hoptions]
    dsimp only
    rw [hread]

namespace Rule

variable {overrides : Overrides} {field : TextValue} {rule rule' : Rule}

/-! ## Modifiers after allowed values -/

theorem applyModifiers_append (before after : List (Value × Value)) :
    applyModifiers overrides field rule (before ++ after) =
      (applyModifiers overrides field rule before).bind fun made =>
        applyModifiers overrides field made after := by
  induction before generalizing rule with
  | nil => rfl
  | cons modifier rest ih =>
    obtain ⟨key, v⟩ := modifier
    rw [List.cons_append, applyModifiers, applyModifiers]
    split
    · split
      · exact ih
      · rfl
    · split
      · exact ih
      · rfl

theorem applyModifier_enum (v : Value) :
    applyModifier overrides field rule "enum" v =
      (match allowedValues? field v with
      | .ok (some allowed) => Except.ok (oneOf overrides field allowed)
      | .ok none => Except.ok rule
      | .error cause => Except.error (CompileFailure.definition cause)) :=
  rfl

/-- Allowed values start a rule over. -/
theorem applyModifiers_restart {before after : List (Value × Value)} {key v : Value}
    {allowed : List TextValue} (hkey : key.asText? = some "enum") (hv : v.StatesTexts allowed)
    (h : applyModifiers overrides field rule (before ++ (key, v) :: after) = .ok rule') :
    applyModifiers overrides field (oneOf overrides field allowed) after = .ok rule' := by
  rw [applyModifiers_append] at h
  obtain ⟨made, -, h⟩ := Logged.bind_eq_ok_iff.mp h
  have hstep : applyModifier overrides field made "enum" v =
      .ok (oneOf overrides field allowed) := by
    rw [applyModifier_enum, allowedValues?_eq_ok_some_iff.mpr hv]
  rw [applyModifiers, hkey] at h
  dsimp only at h
  rwa [hstep] at h

/-- A rule that keeps its kind and its refinements; it may have more of them. -/
structure Keeps (rule rule' : Rule) : Prop where
  kind_eq : rule'.kind = rule.kind
  refinements : ∀ r ∈ rule.facts.refinements, r ∈ rule'.facts.refinements

theorem Keeps.refl (rule : Rule) : rule.Keeps rule := ⟨rfl, fun _ hr => hr⟩

theorem Keeps.trans {last : Rule} (h : rule.Keeps rule') (hlast : rule'.Keeps last) :
    rule.Keeps last :=
  ⟨hlast.kind_eq.trans h.kind_eq, fun r hr => hlast.refinements r (h.refinements r hr)⟩

/-- Modifiers that state no allowed values keep what a rule has. -/
theorem keeps_applyModifiers {modifiers : List (Value × Value)}
    (hmodifiers : ∀ modifier ∈ modifiers, modifier.1.asText? = some "enum" →
      ∀ texts, ¬modifier.2.StatesTexts texts)
    (h : applyModifiers overrides field rule modifiers = .ok rule') : rule.Keeps rule' := by
  induction modifiers generalizing rule with
  | nil => exact Except.ok.inj h ▸ .refl rule
  | cons modifier rest ih =>
    obtain ⟨key, v⟩ := modifier
    obtain ⟨hfirst, hrest⟩ := List.forall_mem_cons.mp hmodifiers
    rw [applyModifiers] at h
    split at h
    · rename_i name hname
      split at h
      · rename_i made hmade
        refine Keeps.trans ?_ (ih hrest h)
        by_cases henum : name = "enum"
        · -- What states no texts is passed over, or else there is no rule.
          subst henum
          rw [applyModifier_enum] at hmade
          split at hmade
          · rename_i allowed hallowed
            exact absurd (allowedValues?_eq_ok_some_iff.mp hallowed) (hfirst hname allowed)
          · exact Except.ok.inj hmade ▸ .refl rule
          · cases hmade
        · have hstep := step_of_applyModifier henum hmade
          exact ⟨hstep.kind_eq, hstep.kept⟩
      · cases h
    · split at h
      · exact ih hrest h
      · cases h

theorem keeps_strengthen (spec : FieldSpec) : rule.Keeps (strengthen field spec rule) := by
  unfold strengthen
  split
  · refine ⟨kind_refine _ _, fun r hr => ?_⟩
    rw [facts_refine]
    exact List.mem_append_left _ hr
  · exact .refl rule

theorem keeps_finish (spec : FieldSpec) : rule.Keeps (finish field spec rule) := by
  have hrelax : (strengthen field spec rule).Keeps (finish field spec rule) := by
    unfold finish relax
    split
    · exact ⟨kind_withFacts _ _, fun r hr => by rwa [markOptional, facts_withFacts]⟩
    · exact .refl _
  exact (keeps_strengthen spec).trans hrelax

end Rule

/-! ## After the last modifier -/

namespace FieldSpec

variable {type key v : Value} {before after : List (Value × Value)} {name : String}

/-- A modifier of another name does not matter for the last value of a name. -/
theorem get?_append_cons (h : key.asText? ≠ some name) :
    (FieldSpec.mk type (before ++ (key, v) :: after)).get? name =
      (FieldSpec.mk type (before ++ after)).get? name := by
  induction before with
  | nil => rw [List.nil_append, List.nil_append, get?_cons, if_neg h, Option.or_none]
  | cons modifier rest ih =>
    obtain ⟨other, w⟩ := modifier
    rw [List.cons_append, List.cons_append, get?_cons, get?_cons, ih]

theorem get_append_cons (h : key.asText? ≠ some name) :
    (FieldSpec.mk type (before ++ (key, v) :: after)).get name =
      (FieldSpec.mk type (before ++ after)).get name := by
  rw [get, get, get?_append_cons h]

theorem has_append_cons (h : key.asText? ≠ some name) :
    (FieldSpec.mk type (before ++ (key, v) :: after)).has name =
      (FieldSpec.mk type (before ++ after)).has name := by
  rw [has_eq_isSome_get?, has_eq_isSome_get?, get?_append_cons h]

end FieldSpec

namespace Rule

variable {overrides : Overrides} {field : TextValue} {rule rule' : Rule}

/-- What is added to a rule for texts after the last modifier. -/
theorem finish_of_string (spec : FieldSpec) (h : rule.kind = .string) :
    finish field spec rule =
      relax spec (if isPasswordName field && !spec.has "regex" then
        rule.refine [.pattern (.text passwordPattern) (.int 0)
          (.text (Message.strongPassword field))] else rule) := by
  rw [finish, strengthen, h]
  rfl

/-! ## Accepted values -/

variable {policy : ObjectPolicy} {path : String} {done : Nat} {history left : CallHistory}
  {v w : Value}

/-- A rule for texts accepts a text that its refinements accept, and nothing else. -/
theorem exists_of_check_string (hkind : rule.kind = .string)
    (h : check policy rule path done v history = (.ok (.accepted w), left)) :
    ∃ text, v.asText? = some text ∧
      checkRefinements v rule.facts.refinements (.text text) = .ok (.accepted w) := by
  cases rule with
  | leaf facts kind =>
    obtain rfl : kind = .string := hkind
    rw [check] at h
    obtain ⟨u, hu, hrefine⟩ := refineVerdict_eq_accepted_iff.mp h
    unfold RuleKind.check RuleKind.checkText at hu
    dsimp only at hu
    split at hu
    · rename_i text htext
      obtain rfl := Verdict.accepted.inj hu
      exact ⟨text, htext, (Prod.mk.inj hrefine).1⟩
    · cases hu
  | array => cases hkind
  | object => cases hkind

/-- **Accepted values** of a rule that brings texts to lower case and has allowed values: they are
the allowed texts in lower case. -/
theorem eq_lowercase_of_check {allowed : List TextValue} {message : Value}
    (hkind : rule.kind = .string) (hfits : rule.facts.Fits rule.kind)
    (hlower : .lowercase ∈ rule.facts.refinements)
    (hone : .oneOf allowed message ∈ rule.facts.refinements)
    (h : check policy rule path done v history = (.ok (.accepted w), left)) :
    ∃ text, v.asText? = some text ∧ w = .text (Text.lowercase text) ∧
      ∃ option ∈ allowed, Text.lowercase text = Text.lowercase option.text := by
  obtain ⟨text, htext, hrefine⟩ := exists_of_check_string hkind h
  obtain ⟨-, hlowerFirst⟩ := hfits
  cases hrefinements : rule.facts.refinements with
  | nil =>
    rw [hrefinements] at hlower
    cases hlower
  | cons first rest =>
    rw [hrefinements] at hlower hone hrefine hlowerFirst
    -- Only the first refinement may bring texts to lower case, so the others see that text.
    rcases List.mem_cons.mp hlower with rfl | hlater
    · obtain ⟨-, hrest⟩ := checkRefinements_cons_eq_accepted hrefine
      obtain ⟨hw, hkept⟩ := checkRefinements_eq_accepted hlowerFirst hrest
      rcases List.mem_cons.mp hone with hsame | hone
      · cases hsame
      · have hchecked : (if Refinement.isOneOf allowed (Text.lowercase text) then none
            else some _) = none := Except.ok.inj (hkept _ hone)
        have hmem : Refinement.isOneOf allowed (Text.lowercase text) = true := by
          by_contra hnot
          rw [if_neg hnot] at hchecked
          cases hchecked
        rw [Refinement.isOneOf, Text.lowercase_lowercase, List.contains_iff_mem] at hmem
        obtain ⟨option, hoption, hsame⟩ := List.mem_map.mp hmem
        exact ⟨text, htext, hw, option, hoption, hsame.symm⟩
    · exact absurd rfl (hlowerFirst _ hlater)

/-! ## Fields with allowed values -/

/-- **Allowed values replace everything before them.**  The rule of a field whose last allowed
values are followed by some modifiers is the one that these make of a fresh rule of allowed values;
a password without a pattern, before or after, has to be strong; and the field may be left out if a
default, before or after, says so, unless it is required by what is said last.  What the field
accepts are the allowed values in lower case. -/
theorem ofField_replaced {raw : Value} {type key stated : Value}
    {before after : List (Value × Value)} {allowed : List TextValue}
    (hread : FieldForm.read (some field) raw =
      .ok (.single ⟨type, before ++ (key, stated) :: after⟩))
    (hkey : key.asText? = some "enum") (hstated : stated.StatesTexts allowed)
    (hlast : ∀ modifier ∈ after, modifier.1.asText? = some "enum" →
      ∀ texts, ¬modifier.2.StatesTexts texts)
    (hrule : (ofField overrides field raw).result = .ok rule) :
    (∃ made, applyModifiers overrides field (oneOf overrides field allowed) after = .ok made ∧
      let others : FieldSpec := ⟨type, before ++ after⟩
      let strong := if isPasswordName field && !others.has "regex" then
        made.refine [.pattern (.text passwordPattern) (.int 0)
          (.text (Message.strongPassword field))] else made
      rule = if others.has "default" && !(others.get "required").isTrue then strong.markOptional
        else strong) ∧
    ∀ policy path done v w history left,
      check policy rule path done v history = (.ok (.accepted w), left) →
      ∃ text, v.asText? = some text ∧ w = .text (Text.lowercase text) ∧
        ∃ option ∈ allowed, Text.lowercase text = Text.lowercase option.text := by
  obtain ⟨form, hform, hrule⟩ := Logged.result_andThen_eq_ok_iff.mp hrule
  obtain rfl := Except.ok.inj (hread.symm.trans (Compiling.result_ofDefinition_eq_ok_iff.mp hform))
  obtain ⟨t, start, made, -, hstart, hmade, rfl⟩ := ofForm_single_eq_ok hrule
  have hafter := applyModifiers_restart hkey hstated hmade
  have hkept := keeps_applyModifiers hlast hafter
  have hother : ∀ name ∈ ["regex", "default", "required"], key.asText? ≠ some name := by
    rw [hkey]
    decide
  refine ⟨⟨made, hafter, ?_⟩, fun policy path done v w history left hcheck => ?_⟩
  · rw [finish_of_string _ hkept.kind_eq, relax,
      FieldSpec.has_append_cons (hother "regex" (by decide)),
      FieldSpec.has_append_cons (hother "default" (by decide)),
      FieldSpec.get_append_cons (hother "required" (by decide))]
  · have hall : (oneOf overrides field allowed).Keeps
        (finish field ⟨type, before ++ (key, stated) :: after⟩ made) :=
      hkept.trans (keeps_finish _)
    have hbecomes := becomes_applyModifiers (fits_oneOf allowed) hafter
    exact eq_lowercase_of_check hall.kind_eq (becomes_finish hbecomes.fits).fits
      (hall.refinements _ List.mem_cons_self)
      (hall.refinements _ (List.mem_cons_of_mem _ (List.mem_singleton_self _))) hcheck

/-- A field for numbers from one on that may be left out, of which then two colors are allowed and
one is the default. -/
def colorField : Value :=
  .spec (.canonical .number) ([(.text "min", .int 1), (.text "required", .bool false)] ++
    (.text "enum", .tuple [.text "Red", .text "GREEN"]) :: [(.text "default", .text "red")])

/-- The rule of the field: one for texts, of which the bound is gone and the default is left. -/
def colorRule : Rule :=
  .leaf
    { refinements := [.lowercase,
        .oneOf [.plain "Red", .plain "GREEN"] (.text "color must be one of: Red, GREEN")]
      isOptional := true
      default? := some (.text "red") }
    .string

/-- The colors replace the bound and the type of the field, and what it accepts is a color in lower
case. -/
theorem ofField_replaced_color :
    FieldForm.read (some (.plain "color")) colorField = .ok (.single ⟨.canonical .number,
        [(.text "min", .int 1), (.text "required", .bool false)] ++
          (.text "enum", .tuple [.text "Red", .text "GREEN"]) ::
            [(.text "default", .text "red")]⟩) ∧
      (Value.text "enum").asText? = some "enum" ∧
      (Value.tuple [.text "Red", .text "GREEN"]).StatesTexts [.plain "Red", .plain "GREEN"] ∧
      (∀ modifier ∈ [((.text "default", .text "red") : Value × Value)],
        modifier.1.asText? = some "enum" → ∀ texts, ¬modifier.2.StatesTexts texts) ∧
      (ofField .none (.plain "color") colorField).result = .ok colorRule ∧
      ∀ v w, check ⟨"ValidationModel", false⟩ colorRule "color" 0 v .empty =
          (.ok (.accepted w), .empty) → w = .text "red" ∨ w = .text "green" := by
  have hread : FieldForm.read (some (.plain "color")) colorField = .ok (.single
      ⟨.canonical .number, [(.text "min", .int 1), (.text "required", .bool false)] ++
        (.text "enum", .tuple [.text "Red", .text "GREEN"]) :: [(.text "default", .text "red")]⟩) :=
    rfl
  have hstated : (Value.tuple [.text "Red", .text "GREEN"]).StatesTexts
      [.plain "Red", .plain "GREEN"] :=
    ⟨List.cons_ne_nil _ _, rfl⟩
  have hlast : ∀ modifier ∈ [((.text "default", .text "red") : Value × Value)],
      modifier.1.asText? = some "enum" → ∀ texts, ¬modifier.2.StatesTexts texts :=
    List.forall_mem_singleton.mpr fun hkey => absurd hkey (by decide)
  have hrule : (ofField .none (.plain "color") colorField).result = .ok colorRule := by
    refine Logged.result_andThen_eq_ok_iff.mpr ⟨_, rfl, ?_⟩
    rw [ofForm]
    unfold ofType
    with_unfolding_all rfl
  refine ⟨hread, rfl, hstated, hlast, hrule, fun v w hcheck => ?_⟩
  obtain ⟨text, -, rfl, option, hoption, hsame⟩ :=
    (ofField_replaced hread rfl hstated hlast hrule).2 _ _ _ _ _ _ _ hcheck
  rw [hsame]
  rcases List.mem_cons.mp hoption with rfl | hoption
  · exact .inl (by with_unfolding_all rfl)
  · obtain rfl := List.mem_singleton.mp hoption
    exact .inr (by with_unfolding_all rfl)

end Rule

end FieldSchema
