import FieldSchema.Proofs.Rule.Modifiers

/-!
# The last modifier counts

Storage reads the modifiers of a field in order, and each one that states something replaces what
was stated before.  Not every occurrence states something: a mail check has to be exactly true, a
pattern has to compile, and items count on arrays only.  So two modifiers with different names can
compete for one place (mail checks with patterns, references with items), and one that states
nothing leaves the earlier statement in force.

* `FieldSpec.IsStorable`: the fields whose modifiers can all be read.
* `StoredField.after`: the field after one modifier, place by place.
* `FieldSpec.lastStated`: what the last of the modifiers states that state something.
* `StoredField.ofValue_lastStated`: the stored field of a field, place by place.
-/

namespace FieldSchema

/-! ## What a modifier states -/

namespace FormatCheck

/-- The pattern text and the flags that a value gives, if it gives a pattern for texts. -/
def given? : Value → Option (TextValue × Flags)
  | .text source => some (source, .none)
  | .canonical t => some (.category t, .none)
  | .pattern source flags => some (source, flags.withoutUnicode)
  | _ => none

/-- The check of a pattern that compiles. -/
def ofCompiled? (source : TextValue) (flags : Flags) : Option FormatCheck :=
  match Regex.compile source.text flags with
  | .ok _ => some (ofPattern source flags)
  | .error _ => none

/-- Whether a pattern compiles, or fails with a diagnosis of its text. -/
def IsDiagnosed (source : TextValue) (flags : Flags) : Prop :=
  ∀ failure, Regex.compile source.text flags = .error failure →
    ∃ fault position, failure = .fault fault position

end FormatCheck

namespace StoredField

/-- What describes the items, where a modifier states it for an array. -/
def statedItem? (isArrayType : Bool) (modifier : Value × Value) : Option FieldSpec :=
  if isArrayType && modifier.1.asText? == some "items" then FieldSpec.ofValue? modifier.2 else none

/-- The check that a modifier states: that of mail addresses, or a pattern. -/
def statedCheck? (modifier : Value × Value) : Option FormatCheck :=
  if modifier.1.asText? = some "email" then
    if modifier.2.isTrue then some .email else none
  else if modifier.1.asText? = some "regex" then
    (FormatCheck.given? modifier.2).bind fun given => FormatCheck.ofCompiled? given.1 given.2
  else none

/-- The value that stands under the name of a hint. -/
def statedHint? (hint : StorageHint) (modifier : Value × Value) : Option Value :=
  if modifier.1.asText? = some hint.name then some modifier.2 else none

/-- What items refer to: object identifiers can have a collection. -/
def referenceOf? (item : FieldSpec) : Option Value :=
  match item.type.storageType with
  | .canonical .objectId => item.get? "ref"
  | _ => none

/-- The collection that a modifier states, by itself or through the items of an array. -/
def statedReference? (isArrayType : Bool) (modifier : Value × Value) : Option Value :=
  (statedHint? .ref modifier).or ((statedItem? isArrayType modifier).bind referenceOf?)

/-- What a modifier states for a hint. -/
def statedFor? (isArrayType : Bool) (hint : StorageHint) (modifier : Value × Value) :
    Option Value :=
  if hint = .ref then statedReference? isArrayType modifier else statedHint? hint modifier

/-- Whether a modifier states anything for storage. -/
def counts (isArrayType : Bool) (modifier : Value × Value) : Bool :=
  (statedItem? isArrayType modifier).isSome || (statedCheck? modifier).isSome ||
    StorageHint.all.any fun hint => (statedFor? isArrayType hint modifier).isSome

/-- Whether storage can read a modifier: its name can be looked up, and a pattern that does not
compile is diagnosed. -/
structure IsReadable (modifier : Value × Value) : Prop where
  isLookup : modifier.1.asText? = none → isLookup modifier.1 = true
  isDiagnosed : modifier.1.asText? = some "regex" → ∀ given,
    FormatCheck.given? modifier.2 = some given → FormatCheck.IsDiagnosed given.1 given.2

/-- The type of an array with described items. -/
def arrayType (item : FieldSpec) : Value := .list [item.type.storageType]

/-- The field after one modifier, place by place. -/
def after (isArrayType : Bool) (stored : StoredField) (modifier : Value × Value) : StoredField where
  type := ((statedItem? isArrayType modifier).map arrayType).getD stored.type
  check? := (statedCheck? modifier).or stored.check?
  hints hint := (statedFor? isArrayType hint modifier).or (stored.hints hint)

end StoredField

/-! ## One modifier -/

namespace FormatCheck

variable {field : TextValue} {check? : Option FormatCheck}

theorem result_ofSource_eq_ok_iff {source : TextValue} {flags : Flags} :
    (ofSource field source flags).result = .ok check? ↔
      IsDiagnosed source flags ∧ ofCompiled? source flags = check? := by
  unfold ofSource IsDiagnosed ofCompiled?
  cases hcompile : Regex.compile source.text flags with
  | ok regex => simp
  | error failure => cases failure <;> simp [Logged.result_andThen, Except.bind]

theorem result_ofModifier_eq_ok_iff {v : Value} :
    (ofModifier field v).result = .ok check? ↔
      (∀ given, given? v = some given → IsDiagnosed given.1 given.2) ∧
        ((given? v).bind fun given => ofCompiled? given.1 given.2) = check? := by
  unfold ofModifier given?
  split <;> simp [result_ofSource_eq_ok_iff, Logged.result_andThen, Except.bind]

end FormatCheck

namespace StoredField

variable {field : TextValue} {isArrayType : Bool} {stored stored' : StoredField}
  {modifier : Value × Value}

@[simp] theorem type_after : (after isArrayType stored modifier).type =
    ((statedItem? isArrayType modifier).map arrayType).getD stored.type := rfl

@[simp] theorem check?_after : (after isArrayType stored modifier).check? =
    (statedCheck? modifier).or stored.check? := rfl

@[simp] theorem hint?_after (hint : StorageHint) : (after isArrayType stored modifier).hint? hint =
    (statedFor? isArrayType hint modifier).or (stored.hint? hint) := rfl

/-- A modifier that states nothing changes nothing. -/
theorem after_eq_self (h : counts isArrayType modifier = false) :
    after isArrayType stored modifier = stored := by
  simp only [counts, Bool.or_eq_false_iff, List.any_eq_false, Option.isSome_eq_false_iff,
    Option.isNone_iff_eq_none, Bool.not_eq_true] at h
  obtain ⟨⟨hitem, hcheck⟩, hhints⟩ := h
  have hhints : ∀ hint, statedFor? isArrayType hint modifier = none := fun hint =>
    hhints hint (StorageHint.mem_all hint)
  simp [after, hitem, hcheck, hhints]

/-- Stored fields with the same places are the same. -/
theorem eq_of_places {first second : StoredField} (htype : first.type = second.type)
    (hcheck : first.check? = second.check?)
    (hhints : ∀ hint, first.hint? hint = second.hint? hint) : first = second := by
  obtain ⟨type, check?, hints⟩ := first
  obtain ⟨type', check?', hints'⟩ := second
  obtain rfl : type = type' := htype
  obtain rfl : check? = check?' := hcheck
  exact congrArg (StoredField.mk type check?) (funext hhints)

/-- What items refer to replaces the reference before. -/
theorem hint?_withItems_ref (stored : StoredField) (item : FieldSpec) :
    (stored.withItems item).hint? .ref = (referenceOf? item).or (stored.hint? .ref) := by
  unfold withItems referenceOf?
  dsimp only
  cases item.type.storageType with
  | canonical t => cases t <;> cases item.get? "ref" <;> simp [hint?, withHint]
  | _ => rfl

theorem statedHint?_of_notHint {hint : StorageHint} {name : String}
    (hkey : modifier.1.asText? = some name) (hname : ∀ hint : StorageHint, hint.name ≠ name) :
    statedHint? hint modifier = none := by
  rw [statedHint?, hkey, if_neg fun hsame => hname hint (Option.some.inj hsame).symm]

theorem after_of_items (hkey : modifier.1.asText? = some "items") :
    after isArrayType stored modifier =
      match isArrayType, FieldSpec.ofValue? modifier.2 with
      | true, some item => stored.withItems item
      | _, _ => stored := by
  have hcheck : statedCheck? modifier = none := by simp [statedCheck?, hkey]
  have hhint : ∀ hint, statedHint? hint modifier = none := fun hint =>
    statedHint?_of_notHint hkey fun hint => (name_ne hint).1
  have hitem : statedItem? isArrayType modifier =
      if isArrayType then FieldSpec.ofValue? modifier.2 else none := by simp [statedItem?, hkey]
  have hnone : statedItem? isArrayType modifier = none → counts isArrayType modifier = false := by
    intro hitem
    simp [counts, statedFor?, statedReference?, hcheck, hhint, hitem]
  cases isArrayType with
  | false => exact after_eq_self (hnone hitem)
  | true =>
    cases hvalue : FieldSpec.ofValue? modifier.2 with
    | none => exact after_eq_self (hnone (hitem.trans hvalue))
    | some item =>
      have hitem : statedItem? true modifier = some item := hitem.trans hvalue
      refine eq_of_places ?_ ?_ fun hint => ?_
      · simp [type_withItems, hitem, arrayType]
      · simp [check?_withItems, hcheck]
      · by_cases href : hint = .ref
        · simp [href, hint?_withItems_ref, statedFor?, statedReference?, hhint, hitem]
        · simp [hint?_withItems _ _ href, statedFor?, href, hhint]

theorem after_of_check
    (hkey : modifier.1.asText? = some "email" ∨ modifier.1.asText? = some "regex") :
    after isArrayType stored modifier = stored.withCheck? (statedCheck? modifier) := by
  have hhint : ∀ hint, statedHint? hint modifier = none := by
    intro hint
    rcases hkey with hkey | hkey
    · exact statedHint?_of_notHint hkey fun hint => (name_ne hint).2.1
    · exact statedHint?_of_notHint hkey fun hint => (name_ne hint).2.2
  have hitem : statedItem? isArrayType modifier = none := by
    rcases hkey with hkey | hkey <;> simp [statedItem?, hkey]
  have hfor : ∀ hint, statedFor? isArrayType hint modifier = none := by
    intro hint
    simp [statedFor?, statedReference?, hhint, hitem]
  cases hcheck : statedCheck? modifier <;> simp [after, hitem, hcheck, hfor, withCheck?, withCheck]

theorem after_of_hint {name : String} (hkey : modifier.1.asText? = some name)
    (hitems : name ≠ "items") (hemail : name ≠ "email") (hregex : name ≠ "regex") :
    after isArrayType stored modifier =
      match StorageHint.ofName? name with
      | some hint => stored.withHint hint modifier.2
      | none => stored := by
  have hitem : statedItem? isArrayType modifier = none := by simp [statedItem?, hkey, hitems]
  have hcheck : statedCheck? modifier = none := by simp [statedCheck?, hkey, hemail, hregex]
  have hfor : ∀ hint, statedFor? isArrayType hint modifier =
      if name = hint.name then some modifier.2 else none := by
    intro hint
    by_cases href : hint = .ref <;>
      simp [statedFor?, statedReference?, statedHint?, hkey, hitem, href]
  refine eq_of_places ?_ ?_ fun hint => ?_
  · cases StorageHint.ofName? name <;> simp [hitem]
  · cases StorageHint.ofName? name <;> simp [hcheck]
  · rw [hint?_after, hfor]
    cases hown : StorageHint.ofName? name with
    | none =>
      have hname : name ≠ hint.name := by
        rintro rfl
        rw [StorageHint.ofName?_name] at hown
        contradiction
      rw [if_neg hname, Option.none_or]
    | some own =>
      have hname := StorageHint.name_of_ofName? hown
      by_cases hsame : hint = own
      · rw [hsame, if_pos hname.symm, Option.some_or, hint?_withHint_self]
      · have hnames : name ≠ hint.name := by
          rintro rfl
          rw [StorageHint.ofName?_name] at hown
          exact hsame (Option.some.inj hown)
        rw [if_neg hnames, Option.none_or, hint?_withHint_of_ne _ _ hsame]

/-- **One modifier of a stored field**, place by place. -/
theorem result_applyModifier_eq_ok_iff :
    (applyModifier field isArrayType stored modifier).result = .ok stored' ↔
      IsReadable modifier ∧ after isArrayType stored modifier = stored' := by
  obtain ⟨key, v⟩ := modifier
  cases hkey : key.asText? with
  | none =>
    have hcounts : counts isArrayType (key, v) = false := by
      simp [counts, statedItem?, statedCheck?, statedFor?, statedReference?, statedHint?, hkey]
    rw [after_eq_self hcounts]
    simp only [applyModifier, hkey]
    by_cases hlookup : isLookup key = true
    · have hreadable : IsReadable (key, v) := ⟨fun _ => hlookup, by simp [hkey]⟩
      simp [hlookup, hreadable]
    · have hreadable : ¬IsReadable (key, v) := fun h => hlookup (h.isLookup hkey)
      simp [hlookup, hreadable]
  | some name =>
    have hreadable : name ≠ "regex" → IsReadable (key, v) := fun hregex =>
      ⟨by simp [hkey], by simp [hkey, hregex]⟩
    simp only [applyModifier, hkey]
    by_cases hitems : name = "items"
    · subst hitems
      rw [after_of_items hkey, and_iff_right (hreadable (by decide)), if_pos (beq_self_eq_true _)]
      cases isArrayType <;> cases FieldSpec.ofValue? v <;> simp
    by_cases hemail : name = "email"
    · subst hemail
      rw [after_of_check (.inl hkey), and_iff_right (hreadable (by decide))]
      cases htrue : v.isTrue <;> simp [statedCheck?, hkey, htrue, withCheck?]
    by_cases hregex : name = "regex"
    · subst hregex
      have hreads : IsReadable (key, v) ↔ ∀ given, FormatCheck.given? v = some given →
          FormatCheck.IsDiagnosed given.1 given.2 :=
        ⟨fun h => h.isDiagnosed hkey, fun h => ⟨by simp [hkey], fun _ => h⟩⟩
      have hcheck : statedCheck? (key, v) = (FormatCheck.given? v).bind fun given =>
          FormatCheck.ofCompiled? given.1 given.2 := by simp [statedCheck?, hkey]
      rw [after_of_check (.inr hkey), hreads, hcheck]
      show ((FormatCheck.ofModifier field v).andThen fun check =>
        .ok (stored.withCheck? check)).result = .ok stored' ↔ _
      simp only [Logged.result_andThen_eq_ok_iff, FormatCheck.result_ofModifier_eq_ok_iff,
        Logged.result_ok, Except.ok.injEq]
      constructor
      · rintro ⟨check?, ⟨hdiagnosed, rfl⟩, hstored⟩
        exact ⟨hdiagnosed, hstored⟩
      · rintro ⟨hdiagnosed, hstored⟩
        exact ⟨_, ⟨hdiagnosed, rfl⟩, hstored⟩
    · rw [after_of_hint hkey hitems hemail hregex, and_iff_right (hreadable hregex)]
      simp only [beq_eq_false_iff_ne.mpr hitems, beq_eq_false_iff_ne.mpr hemail,
        beq_eq_false_iff_ne.mpr hregex, Bool.false_eq_true, if_false]
      cases StorageHint.ofName? name <;> simp

/-! ## All modifiers -/

/-- **All modifiers of a stored field** are read in order, if they can be read. -/
theorem result_applyModifiers_eq_ok_iff {modifiers : List (Value × Value)} :
    (applyModifiers field isArrayType stored modifiers).result = .ok stored' ↔
      (∀ modifier ∈ modifiers, IsReadable modifier) ∧
        modifiers.foldl (after isArrayType) stored = stored' := by
  induction modifiers generalizing stored with
  | nil => simp [applyModifiers]
  | cons modifier rest ih =>
    rw [applyModifiers, Logged.result_andThen_eq_ok_iff, List.forall_mem_cons, List.foldl_cons]
    simp only [result_applyModifier_eq_ok_iff, ih]
    constructor
    · rintro ⟨between, ⟨hread, rfl⟩, hrest, hstored⟩
      exact ⟨⟨hread, hrest⟩, hstored⟩
    · rintro ⟨⟨hread, hrest⟩, hstored⟩
      exact ⟨_, ⟨hread, rfl⟩, hrest, hstored⟩

/-- A place that every modifier may replace holds what the last one states that states anything. -/
theorem place_foldl {α : Type} (place : StoredField → Option α)
    (states : Value × Value → Option α)
    (hstep : ∀ stored modifier,
      place (after isArrayType stored modifier) = (states modifier).or (place stored))
    (modifiers : List (Value × Value)) (stored : StoredField) :
    place (modifiers.foldl (after isArrayType) stored) =
      (modifiers.filterMap states).getLast?.or (place stored) := by
  induction modifiers generalizing stored with
  | nil => rfl
  | cons modifier rest ih =>
    rw [List.foldl_cons, ih, hstep]
    cases hstates : states modifier with
    | none => rw [List.filterMap_cons_none hstates, Option.none_or]
    | some a =>
      rw [List.filterMap_cons_some hstates, List.getLast?_cons]
      cases (rest.filterMap states).getLast? <;> rfl

/-- Modifiers that state nothing can be left out. -/
theorem foldl_filter_counts (modifiers : List (Value × Value)) (stored : StoredField) :
    (modifiers.filter (counts isArrayType)).foldl (after isArrayType) stored =
      modifiers.foldl (after isArrayType) stored := by
  induction modifiers generalizing stored with
  | nil => rfl
  | cons modifier rest ih =>
    rw [List.foldl_cons]
    cases hcounts : counts isArrayType modifier with
    | true => rw [List.filter_cons_of_pos hcounts, List.foldl_cons, ih]
    | false =>
      have hnot : ¬counts isArrayType modifier = true := by rw [hcounts]; decide
      rw [List.filter_cons_of_neg hnot, after_eq_self hcounts, ih]

end StoredField

namespace FieldSpec

/-- What the last of the modifiers states that state something. -/
def lastStated {α : Type} (spec : FieldSpec) (states : Value × Value → Option α) : Option α :=
  (spec.modifiers.filterMap states).getLast?

/-- Whether the type of a field is that of arrays. -/
def isArray (spec : FieldSpec) : Bool := StoredField.isArrayCategory spec.type.storageType

/-- A field whose modifiers storage can all read. -/
def IsStorable (spec : FieldSpec) : Prop :=
  ∀ modifier ∈ spec.modifiers, StoredField.IsReadable modifier

end FieldSpec

namespace StoredField

/-- A field is stored exactly when all its modifiers can be read. -/
theorem result_ofValue_eq_ok_iff {field : TextValue} {spec : FieldSpec} {stored : StoredField} :
    (ofValue field spec.toValue).result = .ok stored ↔ spec.IsStorable ∧
      spec.modifiers.foldl (after spec.isArray) { type := spec.type.storageType } = stored :=
  result_applyModifiers_eq_ok_iff

/-- **The last modifier counts**: a field whose modifiers can be read is stored, and every place
holds what the last modifier states that states something for it.  Modifiers that state nothing have
no effect. -/
theorem ofValue_lastStated (field : TextValue) {spec : FieldSpec} (h : spec.IsStorable) :
    ∃ stored, (ofValue field spec.toValue).result = .ok stored ∧
      (∀ hint, hint ≠ .ref → stored.hint? hint = spec.lastStated (statedHint? hint)) ∧
      stored.check? = spec.lastStated statedCheck? ∧
      stored.hint? .ref = spec.lastStated (statedReference? spec.isArray) ∧
      stored.type =
        ((spec.lastStated (statedItem? spec.isArray)).map arrayType).getD spec.type.storageType ∧
      ∀ other : FieldSpec, other.IsStorable → other.type = spec.type →
        other.modifiers.filter (counts spec.isArray) =
          spec.modifiers.filter (counts spec.isArray) →
        (ofValue field other.toValue).result = .ok stored := by
  refine ⟨_, result_ofValue_eq_ok_iff.mpr ⟨h, rfl⟩, fun hint href => ?_, ?_, ?_, ?_, ?_⟩
  · have hstep : ∀ stored modifier, (after spec.isArray stored modifier).hint? hint =
        (statedHint? hint modifier).or (stored.hint? hint) := fun stored modifier => by
      rw [hint?_after, statedFor?, if_neg href]
    exact (place_foldl (·.hint? hint) _ hstep _ _).trans Option.or_none
  · have hstep : ∀ stored modifier, (after spec.isArray stored modifier).check? =
        (statedCheck? modifier).or stored.check? := fun stored modifier => check?_after
    exact (place_foldl (·.check?) _ hstep _ _).trans Option.or_none
  · have hstep : ∀ stored modifier, (after spec.isArray stored modifier).hint? .ref =
        (statedReference? spec.isArray modifier).or (stored.hint? .ref) :=
      fun stored modifier => hint?_after .ref
    exact (place_foldl (·.hint? .ref) _ hstep _ _).trans Option.or_none
  · have hstep : ∀ (stored : StoredField) modifier, some (after spec.isArray stored modifier).type =
        ((statedItem? spec.isArray modifier).map arrayType).or (some stored.type) := by
      intro stored modifier
      cases hitem : statedItem? spec.isArray modifier <;> simp [hitem]
    have htype := place_foldl (fun stored => some stored.type) _ hstep spec.modifiers
      { type := spec.type.storageType }
    rw [← List.map_filterMap, List.getLast?_map] at htype
    refine Option.some.inj (htype.trans ?_)
    rw [FieldSpec.lastStated]
    cases (spec.modifiers.filterMap (statedItem? spec.isArray)).getLast? <;> rfl
  · intro other hother htype hcounted
    have hsame : other.isArray = spec.isArray := by rw [FieldSpec.isArray, htype, FieldSpec.isArray]
    refine result_ofValue_eq_ok_iff.mpr ⟨hother, ?_⟩
    rw [hsame, htype, ← foldl_filter_counts, hcounted, foldl_filter_counts]

/-- An array whose modifiers compete: two patterns of which one does not compile, mail checks on
both sides, and a reference before items that have one. -/
def contested : FieldSpec where
  type := .text "Array"
  modifiers := [(.text "required", .bool true), (.text "email", .bool true),
    (.text "items", .map [(.text "type", .text "String")]), (.text "regex", .text "^a"),
    (.text "ref", .text "users"), (.text "regex", .text "("), (.text "email", .int 1),
    (.text "items", .map [(.text "type", .text "ObjectId"), (.text "ref", .text "teams")]),
    (.text "required", .bool false), (.text "colour", .text "red")]

theorem isStorable_contested : contested.IsStorable := by
  have hopen : Regex.compile "(" .none = .error (.fault .unterminatedGroup (some 0)) := by
    with_unfolding_all rfl
  have hstart : ∃ regex, Regex.compile "^a" .none = .ok regex := ⟨_, by with_unfolding_all rfl⟩
  intro modifier hmem
  simp only [contested, List.mem_cons, List.not_mem_nil, or_false] at hmem
  refine ⟨?_, fun hkey => ?_⟩
  · rcases hmem with rfl | rfl | rfl | rfl | rfl | rfl | rfl | rfl | rfl | rfl <;> exact nofun
  -- Of the two patterns, one compiles and the other is diagnosed.
  have hpattern : modifier.2 = .text "^a" ∨ modifier.2 = .text "(" := by
    rcases hmem with rfl | rfl | rfl | rfl | rfl | rfl | rfl | rfl | rfl | rfl <;>
      first | exact .inl rfl | exact .inr rfl | exact absurd hkey (by decide)
  rintro given hgiven failure hfailure
  rcases hpattern with hpattern | hpattern
  · rw [hpattern] at hgiven
    obtain rfl := Option.some.inj hgiven
    obtain ⟨regex, hregex⟩ := hstart
    exact nomatch hregex.symm.trans hfailure
  · rw [hpattern] at hgiven
    obtain rfl := Option.some.inj hgiven
    exact ⟨_, _, (Except.error.inj (hopen.symm.trans hfailure)).symm⟩

/-- The last pattern that compiles, the reference of the last items and the last of the repeated
hints are kept. -/
theorem ofValue_lastStated_contested :
    contested.IsStorable ∧
    ∃ stored, (ofValue (.plain "members") contested.toValue).result = .ok stored ∧
      stored.hint? .required = some (.bool false) ∧ stored.hint? .unique = none ∧
      stored.check? = some (.ofPattern (.plain "^a") .none) ∧
      stored.hint? .ref = some (.text "teams") ∧
      stored.type = .list [.canonical .objectId] := by
  obtain ⟨stored, hstored, hhints, hcheck, href, htype, -⟩ :=
    ofValue_lastStated (.plain "members") isStorable_contested
  refine ⟨isStorable_contested, stored, hstored, ?_, ?_, ?_, ?_, ?_⟩
  · rw [hhints .required (by decide)]
    with_unfolding_all rfl
  · rw [hhints .unique (by decide)]
    with_unfolding_all rfl
  · rw [hcheck]
    with_unfolding_all rfl
  · rw [href]
    with_unfolding_all rfl
  · rw [htype]
    with_unfolding_all rfl

end StoredField

end FieldSchema
