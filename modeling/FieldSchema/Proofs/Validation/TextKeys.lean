import FieldSchema.Proofs.Number.Digits
import FieldSchema.Proofs.Validation.Independence
import FieldSchema.Proofs.Validation.Stable

/-!
# Values whose keys are texts

Any value may be a key of a mapping, but a step by name leads only to what is under a text.  When
all mappings in a value have texts as keys (`Value.HasTextKeys`), so have those in what a check
makes of it.  This has to be known of accepted values as well as of inputs, since a default may be
made of the fields before it: they are handed to it as a mapping from the places of the fields to
what was accepted for them (`Rule.EarlierFields.IsPlaced`), and the default is checked in turn.

* `Value.HasTextKeys`, `Value.MakesTextKeys`: values and defaults.
* `Value.hasTextKeys_of_makes`: what a default makes of fields that were accepted.
* `Rule.EarlierFields.IsPlaced.record`: what is known of fields, step by step.
* `Rule.keepsTextKeys`: what a rule accepts, by induction on the rule.
-/

namespace FieldSchema

/-! ## Mappings with texts as keys -/

/-- Whether all keys are texts, which differ. -/
structure Entries.IsTextKeyed (entries : Entries) : Prop where
  texts : ∀ entry ∈ entries, entry.1.isText = true
  distinct : entries.HasDistinctKeys

/-- Two keys in order are texts that differ. -/
theorem Entries.IsTextKeyed.pairwise {entries : Entries} (h : entries.IsTextKeyed) :
    entries.Pairwise fun first second => ∃ name name', first.1.asText? = some name ∧
      second.1.asText? = some name' ∧ name ≠ name' := by
  refine h.distinct.imp_of_mem fun {first second} hfirst hsecond hdiffer => ?_
  obtain ⟨name, hname⟩ := Option.isSome_iff_exists.mp (h.texts first hfirst)
  obtain ⟨name', hname'⟩ := Option.isSome_iff_exists.mp (h.texts second hsecond)
  refine ⟨name, name', hname, hname', ?_⟩
  rintro rfl
  rw [Value.equals_of_asText? hname hname'] at hdiffer
  contradiction

theorem Entries.exists_of_getText? {entries : Entries} {name : String} {v : Value}
    (h : entries.getText? name = some v) : ∃ entry ∈ entries, entry.2 = v := by
  induction entries with
  | nil => contradiction
  | cons entry rest ih =>
    unfold getText? at h
    split at h
    · exact ⟨entry, List.mem_cons_self, Option.some.inj h⟩
    · obtain ⟨found, hfound, hv⟩ := ih h
      exact ⟨found, List.mem_cons_of_mem _ hfound, hv⟩

theorem Entries.exists_of_get? {entries : Entries} {key v : Value} (h : entries.get? key = some v) :
    ∃ entry ∈ entries, entry.2 = v := by
  obtain ⟨entry, hfound, hv⟩ := Option.map_eq_some_iff.mp h
  exact ⟨entry, List.mem_of_find?_eq_some hfound, hv⟩

namespace Value

mutual

/-- Whether the mappings in a value have texts as keys, at every depth. -/
def HasTextKeys : Value → Prop
  | .list items => HaveTextKeys items
  | .tuple items => HaveTextKeys items
  | .deque items => HaveTextKeys items
  | .set items => HaveTextKeys items
  | .map entries => Entries.IsTextKeyed entries ∧ PartsHaveTextKeys entries
  | .spec _ modifiers => PartsHaveTextKeys modifiers
  | _ => True

/-- Whether this holds of all items. -/
def HaveTextKeys : List Value → Prop
  | [] => True
  | v :: rest => HasTextKeys v ∧ HaveTextKeys rest

/-- Whether this holds of all keys and values. -/
def PartsHaveTextKeys : List (Value × Value) → Prop
  | [] => True
  | (key, v) :: rest => HasTextKeys key ∧ HasTextKeys v ∧ PartsHaveTextKeys rest

end

theorem haveTextKeys_iff {items : List Value} :
    HaveTextKeys items ↔ ∀ v ∈ items, v.HasTextKeys := by
  induction items with
  | nil => simp [HaveTextKeys]
  | cons v rest ih => rw [HaveTextKeys, ih, List.forall_mem_cons]

theorem partsHaveTextKeys_iff {entries : List (Value × Value)} :
    PartsHaveTextKeys entries ↔ ∀ entry ∈ entries, entry.1.HasTextKeys ∧ entry.2.HasTextKeys := by
  induction entries with
  | nil => simp [PartsHaveTextKeys]
  | cons entry rest ih => rw [PartsHaveTextKeys, ih, List.forall_mem_cons, and_assoc]

/-- A text is no mapping. -/
theorem hasTextKeys_of_isText {v : Value} (h : v.isText = true) : v.HasTextKeys := by
  cases v <;> first | exact trivial | contradiction

theorem hasTextKeys_map_iff {entries : Entries} :
    (map entries).HasTextKeys ↔
      entries.IsTextKeyed ∧ ∀ entry ∈ entries, entry.2.HasTextKeys := by
  rw [HasTextKeys, partsHaveTextKeys_iff]
  constructor
  · exact fun ⟨hkeys, hparts⟩ => ⟨hkeys, fun entry hentry => (hparts entry hentry).2⟩
  · exact fun ⟨hkeys, hvalues⟩ => ⟨hkeys, fun entry hentry =>
      ⟨hasTextKeys_of_isText (hkeys.texts entry hentry), hvalues entry hentry⟩⟩

/-- What an input gives for a field. -/
theorem hasTextKeys_of_getText? {entries : Entries} (h : ∀ entry ∈ entries, entry.2.HasTextKeys)
    (name : String) : ∀ v, entries.getText? name = some v → v.HasTextKeys := by
  intro v hv
  obtain ⟨entry, hentry, rfl⟩ := Entries.exists_of_getText? hv
  exact h entry hentry

/-- Pairs of texts and values are put into a mapping with texts as keys. -/
theorem hasTextKeys_ofPairs {pairs : Entries}
    (h : ∀ entry ∈ pairs, entry.1.isText = true ∧ entry.2.HasTextKeys) :
    (map (Entries.ofPairs pairs)).HasTextKeys := by
  obtain ⟨hdistinct, hkept⟩ := Entries.ofPairs_spec (fun key => key.isText = true) HasTextKeys h
  exact hasTextKeys_map_iff.mpr ⟨⟨fun entry hentry => (hkept entry hentry).1, hdistinct⟩,
    fun entry hentry => (hkept entry hentry).2⟩

/-- The items of a value with texts as keys. -/
theorem hasTextKeys_of_listItems? {v : Value} {items : List Value} (h : v.HasTextKeys)
    (hitems : v.listItems? = some items) : ∀ item ∈ items, item.HasTextKeys := by
  cases v with
  | list => exact Option.some.inj hitems ▸ haveTextKeys_iff.mp h
  | tuple => exact Option.some.inj hitems ▸ haveTextKeys_iff.mp h
  | deque => exact Option.some.inj hitems ▸ haveTextKeys_iff.mp h
  | set => exact Option.some.inj hitems ▸ haveTextKeys_iff.mp h
  | spec type modifiers =>
    obtain rfl := Option.some.inj hitems
    intro item hitem
    obtain ⟨entry, hentry, rfl⟩ := List.mem_map.mp hitem
    obtain ⟨hkey, hv⟩ := partsHaveTextKeys_iff.mp h entry hentry
    exact haveTextKeys_iff.mpr (List.forall_mem_cons.mpr ⟨hkey, List.forall_mem_singleton.mpr hv⟩)
  | typeName t =>
    cases t with
    | canonicalType =>
      obtain rfl := Option.some.inj hitems
      exact List.forall_mem_map.mpr fun _ _ => trivial
    | listOfText =>
      obtain rfl := Option.some.inj hitems
      exact List.forall_mem_singleton.mpr trivial
    | _ => contradiction
  | other label =>
    simp only [listItems?, items?] at hitems
    split at hitems
    · obtain rfl := Option.some.inj hitems
      exact List.forall_mem_singleton.mpr trivial
    · contradiction
  | _ => contradiction

/-! ## Defaults -/

/-- Whether a default makes values with texts as keys: what is no function is such a value itself,
and of a function of a fixed kind its parameters are. -/
def MakesTextKeys : Value → Prop
  | .function _ _ (.outside _ _) _ => False
  | .function _ _ _ parameters => ∀ v ∈ parameters, v.HasTextKeys
  | default => default.HasTextKeys

/-- What is read from a document with texts as keys. -/
theorem hasTextKeys_of_entryAt {document key v : Value} (h : document.HasTextKeys)
    (hv : document.entryAt key = .ok v) : v.HasTextKeys := by
  have hget : ∀ entries : Entries, (∀ entry ∈ entries, entry.2.HasTextKeys) →
      ((Entries.get? entries key).getD .null).HasTextKeys := by
    intro entries hentries
    cases hfound : Entries.get? entries key with
    | none => exact trivial
    | some w =>
      obtain ⟨entry, hentry, rfl⟩ := Entries.exists_of_get? hfound
      exact hentries entry hentry
  unfold entryAt at hv
  split at hv
  · rename_i entries
    split at hv
    · exact Except.ok.inj hv ▸ hget entries (hasTextKeys_map_iff.mp h).2
    · contradiction
  · rename_i modifiers
    refine Except.ok.inj hv ▸ hget _ fun entry hentry => ?_
    exact (partsHaveTextKeys_iff.mp h entry (List.mem_reverse.mp hentry)).2
  · contradiction
  · contradiction

/-- What a function answers when its parameters and arguments have texts as keys. -/
theorem hasTextKeys_of_apply {kind : FunctionKind} {parameters arguments : List Value}
    {count : Nat} {made : Value} (hparameters : ∀ v ∈ parameters, v.HasTextKeys)
    (harguments : ∀ v ∈ arguments, v.HasTextKeys)
    (h : apply kind parameters arguments count = .ok made) : made.HasTextKeys := by
  unfold apply at h
  split at h
  case h_1 => exact Except.ok.inj h ▸ hparameters _ List.mem_cons_self
  case h_2 => exact Except.ok.inj h ▸ trivial
  case h_4 tag _ =>
    obtain rfl := Except.ok.inj h
    exact haveTextKeys_iff.mpr
      (List.forall_mem_cons.mpr ⟨hparameters tag List.mem_cons_self, harguments⟩)
  case h_5 document =>
    exact hasTextKeys_of_entryAt (harguments document List.mem_cons_self) h
  case h_6 =>
    obtain ⟨_, -, h⟩ := Logged.bind_eq_ok_iff.mp h
    exact Except.ok.inj h ▸ trivial
  case h_7 => exact Except.ok.inj h ▸ trivial
  case h_8 tag _ v =>
    obtain rfl := Except.ok.inj h
    exact haveTextKeys_iff.mpr (List.forall_mem_cons.mpr
      ⟨hparameters tag List.mem_cons_self, harguments⟩)
  all_goals contradiction

/-- What a function answers that makes values with texts as keys. -/
theorem hasTextKeys_of_answer {identity : Nat} {isShared : Bool} {kind : FunctionKind}
    {parameters arguments : List Value} {outside : Outside} {calls : List FunctionCall}
    {made : Value} (hmakes : (function identity isShared kind parameters).MakesTextKeys)
    (harguments : ∀ v ∈ arguments, v.HasTextKeys)
    (h : (function identity isShared kind parameters).answer outside calls arguments = .ok made) :
    made.HasTextKeys := by
  cases kind with
  | outside name asks => exact hmakes.elim
  | _ => exact hasTextKeys_of_apply hmakes harguments h

/-- **What a default makes** has texts as keys when the default and the fields before it have. -/
theorem hasTextKeys_of_makes {default made : Value} {earlier : Entries}
    (hdefault : default.MakesTextKeys) (hearlier : (map earlier).HasTextKeys)
    (h : default.Makes earlier made) : made.HasTextKeys := by
  cases default with
  | function identity isShared kind parameters =>
    obtain ⟨history, left, h⟩ := h
    unfold make at h
    split at h
    · exact hasTextKeys_of_answer hdefault (List.forall_mem_singleton.mpr hearlier)
        (Prod.mk.inj h).1
    · exact hasTextKeys_of_answer hdefault (List.forall_mem_nil _) (Prod.mk.inj h).1
  | typeName t =>
    obtain ⟨history, left, h⟩ := h
    have hmade : t.emptyValue?.elim (.error Raised.wrongType) .ok = Except.ok made :=
      (Prod.mk.inj h).1
    cases t with
    | dict =>
      exact Except.ok.inj hmade ▸ hasTextKeys_map_iff.mpr ⟨⟨List.forall_mem_nil _, .nil⟩,
        List.forall_mem_nil _⟩
    | _ => first | contradiction | exact Except.ok.inj hmade ▸ trivial
  | formatCheck check =>
    obtain ⟨history, left, h⟩ := h
    cases (Prod.mk.inj h).1
  | _ =>
    rw [← Checking.gives_value_iff.mp h]
    exact hdefault

end Value

/-! ## Kinds and refinements -/

theorem Refinement.hasTextKeys_transform (r : Refinement) {v : Value} (h : v.HasTextKeys) :
    (r.transform v).HasTextKeys := by
  rcases r.transform_eq_or v with hsame | ⟨-, text, htext⟩
  · rw [hsame]
    exact h
  · rw [htext]
    exact trivial

namespace RuleKind

theorem hasTextKeys_of_checkText {v w : Value} (h : checkText v = .accepted w) :
    w.HasTextKeys := by
  have hcheck : RuleKind.string.check v = .accepted w := h
  obtain ⟨text, rfl⟩ := holds_of_check hcheck
  exact trivial

/-- The entries of an accepted mapping have texts as keys when the values have. -/
theorem hasTextKeys_of_checkEntries {checkValue : Value → Verdict Value} {entries output : Entries}
    (hvalues : ∀ entry ∈ entries, ∀ u, checkValue entry.2 = .accepted u → u.HasTextKeys)
    (h : checkEntries checkValue entries = .accepted output) :
    ∀ entry ∈ output, entry.1.isText = true ∧ entry.2.HasTextKeys := by
  induction entries generalizing output with
  | nil =>
    obtain rfl := Verdict.accepted.inj h
    exact List.forall_mem_nil _
  | cons entry rest ih =>
    obtain ⟨hentry, hrest⟩ := List.forall_mem_cons.mp hvalues
    obtain ⟨made, others, hmade, hothers, rfl⟩ := Verdict.both_eq_accepted_iff.mp h
    obtain ⟨text, u, -, hu, rfl⟩ := Verdict.both_eq_accepted_iff.mp hmade
    exact List.forall_mem_cons.mpr
      ⟨⟨rfl, hentry u (Verdict.under_eq_accepted_iff.mp hu)⟩, ih hrest hothers⟩

/-- An accepted mapping has texts as keys when its values have. -/
theorem hasTextKeys_of_checkMapping {checkValue : Value → Verdict Value} {v w : Value}
    (hvalues : ∀ entries, v = .map entries → ∀ entry ∈ entries, ∀ u,
      checkValue entry.2 = .accepted u → u.HasTextKeys)
    (h : checkMapping checkValue v = .accepted w) : w.HasTextKeys := by
  unfold checkMapping at h
  split at h
  · rename_i entries
    obtain ⟨output, houtput, rfl⟩ := Verdict.map_eq_accepted_iff.mp h
    exact Value.hasTextKeys_ofPairs (hasTextKeys_of_checkEntries (hvalues entries rfl) houtput)
  · contradiction

/-- The check of a kind keeps texts as keys. -/
theorem hasTextKeys_of_check {kind : RuleKind} {v w : Value} (hv : v.HasTextKeys)
    (h : kind.check v = .accepted w) : w.HasTextKeys := by
  cases kind with
  | string => exact hasTextKeys_of_checkText h
  | any => exact Verdict.accepted.inj h ▸ hv
  | number =>
    have hnumber := holds_of_check h
    cases w <;> first | exact trivial | contradiction
  | boolean =>
    obtain ⟨b, rfl⟩ := holds_of_check h
    exact trivial
  | date =>
    obtain ⟨t, rfl⟩ := holds_of_check h
    exact trivial
  | array =>
    unfold check at h
    dsimp only at h
    split at h
    · rename_i items hitems
      obtain rfl := Verdict.accepted.inj h
      exact Value.haveTextKeys_iff.mpr (Value.hasTextKeys_of_listItems? hv hitems)
    · contradiction
  | object =>
    refine hasTextKeys_of_checkMapping ?_ h
    rintro entries rfl entry hentry u hu
    exact Verdict.accepted.inj hu ▸ (Value.hasTextKeys_map_iff.mp hv).2 entry hentry
  | map => exact hasTextKeys_of_checkMapping (fun _ _ _ _ _ hu => hasTextKeys_of_checkText hu) h

end RuleKind

/-! ## What is known of fields -/

namespace Rule

theorem placeName_injective {index other : Nat} (h : placeName index = placeName other) :
    index = other := by
  have hlist := congrArg String.toList h
  simp only [placeName, String.toList_append] at hlist
  exact toString_nat_injective (String.toList_inj.mp (List.append_cancel_left hlist))

/-- What is known of the fields before a place: under the places before it, values with texts as
keys. -/
structure EarlierFields.IsPlaced (earlier : EarlierFields) (index : Nat) : Prop where
  places : ∀ entry ∈ earlier.values, ∃ place < index, entry.1 = .text (placeName place)
  distinct : earlier.values.HasDistinctKeys
  values : ∀ entry ∈ earlier.values, entry.2.HasTextKeys

namespace EarlierFields

variable {earlier : EarlierFields} {index : Nat}

theorem isPlaced_empty : IsPlaced {} 0 :=
  ⟨List.forall_mem_nil _, .nil, List.forall_mem_nil _⟩

theorem IsPlaced.hasTextKeys (h : earlier.IsPlaced index) :
    (Value.map earlier.values).HasTextKeys := by
  refine Value.hasTextKeys_map_iff.mpr ⟨⟨fun entry hentry => ?_, h.distinct⟩, h.values⟩
  obtain ⟨place, -, hkey⟩ := h.places entry hentry
  rw [hkey]
  rfl

/-- One field more, whether it was accepted or not. -/
theorem IsPlaced.record (h : earlier.IsPlaced index) {verdict : Verdict (Option Value)}
    (hverdict : ∀ w, verdict = .accepted (some w) → w.HasTextKeys) (isGiven : Bool) :
    (earlier.record index isGiven verdict).IsPlaced (index + 1) := by
  have hplaces : ∀ entry ∈ earlier.values,
      ∃ place < index + 1, entry.1 = .text (placeName place) := by
    intro entry hentry
    obtain ⟨place, hplace, hkey⟩ := h.places entry hentry
    exact ⟨place, Nat.lt_succ_of_lt hplace, hkey⟩
  cases verdict with
  | rejected findings => exact ⟨hplaces, h.distinct, h.values⟩
  | accepted outcome =>
    have hvalue : (outcome.getD (.other Value.absentLabel)).HasTextKeys := by
      cases outcome with
      | none => exact trivial
      | some w => exact hverdict w rfl
    refine ⟨List.forall_mem_append.mpr ⟨hplaces, List.forall_mem_singleton.mpr
      ⟨index, Nat.lt_succ_self index, rfl⟩⟩, ?_, List.forall_mem_append.mpr ⟨h.values,
      List.forall_mem_singleton.mpr hvalue⟩⟩
    refine List.pairwise_append.mpr ⟨h.distinct, List.pairwise_singleton _ _,
      fun entry hentry => List.forall_mem_singleton.mpr ?_⟩
    obtain ⟨place, hplace, hkey⟩ := h.places entry hentry
    rw [hkey]
    show (Value.ofTextValue (placeName place)).equals (Value.ofTextValue (placeName index)) = false
    exact Value.equals_ofTextValue_eq_false fun hsame =>
      absurd (placeName_injective hsame) (Nat.ne_of_gt hplace)

end EarlierFields

/-! ## Rules -/

/-- Whether the defaults that a check may make have texts as keys. -/
def DefaultsHaveTextKeys (rule : Rule) : Prop :=
  ∀ default ∈ rule.innerDefaults, default.MakesTextKeys

theorem DefaultsHaveTextKeys.fields {facts : RuleFacts} {fields : List (TextValue × Rule)}
    (h : (Rule.object facts fields).DefaultsHaveTextKeys) : ∀ field ∈ fields,
      (∀ default ∈ field.2.facts.default?, default.MakesTextKeys) ∧
        field.2.DefaultsHaveTextKeys := by
  intro field hfield
  have hinner : ∀ default ∈ field.2.facts.default?.toList ++ field.2.innerDefaults,
      default.MakesTextKeys := by
    intro default hdefault
    refine h default ?_
    rw [innerDefaults, fieldDefaults_eq]
    exact List.mem_flatMap.mpr ⟨field, hfield, hdefault⟩
  obtain ⟨hown, hparts⟩ := List.forall_mem_append.mp hinner
  exact ⟨fun default hsome => hown default (Option.mem_toList.mpr hsome), hparts⟩

variable {policy : ObjectPolicy} {path : String} {done index : Nat}

/-- Whether what a rule accepts has texts as keys when what is checked has. -/
def KeepsTextKeys (policy : ObjectPolicy) (rule : Rule) : Prop :=
  ∀ path done v w, v.HasTextKeys → (check policy rule path done v).Gives (.accepted w) →
    w.HasTextKeys

/-- What is supplied for a field. -/
theorem SuppliedAt.hasTextKeys {rule : Rule} {given? : Option Value} {earlier : EarlierFields}
    {history between : CallHistory} {v : Value}
    (h : rule.SuppliedAt given? earlier history v between)
    (hdefault : ∀ default ∈ rule.facts.default?, default.MakesTextKeys)
    (hgiven : ∀ v, given? = some v → v.HasTextKeys) (hearlier : earlier.IsPlaced index) :
    v.HasTextKeys := by
  rcases h with ⟨hsome, -⟩ | ⟨-, default, hsome, -, hmake⟩
  · exact hgiven v hsome
  · exact Value.hasTextKeys_of_makes (hdefault default hsome) hearlier.hasTextKeys
      ⟨history, between, hmake⟩

/-- What is supplied for a field and accepted. -/
theorem hasTextKeys_of_gives_checkField {rule : Rule} (hrule : rule.KeepsTextKeys policy)
    (hdefault : ∀ default ∈ rule.facts.default?, default.MakesTextKeys) {name : TextValue}
    {given? : Option Value} (hgiven : ∀ v, given? = some v → v.HasTextKeys)
    {earlier : EarlierFields} (hearlier : earlier.IsPlaced index) {w : Value}
    (h : (checkField policy path done index earlier name rule given?).Gives
      (.accepted (some w))) : w.HasTextKeys := by
  obtain ⟨history, left, h⟩ := h
  rcases checkField_eq_accepted_iff.mp h with
    ⟨v, between, u, hsupplied, hcheck, hu⟩ | ⟨-, -, -, hnone, -⟩
  · obtain rfl := Value.unlessAbsent_eq_some hu
    exact hrule _ _ v _ (hsupplied.hasTextKeys hdefault hgiven hearlier) ⟨between, left, hcheck⟩
  · contradiction

/-- What fields come to, all accepted. -/
theorem hasTextKeys_of_gives_checkFields {fields : List (TextValue × Rule)}
    (hfields : ∀ field ∈ fields, field.2.KeepsTextKeys policy ∧
      ∀ default ∈ field.2.facts.default?, default.MakesTextKeys)
    {entries : Entries} (hentries : ∀ entry ∈ entries, entry.2.HasTextKeys)
    {earlier : EarlierFields} (hearlier : earlier.IsPlaced index) {output : Entries}
    (h : (checkFields policy fields path done index earlier entries).Gives (.accepted output)) :
    ∀ entry ∈ output, entry.1.isText = true ∧ entry.2.HasTextKeys := by
  induction fields generalizing done index earlier output with
  | nil =>
    rw [checkFields] at h
    obtain rfl := Verdict.accepted.inj (Checking.gives_value_iff.mp h)
    exact List.forall_mem_nil _
  | cons field rest ih =>
    obtain ⟨name, rule⟩ := field
    obtain ⟨⟨hrule, hdefault⟩, hrest⟩ := List.forall_mem_cons.mp hfields
    rw [checkFields_cons] at h
    obtain ⟨verdict, hfirst, h⟩ := Checking.exists_of_gives_andThen h
    obtain ⟨others, hothers, h⟩ := Checking.exists_of_gives_andThen h
    obtain ⟨outcome, output', rfl, rfl, rfl⟩ :=
      Verdict.both_eq_accepted_iff.mp (Checking.gives_value_iff.mp h)
    have hgiven := Value.hasTextKeys_of_getText? hentries name.text
    have hvalue : ∀ w, Verdict.accepted outcome = .accepted (some w) → w.HasTextKeys := by
      intro w hw
      exact hasTextKeys_of_gives_checkField hrule hdefault hgiven hearlier (hw ▸ hfirst)
    have hotherValues := ih hrest (hearlier.record hvalue _) hothers
    cases outcome with
    | none => exact hotherValues
    | some w =>
      refine List.forall_mem_cons.mpr ⟨⟨?_, hvalue w rfl⟩, hotherValues⟩
      show (Value.ofTextValue (outputName name index)).isText = true
      rw [Value.isText, Value.asText?_ofTextValue]
      rfl

/-- **What a rule accepts** has texts as keys when what is checked and the defaults have, by
induction on the rule. -/
theorem keepsTextKeys {rule : Rule} (hrule : rule.IsWellFormed)
    (hdefaults : rule.DefaultsHaveTextKeys) : rule.KeepsTextKeys policy := by
  induction hrule with
  | leaf =>
    intro path done v w hv h
    rw [check] at h
    obtain ⟨u, hu, hrefine⟩ := exists_of_gives_refineVerdict h
    exact kept_of_checkRefinements (fun r _ _ => r.hasTextKeys_transform) u
      (RuleKind.hasTextKeys_of_check hv hu) hrefine
  | array hfacts hitem ih =>
    intro path done v w hv h
    obtain ⟨items, parts, hitems, rfl, hparts, -⟩ := exists_of_gives_array h
    refine Value.haveTextKeys_iff.mpr fun part hpart => ?_
    obtain ⟨item, hitem, hgives⟩ := exists_of_mem_forall₂ hparts.flip part hpart
    exact ih hdefaults path done item part
      (Value.hasTextKeys_of_listItems? hv hitems item hitem) hgives
  | object hfacts hdistinct hfields ih =>
    intro path done v w hv h
    obtain ⟨input, output, rfl, rfl, hgives⟩ := exists_of_gives_object h
    have hparts := hasTextKeys_of_gives_checkFields
      (fun field hfield => ⟨ih field hfield (hdefaults.fields field hfield).2,
        (hdefaults.fields field hfield).1⟩)
      (Value.hasTextKeys_map_iff.mp hv).2 EarlierFields.isPlaced_empty hgives
    exact Value.hasTextKeys_ofPairs hparts

end Rule

end FieldSchema
