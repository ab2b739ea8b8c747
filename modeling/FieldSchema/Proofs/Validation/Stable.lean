import FieldSchema.Proofs.Text.Lowercase
import FieldSchema.Proofs.Validation.Output

/-!
# Values that are accepted as they are

What a check changes in a value it does not change a second time: a day has become a point in time,
a set has become a list, the keys of a mapping have become texts that differ, and a text is in lower
case.  So what a rule for single values accepts, it accepts as it is.

To accept a value as it is means to do so after every history of calls (`Checking.Always`); this is
more than that the check can accept it (`Checking.Gives`).

* `RuleKind.check_of_check`: the kind of an accepted value is accepted as it is.
* `Rule.checkRefinements_again`: refinements accept again what they accepted, if only the first of
  them brings texts to lower case.
* `Rule.always_leaf`: rules for single values accept again what they accepted.
-/

namespace FieldSchema

/-! ## Checks that always give one result -/

namespace Checking

variable {α β : Type}

/-- A check gives a result after every history of calls. -/
def Always (first : Checking α) (a : α) : Prop :=
  ∀ history, ∃ left, first history = (.ok a, left)

theorem always_value (a : α) : (value a).Always a := fun history => ⟨history, rfl⟩

theorem Always.andThen {first : Checking α} {a : α} {next : α → Checking β} {b : β}
    (h : first.Always a) (hnext : (next a).Always b) : (first.andThen next).Always b := by
  intro history
  obtain ⟨between, hfirst⟩ := h history
  obtain ⟨left, hsecond⟩ := hnext between
  refine ⟨left, ?_⟩
  rw [Checking.andThen, hfirst]
  exact hsecond

/-- A list is accepted as it is when every item is. -/
theorem always_each {checkItem : Value → Checking (Verdict Value)} {items : List Value}
    (h : ∀ v ∈ items, (checkItem v).Always (.accepted v)) (index : Nat) :
    (each checkItem index items).Always (.accepted items) := by
  induction items generalizing index with
  | nil => exact always_value _
  | cons v rest ih =>
    obtain ⟨hv, hrest⟩ := List.forall_mem_cons.mp h
    exact hv.andThen ((ih hrest (index + 1)).andThen (always_value _))

end Checking

/-! ## Mappings -/

namespace Entries

variable {entries : Entries} {key v : Value}

/-- What holds of entries and of a new one, part by part, holds when the new one is put in. -/
theorem forall_insert (K V : Value → Prop) (h : ∀ entry ∈ entries, K entry.1 ∧ V entry.2)
    (hkey : K key) (hv : V v) : ∀ entry ∈ entries.insert key v, K entry.1 ∧ V entry.2 := by
  induction entries with
  | nil => exact List.forall_mem_singleton.mpr ⟨hkey, hv⟩
  | cons first rest ih =>
    obtain ⟨hfirst, hrest⟩ := List.forall_mem_cons.mp h
    unfold insert
    split
    · exact List.forall_mem_cons.mpr ⟨⟨hfirst.1, hv⟩, hrest⟩
    · exact List.forall_mem_cons.mpr ⟨hfirst, ih hrest⟩

/-- A key that is put in is not there before. -/
theorem hasDistinctKeys_insert (h : entries.HasDistinctKeys) :
    (entries.insert key v).HasDistinctKeys := by
  induction entries with
  | nil => exact List.pairwise_singleton _ _
  | cons first rest ih =>
    obtain ⟨hfirst, hrest⟩ := List.pairwise_cons.mp h
    unfold insert
    split
    · exact List.pairwise_cons.mpr ⟨hfirst, hrest⟩
    · rename_i hkey
      have hothers : ∀ entry ∈ insert rest key v, first.1.equals entry.1 = false ∧ True :=
        forall_insert (first.1.equals · = false) (fun _ => True)
          (fun entry hentry => ⟨hfirst entry hentry, trivial⟩) (Bool.eq_false_iff.mpr hkey) trivial
      exact List.pairwise_cons.mpr ⟨fun entry hentry => (hothers entry hentry).1, ih hrest⟩

/-- Pairs that are put into a mapping keep what holds of them part by part, and their keys
differ. -/
theorem append_spec (K V : Value → Prop) {first second : Entries}
    (hkeys : first.HasDistinctKeys) (hfirst : ∀ entry ∈ first, K entry.1 ∧ V entry.2)
    (hsecond : ∀ entry ∈ second, K entry.1 ∧ V entry.2) :
    (first.append second).HasDistinctKeys ∧
      ∀ entry ∈ first.append second, K entry.1 ∧ V entry.2 := by
  induction second generalizing first with
  | nil => exact ⟨hkeys, hfirst⟩
  | cons entry rest ih =>
    obtain ⟨hentry, hrest⟩ := List.forall_mem_cons.mp hsecond
    exact ih (hasDistinctKeys_insert hkeys) (forall_insert K V hfirst hentry.1 hentry.2) hrest

theorem ofPairs_spec (K V : Value → Prop) {pairs : Entries}
    (h : ∀ entry ∈ pairs, K entry.1 ∧ V entry.2) :
    (ofPairs pairs).HasDistinctKeys ∧ ∀ entry ∈ ofPairs pairs, K entry.1 ∧ V entry.2 :=
  append_spec K V .nil (fun _ hentry => absurd hentry List.not_mem_nil) h

end Entries

/-! ## Kinds -/

namespace RuleKind

variable {checkValue : Value → Verdict Value}

/-- The entries of an accepted mapping have texts as keys and accepted values. -/
theorem of_checkEntries {entries output : Entries}
    (h : checkEntries checkValue entries = .accepted output) :
    ∀ entry ∈ output, (∃ text, entry.1 = .text text) ∧
      ∃ v, checkValue v = .accepted entry.2 := by
  induction entries generalizing output with
  | nil =>
    obtain rfl := Verdict.accepted.inj h
    exact fun entry hentry => absurd hentry List.not_mem_nil
  | cons entry rest ih =>
    obtain ⟨key, v⟩ := entry
    obtain ⟨made, others, hmade, hothers, rfl⟩ := Verdict.both_eq_accepted_iff.mp h
    obtain ⟨text, w, -, hw, rfl⟩ := Verdict.both_eq_accepted_iff.mp hmade
    exact List.forall_mem_cons.mpr
      ⟨⟨⟨text, rfl⟩, v, Verdict.under_eq_accepted_iff.mp hw⟩, ih hothers⟩

/-- Entries with texts as keys are accepted as they are when their values are. -/
theorem checkEntries_of_forall {entries : Entries}
    (h : ∀ entry ∈ entries, (∃ text, entry.1 = .text text) ∧
      checkValue entry.2 = .accepted entry.2) :
    checkEntries checkValue entries = .accepted entries := by
  induction entries with
  | nil => rfl
  | cons entry rest ih =>
    obtain ⟨⟨⟨text, hkey⟩, hv⟩, hrest⟩ := List.forall_mem_cons.mp h
    obtain ⟨key, v⟩ := entry
    obtain rfl : key = .text text := hkey
    rw [checkEntries, ih hrest, hv]
    rfl

theorem checkMapping_of_checkMapping
    (hagain : ∀ v w, checkValue v = .accepted w → checkValue w = .accepted w) {v w : Value}
    (h : checkMapping checkValue v = .accepted w) : checkMapping checkValue w = .accepted w := by
  unfold checkMapping at h
  split at h
  · obtain ⟨output, houtput, rfl⟩ := Verdict.map_eq_accepted_iff.mp h
    have hentries : ∀ entry ∈ output, (∃ text, entry.1 = .text text) ∧
        checkValue entry.2 = .accepted entry.2 := by
      intro entry hentry
      obtain ⟨hkey, v, hv⟩ := of_checkEntries houtput entry hentry
      exact ⟨hkey, hagain v _ hv⟩
    -- The keys are texts that differ, so the second check replaces no entry.
    obtain ⟨hdistinct, hkept⟩ := Entries.ofPairs_spec (fun key => ∃ text, key = .text text)
      (fun v => checkValue v = .accepted v) hentries
    rw [checkMapping, checkEntries_of_forall hkept, Verdict.map, hdistinct.ofPairs_eq]
  · contradiction

theorem checkText_of_checkText {v w : Value} (h : checkText v = .accepted w) :
    checkText w = .accepted w := by
  unfold checkText at h
  split at h
  · obtain rfl := Verdict.accepted.inj h
    rfl
  · contradiction

/-- The kind of an accepted value is accepted as it is. -/
theorem check_of_check {kind : RuleKind} {v w : Value} (h : kind.check v = .accepted w) :
    kind.check w = .accepted w := by
  cases kind with
  | any => rfl
  | string => exact checkText_of_checkText h
  | number =>
    unfold check at h
    dsimp only at h
    split at h
    · rename_i n hn
      obtain rfl := Verdict.accepted.inj h
      simp [check, hn]
    · contradiction
  | boolean =>
    obtain ⟨b, rfl⟩ := holds_of_check h
    rfl
  | date =>
    obtain ⟨t, rfl⟩ := holds_of_check h
    rfl
  | array =>
    obtain ⟨items, rfl⟩ := holds_of_check h
    rfl
  | object =>
    refine checkMapping_of_checkMapping (fun v w hv => ?_) h
    obtain rfl := Verdict.accepted.inj hv
    rfl
  | map => exact checkMapping_of_checkMapping (fun v w => checkText_of_checkText) h

end RuleKind

/-! ## Refinements -/

/-- A refinement does not change a value twice. -/
theorem Refinement.transform_transform (r : Refinement) (v : Value) :
    r.transform (r.transform v) = r.transform v := by
  cases r with
  | lowercase =>
    cases v with
    | text s => exact congrArg Value.text (Text.lowercase_lowercase s)
    | canonical t => exact congrArg Value.text (Text.lowercase_lowercase t.label)
    | _ => rfl
  | _ => rfl

namespace Rule

/-- Refinements that do not change values hand on what they all accept. -/
theorem checkRefinements_of_forall {refinements : List Refinement} {v : Value} (input : Value)
    (hlower : ∀ r ∈ refinements, r.kind ≠ .lowercase)
    (h : ∀ r ∈ refinements, r.check v = .ok none) :
    checkRefinements input refinements v = .ok (.accepted v) := by
  induction refinements with
  | nil => rfl
  | cons r rest ih =>
    obtain ⟨hr, hrestLower⟩ := List.forall_mem_cons.mp hlower
    obtain ⟨hcheck, hrest⟩ := List.forall_mem_cons.mp h
    rw [checkRefinements, Refinement.transform_of_kind_ne hr, hcheck]
    exact ih hrestLower hrest

/-- Refinements accept again what they accepted, if only the first one changes it. -/
theorem checkRefinements_again {refinements : List Refinement} {input v w : Value}
    (again : Value) (hlower : ∀ r ∈ refinements.tail, r.kind ≠ .lowercase)
    (h : checkRefinements input refinements v = .ok (.accepted w)) :
    checkRefinements again refinements w = .ok (.accepted w) := by
  cases refinements with
  | nil => rfl
  | cons r rest =>
    obtain ⟨hcheck, hrest⟩ := checkRefinements_cons_eq_accepted h
    obtain ⟨rfl, haccepted⟩ := checkRefinements_eq_accepted hlower hrest
    rw [checkRefinements, r.transform_transform, hcheck]
    exact checkRefinements_of_forall again hlower haccepted

/-- A value of a kind that is accepted as it is stays so when refinements for the kind change
it. -/
theorem check_of_checkRefinements {kind : RuleKind} {facts : RuleFacts} (hfits : facts.Fits kind)
    {input v w : Value} (hkind : kind.check v = .accepted v)
    (h : checkRefinements input facts.refinements v = .ok (.accepted w)) :
    kind.check w = .accepted w := by
  refine kept_of_checkRefinements (P := fun v => kind.check v = .accepted v)
    (fun r hr v hv => ?_) v hkind h
  by_cases hlower : r.kind = .lowercase
  · cases r with
    | lowercase =>
      obtain rfl : RuleKind.string = kind := hfits.ruleKind_eq _ hr
      rcases Refinement.lowercase.transform_eq_or v with hsame | ⟨-, text, htext⟩
      · rwa [hsame]
      · rw [htext]
        rfl
    | _ => contradiction
  · rwa [Refinement.transform_of_kind_ne hlower]

variable {policy : ObjectPolicy}

/-- **Rules for single values** accept again what they accepted. -/
theorem always_leaf {facts : RuleFacts} {kind : RuleKind} (hfits : facts.Fits kind) {v w : Value}
    (h : Accepts policy (.leaf facts kind) v w) (path : String) (done : Nat) :
    (check policy (.leaf facts kind) path done w).Always (.accepted w) := by
  obtain ⟨path', done', h⟩ := h
  rw [check] at h ⊢
  obtain ⟨u, hkind, hrefine⟩ := exists_of_gives_refineVerdict h
  have hagain := check_of_checkRefinements hfits (RuleKind.check_of_check hkind) hrefine
  rw [hagain]
  intro history
  exact ⟨history, by rw [refineVerdict, checkRefinements_again w hfits.lowerFirst hrefine]; rfl⟩

/-- Refinements of lists accept again what they accepted. -/
theorem always_refineVerdict_list {facts : RuleFacts} (hfits : facts.Fits .array) {v : Value}
    {parts : List Value}
    (h : checkRefinements v facts.refinements (.list parts) = .ok (.accepted (.list parts))) :
    (refineVerdict (.list parts) facts.refinements (.accepted (.list parts))).Always
      (.accepted (.list parts)) := by
  intro history
  exact ⟨history, by rw [refineVerdict, checkRefinements_again _ hfits.lowerFirst h]; rfl⟩

end Rule

end FieldSchema
