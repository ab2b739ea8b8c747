import FieldSchema.Validation.Kind

/-!
# Findings of the checks of kinds

The check of a kind of values rejects a value for at least one finding, and its findings are of a
few kinds.  None of these goes by the name of a field, and none is the kind of a refinement.

* `RuleKind.findingKinds`: the kinds.
* `RuleKind.findsOwn_check`: what the check of a kind finds.
-/

namespace FieldSchema

namespace RuleKind

variable {α β γ : Type}

/-- The kinds of findings that the check of a kind of values makes. -/
def findingKinds : List TextValue :=
  ["string_type", "string_unicode", "bool_type", "list_type", "dict_type", "invalid_type",
    "invalid_date"]

/-- A verdict as the check of a kind gives it: a rejection has findings, all of its kinds. -/
def FindsOwn : Verdict α → Prop
  | .accepted _ => True
  | .rejected list => list ≠ [] ∧ ∀ finding ∈ list, finding.kind ∈ findingKinds

theorem findsOwn_accepted (a : α) : FindsOwn (.accepted a) := trivial

theorem findsOwn_rejected {finding : Finding} (kind : TextValue) (h : finding.kind = kind)
    (hkind : kind ∈ findingKinds) : FindsOwn (.rejected [finding] : Verdict α) :=
  ⟨List.cons_ne_nil _ _, List.forall_mem_singleton.mpr (h ▸ hkind)⟩

theorem FindsOwn.under {verdict : Verdict α} (h : FindsOwn verdict) (segment : PathSegment) :
    FindsOwn (verdict.under segment) := by
  cases verdict with
  | accepted a => exact trivial
  | rejected list =>
    exact ⟨fun hnil => h.1 (List.map_eq_nil_iff.mp hnil), List.forall_mem_map.mpr h.2⟩

theorem FindsOwn.both {first : Verdict α} {second : Verdict β} (h : FindsOwn first)
    (h' : FindsOwn second) (f : α → β → γ) : FindsOwn (first.both f second) := by
  cases first with
  | accepted a =>
    cases second with
    | accepted b => exact trivial
    | rejected more => exact h'
  | rejected list =>
    cases second with
    | accepted b => exact h
    | rejected more =>
      exact ⟨List.append_ne_nil_of_left_ne_nil h.1 _, List.forall_mem_append.mpr ⟨h.2, h'.2⟩⟩

theorem FindsOwn.map {verdict : Verdict α} (h : FindsOwn verdict) (f : α → β) :
    FindsOwn (verdict.map f) := by
  cases verdict with
  | accepted a => exact trivial
  | rejected list => exact h

/-! ## The checks -/

theorem findsOwn_checkText (v : Value) : FindsOwn (checkText v) := by
  unfold checkText
  split
  · exact findsOwn_accepted _
  · exact findsOwn_rejected "string_type" rfl (by decide)

theorem findsOwn_checkDate (v : Value) : FindsOwn (checkDate v) := by
  unfold checkDate
  split
  · exact findsOwn_accepted _
  · exact findsOwn_accepted _
  · split
    · split
      · exact findsOwn_accepted _
      · exact findsOwn_rejected "invalid_date" rfl (by decide)
    · exact findsOwn_rejected "invalid_type" rfl (by decide)

theorem findsOwn_keyText (key : Value) : FindsOwn key.keyText := by
  unfold Value.keyText
  split
  · split
    · exact findsOwn_accepted _
    · exact findsOwn_rejected "string_unicode" rfl (by decide)
  · split
    · exact findsOwn_accepted _
    · exact findsOwn_rejected "string_type" rfl (by decide)

theorem findsOwn_checkMapping {checkValue : Value → Verdict Value}
    (h : ∀ v, FindsOwn (checkValue v)) (v : Value) : FindsOwn (checkMapping checkValue v) := by
  have hentries : ∀ entries, FindsOwn (checkEntries checkValue entries) := by
    intro entries
    induction entries with
    | nil => exact findsOwn_accepted _
    | cons entry rest ih =>
      have hkey := ((findsOwn_keyText entry.1).under (.field "[key]")).under entry.1.keySegment
      exact (hkey.both ((h entry.2).under entry.1.keySegment) _).both ih _
  unfold checkMapping
  split
  · exact (hentries _).map _
  · exact findsOwn_rejected "dict_type" rfl (by decide)

/-- The check of a kind makes findings of its own kinds. -/
theorem findsOwn_check (kind : RuleKind) (v : Value) : FindsOwn (kind.check v) := by
  cases kind with
  | string => exact findsOwn_checkText v
  | date => exact findsOwn_checkDate v
  | object => exact findsOwn_checkMapping findsOwn_accepted v
  | map => exact findsOwn_checkMapping findsOwn_checkText v
  | any => exact findsOwn_accepted v
  | number =>
    unfold check
    dsimp only
    split
    · exact findsOwn_accepted _
    · exact findsOwn_rejected "invalid_type" rfl (by decide)
  | boolean =>
    unfold check
    dsimp only
    split
    · exact findsOwn_accepted _
    · exact findsOwn_rejected "bool_type" rfl (by decide)
  | array =>
    unfold check
    dsimp only
    split
    · exact findsOwn_accepted _
    · exact findsOwn_rejected "list_type" rfl (by decide)

end RuleKind

end FieldSchema
