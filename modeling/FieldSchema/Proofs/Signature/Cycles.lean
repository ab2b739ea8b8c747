import FieldSchema.Proofs.Lists
import FieldSchema.Proofs.Signature.ObjectGraph

/-!
# Cycles in object graphs

The search in an object graph fails exactly when it comes to a container that is active, or to one
that can reach itself, and it fails in no other way.  Both directions go along the search, with one
equivalence for each kind of part: while a container is active, what comes back to it reaches itself
(`ObjectGraph.returns_container_iff`).  At the start no container is active, so that the search
fails exactly when there is a cycle to be met, which is the same as a way down without end.

* `ObjectGraph.Leads`, `ObjectGraph.ReachesItself`: ways from part to part.
* `ObjectGraph.search_spec`: when the search fails.
* `ObjectGraph.acc_of_not_returns`, `ObjectGraph.not_returns_of_acc`: ways down without end.
-/

namespace FieldSchema

namespace ObjectGraph

open Relation

variable {α : Type}

/-! ## Ways -/

/-- One part leads to another one in one step. -/
inductive Leads (contents : α → Cell α) : Part α → Part α → Prop
  | type (type modifiers : Part α) : Leads contents (.spec type modifiers) type
  | modifiers (type modifiers : Part α) : Leads contents (.spec type modifiers) modifiers
  | item (item : Part α) : Leads contents (.shorthand item) item
  | part {a : α} {part : Part α} (h : part ∈ (contents a).parts) :
    Leads contents (.container a) part

/-- A container can reach itself. -/
def ReachesItself (contents : α → Cell α) (a : α) : Prop :=
  TransGen (Leads contents) (.container a) (.container a)

/-- From a part one comes to a container that is active, or that can reach itself. -/
def Returns (contents : α → Cell α) (active : Finset α) (part : Part α) : Prop :=
  ∃ a, ReflTransGen (Leads contents) part (.container a) ∧
    (a ∈ active ∨ ReachesItself contents a)

variable {contents : α → Cell α} {active : Finset α}

theorem returns_of_leads {part next : Part α} (h : Leads contents part next)
    (hnext : Returns contents active next) : Returns contents active part := by
  obtain ⟨a, hreach, ha⟩ := hnext
  exact ⟨a, .head h hreach, ha⟩

theorem returns_iff {part : Part α} : Returns contents active part ↔
    (∃ a, part = .container a ∧ (a ∈ active ∨ ReachesItself contents a)) ∨
      ∃ next, Leads contents part next ∧ Returns contents active next := by
  constructor
  · rintro ⟨a, hreach, ha⟩
    rcases hreach.cases_head with rfl | ⟨next, hleads, hreach⟩
    · exact .inl ⟨a, rfl, ha⟩
    · exact .inr ⟨next, hleads, a, hreach, ha⟩
  · rintro (⟨a, rfl, ha⟩ | ⟨next, hleads, hnext⟩)
    · exact ⟨a, .refl, ha⟩
    · exact returns_of_leads hleads hnext

theorem not_returns_leaf (written : Payload) : ¬Returns contents active (.leaf written) := by
  rw [returns_iff]
  rintro (⟨a, ha, -⟩ | ⟨next, hleads, -⟩)
  · cases ha
  · cases hleads

theorem returns_spec_iff {type modifiers : Part α} :
    Returns contents active (.spec type modifiers) ↔
      Returns contents active type ∨ Returns contents active modifiers := by
  constructor
  · rw [returns_iff]
    rintro (⟨a, ha, -⟩ | ⟨next, hleads, hnext⟩)
    · cases ha
    · cases hleads with
      | type => exact .inl hnext
      | modifiers => exact .inr hnext
  · rintro (h | h)
    · exact returns_of_leads (.type type modifiers) h
    · exact returns_of_leads (.modifiers type modifiers) h

theorem returns_shorthand_iff {item : Part α} :
    Returns contents active (.shorthand item) ↔ Returns contents active item := by
  constructor
  · rw [returns_iff]
    rintro (⟨a, ha, -⟩ | ⟨next, hleads, hnext⟩)
    · cases ha
    · cases hleads
      exact hnext
  · exact returns_of_leads (.item item)

section

variable [DecidableEq α] {a : α}

/-- What comes back to a container from below it makes the container reach itself. -/
theorem returns_container_of_part {part : Part α} (hpart : part ∈ (contents a).parts)
    (h : Returns contents (insert a active) part) : Returns contents active (.container a) := by
  obtain ⟨b, hreach, hmet⟩ := h
  have hleads : Leads contents (.container a) part := .part hpart
  rw [Finset.mem_insert, or_assoc] at hmet
  rcases hmet with rfl | hmet
  · exact ⟨b, .refl, .inr (TransGen.head' hleads hreach)⟩
  · exact ⟨b, .head hleads hreach, hmet⟩

/-- From a container that is not active one returns when one does from below it, where the container
is active. -/
theorem returns_container_iff (ha : a ∉ active) : Returns contents active (.container a) ↔
    ∃ part ∈ (contents a).parts, Returns contents (insert a active) part := by
  constructor
  · rw [returns_iff]
    rintro (⟨b, hb, hmet⟩ | ⟨part, hleads, b, hreach, hmet⟩)
    · obtain rfl : a = b := Part.container.inj hb
      obtain ⟨part, hleads, hreach⟩ := TransGen.head'_iff.mp (hmet.resolve_left ha)
      cases hleads with
      | part hpart => exact ⟨part, hpart, a, hreach, .inl (Finset.mem_insert_self a active)⟩
    · cases hleads with
      | part hpart => exact ⟨part, hpart, b, hreach, hmet.imp_left Finset.mem_insert_of_mem⟩
  · rintro ⟨part, hpart, hreturns⟩
    exact returns_container_of_part hpart hreturns

end

/-- Where every way down has an end, nothing returns. -/
theorem not_returns_of_acc {part : Part α}
    (h : Acc (fun next part => Leads contents part next) part) : ¬Returns contents ∅ part := by
  induction h with
  | intro part _ ih =>
    rw [returns_iff]
    rintro (⟨a, rfl, ha⟩ | ⟨next, hleads, hreturns⟩)
    · have hself := ha.resolve_left (Finset.notMem_empty a)
      obtain ⟨next, hleads, hreach⟩ := TransGen.head'_iff.mp hself
      exact ih next hleads ⟨a, hreach, .inr hself⟩
    · exact ih next hleads hreturns

/-! ## Exactness -/

variable [Fintype α] [DecidableEq α]

/-- **The search fails exactly when it returns**, and then with the error about cycles. -/
theorem search_spec (contents : α → Cell α) (active : Finset α) (part : Part α) :
    ((∃ p, (search contents active part).result = .ok p) ∧ ¬Returns contents active part) ∨
      ((search contents active part).result = .error .referenceCycle ∧
        Returns contents active part) := by
  induction active, part using search_induction contents with
  | leaf active written => exact .inl ⟨⟨written, result_leaf written⟩, not_returns_leaf written⟩
  | spec active type modifiers htype hmodifiers =>
    rw [result_spec, returns_spec_iff]
    rcases htype with ⟨⟨first, hfirst⟩, htype⟩ | ⟨hfirst, htype⟩
    · rw [hfirst]
      rcases hmodifiers with ⟨⟨second, hsecond⟩, hmodifiers⟩ | ⟨hsecond, hmodifiers⟩
      · rw [hsecond]
        exact .inl ⟨⟨_, rfl⟩, not_or.mpr ⟨htype, hmodifiers⟩⟩
      · rw [hsecond]
        exact .inr ⟨rfl, .inr hmodifiers⟩
    · rw [hfirst]
      exact .inr ⟨rfl, .inl htype⟩
  | shorthand active item hitem =>
    rw [result_shorthand, returns_shorthand_iff]
    rcases hitem with ⟨⟨p, hp⟩, hitem⟩ | ⟨hp, hitem⟩ <;> rw [hp]
    · exact .inl ⟨⟨_, rfl⟩, hitem⟩
    · exact .inr ⟨rfl, hitem⟩
  | met active a ha => exact .inr ⟨result_container_of_mem ha, a, .refl, .inl ha⟩
  | entered active a ha hparts =>
    rw [result_container_of_not_mem ha, returns_container_iff ha]
    cases hsearch : (searchAll contents (insert a active) (contents a).parts).result with
    | ok ps =>
      refine .inl ⟨⟨_, rfl⟩, ?_⟩
      rintro ⟨part, hpart, hreturns⟩
      obtain ⟨p, -, hp⟩ := exists_of_mem_forall₂ (result_searchAll_eq_ok_iff.mp hsearch) part hpart
      rcases hparts part hpart with ⟨-, hnot⟩ | ⟨hcycle, -⟩
      · exact hnot hreturns
      · rw [hp] at hcycle
        cases hcycle
    | error e =>
      obtain ⟨part, hpart, herror⟩ := exists_of_result_searchAll hsearch
      rcases hparts part hpart with ⟨⟨p, hp⟩, -⟩ | ⟨hcycle, hreturns⟩
      · rw [hp] at herror
        cases herror
      · rw [hcycle] at herror
        cases herror
        exact .inr ⟨rfl, part, hpart, hreturns⟩

/-- A part has a payload when nothing returns. -/
theorem search_eq_ok_iff {part : Part α} : (∃ p, (search contents active part).result = .ok p) ↔
    ¬Returns contents active part := by
  rcases search_spec contents active part with ⟨hok, hnot⟩ | ⟨herror, hreturns⟩
  · exact iff_of_true hok hnot
  · refine iff_of_false ?_ (not_not_intro hreturns)
    rintro ⟨p, hp⟩
    rw [hp] at herror
    cases herror

/-- Where nothing returns, every way down has an end. -/
theorem acc_of_not_returns (contents : α → Cell α) (active : Finset α) (part : Part α)
    (h : ¬Returns contents active part) : Acc (fun next part => Leads contents part next) part := by
  induction active, part using search_induction contents with
  | leaf active written => exact ⟨_, fun next hleads => nomatch hleads⟩
  | spec active type modifiers htype hmodifiers =>
    rw [returns_spec_iff, not_or] at h
    refine ⟨_, fun next hleads => ?_⟩
    cases hleads with
    | type => exact htype h.1
    | modifiers => exact hmodifiers h.2
  | shorthand active item hitem =>
    rw [returns_shorthand_iff] at h
    refine ⟨_, fun next hleads => ?_⟩
    cases hleads
    exact hitem h
  | met active a ha => exact absurd ⟨a, .refl, .inl ha⟩ h
  | entered active a ha hparts =>
    rw [returns_container_iff ha] at h
    refine ⟨_, fun next hleads => ?_⟩
    cases hleads with
    | part hpart => exact hparts next hpart fun hreturns => h ⟨next, hpart, hreturns⟩

end ObjectGraph

end FieldSchema
