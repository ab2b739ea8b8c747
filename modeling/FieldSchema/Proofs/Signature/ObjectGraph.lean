import FieldSchema.Signature.Content
import Mathlib.Data.Finset.BooleanAlgebra
import Mathlib.Data.Fintype.Card
import Mathlib.Logic.Relation

/-!
# Signatures of object graphs

Definitions and options are objects that may share parts with each other and refer back to
containers around them.  Such objects form a graph: mappings, lists and tuples have an identity, and
everything else is what it is made of.  The payload of a part of a graph is found by a search that
goes down into containers.  A container is active while the search is below it, and coming to an
active container is an error.  A container is active no longer when the search leaves it, with a
payload or with an error.

That the active containers are those from before is part of what the search gives out (`Outcome`),
and the search needs it to come to an end: below a container there are fewer that are not active,
and to see this for the second of two parts one has to know what the first has left behind.

* `ObjectGraph.search`: the payload of a part of a graph.
* `ObjectGraph.search_induction`: induction along the search.
* `ObjectGraph.signature`: the signature of a definition and options in a graph.
-/

namespace FieldSchema

namespace ObjectGraph

/-! ## Graphs -/

/-- A part of an object graph with containers `α`. -/
inductive Part (α : Type) where
  /-- Anything that is not searched, by its payload. -/
  | leaf (written : Payload)
  /-- A field specification. -/
  | spec (type modifiers : Part α)
  /-- An array, by its items. -/
  | shorthand (item : Part α)
  | container (a : α)

/-- What a container holds. -/
inductive Cell (α : Type) where
  | map (entries : List (Part α × Part α))
  | list (items : List (Part α))
  | tuple (items : List (Part α))

namespace Cell

variable {α : Type}

/-- What a container holds, in the order in which it is searched: keys come before their values. -/
def parts : Cell α → List (Part α)
  | .map entries => entries.flatMap fun entry => [entry.1, entry.2]
  | .list items => items
  | .tuple items => items

/-- Payloads of keys and values in turn, in pairs. -/
def inPairs : List Payload → List Payload
  | key :: value :: rest => .array [key, value] :: inPairs rest
  | _ => []

/-- The payload of a container, from those of its parts. -/
def written : Cell α → List Payload → Payload
  | .map _, parts => .container "__map__" (inPairs parts)
  | .list _, parts => .container "__seq__" parts
  | .tuple _, parts => .container "__tuple__" parts

end Cell

/-! ## The search -/

/-- What a search comes to, and the containers that are active after it: those from before. -/
structure Outcome {α : Type} (β : Type) (active : Finset α) where
  result : Except DefinitionError β
  after : Finset α
  restored : after = active

variable {α : Type} [DecidableEq α]

theorem card_compl_insert_lt [Fintype α] {active : Finset α} {a : α} (h : a ∉ active) :
    (insert a active)ᶜ.card < activeᶜ.card := by
  rw [Finset.compl_insert]
  exact Finset.card_erase_lt_of_mem (Finset.mem_compl.mpr h)

mutual

/-- The payload of a part, while some containers are active. -/
def search [Fintype α] (contents : α → Cell α) (active : Finset α) (part : Part α) :
    Outcome Payload active :=
  match part with
  | .leaf written => ⟨.ok written, active, rfl⟩
  | .spec type modifiers =>
    match search contents active type with
    | ⟨.error e, after, h⟩ => ⟨.error e, after, h⟩
    | ⟨.ok first, between, h⟩ =>
      match search contents between modifiers with
      | ⟨.error e, after, h'⟩ => ⟨.error e, after, h'.trans h⟩
      | ⟨.ok second, after, h'⟩ =>
        ⟨.ok (.tagged "__field__" (.array [first, second])), after, h'.trans h⟩
  | .shorthand item =>
    match search contents active item with
    | ⟨result, after, h⟩ => ⟨result.map (.tagged "__array__"), after, h⟩
  | .container a =>
    if ha : a ∈ active then ⟨.error .referenceCycle, active, rfl⟩
    else
      match searchAll contents (insert a active) (contents a).parts with
      | ⟨result, after, h⟩ =>
        ⟨result.map (contents a).written, after.erase a, by rw [h, Finset.erase_insert ha]⟩
termination_by (activeᶜ.card, sizeOf part)
decreasing_by
  · exact Prod.Lex.right _ (by simp only [Part.spec.sizeOf_spec]; omega)
  · subst h
    exact Prod.Lex.right _ (by simp only [Part.spec.sizeOf_spec]; omega)
  · exact Prod.Lex.right _ (by simp only [Part.shorthand.sizeOf_spec]; omega)
  · exact Prod.Lex.left _ _ (card_compl_insert_lt ha)

/-- The payloads of parts in order, up to the first error. -/
def searchAll [Fintype α] (contents : α → Cell α) (active : Finset α) (parts : List (Part α)) :
    Outcome (List Payload) active :=
  match parts with
  | [] => ⟨.ok [], active, rfl⟩
  | part :: rest =>
    match search contents active part with
    | ⟨.error e, after, h⟩ => ⟨.error e, after, h⟩
    | ⟨.ok first, between, h⟩ =>
      match searchAll contents between rest with
      | ⟨.error e, after, h'⟩ => ⟨.error e, after, h'.trans h⟩
      | ⟨.ok others, after, h'⟩ => ⟨.ok (first :: others), after, h'.trans h⟩
termination_by (activeᶜ.card, sizeOf parts)
decreasing_by
  · exact Prod.Lex.right _ (by simp only [List.cons.sizeOf_spec]; omega)
  · subst h
    exact Prod.Lex.right _ (by simp only [List.cons.sizeOf_spec]; omega)

end

/-! ## What the search comes to -/

section

variable [Fintype α] {contents : α → Cell α} {active : Finset α}

@[simp] theorem result_leaf (written : Payload) :
    (search contents active (.leaf written)).result = .ok written := by
  rw [search]

theorem result_spec (type modifiers : Part α) :
    (search contents active (.spec type modifiers)).result = (do
      let first ← (search contents active type).result
      let second ← (search contents active modifiers).result
      pure (.tagged "__field__" (.array [first, second]))) := by
  rw [search]
  rcases search contents active type with ⟨first, _, rfl⟩
  cases first with
  | error e => rfl
  | ok first =>
    dsimp only
    rcases search contents _ modifiers with ⟨second, _, rfl⟩
    cases second <;> rfl

theorem result_shorthand (item : Part α) :
    (search contents active (.shorthand item)).result =
      (search contents active item).result.map (.tagged "__array__") := by
  rw [search]

theorem result_container_of_mem {a : α} (ha : a ∈ active) :
    (search contents active (.container a)).result = .error .referenceCycle := by
  rw [search, dif_pos ha]

theorem result_container_of_not_mem {a : α} (ha : a ∉ active) :
    (search contents active (.container a)).result =
      (searchAll contents (insert a active) (contents a).parts).result.map
        (contents a).written := by
  rw [search, dif_neg ha]

theorem result_cons (part : Part α) (rest : List (Part α)) :
    (searchAll contents active (part :: rest)).result = (do
      let first ← (search contents active part).result
      let others ← (searchAll contents active rest).result
      pure (first :: others)) := by
  rw [searchAll]
  rcases search contents active part with ⟨first, _, rfl⟩
  cases first with
  | error e => rfl
  | ok first =>
    dsimp only
    rcases searchAll contents _ rest with ⟨others, _, rfl⟩
    cases others <;> rfl

/-- An error of parts is that of one of them. -/
theorem exists_of_result_searchAll {parts : List (Part α)} {e : DefinitionError}
    (h : (searchAll contents active parts).result = .error e) :
    ∃ part ∈ parts, (search contents active part).result = .error e := by
  induction parts with
  | nil =>
    rw [searchAll] at h
    cases h
  | cons part rest ih =>
    rw [result_cons] at h
    cases hpart : (search contents active part).result with
    | error e' =>
      rw [hpart] at h
      exact ⟨part, List.mem_cons_self, hpart.trans (congrArg _ (Except.error.inj h))⟩
    | ok first =>
      rw [hpart] at h
      cases hrest : (searchAll contents active rest).result with
      | error e' =>
        rw [hrest] at h
        obtain ⟨other, hother, herror⟩ := ih (hrest.trans (congrArg _ (Except.error.inj h)))
        exact ⟨other, List.mem_cons_of_mem _ hother, herror⟩
      | ok others =>
        rw [hrest] at h
        cases h

/-! ### Payloads -/

variable {p : Payload}

theorem result_spec_eq_ok_iff {type modifiers : Part α} :
    (search contents active (.spec type modifiers)).result = .ok p ↔
      ∃ first second, (search contents active type).result = .ok first ∧
        (search contents active modifiers).result = .ok second ∧
        p = .tagged "__field__" (.array [first, second]) := by
  rw [result_spec]
  cases (search contents active type).result with
  | error e => simp [bind, Except.bind]
  | ok first =>
    cases (search contents active modifiers).result with
    | error e => simp [bind, Except.bind]
    | ok second => simp [bind, Except.bind, pure, Except.pure, eq_comm]

theorem result_shorthand_eq_ok_iff {item : Part α} :
    (search contents active (.shorthand item)).result = .ok p ↔
      ∃ q, (search contents active item).result = .ok q ∧ p = .tagged "__array__" q := by
  rw [result_shorthand]
  cases (search contents active item).result with
  | error e => simp [Except.map]
  | ok q => simp [Except.map, eq_comm]

theorem result_searchAll_eq_ok_iff {parts : List (Part α)} {ps : List Payload} :
    (searchAll contents active parts).result = .ok ps ↔
      List.Forall₂ (fun part p => (search contents active part).result = .ok p) parts ps := by
  induction parts generalizing ps with
  | nil =>
    rw [searchAll, List.forall₂_nil_left_iff, Except.ok.injEq, eq_comm]
  | cons part rest ih =>
    rw [result_cons, List.forall₂_cons_left_iff]
    cases (search contents active part).result with
    | error e => simp [bind, Except.bind]
    | ok first =>
      simp only [Except.ok.injEq, exists_and_left, exists_eq_left', ← ih]
      cases (searchAll contents active rest).result with
      | error e => simp [bind, Except.bind]
      | ok others => simp [bind, Except.bind, pure, Except.pure, eq_comm]

theorem result_container_eq_ok_iff {a : α} (ha : a ∉ active) :
    (search contents active (.container a)).result = .ok p ↔
      ∃ ps, List.Forall₂ (fun part p => (search contents (insert a active) part).result = .ok p)
        (contents a).parts ps ∧ p = (contents a).written ps := by
  rw [result_container_of_not_mem ha]
  simp only [← result_searchAll_eq_ok_iff]
  cases (searchAll contents (insert a active) (contents a).parts).result with
  | error e => simp [Except.map]
  | ok ps => simp [Except.map, eq_comm]

end

/-- **Induction along the search**: what holds of a container follows from what holds of its parts
while it is active. -/
theorem search_induction [Fintype α] (contents : α → Cell α) {motive : Finset α → Part α → Prop}
    (leaf : ∀ active written, motive active (.leaf written))
    (spec : ∀ active type modifiers, motive active type → motive active modifiers →
      motive active (.spec type modifiers))
    (shorthand : ∀ active item, motive active item → motive active (.shorthand item))
    (met : ∀ active, ∀ a ∈ active, motive active (.container a))
    (entered : ∀ active, ∀ a ∉ active,
      (∀ part ∈ (contents a).parts, motive (insert a active) part) →
      motive active (.container a))
    (active : Finset α) (part : Part α) : motive active part := by
  cases part with
  | leaf written => exact leaf active written
  | spec type modifiers =>
    exact spec active type modifiers
      (search_induction contents leaf spec shorthand met entered active type)
      (search_induction contents leaf spec shorthand met entered active modifiers)
  | shorthand item =>
    exact shorthand active item
      (search_induction contents leaf spec shorthand met entered active item)
  | container a =>
    by_cases ha : a ∈ active
    · exact met active a ha
    · exact entered active a ha fun part _ =>
        search_induction contents leaf spec shorthand met entered (insert a active) part
termination_by (activeᶜ.card, sizeOf part)
decreasing_by
  · exact Prod.Lex.right _ (by simp only [Part.spec.sizeOf_spec]; omega)
  · exact Prod.Lex.right _ (by simp only [Part.spec.sizeOf_spec]; omega)
  · exact Prod.Lex.right _ (by simp only [Part.shorthand.sizeOf_spec]; omega)
  · exact Prod.Lex.left _ _ (card_compl_insert_lt ha)

/-- The signature of a definition and options that are parts of a graph, unless no coding has what
it is taken of. -/
def signature [Fintype α] (contents : α → Cell α) (definition options : Part α) :
    Except DefinitionError (Option String) := do
  let first ← (search contents ∅ definition).result
  let second ← (search contents ∅ options).result
  pure (Signature.digest? (Payload.array [first, second]))

end ObjectGraph

end FieldSchema
