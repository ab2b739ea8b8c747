import FieldSchema.Proofs.Signature.Cycles

/-!
# Sharing in object graphs

Two parts of object graphs match when they look the same on all ways down, whether or not a
container that is met on two ways is one container.  This is said by a relation between the
containers of the two graphs, which may relate one container to many (`ObjectGraph.Part.Matches`).

Where the search finds a payload, every way down has an end, and so it has from a part that matches;
and the search goes the same way there (`ObjectGraph.search_of_matches`), whatever containers were
active on either side.

* `ObjectGraph.Part.Matches`, `ObjectGraph.Cell.Matches`: parts that only differ in sharing.
* `ObjectGraph.acc_of_matches`: ways down that have an end.
* `ObjectGraph.result_search_eq_of_matches`: what the search finds.
-/

namespace FieldSchema

namespace ObjectGraph

variable {α β : Type}

/-! ## Sharing -/

/-- Parts of two graphs that are made alike down to containers, which are related. -/
inductive Part.Matches (R : α → β → Prop) : Part α → Part β → Prop
  | leaf (written : Payload) : Matches R (.leaf written) (.leaf written)
  | spec {type modifiers : Part α} {type' modifiers' : Part β} (htype : Matches R type type')
    (hmodifiers : Matches R modifiers modifiers') :
    Matches R (.spec type modifiers) (.spec type' modifiers')
  | shorthand {item : Part α} {item' : Part β} (hitem : Matches R item item') :
    Matches R (.shorthand item) (.shorthand item')
  | container {a : α} {b : β} (h : R a b) : Matches R (.container a) (.container b)

/-- Cells of one kind whose parts match in order. -/
inductive Cell.Matches (R : α → β → Prop) : Cell α → Cell β → Prop
  | map {entries : List (Part α × Part α)} {entries' : List (Part β × Part β)}
    (h : List.Forall₂ (fun entry entry' =>
      entry.1.Matches R entry'.1 ∧ entry.2.Matches R entry'.2) entries entries') :
    Matches R (.map entries) (.map entries')
  | list {items : List (Part α)} {items' : List (Part β)}
    (h : List.Forall₂ (Part.Matches R) items items') : Matches R (.list items) (.list items')
  | tuple {items : List (Part α)} {items' : List (Part β)}
    (h : List.Forall₂ (Part.Matches R) items items') : Matches R (.tuple items) (.tuple items')

variable {R : α → β → Prop} {contents : α → Cell α} {contents' : β → Cell β}

theorem Part.Matches.symm {part : Part α} {part' : Part β} (h : part.Matches R part') :
    part'.Matches (flip R) part := by
  induction h with
  | leaf written => exact .leaf written
  | spec _ _ htype hmodifiers => exact .spec htype hmodifiers
  | shorthand _ hitem => exact .shorthand hitem
  | container h => exact .container h

theorem Cell.Matches.symm {cell : Cell α} {cell' : Cell β} (h : cell.Matches R cell') :
    cell'.Matches (flip R) cell := by
  have hitems {items : List (Part α)} {items' : List (Part β)}
      (h : List.Forall₂ (Part.Matches R) items items') :
      List.Forall₂ (Part.Matches (flip R)) items' items :=
    (h.imp fun _ _ hitem => hitem.symm).flip
  cases h with
  | map h => exact .map (h.imp fun _ _ hentry => ⟨hentry.1.symm, hentry.2.symm⟩).flip
  | list h => exact .list (hitems h)
  | tuple h => exact .tuple (hitems h)

theorem Cell.Matches.parts {cell : Cell α} {cell' : Cell β} (h : cell.Matches R cell') :
    List.Forall₂ (Part.Matches R) cell.parts cell'.parts := by
  cases h with
  | map h =>
    exact List.rel_flatMap h fun entry entry' hentry => .cons hentry.1 (.cons hentry.2 .nil)
  | list h => exact h
  | tuple h => exact h

theorem Cell.Matches.written_eq {cell : Cell α} {cell' : Cell β} (h : cell.Matches R cell') :
    cell.written = cell'.written := by
  cases h <;> rfl

/-- What a matching part leads to is matched. -/
theorem exists_leads_of_matches (hR : ∀ a b, R a b → (contents a).Matches R (contents' b))
    {part : Part α} {part' next' : Part β} (h : part.Matches R part')
    (hleads : Leads contents' part' next') :
    ∃ next, Leads contents part next ∧ next.Matches R next' := by
  cases h with
  | leaf => cases hleads
  | spec htype hmodifiers =>
    cases hleads with
    | type => exact ⟨_, .type _ _, htype⟩
    | modifiers => exact ⟨_, .modifiers _ _, hmodifiers⟩
  | shorthand hitem =>
    cases hleads
    exact ⟨_, .item _, hitem⟩
  | container h =>
    cases hleads with
    | part hpart =>
      obtain ⟨next, hnext, hmatches⟩ := exists_of_mem_forall₂ (hR _ _ h).parts.flip _ hpart
      exact ⟨next, .part hnext, hmatches⟩

theorem acc_of_matches (hR : ∀ a b, R a b → (contents a).Matches R (contents' b))
    {part : Part α} (hacc : Acc (fun next part => Leads contents part next) part)
    {part' : Part β} (h : part.Matches R part') :
    Acc (fun next part => Leads contents' part next) part' := by
  induction hacc generalizing part' with
  | intro part _ ih =>
    refine ⟨_, fun next' hleads => ?_⟩
    obtain ⟨next, hnext, hmatches⟩ := exists_leads_of_matches hR h hleads
    exact ih next hnext hmatches

/-- What holds of the parts of one list and their payloads is carried to the parts of another. -/
theorem forall₂_of_forall₂ {P : Part α → Payload → Prop} {Q : Part β → Payload → Prop}
    {parts : List (Part α)} {parts' : List (Part β)} {ps : List Payload}
    (hps : List.Forall₂ P parts ps) (hmatches : List.Forall₂ (Part.Matches R) parts parts')
    (h : ∀ part ∈ parts, ∀ part' ∈ parts', ∀ p, P part p → part.Matches R part' → Q part' p) :
    List.Forall₂ Q parts' ps := by
  induction hps generalizing parts' with
  | nil =>
    cases hmatches
    exact .nil
  | cons hfirst _ ih =>
    cases hmatches with
    | cons hmatch hmatches =>
      refine .cons (h _ List.mem_cons_self _ List.mem_cons_self _ hfirst hmatch) (ih hmatches ?_)
      exact fun part hpart part' hpart' =>
        h part (List.mem_cons_of_mem _ hpart) part' (List.mem_cons_of_mem _ hpart')

variable [Fintype α] [DecidableEq α] [Fintype β] [DecidableEq β]

/-- What the search finds for a part it finds for every part that matches, unless it returns. -/
theorem search_of_matches (hR : ∀ a b, R a b → (contents a).Matches R (contents' b))
    (active : Finset α) (part : Part α) {p : Payload}
    (hp : (search contents active part).result = .ok p) {part' : Part β} (h : part.Matches R part')
    {active' : Finset β} (hnot : ¬Returns contents' active' part') :
    (search contents' active' part').result = .ok p := by
  induction active, part using search_induction contents generalizing p part' active' with
  | leaf active written =>
    cases h
    rwa [result_leaf] at hp ⊢
  | spec active type modifiers htype hmodifiers =>
    cases h with
    | spec htypes hothers =>
      rw [returns_spec_iff, not_or] at hnot
      obtain ⟨first, second, hfirst, hsecond, rfl⟩ := result_spec_eq_ok_iff.mp hp
      exact result_spec_eq_ok_iff.mpr ⟨first, second, htype hfirst htypes hnot.1,
        hmodifiers hsecond hothers hnot.2, rfl⟩
  | shorthand active item hitem =>
    cases h with
    | shorthand hitems =>
      rw [returns_shorthand_iff] at hnot
      obtain ⟨q, hq, rfl⟩ := result_shorthand_eq_ok_iff.mp hp
      exact result_shorthand_eq_ok_iff.mpr ⟨q, hitem hq hitems hnot, rfl⟩
  | met active a ha =>
    rw [result_container_of_mem ha] at hp
    cases hp
  | entered active a ha hparts =>
    cases h with
    | @container _ b hab =>
      have hb : b ∉ active' := fun hb => hnot ⟨b, .refl, .inl hb⟩
      rw [returns_container_iff hb] at hnot
      obtain ⟨ps, hps, rfl⟩ := (result_container_eq_ok_iff ha).mp hp
      rw [(hR a b hab).written_eq]
      refine (result_container_eq_ok_iff hb).mpr ⟨ps, ?_, rfl⟩
      exact forall₂_of_forall₂ hps (hR a b hab).parts fun part hpart part' hpart' q hq hmatches =>
        hparts part hpart hq hmatches fun hreturns => hnot ⟨part', hpart', hreturns⟩

/-- What has a payload has the same one in every graph in which it matches. -/
theorem result_search_of_matches (hR : ∀ a b, R a b → (contents a).Matches R (contents' b))
    {part : Part α} {part' : Part β} (h : part.Matches R part') {p : Payload}
    (hp : (search contents ∅ part).result = .ok p) :
    (search contents' ∅ part').result = .ok p := by
  have hacc := acc_of_not_returns contents ∅ part (search_eq_ok_iff.mp ⟨p, hp⟩)
  exact search_of_matches hR ∅ part hp h (not_returns_of_acc (acc_of_matches hR hacc h))

/-- **Sharing does not matter**: parts that match have the same payload, or neither has one. -/
theorem result_search_eq_of_matches (hR : ∀ a b, R a b → (contents a).Matches R (contents' b))
    {part : Part α} {part' : Part β} (h : part.Matches R part') :
    (search contents' ∅ part').result = (search contents ∅ part).result := by
  rcases search_spec contents ∅ part with ⟨⟨p, hp⟩, -⟩ | ⟨herror, -⟩
  · rw [hp, result_search_of_matches hR h hp]
  · rcases search_spec contents' ∅ part' with ⟨⟨p, hp⟩, -⟩ | ⟨herror', -⟩
    · have hback : ∀ b a, flip R b a → (contents' b).Matches (flip R) (contents a) :=
        fun b a hab => (hR a b hab).symm
      rw [result_search_of_matches hback h.symm hp] at herror
      cases herror
    · rw [herror, herror']

end ObjectGraph

end FieldSchema
