import Mathlib.Data.List.Forall2

/-!
# Lists

Facts about lists that several parts of the theory use: lists whose items are related one by one,
lists that are made item by item and may fail, and lists of entries with keys.

* `exists_of_mem_forall₂`: what an item is related to.
* `Except.mapM_eq_ok_iff`, `Except.mapM_eq_error_iff`: lists of results.
* `lookup_eq_some_of_mem`: what is kept under a key.
-/

namespace FieldSchema

/-! ## Related lists -/

/-- Every item of a list is related to some item of a list that is related to it item by item; for
the items of the other list the relation is turned around. -/
theorem exists_of_mem_forall₂ {α β : Type} {R : α → β → Prop} {xs : List α} {ys : List β}
    (h : List.Forall₂ R xs ys) : ∀ x ∈ xs, ∃ y ∈ ys, R x y := by
  induction h with
  | nil => exact List.forall_mem_nil _
  | @cons x y xs ys hfirst _ ih =>
    refine List.forall_mem_cons.mpr ⟨⟨y, List.mem_cons_self, hfirst⟩, fun other hother => ?_⟩
    obtain ⟨z, hz, hrelated⟩ := ih other hother
    exact ⟨z, List.mem_cons_of_mem y hz, hrelated⟩

/-! ## Lists of results -/

section Traversal

variable {ε α β : Type} {f : α → Except ε β}

/-- A list is made when each of its items is. -/
theorem Except.mapM_eq_ok_iff {items : List α} {results : List β} :
    items.mapM f = .ok results ↔ List.Forall₂ (fun item b => f item = .ok b) items results := by
  induction items generalizing results with
  | nil => simp [pure, Except.pure, eq_comm]
  | cons item rest ih =>
    rw [List.mapM_cons, List.forall₂_cons_left_iff]
    cases hitem : f item with
    | error e => simp [bind, Except.bind]
    | ok b =>
      cases hrest : rest.mapM f with
      | error e =>
        have hnone : ∀ others, ¬List.Forall₂ (fun item b => f item = .ok b) rest others := by
          intro others hothers
          rw [ih.mpr hothers] at hrest
          contradiction
        simp [bind, Except.bind, hnone]
      | ok others =>
        have hothers : ∀ others', List.Forall₂ (fun item b => f item = .ok b) rest others' ↔
            others = others' := by
          intro others'
          rw [← ih, hrest, Except.ok.injEq]
        simp [bind, Except.bind, pure, Except.pure, hothers, eq_comm]

/-- A list fails as the first of its items that fails. -/
theorem Except.mapM_eq_error_iff {items : List α} {e : ε} :
    items.mapM f = .error e ↔ ∃ before item after, items = before ++ item :: after ∧
      (∀ earlier ∈ before, ∃ b, f earlier = .ok b) ∧ f item = .error e := by
  induction items with
  | nil => simp [pure, Except.pure]
  | cons item rest ih =>
    rw [List.mapM_cons]
    simp only [List.cons_eq_append_iff]
    cases hitem : f item with
    | error e' =>
      constructor
      · intro h
        obtain rfl : e' = e := Except.error.inj h
        exact ⟨[], item, rest, .inl ⟨rfl, rfl⟩, nofun, hitem⟩
      · rintro ⟨before, failed, after, ⟨rfl, hcons⟩ | ⟨before', rfl, -⟩, hearlier, hfailed⟩
        · obtain ⟨rfl, rfl⟩ := List.cons.inj hcons
          rw [hitem] at hfailed
          rw [Except.error.inj hfailed]
          rfl
        · obtain ⟨b, hb⟩ := hearlier item List.mem_cons_self
          rw [hitem] at hb
          contradiction
    | ok b =>
      have hrest : (do let b ← Except.ok b; let others ← rest.mapM f; pure (b :: others)) =
          (.error e : Except ε (List β)) ↔ rest.mapM f = .error e := by
        cases rest.mapM f <;> simp [bind, Except.bind, pure, Except.pure]
      rw [hrest, ih]
      constructor
      · rintro ⟨before, failed, after, rfl, hearlier, hfailed⟩
        refine ⟨item :: before, failed, after, .inr ⟨before, rfl, rfl⟩, ?_, hfailed⟩
        intro earlier hmem
        rcases List.mem_cons.mp hmem with rfl | hmem
        · exact ⟨b, hitem⟩
        · exact hearlier earlier hmem
      · rintro ⟨before, failed, after, ⟨rfl, hcons⟩ | ⟨before', rfl, rfl⟩, hearlier, hfailed⟩
        · obtain ⟨rfl, rfl⟩ := List.cons.inj hcons
          rw [hitem] at hfailed
          contradiction
        · exact ⟨before', failed, after, rfl,
            fun earlier hmem => hearlier earlier (List.mem_cons_of_mem _ hmem), hfailed⟩

end Traversal

/-! ## Entries -/

/-- Where keys differ, every entry is what is kept under its key. -/
theorem lookup_eq_some_of_mem {α β : Type} [BEq α] [LawfulBEq α] {entries : List (α × β)}
    {key : α} {b : β} (h : (entries.map (·.1)).Nodup) (hmem : (key, b) ∈ entries) :
    entries.lookup key = some b := by
  obtain ⟨before, after, rfl⟩ := List.append_of_mem hmem
  refine List.lookup_eq_some_iff.mpr ⟨before, after, rfl, fun entry hentry => ?_⟩
  rw [List.map_append, List.map_cons, List.nodup_append] at h
  exact bne_iff_ne.mpr (h.2.2 entry.1 (List.mem_map_of_mem hentry) key List.mem_cons_self).symm

end FieldSchema
