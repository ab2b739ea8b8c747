import FieldSchema.Logging.Redaction
import Mathlib.Data.List.Infix

/-!
# What redaction replaces

A place in an event is a list of steps, each of which goes to the value of an entry of a mapping or
to an item of a list.  A secret stands under a sensitive key of a mapping, and redaction finds the
mappings that are reached in fewer than six steps.  What a value shows of itself, without what it
holds, is its outline: the keys of a mapping, the length of a list, and anything else in full.

The redacted event has the mark at every secret that is not inside another one, and the outline of
the event at every place that is no secret and is in none.  Since outlines at all places determine a
value, nothing else is left to say about it (`Redaction.ofEvent_redacts`).

* `Value.at?`, `Value.outline`: what stands at a place, and what is seen of it there.
* `Value.eq_of_outlines`: values are determined by their outlines.
* `Redaction.SecretAt`, `Redaction.IsHidden`: secrets, and places that redaction hides.
* `Redaction.IsRedaction`: what the redacted event is to look like.
-/

namespace FieldSchema

namespace Value

/-! ## Places -/

/-- What a container holds: the values of the entries of a mapping, or the items of a list. -/
def held : Value → List Value
  | .map entries => entries.map (·.2)
  | .list items => items
  | _ => []

/-- The key of an entry of a mapping. -/
def keyAt? (v : Value) (step : Nat) : Option Value :=
  match v with
  | .map entries => (entries.map (·.1))[step]?
  | _ => none

/-- The value at a place. -/
def at? (v : Value) : List Nat → Option Value
  | [] => some v
  | step :: rest => v.held[step]?.bind fun part => part.at? rest

@[simp] theorem at?_nil (v : Value) : v.at? [] = some v := rfl

theorem at?_cons (v : Value) (step : Nat) (rest : List Nat) :
    v.at? (step :: rest) = v.held[step]?.bind fun part => part.at? rest := rfl

theorem at?_append (v : Value) (front rest : List Nat) :
    v.at? (front ++ rest) = (v.at? front).bind fun part => part.at? rest := by
  induction front generalizing v with
  | nil => rfl
  | cons step front ih =>
    rw [List.cons_append, at?_cons, at?_cons, Option.bind_assoc]
    congr 1
    funext part
    exact ih part

theorem sizeOf_lt_of_mem_held {v part : Value} (h : part ∈ v.held) : sizeOf part < sizeOf v := by
  cases v with
  | map entries =>
    obtain ⟨entry, hentry, rfl⟩ := List.mem_map.mp h
    have hlt := List.sizeOf_lt_of_mem hentry
    obtain ⟨key, part⟩ := entry
    simp only [Prod.mk.sizeOf_spec, Value.map.sizeOf_spec] at hlt ⊢
    omega
  | list items =>
    have hlt := List.sizeOf_lt_of_mem h
    simp only [Value.list.sizeOf_spec]
    exact Nat.lt_add_left 1 hlt
  | _ => exact absurd h List.not_mem_nil

/-- Induction along what containers hold. -/
theorem held_induction {P : Value → Prop} (step : ∀ v, (∀ part ∈ v.held, P part) → P v)
    (v : Value) : P v :=
  step v fun part _h => held_induction step part
termination_by sizeOf v
decreasing_by exact sizeOf_lt_of_mem_held _h

/-! ## Outlines -/

/-- What is seen of a value without looking at what it holds. -/
inductive Outline where
  | mapping (keys : List Value)
  | list (length : Nat)
  | whole (v : Value)

/-- The outline of a value. -/
def outline : Value → Outline
  | .map entries => .mapping (entries.map (·.1))
  | .list items => .list items.length
  | v => .whole v

theorem keyAt?_eq_of_outline {v w : Value} (h : v.outline = w.outline) (step : Nat) :
    v.keyAt? step = w.keyAt? step := by
  cases v <;> cases w <;> simp_all [outline, keyAt?]

theorem length_held_eq_of_outline {v w : Value} (h : v.outline = w.outline) :
    v.held.length = w.held.length := by
  cases v with
  | map entries =>
    cases w with
    | map entries' => simpa [held] using congrArg List.length (Outline.mapping.inj h)
    | _ => cases h
  | list items =>
    cases w with
    | list items' => exact Outline.list.inj h
    | _ => cases h
  | _ => cases w <;> first | rfl | cases h

/-- A value is determined by its outline and what it holds. -/
theorem eq_of_outline_of_held {v w : Value} (h : v.outline = w.outline) (hheld : v.held = w.held) :
    v = w := by
  cases v with
  | map entries =>
    cases w with
    | map entries' =>
      congr 1
      rw [List.zip_of_prod (Outline.mapping.inj h) hheld]
      exact (List.zip_of_prod rfl rfl).symm
    | _ => cases h
  | list items =>
    cases w with
    | list items' => exact congrArg Value.list hheld
    | _ => cases h
  | _ => cases w <;> first | exact Outline.whole.inj h | cases h

/-- Values with the same outlines at all places are equal. -/
theorem eq_of_outlines {v w : Value}
    (h : ∀ place, (v.at? place).map outline = (w.at? place).map outline) : v = w := by
  induction v using held_induction generalizing w with
  | step v ih =>
    have houtline : v.outline = w.outline := Option.some.inj (h [])
    refine eq_of_outline_of_held houtline (List.ext_getElem (length_held_eq_of_outline houtline) ?_)
    intro step hv hw
    refine ih _ (List.getElem_mem hv) ?_
    intro rest
    have hparts := h (step :: rest)
    rwa [at?_cons, at?_cons, List.getElem?_eq_getElem hv, List.getElem?_eq_getElem hw] at hparts

end Value

namespace Redaction

/-! ## Secrets -/

/-- Whether a step goes to a value under a sensitive key: a text that is a sensitive name when it is
brought to lower case. -/
def IsSensitiveStep (v : Value) (step : Nat) : Prop :=
  ∃ key name, v.keyAt? step = some key ∧ key.asText? = some name ∧
    Text.lowercase name ∈ sensitiveNames

/-- Whether a step at a place goes to a secret: to a value under a sensitive key of a mapping that
is reached in fewer steps than levels are searched. -/
def SecretAt (levels : Nat) (event : Value) (front : List Nat) (step : Nat) : Prop :=
  front.length < levels ∧ ∃ v, event.at? front = some v ∧ IsSensitiveStep v step

/-- Whether a place is a secret or inside one. -/
def IsHidden (levels : Nat) (event : Value) (place : List Nat) : Prop :=
  ∃ front step, SecretAt levels event front step ∧ front ++ [step] <+: place

/-- A value with the mark at its secrets and with the outlines of an event elsewhere. -/
structure IsRedaction (levels : Nat) (event out : Value) : Prop where
  hides : ∀ front step, SecretAt levels event front step → ¬ IsHidden levels event front →
    out.at? (front ++ [step]) = some mark
  keeps : ∀ place, ¬ IsHidden levels event place →
    (out.at? place).map Value.outline = (event.at? place).map Value.outline

variable {levels : Nat} {event other v w : Value} {front place rest : List Nat} {step : Nat}

theorem not_secretAt_zero : ¬ SecretAt 0 event front step := fun h => Nat.not_lt_zero _ h.1

theorem secretAt_nil : SecretAt (levels + 1) event [] step ↔ IsSensitiveStep event step := by
  simp [SecretAt]

theorem secretAt_cons {first : Nat} :
    SecretAt (levels + 1) event (first :: front) step ↔
      ∃ part, event.held[first]? = some part ∧ SecretAt levels part front step := by
  simp only [SecretAt, List.length_cons, Nat.succ_lt_succ_iff, Value.at?_cons,
    Option.bind_eq_some_iff]
  constructor
  · rintro ⟨hlength, v, ⟨part, hpart, hv⟩, hstep⟩
    exact ⟨part, hpart, hlength, v, hv, hstep⟩
  · rintro ⟨part, hpart, hlength, v, hv, hstep⟩
    exact ⟨hlength, v, ⟨part, hpart, hv⟩, hstep⟩

theorem IsHidden.mono (h : IsHidden levels event front) (hle : front <+: place) :
    IsHidden levels event place := by
  obtain ⟨before, step, hsecret, hprefix⟩ := h
  exact ⟨before, step, hsecret, hprefix.trans hle⟩

/-- A place is hidden by its first step, or in what the first step goes to. -/
theorem isHidden_cons {first : Nat} :
    IsHidden (levels + 1) event (first :: rest) ↔
      IsSensitiveStep event first ∨
        ∃ part, event.held[first]? = some part ∧ IsHidden levels part rest := by
  constructor
  · rintro ⟨front, step, hsecret, hprefix⟩
    cases front with
    | nil =>
      obtain ⟨rfl, -⟩ := List.cons_prefix_cons.mp hprefix
      exact .inl (secretAt_nil.mp hsecret)
    | cons _ front =>
      obtain ⟨rfl, hrest⟩ := List.cons_prefix_cons.mp hprefix
      obtain ⟨part, hpart, hsecret⟩ := secretAt_cons.mp hsecret
      exact .inr ⟨part, hpart, front, step, hsecret, hrest⟩
  · rintro (hfirst | ⟨part, hpart, front, step, hsecret, hprefix⟩)
    · exact ⟨[], first, secretAt_nil.mpr hfirst, rest, rfl⟩
    · exact ⟨first :: front, step, secretAt_cons.mpr ⟨part, hpart, hsecret⟩,
        List.cons_prefix_cons.mpr ⟨rfl, hprefix⟩⟩

/-- A hidden place has an outermost secret on the way to it. -/
theorem IsHidden.exists_outermost (h : IsHidden levels event place) :
    ∃ front step rest, place = front ++ step :: rest ∧ SecretAt levels event front step ∧
      ¬ IsHidden levels event front := by
  induction hlength : place.length using Nat.strong_induction_on generalizing place with
  | _ n ih =>
    subst hlength
    obtain ⟨front, step, hsecret, rest, rfl⟩ := h
    by_cases hfront : IsHidden levels event front
    · have hshorter : front.length < (front ++ [step] ++ rest).length := by
        simp only [List.length_append, List.length_cons]
        omega
      obtain ⟨before, first, between, hplace, houtermost⟩ := ih _ hshorter hfront rfl
      refine ⟨before, first, between ++ step :: rest, ?_, houtermost⟩
      simp [hplace]
    · exact ⟨front, step, rest, by simp, hsecret, hfront⟩

/-- Secrets depend only on outlines. -/
theorem SecretAt.of_outline (h : SecretAt levels event front step)
    (houtline : (event.at? front).map Value.outline = (other.at? front).map Value.outline) :
    SecretAt levels other front step := by
  obtain ⟨hlength, v, hv, key, name, hkey, hname⟩ := h
  rw [hv, Option.map_some, eq_comm, Option.map_eq_some_iff] at houtline
  obtain ⟨w, hw, houtline⟩ := houtline
  refine ⟨hlength, w, hw, key, name, ?_, hname⟩
  rw [Value.keyAt?_eq_of_outline houtline, hkey]

/-! ## One level -/

/-- A key is sensitive when it is a text that is a sensitive name in lower case. -/
theorem isSensitive_iff {key : Value} :
    isSensitive key = true ↔
      ∃ name, key.asText? = some name ∧ Text.lowercase name ∈ sensitiveNames := by
  unfold isSensitive
  cases key.asText? with
  | none => simp
  | some name => simp

/-- Redaction keeps outlines. -/
theorem outline_within (levels : Nat) (v : Value) : (within levels v).outline = v.outline := by
  cases levels with
  | zero => rw [within_zero]
  | succ levels =>
    cases v with
    | map entries => exact congrArg Value.Outline.mapping (keys_within levels entries)
    | list items => exact congrArg Value.Outline.list (List.length_map _)
    | _ => rfl

theorem held_within_of_isSensitiveStep (h : IsSensitiveStep v step) :
    (within (levels + 1) v).held[step]? = some mark := by
  obtain ⟨key, name, hkey, hname⟩ := h
  have hsensitive : isSensitive key = true := isSensitive_iff.mpr ⟨name, hname⟩
  cases v with
  | map entries =>
    obtain ⟨entry, hentry, rfl⟩ := Option.map_eq_some_iff.mp
      ((List.getElem?_map ..).symm.trans hkey)
    simp [within, Value.held, hentry, hsensitive]
  | _ => cases hkey

theorem held_within_of_not (h : ¬ IsSensitiveStep v step) :
    (within (levels + 1) v).held[step]? = v.held[step]?.map (within levels) := by
  cases v with
  | map entries =>
    simp only [within, Value.held, List.map_map, List.getElem?_map, Option.map_map]
    refine Option.map_congr ?_
    intro entry hentry
    have hkey : isSensitive entry.1 = false := by
      rw [← Bool.not_eq_true]
      intro hsensitive
      obtain ⟨name, hname⟩ := isSensitive_iff.mp hsensitive
      exact h ⟨entry.1, name, by simp [Value.keyAt?, hentry], hname⟩
    simp [hkey]
  | list items => simp [within, Value.held]
  | _ => rfl

/-! ## All places -/

/-- Redaction keeps what is seen at places that are not hidden.  Induction on the place. -/
theorem outline_at?_within (h : ¬ IsHidden levels event place) :
    ((within levels event).at? place).map Value.outline =
      (event.at? place).map Value.outline := by
  induction place generalizing levels event with
  | nil => exact congrArg some (outline_within levels event)
  | cons first rest ih =>
    cases levels with
    | zero => rw [within_zero]
    | succ levels =>
      rw [isHidden_cons, not_or, not_exists] at h
      rw [Value.at?_cons, Value.at?_cons, held_within_of_not h.1]
      cases hpart : event.held[first]? with
      | none => rfl
      | some part => exact ih fun hhidden => h.2 part ⟨hpart, hhidden⟩

/-- Redaction puts the mark in the place of secrets.  Induction on the way to the secret. -/
theorem at?_within_of_secretAt (h : SecretAt levels event front step)
    (hfront : ¬ IsHidden levels event front) :
    (within levels event).at? (front ++ [step]) = some mark := by
  induction front generalizing levels event with
  | nil =>
    cases levels with
    | zero => exact absurd h not_secretAt_zero
    | succ levels =>
      rw [List.nil_append, Value.at?_cons, held_within_of_isSensitiveStep (secretAt_nil.mp h)]
      rfl
  | cons first front ih =>
    cases levels with
    | zero => exact absurd h not_secretAt_zero
    | succ levels =>
      obtain ⟨part, hpart, hsecret⟩ := secretAt_cons.mp h
      rw [isHidden_cons, not_or, not_exists] at hfront
      rw [List.cons_append, Value.at?_cons, held_within_of_not hfront.1, hpart]
      exact ih hsecret fun hhidden => hfront.2 part ⟨hpart, hhidden⟩

theorem isRedaction_within (levels : Nat) (event : Value) :
    IsRedaction levels event (within levels event) where
  hides _ _ := at?_within_of_secretAt
  keeps _ := outline_at?_within

/-- Nothing is left of what is inside a secret. -/
theorem IsRedaction.at?_append {out : Value} (h : IsRedaction levels event out)
    (hsecret : SecretAt levels event front step) (hfront : ¬ IsHidden levels event front) :
    out.at? (front ++ step :: rest) = mark.at? rest := by
  rw [List.append_cons, Value.at?_append, h.hides front step hsecret hfront]
  rfl

/-- What the redacted event is to look like determines it. -/
theorem IsRedaction.eq {out out' : Value} (h : IsRedaction levels event out)
    (h' : IsRedaction levels event out') : out = out' := by
  refine Value.eq_of_outlines fun place => ?_
  by_cases hplace : IsHidden levels event place
  · obtain ⟨front, step, rest, rfl, hsecret, hfront⟩ := hplace.exists_outermost
    rw [h.at?_append hsecret hfront, h'.at?_append hsecret hfront]
  · rw [h.keeps place hplace, h'.keeps place hplace]

/-- Events with the same outlines at the places that are not hidden in one of them hide the same
secrets. -/
theorem IsHidden.of_outlines
    (h : ∀ place, ¬ IsHidden levels event place →
      (other.at? place).map Value.outline = (event.at? place).map Value.outline)
    (hplace : IsHidden levels other place) : IsHidden levels event place := by
  obtain ⟨front, step, rest, rfl, hsecret, -⟩ := hplace.exists_outermost
  by_cases hfront : IsHidden levels event front
  · exact hfront.mono (List.prefix_append _ _)
  · exact ⟨front, step, hsecret.of_outline (h front hfront), ⟨rest, by simp⟩⟩

/-- Two events are redacted to the same when they differ only in what is hidden. -/
theorem within_eq_iff :
    within levels other = within levels event ↔
      ∀ place, ¬ IsHidden levels event place →
        (other.at? place).map Value.outline = (event.at? place).map Value.outline := by
  constructor
  · intro hsame place hplace
    -- The outermost secret of the other event would be one of this event, too.
    have hother : ¬ IsHidden levels other place := by
      intro hhidden
      obtain ⟨front, step, rest, rfl, hsecret, hfront'⟩ := hhidden.exists_outermost
      have hfront : ¬ IsHidden levels event front := by
        intro h
        exact hplace (h.mono (List.prefix_append _ _))
      have houtline := (outline_at?_within hfront').symm
      rw [hsame, outline_at?_within hfront] at houtline
      exact hplace ⟨front, step, hsecret.of_outline houtline, ⟨rest, by simp⟩⟩
    rw [← outline_at?_within hother, hsame, outline_at?_within hplace]
  · intro h
    refine IsRedaction.eq (show IsRedaction levels event _ from ⟨?_, ?_⟩)
      (isRedaction_within levels event)
    · intro front step hsecret hfront
      refine at?_within_of_secretAt (hsecret.of_outline (h front hfront).symm) ?_
      exact fun hhidden => hfront (hhidden.of_outlines h)
    · intro place hplace
      rw [outline_at?_within fun hhidden => hplace (hhidden.of_outlines h), h place hplace]

/-- **Redaction replaces exactly the secrets.**  The redacted event is the one value with the mark
at every secret that is not inside another one, and with the outlines of the event at all places
that are not hidden; secrets stand in mappings that are reached in at most five steps.  Two events
are redacted to the same exactly when they differ only in what is hidden, and a redacted event is
not changed by redacting it again. -/
theorem ofEvent_redacts (event : Value) :
    (∀ out, IsRedaction 6 event out ↔ out = ofEvent event) ∧
      (∀ other, ofEvent other = ofEvent event ↔
        ∀ place, ¬ IsHidden 6 event place →
          (other.at? place).map Value.outline = (event.at? place).map Value.outline) ∧
      ofEvent (ofEvent event) = ofEvent event := by
  refine ⟨fun out => ⟨?_, ?_⟩, fun other => within_eq_iff, ?_⟩
  · exact fun h => h.eq (isRedaction_within levels event)
  · rintro rfl
    exact isRedaction_within levels event
  · exact within_eq_iff.mpr fun place => outline_at?_within

end Redaction

end FieldSchema
