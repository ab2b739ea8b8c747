import FieldSchema.Proofs.Calendar.WrittenForm
import FieldSchema.Proofs.Number.ShortestText
import FieldSchema.Proofs.Signature.Identity

/-!
# Equal signatures mean equal contents

Scalars that are written alike are equal: whole numbers, days and times without further ado, doubles
when they have the form that doubles have.  So values that are equal node by node are equal, once
equality is what their references are compared by (`Value.eq_of_sameUpTo`).

Functions and records have identities of their own.  What has none is known by the place where it
stands, and the place begins with the number of the site, so that two sites never share it.  Between
two sites it is therefore enough that equal identities mean equal objects, and that members of
enumerations with equal names are one member (`Value.referencesAgree_of_sites`).

* `Value.hasCanonicalNumbers`: the doubles of a value have the form that doubles have.
* `Value.objectIdentity?`: the identity of functions and records.
* `Signature.eq_of_toText_payload_eq`: contents of two sites with the same text are equal.
-/

namespace FieldSchema

namespace Value

/-! ## Doubles -/

mutual

/-- Whether the doubles of a value have the form that doubles have; what is only known by reference
is left aside. -/
def hasCanonicalNumbers : Value → Bool
  | .float x => decide x.IsCanonical
  | .spec type modifiers => hasCanonicalNumbers type && entriesHaveCanonicalNumbers modifiers
  | .shorthand type modifiers => hasCanonicalNumbers type && entriesHaveCanonicalNumbers modifiers
  | .map entries => entriesHaveCanonicalNumbers entries
  | .list items => haveCanonicalNumbers items
  | .tuple items => haveCanonicalNumbers items
  | _ => true

/-- Whether the doubles of all items have the form that doubles have. -/
def haveCanonicalNumbers : List Value → Bool
  | [] => true
  | v :: rest => hasCanonicalNumbers v && haveCanonicalNumbers rest

/-- Whether the doubles of all keys and values have the form that doubles have. -/
def entriesHaveCanonicalNumbers : Entries → Bool
  | [] => true
  | (k, v) :: rest =>
    hasCanonicalNumbers k && hasCanonicalNumbers v && entriesHaveCanonicalNumbers rest

end

/-! ## Equality -/

mutual

/-- Values that are equal node by node are equal. -/
theorem eq_of_sameUpTo : {v w : Value} → SameUpTo (· = ·) v w → v.hasCanonicalNumbers = true →
    w.hasCanonicalNumbers = true → v = w
  | _, _, .null, _, _ => rfl
  | _, _, .bool _, _, _ => rfl
  | _, _, .int _, _, _ => rfl
  | _, _, .float h, hv, hw => by
    rw [Payload.floatText_injective (of_decide_eq_true hv) (of_decide_eq_true hw) h]
  | _, _, .text _, _, _ => rfl
  | _, _, .brokenText _, _, _ => rfl
  | _, _, .pattern _ _, _, _ => rfl
  | _, _, .bytesPattern _ _, _, _ => rfl
  | _, _, .objectId _, _, _ => rfl
  | _, _, .dateTime h, _, _ => by
    rw [DateTime.toText_injective h]
  | _, _, .date h, _, _ => by
    rw [Date.toText_injective h]
  | _, _, .time h, _, _ => by
    rw [TimeOfDay.toText_injective h]
  | _, _, .member _ _ h, _, _ => h
  | _, _, .typeName _, _, _ => rfl
  | _, _, .spec h hs, hv, hw => by
    obtain ⟨hvType, hvModifiers⟩ := Bool.and_eq_true_iff.mp hv
    obtain ⟨hwType, hwModifiers⟩ := Bool.and_eq_true_iff.mp hw
    rw [eq_of_sameUpTo h hvType hwType, eq_of_sameEntries hs hvModifiers hwModifiers]
  | _, _, .shorthand h hs, hv, hw => by
    obtain ⟨hvType, hvModifiers⟩ := Bool.and_eq_true_iff.mp hv
    obtain ⟨hwType, hwModifiers⟩ := Bool.and_eq_true_iff.mp hw
    rw [eq_of_sameUpTo h hvType hwType, eq_of_sameEntries hs hvModifiers hwModifiers]
  | _, _, .map hs, hv, hw => by
    rw [eq_of_sameEntries hs hv hw]
  | _, _, .list hs, hv, hw => by
    rw [eq_of_sameItems hs hv hw]
  | _, _, .tuple hs, hv, hw => by
    rw [eq_of_sameItems hs hv hw]
  | _, _, .reference _ _ h, _, _ => h

theorem eq_of_sameItems : {vs ws : List Value} → SameItems (· = ·) vs ws →
    haveCanonicalNumbers vs = true → haveCanonicalNumbers ws = true → vs = ws
  | _, _, .nil, _, _ => rfl
  | _, _, .cons h hs, hv, hw => by
    obtain ⟨hvFirst, hvRest⟩ := Bool.and_eq_true_iff.mp hv
    obtain ⟨hwFirst, hwRest⟩ := Bool.and_eq_true_iff.mp hw
    rw [eq_of_sameUpTo h hvFirst hwFirst, eq_of_sameItems hs hvRest hwRest]

theorem eq_of_sameEntries : {vs ws : Entries} → SameEntries (· = ·) vs ws →
    entriesHaveCanonicalNumbers vs = true → entriesHaveCanonicalNumbers ws = true → vs = ws
  | _, _, .nil, _, _ => rfl
  | _, _, .cons hk h hs, hv, hw => by
    obtain ⟨hvFirst, hvRest⟩ := Bool.and_eq_true_iff.mp hv
    obtain ⟨hvKey, hvValue⟩ := Bool.and_eq_true_iff.mp hvFirst
    obtain ⟨hwFirst, hwRest⟩ := Bool.and_eq_true_iff.mp hw
    obtain ⟨hwKey, hwValue⟩ := Bool.and_eq_true_iff.mp hwFirst
    rw [eq_of_sameUpTo hk hvKey hwKey, eq_of_sameUpTo h hvValue hwValue,
      eq_of_sameEntries hs hvRest hwRest]

end

/-! ## References of two sites -/

/-- The identity of functions and records; nothing else has one of its own. -/
def objectIdentity? : Value → Option (List Nat)
  | .function identity _ _ _ => some [0, identity]
  | .record identity _ => some [1, identity]
  | _ => none

/-- How a reference is known: by an identity of its own, as bytes of at most one byte, or by its
place. -/
theorem reference_spec (v : Value) (place : List Nat) :
    ∃ head tail, v.reference place = head :: tail ∧
      ((head < 2 ∧ v.objectIdentity? = some (head :: tail)) ∨
        (head = 4 ∧ ∃ data, v = .bytes data ∧ tail = data.map UInt8.toNat) ∨
        (head = 3 ∧ tail = place.reverse)) := by
  cases v with
  | function identity isShared kind parameters =>
    exact ⟨0, [identity], rfl, .inl ⟨Nat.zero_lt_two, rfl⟩⟩
  | record identity attributes => exact ⟨1, [identity], rfl, .inl ⟨Nat.one_lt_two, rfl⟩⟩
  | bytes data =>
    match data with
    | [] => exact ⟨4, [], rfl, .inr (.inl ⟨rfl, [], rfl, rfl⟩)⟩
    | [b] => exact ⟨4, [b.toNat], rfl, .inr (.inl ⟨rfl, [b], rfl, rfl⟩)⟩
    | _ :: _ :: _ => exact ⟨3, place.reverse, rfl, .inr (.inr ⟨rfl, rfl⟩)⟩
  | _ => exact ⟨3, place.reverse, rfl, .inr (.inr ⟨rfl, rfl⟩)⟩

/-- Two sites have no place in common. -/
theorem place_ne_of_sites {site site' : Nat} (hsites : site ≠ site') {place place' : List Nat}
    (hplace : [site] <:+ place) (hplace' : [site'] <:+ place') :
    place.reverse ≠ place'.reverse := by
  intro h
  obtain ⟨front, rfl⟩ := hplace
  obtain ⟨front', rfl⟩ := hplace'
  rw [List.reverse_append, List.reverse_append] at h
  exact hsites (List.cons_eq_cons.mp h).1

/-- Equal identities mean equal objects in two lists, and equal full names mean equal members. -/
structure KnownApart (vs ws : List Value) : Prop where
  objects : ∀ v ∈ vs, ∀ w ∈ ws, v.objectIdentity?.isSome = true →
    v.objectIdentity? = w.objectIdentity? → v = w
  members : ∀ v ∈ vs, ∀ w ∈ ws, ∀ name, v.memberName? = some name → w.memberName? = some name →
    v = w

/-- Between two sites references are equal when equal identities mean equal objects. -/
theorem referencesAgree_of_sites {site site' : Nat} (hsites : site ≠ site') {vs ws : List Value}
    (hknown : KnownApart vs ws) : ReferencesAgree (· = ·) [site] [site'] vs ws := by
  refine ⟨fun v hv w hw _ place place' hplace hplace' _ hsame => ?_, hknown.members⟩
  obtain ⟨head, tail, href, hkind⟩ := reference_spec v place
  obtain ⟨head', tail', href', hkind'⟩ := reference_spec w place'
  rw [href, href'] at hsame
  obtain ⟨rfl, rfl⟩ := List.cons_eq_cons.mp hsame
  rcases hkind with ⟨hlow, hid⟩ | ⟨hfour, data, rfl, hdata⟩ | ⟨hthree, htail⟩
  · rcases hkind' with ⟨-, hid'⟩ | ⟨hfour', -⟩ | ⟨hthree', -⟩
    · exact hknown.objects v hv w hw (by rw [hid]; rfl) (hid.trans hid'.symm)
    · omega
    · omega
  · rcases hkind' with ⟨hlow', -⟩ | ⟨-, data', rfl, hdata'⟩ | ⟨hthree', -⟩
    · omega
    · have hbytes : Function.Injective UInt8.toNat := fun a b hab => UInt8.toNat_inj.mp hab
      rw [List.map_injective_iff.mpr hbytes (hdata.symm.trans hdata')]
    · omega
  · rcases hkind' with ⟨hlow', -⟩ | ⟨hfour', -⟩ | ⟨-, htail'⟩
    · omega
    · omega
    · exact absurd (htail.symm.trans htail') (place_ne_of_sites hsites hplace hplace')

end Value

/-! ## Contents of two sites -/

/-- The payload of contents is made of those of the definition and of the options. -/
theorem Signature.payload_eq_ok {site : Nat} {definition options : Value} {p : Payload}
    (h : payload site definition options = .ok p) :
    ∃ d o, definition.payload [0, site] = .ok d ∧ options.payload [1, site] = .ok o ∧
      p = .array [d, o] := by
  unfold payload at h
  cases hd : definition.payload [0, site] with
  | error e =>
    rw [hd] at h
    contradiction
  | ok d =>
    cases ho : options.payload [1, site] with
    | error e =>
      rw [hd, ho] at h
      contradiction
    | ok o =>
      rw [hd, ho] at h
      exact ⟨d, o, rfl, rfl, (Except.ok.inj h).symm⟩

/-- **Equal texts mean equal contents.**  Contents of two sites whose payloads have the same text
are equal, when doubles have their form, equal identities mean equal objects and equal full names
mean equal members. -/
theorem Signature.eq_of_toText_payload_eq {site site' : Nat} (hsites : site ≠ site')
    {definition definition' options options' : Value} {p p' : Payload}
    (hp : payload site definition options = .ok p)
    (hp' : payload site' definition' options' = .ok p') (htext : p.toText = p'.toText)
    (hnumbers : definition.hasCanonicalNumbers = true ∧ options.hasCanonicalNumbers = true)
    (hnumbers' : definition'.hasCanonicalNumbers = true ∧ options'.hasCanonicalNumbers = true)
    (hknown : Value.KnownApart (definition.references ++ options.references)
      (definition'.references ++ options'.references)) :
    definition = definition' ∧ options = options' := by
  obtain ⟨d, o, hd, ho, rfl⟩ := payload_eq_ok hp
  obtain ⟨d', o', hd', ho', rfl⟩ := payload_eq_ok hp'
  obtain ⟨halikeD, halikeO⟩ := Payload.alike_pair_iff.mp (Payload.toText_eq_iff.mp htext)
  have hplace (site index : Nat) : [site] <:+ [index, site] := ⟨[index], rfl⟩
  have hagree := Value.referencesAgree_of_sites hsites hknown
  have hdefinition := Value.sameUpTo_of_alike definition definition' (hplace site 0)
    (hplace site' 0) hd hd' halikeD hagree.left
  have hoptions := Value.sameUpTo_of_alike options options' (hplace site 1) (hplace site' 1) ho ho'
    halikeO hagree.right
  exact ⟨Value.eq_of_sameUpTo hdefinition hnumbers.1 hnumbers'.1,
    Value.eq_of_sameUpTo hoptions hnumbers.2 hnumbers'.2⟩

end FieldSchema
