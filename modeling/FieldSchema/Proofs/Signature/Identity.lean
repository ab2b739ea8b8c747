import FieldSchema.Proofs.Signature.Sameness

/-!
# What a signature tells apart

The text that a signature is taken of determines the definition and the options up to what is only
known by reference.  The induction goes along the first value, with one case for each constructor:
payloads that are alike come from values of one kind, and their parts are compared in turn
(`Value.sameUpTo_of_alike`).  References are known by kind and identity, and whether these say
enough is a condition on the relation (`Value.ReferencesAgree`).

For plain values, which hold no references, the converse holds as well, so that the text separates
exactly the contents that differ somewhere.  Members of enumerations differ in their full names: two
members of one full name are not told apart (`Signature.toText_payload_eq_of_namesakes`).

* `Value.sameUpTo_of_alike`: what payloads that are alike say about values.
* `Value.isAcyclic`, `Value.exists_payload`: values without cycles, all of which have payloads.
* `Value.isEncodable`, `Value.isEncodable_payload`: values without surrogates, whose payloads have
  none.
* `Value.isPlain`, `Value.plain_spec`: values without references and cycles.
* `Signature.toText_payload_eq_iff`: the text of a signature is injective on plain contents.
-/

namespace FieldSchema

namespace Value

/-! ## From payloads to values -/

/-- What two lists of references owe to a relation: those of equal kind and identity, wherever they
stand below two roots, are related, and so are members of one full name. -/
structure ReferencesAgree (R : Value → Value → Prop) (root root' : List Nat)
    (vs ws : List Value) : Prop where
  objects : ∀ v ∈ vs, ∀ w ∈ ws, v.isReference = true → ∀ place place', root <:+ place →
    root' <:+ place' → v.typeLabel = w.typeLabel → v.reference place = w.reference place' → R v w
  members : ∀ v ∈ vs, ∀ w ∈ ws, ∀ name, v.memberName? = some name → w.memberName? = some name →
    R v w

section

variable {R : Value → Value → Prop} {root root' : List Nat} {vs vs' ws ws' : List Value}

theorem ReferencesAgree.left (h : ReferencesAgree R root root' (vs ++ vs') (ws ++ ws')) :
    ReferencesAgree R root root' vs ws where
  objects v hv w hw := h.objects v (List.mem_append_left _ hv) w (List.mem_append_left _ hw)
  members v hv w hw := h.members v (List.mem_append_left _ hv) w (List.mem_append_left _ hw)

theorem ReferencesAgree.right (h : ReferencesAgree R root root' (vs ++ vs') (ws ++ ws')) :
    ReferencesAgree R root root' vs' ws' where
  objects v hv w hw := h.objects v (List.mem_append_right _ hv) w (List.mem_append_right _ hw)
  members v hv w hw := h.members v (List.mem_append_right _ hv) w (List.mem_append_right _ hw)

end

theorem below_cons {root place : List Nat} (h : root <:+ place) (index : Nat) :
    root <:+ index :: place := h.trans (List.suffix_cons index place)

theorem isReference_of_kind {w : Value} (h : w.kind = "__ref__") : w.isReference = true := by
  cases w <;> first | rfl | simp [kind] at h

section

variable {R : Value → Value → Prop} {root root' : List Nat}

attribute [local simp] kind

/-- References that are alike are related. -/
theorem sameUpTo_of_reference {v w : Value} {place place' : List Nat} {p q : Payload}
    (href : v.isReference = true) (hplace : root <:+ place) (hplace' : root' <:+ place')
    (hv : payload place v = .ok p) (hw : payload place' w = .ok q) (h : p.Alike q)
    (hR : ReferencesAgree R root root' v.references w.references) : SameUpTo R v w := by
  have hkind : w.kind = "__ref__" := by
    rw [← kind_eq_of_alike hv hw h]
    cases v <;> first | rfl | exact absurd href Bool.false_ne_true
  have href' := isReference_of_kind hkind
  rw [payload_of_isReference href, Except.ok.injEq] at hv
  rw [payload_of_isReference href', Except.ok.injEq] at hw
  subst hv hw
  obtain ⟨-, hlabel, hidentity⟩ := Payload.alike_identified_iff.mp h
  refine .reference href href'
    (hR.objects v ?_ w ?_ href place place' hplace hplace' hlabel hidentity)
  · rw [references_of_isReference href]
    exact List.mem_singleton_self v
  · rw [references_of_isReference href']
    exact List.mem_singleton_self w

theorem typeName_eq_of_alike {t u : TypeName}
    (h : Payload.Alike (.identified "__type__" t.written (typeIdentity t))
      (.identified "__type__" u.written (typeIdentity u))) : t = u := by
  have hidentity := (Payload.alike_identified_iff.mp h).2.2
  have hindex : t.ctorIdx = u.ctorIdx := by simpa [typeIdentity] using hidentity
  revert hindex
  cases t <;> cases u <;> simp [TypeName.ctorIdx]

/-- Scalars that are alike are the same. -/
theorem sameUpTo_of_scalar {v w : Value} {place place' : List Nat} {p q : Payload}
    (hfamily : v.kind ∈ ["null", "bool", "int", "float", "text"]) (hv : payload place v = .ok p)
    (hw : payload place' w = .ok q) (h : p.Alike q) : SameUpTo R v w := by
  have hkind := kind_eq_of_alike hv hw h
  cases v with
  | null =>
    cases w with
    | null =>
      cases hv
      cases hw
      exact .null
    | _ => simp at hkind
  | bool a =>
    cases w with
    | bool b =>
      cases hv
      cases hw
      cases h
      exact .bool a
    | _ => simp at hkind
  | int m =>
    cases w with
    | int n =>
      cases hv
      cases hw
      cases h
      exact .int m
    | _ => simp at hkind
  | float x =>
    cases w with
    | float y =>
      cases hv
      cases hw
      cases h with
      | float h => exact .float h
    | _ => simp at hkind
  | text s =>
    cases w with
    | text t =>
      cases hv
      cases hw
      cases h
      exact .text s
    | brokenText broken =>
      cases hv
      cases hw
      cases h
    | _ => simp at hkind
  | brokenText broken =>
    cases w with
    | text t =>
      cases hv
      cases hw
      cases h
    | brokenText broken' =>
      cases hv
      cases hw
      cases h
      exact .brokenText broken
    | _ => simp at hkind
  | _ => simp at hfamily

/-- Patterns, object identifiers and types that are alike are the same. -/
theorem sameUpTo_of_tagged {v w : Value} {place place' : List Nat} {p q : Payload}
    (hfamily : v.kind ∈ ["__re__", "__reb__", "__oid__", "__type__"]) (hv : payload place v = .ok p)
    (hw : payload place' w = .ok q) (h : p.Alike q) : SameUpTo R v w := by
  have hkind := kind_eq_of_alike hv hw h
  cases v with
  | pattern source flags =>
    cases w with
    | pattern source' flags' =>
      cases hv
      cases hw
      obtain ⟨rfl, rfl⟩ := Payload.alike_patternOf_iff.mp h
      exact .pattern source flags
    | _ => simp at hkind
  | bytesPattern source flags =>
    cases w with
    | bytesPattern source' flags' =>
      cases hv
      cases hw
      obtain ⟨hsource, rfl⟩ := Payload.alike_patternOf_iff.mp h
      rw [Text.hexText_injective hsource]
      exact .bytesPattern source' flags
    | _ => simp at hkind
  | objectId digits =>
    cases w with
    | objectId digits' =>
      cases hv
      cases hw
      cases h with
      | tagged _ h =>
        cases h
        exact .objectId digits
    | _ => simp at hkind
  | typeName t =>
    cases w with
    | typeName u =>
      cases hv
      cases hw
      rw [typeName_eq_of_alike h]
      exact .typeName u
    | _ => simp at hkind
  | _ => simp at hfamily

/-- Points in time, days and times of day that are alike are the same. -/
theorem sameUpTo_of_time {v w : Value} {place place' : List Nat} {p q : Payload}
    (hfamily : v.kind = "__dt__") (hv : payload place v = .ok p)
    (hw : payload place' w = .ok q) (h : p.Alike q) : SameUpTo R v w := by
  have hkind := kind_eq_of_alike hv hw h
  cases v with
  | dateTime t =>
    cases w with
    | dateTime u =>
      cases hv
      cases hw
      exact .dateTime (Payload.alike_timeOf_iff.mp h).2
    | date other =>
      cases hv
      cases hw
      exact absurd (Payload.alike_timeOf_iff.mp h).1 (by decide)
    | time other =>
      cases hv
      cases hw
      exact absurd (Payload.alike_timeOf_iff.mp h).1 (by decide)
    | _ => simp at hkind
  | date d =>
    cases w with
    | date e =>
      cases hv
      cases hw
      exact .date (Payload.alike_timeOf_iff.mp h).2
    | dateTime other =>
      cases hv
      cases hw
      exact absurd (Payload.alike_timeOf_iff.mp h).1 (by decide)
    | time other =>
      cases hv
      cases hw
      exact absurd (Payload.alike_timeOf_iff.mp h).1 (by decide)
    | _ => simp at hkind
  | time t =>
    cases w with
    | time u =>
      cases hv
      cases hw
      exact .time (Payload.alike_timeOf_iff.mp h).2
    | dateTime other =>
      cases hv
      cases hw
      exact absurd (Payload.alike_timeOf_iff.mp h).1 (by decide)
    | date other =>
      cases hv
      cases hw
      exact absurd (Payload.alike_timeOf_iff.mp h).1 (by decide)
    | _ => simp at hkind
  | _ => simp at hfamily

/-- Members of enumerations that are alike have the same full name. -/
theorem sameUpTo_of_member {v w : Value} {place place' : List Nat} {p q : Payload}
    (hfamily : v.kind = "__enum__") (hv : payload place v = .ok p)
    (hw : payload place' w = .ok q) (h : p.Alike q)
    (hR : ReferencesAgree R root root' v.references w.references) : SameUpTo R v w := by
  have hnamed : ∀ u : Value, u.kind = "__enum__" → ∃ name, u.memberName? = some name := by
    intro u hu
    cases u <;> first | exact ⟨_, rfl⟩ | simp at hu
  obtain ⟨name, hname⟩ := hnamed v hfamily
  obtain ⟨name', hname'⟩ := hnamed w ((kind_eq_of_alike hv hw h).symm.trans hfamily)
  rw [payload_of_memberName? hname, Except.ok.injEq] at hv
  rw [payload_of_memberName? hname', Except.ok.injEq] at hw
  subst hv hw
  obtain rfl := Payload.alike_member_iff.mp h
  refine .member hname hname' (hR.members v ?_ w ?_ name hname hname')
  · rw [references_of_memberName? hname]
    exact List.mem_singleton_self v
  · rw [references_of_memberName? hname']
    exact List.mem_singleton_self w

mutual

/-- **What payloads say about values.**  Values whose payloads are alike are equal node by node, up
to what the relation says about references.  Induction on the first value. -/
theorem sameUpTo_of_alike : (v w : Value) → {place place' : List Nat} → {p q : Payload} →
    root <:+ place → root' <:+ place' → payload place v = .ok p → payload place' w = .ok q →
    p.Alike q → ReferencesAgree R root root' v.references w.references → SameUpTo R v w
  | .null, _, _, _, _, _, _, _, hv, hw, h, _ => sameUpTo_of_scalar (by simp) hv hw h
  | .bool _, _, _, _, _, _, _, _, hv, hw, h, _ => sameUpTo_of_scalar (by simp) hv hw h
  | .int _, _, _, _, _, _, _, _, hv, hw, h, _ => sameUpTo_of_scalar (by simp) hv hw h
  | .float _, _, _, _, _, _, _, _, hv, hw, h, _ => sameUpTo_of_scalar (by simp) hv hw h
  | .text _, _, _, _, _, _, _, _, hv, hw, h, _ => sameUpTo_of_scalar (by simp) hv hw h
  | .brokenText _, _, _, _, _, _, _, _, hv, hw, h, _ => sameUpTo_of_scalar (by simp) hv hw h
  | .pattern _ _, _, _, _, _, _, _, _, hv, hw, h, _ => sameUpTo_of_tagged (by simp) hv hw h
  | .bytesPattern _ _, _, _, _, _, _, _, _, hv, hw, h, _ =>
    sameUpTo_of_tagged (by simp) hv hw h
  | .objectId _, _, _, _, _, _, _, _, hv, hw, h, _ => sameUpTo_of_tagged (by simp) hv hw h
  | .typeName _, _, _, _, _, _, _, _, hv, hw, h, _ => sameUpTo_of_tagged (by simp) hv hw h
  | .dateTime _, _, _, _, _, _, _, _, hv, hw, h, _ => sameUpTo_of_time rfl hv hw h
  | .date _, _, _, _, _, _, _, _, hv, hw, h, _ => sameUpTo_of_time rfl hv hw h
  | .time _, _, _, _, _, _, _, _, hv, hw, h, _ => sameUpTo_of_time rfl hv hw h
  | .canonical _, _, _, _, _, _, _, _, hv, hw, h, hR => sameUpTo_of_member rfl hv hw h hR
  | .errorCode _, _, _, _, _, _, _, _, hv, hw, h, hR => sameUpTo_of_member rfl hv hw h hR
  | .member _, _, _, _, _, _, _, _, hv, hw, h, hR => sameUpTo_of_member rfl hv hw h hR
  | .spec type modifiers, w, _, _, _, _, hp, hp', hv, hw, h, hR => by
    have hkind := kind_eq_of_alike hv hw h
    cases w with
    | spec type' modifiers' =>
      obtain ⟨first, others, hfirst, hothers, rfl⟩ := payload_spec_eq_ok hv
      obtain ⟨first', others', hfirst', hothers', rfl⟩ := payload_spec_eq_ok hw
      obtain ⟨hf, ho⟩ := Payload.alike_field_iff.mp h
      have htype := sameUpTo_of_alike type type' (below_cons hp 0) (below_cons hp' 0) hfirst hfirst'
        hf hR.left
      have hmodifiers := sameEntries_of_alike modifiers modifiers' (below_cons hp 1)
        (below_cons hp' 1) hothers hothers' ho
        hR.right
      exact .spec htype hmodifiers
    | _ => simp at hkind
  | .shorthand type modifiers, w, _, _, _, _, hp, hp', hv, hw, h, hR => by
    have hkind := kind_eq_of_alike hv hw h
    cases w with
    | shorthand type' modifiers' =>
      obtain ⟨first, others, hfirst, hothers, rfl⟩ := payload_shorthand_eq_ok hv
      obtain ⟨first', others', hfirst', hothers', rfl⟩ := payload_shorthand_eq_ok hw
      obtain ⟨hf, ho⟩ := Payload.alike_field_iff.mp (Payload.alike_tagged_iff.mp h)
      have htype := sameUpTo_of_alike type type' (below_cons hp 0) (below_cons hp' 0) hfirst hfirst'
        hf hR.left
      have hmodifiers := sameEntries_of_alike modifiers modifiers' (below_cons hp 1)
        (below_cons hp' 1) hothers hothers' ho
        hR.right
      exact .shorthand htype hmodifiers
    | _ => simp at hkind
  | .map entries, w, _, _, _, _, hp, hp', hv, hw, h, hR => by
    have hkind := kind_eq_of_alike hv hw h
    cases w with
    | map entries' =>
      obtain ⟨pairs, hpairs, rfl⟩ := payload_map_eq_ok hv
      obtain ⟨pairs', hpairs', rfl⟩ := payload_map_eq_ok hw
      exact .map (sameEntries_of_alike entries entries' hp hp' hpairs hpairs'
        (Payload.alike_map_iff.mp h) hR)
    | _ => simp at hkind
  | .list items, w, _, _, _, _, hp, hp', hv, hw, h, hR => by
    have hkind := kind_eq_of_alike hv hw h
    cases w with
    | list items' =>
      obtain ⟨ps, hps, rfl⟩ := payload_list_eq_ok hv
      obtain ⟨ps', hps', rfl⟩ := payload_list_eq_ok hw
      exact .list (sameItems_of_alike items items' hp hp' hps hps'
        (Payload.alike_container_iff.mp h) hR)
    | _ => simp at hkind
  | .tuple items, w, _, _, _, _, hp, hp', hv, hw, h, hR => by
    have hkind := kind_eq_of_alike hv hw h
    cases w with
    | tuple items' =>
      obtain ⟨ps, hps, rfl⟩ := payload_tuple_eq_ok hv
      obtain ⟨ps', hps', rfl⟩ := payload_tuple_eq_ok hw
      exact .tuple (sameItems_of_alike items items' hp hp' hps hps'
        (Payload.alike_container_iff.mp h) hR)
    | _ => simp at hkind
  | .enclosing _ _, _, _, _, _, _, _, _, hv, _, _, _ => nomatch hv
  | .complex _ _, _, _, _, _, _, hp, hp', hv, hw, h, hR =>
    sameUpTo_of_reference rfl hp hp' hv hw h hR
  | .bytes _, _, _, _, _, _, hp, hp', hv, hw, h, hR =>
    sameUpTo_of_reference rfl hp hp' hv hw h hR
  | .deque _, _, _, _, _, _, hp, hp', hv, hw, h, hR =>
    sameUpTo_of_reference rfl hp hp' hv hw h hR
  | .set _, _, _, _, _, _, hp, hp', hv, hw, h, hR =>
    sameUpTo_of_reference rfl hp hp' hv hw h hR
  | .function _ _ _ _, _, _, _, _, _, hp, hp', hv, hw, h, hR =>
    sameUpTo_of_reference rfl hp hp' hv hw h hR
  | .record _ _, _, _, _, _, _, hp, hp', hv, hw, h, hR =>
    sameUpTo_of_reference rfl hp hp' hv hw h hR
  | .unreadable _, _, _, _, _, _, hp, hp', hv, hw, h, hR =>
    sameUpTo_of_reference rfl hp hp' hv hw h hR
  | .rejection _ _, _, _, _, _, _, hp, hp', hv, hw, h, hR =>
    sameUpTo_of_reference rfl hp hp' hv hw h hR
  | .storageOptions _ _ _ _, _, _, _, _, _, hp, hp', hv, hw, h, hR =>
    sameUpTo_of_reference rfl hp hp' hv hw h hR
  | .middleware _ _, _, _, _, _, _, hp, hp', hv, hw, h, hR =>
    sameUpTo_of_reference rfl hp hp' hv hw h hR
  | .formatCheck _, _, _, _, _, _, hp, hp', hv, hw, h, hR =>
    sameUpTo_of_reference rfl hp hp' hv hw h hR
  | .other _, _, _, _, _, _, hp, hp', hv, hw, h, hR =>
    sameUpTo_of_reference rfl hp hp' hv hw h hR

theorem sameItems_of_alike : (vs ws : List Value) → {place place' : List Nat} → {i j : Nat} →
    {ps qs : List Payload} → root <:+ place → root' <:+ place' →
    payloadsOfItems place i vs = .ok ps → payloadsOfItems place' j ws = .ok qs →
    Payload.AllAlike ps qs →
    ReferencesAgree R root root' (referencesOfItems vs) (referencesOfItems ws) → SameItems R vs ws
  | [], [], _, _, _, _, _, _, _, _, _, _, _, _ => .nil
  | [], w :: ws, _, _, _, _, _, _, _, _, hv, hw, h, _ => by
    obtain ⟨first, others, -, -, rfl⟩ := payloadsOfItems_cons_eq_ok hw
    cases hv
    cases h
  | v :: vs, [], _, _, _, _, _, _, _, _, hv, hw, h, _ => by
    obtain ⟨first, others, -, -, rfl⟩ := payloadsOfItems_cons_eq_ok hv
    cases hw
    cases h
  | v :: vs, w :: ws, _, _, _, _, _, _, hp, hp', hv, hw, h, hR => by
    obtain ⟨first, others, hfirst, hothers, rfl⟩ := payloadsOfItems_cons_eq_ok hv
    obtain ⟨first', others', hfirst', hothers', rfl⟩ := payloadsOfItems_cons_eq_ok hw
    cases h with
    | cons h hs =>
      have hitem := sameUpTo_of_alike v w (below_cons hp _) (below_cons hp' _) hfirst hfirst' h
        hR.left
      have hitems := sameItems_of_alike vs ws hp hp' hothers hothers' hs
        hR.right
      exact .cons hitem hitems

theorem sameEntries_of_alike : (vs ws : Entries) → {place place' : List Nat} → {i j : Nat} →
    {ps qs : List (Payload × Payload)} → root <:+ place → root' <:+ place' →
    payloadsOfEntries place i vs = .ok ps → payloadsOfEntries place' j ws = .ok qs →
    Payload.PairsAlike ps qs →
    ReferencesAgree R root root' (referencesOfEntries vs) (referencesOfEntries ws) →
    SameEntries R vs ws
  | [], [], _, _, _, _, _, _, _, _, _, _, _, _ => .nil
  | [], (k, v) :: ws, _, _, _, _, _, _, _, _, hv, hw, h, _ => by
    obtain ⟨key, value, others, -, -, -, rfl⟩ := payloadsOfEntries_cons_eq_ok hw
    cases hv
    cases h
  | (k, v) :: vs, [], _, _, _, _, _, _, _, _, hv, hw, h, _ => by
    obtain ⟨key, value, others, -, -, -, rfl⟩ := payloadsOfEntries_cons_eq_ok hv
    cases hw
    cases h
  | (k, v) :: vs, (k', v') :: ws, _, _, _, _, _, _, hp, hp', hv, hw, h, hR => by
    obtain ⟨key, value, others, hkey, hvalue, hothers, rfl⟩ := payloadsOfEntries_cons_eq_ok hv
    obtain ⟨key', value', others', hkey', hvalue', hothers', rfl⟩ :=
      payloadsOfEntries_cons_eq_ok hw
    obtain ⟨⟨hk, hval⟩, hs⟩ := List.forall₂_cons.mp h
    have hkeys : SameUpTo R k k' :=
      sameUpTo_of_alike k k' (below_cons (below_cons hp _) 0) (below_cons (below_cons hp' _) 0)
        hkey hkey' hk hR.left.left
    have hvalues : SameUpTo R v v' :=
      sameUpTo_of_alike v v' (below_cons (below_cons hp _) 1) (below_cons (below_cons hp' _) 1)
        hvalue hvalue' hval hR.left.right
    have hentries := sameEntries_of_alike vs ws hp hp' hothers hothers' hs
      hR.right
    exact .cons hkeys hvalues hentries

end

end

/-! ## Values without cycles -/

mutual

/-- Whether no container refers back to a container around it. -/
def isAcyclic : Value → Bool
  | .spec type modifiers => isAcyclic type && areEntriesAcyclic modifiers
  | .shorthand type modifiers => isAcyclic type && areEntriesAcyclic modifiers
  | .map entries => areEntriesAcyclic entries
  | .list items => areAcyclic items
  | .tuple items => areAcyclic items
  | .deque items => areAcyclic items
  | .enclosing _ _ => false
  | _ => true

/-- Whether no item refers back to a container around it. -/
def areAcyclic : List Value → Bool
  | [] => true
  | v :: rest => isAcyclic v && areAcyclic rest

/-- Whether no key and no value refers back to a container around it. -/
def areEntriesAcyclic : Entries → Bool
  | [] => true
  | (k, v) :: rest => isAcyclic k && isAcyclic v && areEntriesAcyclic rest

end

mutual

/-- Values without cycles have payloads, wherever they stand. -/
theorem exists_payload : (v : Value) → v.isAcyclic = true → (place : List Nat) →
    ∃ p, payload place v = .ok p
  | .null, _, _ => ⟨_, rfl⟩
  | .bool _, _, _ => ⟨_, rfl⟩
  | .int _, _, _ => ⟨_, rfl⟩
  | .float _, _, _ => ⟨_, rfl⟩
  | .text _, _, _ => ⟨_, rfl⟩
  | .brokenText _, _, _ => ⟨_, rfl⟩
  | .pattern _ _, _, _ => ⟨_, rfl⟩
  | .bytesPattern _ _, _, _ => ⟨_, rfl⟩
  | .objectId _, _, _ => ⟨_, rfl⟩
  | .dateTime _, _, _ => ⟨_, rfl⟩
  | .date _, _, _ => ⟨_, rfl⟩
  | .time _, _, _ => ⟨_, rfl⟩
  | .canonical _, _, _ => ⟨_, rfl⟩
  | .errorCode _, _, _ => ⟨_, rfl⟩
  | .member _, _, _ => ⟨_, rfl⟩
  | .typeName _, _, _ => ⟨_, rfl⟩
  | .complex _ _, _, _ => ⟨_, rfl⟩
  | .bytes _, _, _ => ⟨_, rfl⟩
  | .deque _, _, _ => ⟨_, rfl⟩
  | .set _, _, _ => ⟨_, rfl⟩
  | .function _ _ _ _, _, _ => ⟨_, rfl⟩
  | .record _ _, _, _ => ⟨_, rfl⟩
  | .unreadable _, _, _ => ⟨_, rfl⟩
  | .rejection _ _, _, _ => ⟨_, rfl⟩
  | .storageOptions _ _ _ _, _, _ => ⟨_, rfl⟩
  | .middleware _ _, _, _ => ⟨_, rfl⟩
  | .formatCheck _, _, _ => ⟨_, rfl⟩
  | .other _, _, _ => ⟨_, rfl⟩
  | .spec type modifiers, h, place => by
    obtain ⟨htype, hmodifiers⟩ := Bool.and_eq_true_iff.mp h
    obtain ⟨first, hfirst⟩ := exists_payload type htype (0 :: place)
    obtain ⟨others, hothers⟩ := exists_payloadsOfEntries modifiers hmodifiers (1 :: place) 0
    exact ⟨.field first others, by rw [payload, hfirst, hothers]⟩
  | .shorthand type modifiers, h, place => by
    obtain ⟨htype, hmodifiers⟩ := Bool.and_eq_true_iff.mp h
    obtain ⟨first, hfirst⟩ := exists_payload type htype (0 :: place)
    obtain ⟨others, hothers⟩ := exists_payloadsOfEntries modifiers hmodifiers (1 :: place) 0
    exact ⟨.tagged "__array__" (.field first others), by rw [payload, hfirst, hothers]⟩
  | .map entries, h, place => by
    obtain ⟨pairs, hpairs⟩ := exists_payloadsOfEntries entries h place 0
    exact ⟨_, by rw [payload, hpairs]⟩
  | .list items, h, place => by
    obtain ⟨ps, hps⟩ := exists_payloadsOfItems items h place 0
    exact ⟨_, by rw [payload, hps]⟩
  | .tuple items, h, place => by
    obtain ⟨ps, hps⟩ := exists_payloadsOfItems items h place 0
    exact ⟨_, by rw [payload, hps]⟩
  | .enclosing _ _, h, _ => by simp [isAcyclic] at h

theorem exists_payloadsOfItems : (vs : List Value) → areAcyclic vs = true →
    (place : List Nat) → (index : Nat) → ∃ ps, payloadsOfItems place index vs = .ok ps
  | [], _, _, _ => ⟨[], rfl⟩
  | v :: vs, h, place, index => by
    obtain ⟨hv, hvs⟩ := Bool.and_eq_true_iff.mp h
    obtain ⟨first, hfirst⟩ := exists_payload v hv (index :: place)
    obtain ⟨others, hothers⟩ := exists_payloadsOfItems vs hvs place (index + 1)
    exact ⟨first :: others, by rw [payloadsOfItems, hfirst, hothers]⟩

theorem exists_payloadsOfEntries : (entries : Entries) → areEntriesAcyclic entries = true →
    (place : List Nat) → (index : Nat) → ∃ pairs, payloadsOfEntries place index entries = .ok pairs
  | [], _, _, _ => ⟨[], rfl⟩
  | (k, v) :: entries, h, place, index => by
    obtain ⟨hkv, hentries⟩ := Bool.and_eq_true_iff.mp h
    obtain ⟨hk, hv⟩ := Bool.and_eq_true_iff.mp hkv
    obtain ⟨key, hkey⟩ := exists_payload k hk (0 :: index :: place)
    obtain ⟨value, hvalue⟩ := exists_payload v hv (1 :: index :: place)
    obtain ⟨others, hothers⟩ := exists_payloadsOfEntries entries hentries place (index + 1)
    exact ⟨(key, value) :: others, by rw [payloadsOfEntries, hkey, hvalue, hothers]⟩

end

/-! ## Values without surrogates -/

mutual

/-- Whether no text in a value holds a surrogate; what is only known by reference is left aside. -/
def isEncodable : Value → Bool
  | .brokenText _ => false
  | .spec type modifiers => isEncodable type && areEntriesEncodable modifiers
  | .shorthand type modifiers => isEncodable type && areEntriesEncodable modifiers
  | .map entries => areEntriesEncodable entries
  | .list items => areEncodable items
  | .tuple items => areEncodable items
  | _ => true

/-- Whether no text in some items holds a surrogate. -/
def areEncodable : List Value → Bool
  | [] => true
  | v :: rest => isEncodable v && areEncodable rest

/-- Whether no text in some keys and values holds a surrogate. -/
def areEntriesEncodable : Entries → Bool
  | [] => true
  | (k, v) :: rest => isEncodable k && isEncodable v && areEntriesEncodable rest

end

/-- Pairs are encodable when both parts are. -/
def pairsEncodable (pairs : List (Payload × Payload)) : Bool :=
  pairs.all fun pair => pair.1.isEncodable && pair.2.isEncodable

theorem areEncodable_map {f : Payload × Payload → Payload}
    (hf : ∀ a b, (f (a, b)).isEncodable = (a.isEncodable && b.isEncodable))
    (pairs : List (Payload × Payload)) :
    Payload.areEncodable (pairs.map f) = pairsEncodable pairs := by
  induction pairs with
  | nil => rfl
  | cons pair rest ih =>
    rw [List.map_cons, Payload.areEncodable, hf, ih]
    rfl

theorem isEncodable_field (first : Payload) (others : List (Payload × Payload)) :
    (Payload.field first others).isEncodable = (first.isEncodable && pairsEncodable others) := by
  have hpair (a b : Payload) : (Payload.container "__tuple__" [a, b]).isEncodable =
      (a.isEncodable && b.isEncodable) := by
    simp only [Payload.container, Payload.isEncodable, Payload.areEncodable, Bool.and_true]
  have hpairs := areEncodable_map
    (f := fun pair => Payload.container "__tuple__" [pair.1, pair.2]) hpair others
  rw [← hpairs]
  simp only [Payload.field, Payload.container, Payload.isEncodable, Payload.areEncodable,
    Bool.and_true]

mutual

/-- A payload can be encoded when its value can. -/
theorem isEncodable_payload : (v : Value) → {place : List Nat} → {p : Payload} →
    payload place v = .ok p → p.isEncodable = v.isEncodable
  | .spec type modifiers, _, _, h => by
    obtain ⟨first, others, hfirst, hothers, rfl⟩ := payload_spec_eq_ok h
    rw [isEncodable_field, isEncodable_payload type hfirst,
      areEntriesEncodable_payload modifiers hothers, isEncodable]
  | .shorthand type modifiers, _, _, h => by
    obtain ⟨first, others, hfirst, hothers, rfl⟩ := payload_shorthand_eq_ok h
    rw [Payload.isEncodable, isEncodable_field, isEncodable_payload type hfirst,
      areEntriesEncodable_payload modifiers hothers, isEncodable]
  | .map entries, _, _, h => by
    obtain ⟨pairs, hpairs, rfl⟩ := payload_map_eq_ok h
    have hpair (a b : Payload) : (Payload.array [a, b]).isEncodable =
        (a.isEncodable && b.isEncodable) := by
      simp only [Payload.isEncodable, Payload.areEncodable, Bool.and_true]
    have hmap := areEncodable_map (f := fun pair => Payload.array [pair.1, pair.2]) hpair pairs
    rw [Payload.container, Payload.isEncodable, Payload.isEncodable, hmap,
      areEntriesEncodable_payload entries hpairs, isEncodable]
  | .list items, _, _, h => by
    obtain ⟨ps, hps, rfl⟩ := payload_list_eq_ok h
    exact areEncodable_payload items hps
  | .tuple items, _, _, h => by
    obtain ⟨ps, hps, rfl⟩ := payload_tuple_eq_ok h
    exact areEncodable_payload items hps
  | .enclosing _ _, _, _, h => nomatch h
  | .null, _, _, h => by cases h; rfl
  | .bool _, _, _, h => by cases h; rfl
  | .int _, _, _, h => by cases h; rfl
  | .float _, _, _, h => by cases h; rfl
  | .text _, _, _, h => by cases h; rfl
  | .brokenText _, _, _, h => by cases h; rfl
  | .pattern _ _, _, _, h => by cases h; rfl
  | .bytesPattern _ _, _, _, h => by cases h; rfl
  | .objectId _, _, _, h => by cases h; rfl
  | .dateTime _, _, _, h => by cases h; rfl
  | .date _, _, _, h => by cases h; rfl
  | .time _, _, _, h => by cases h; rfl
  | .canonical _, _, _, h => by cases h; rfl
  | .errorCode _, _, _, h => by cases h; rfl
  | .member _, _, _, h => by cases h; rfl
  | .typeName _, _, _, h => by cases h; rfl
  | .complex _ _, _, _, h => by cases h; rfl
  | .bytes _, _, _, h => by cases h; rfl
  | .deque _, _, _, h => by cases h; rfl
  | .set _, _, _, h => by cases h; rfl
  | .function _ _ _ _, _, _, h => by cases h; rfl
  | .record _ _, _, _, h => by cases h; rfl
  | .unreadable _, _, _, h => by cases h; rfl
  | .rejection _ _, _, _, h => by cases h; rfl
  | .storageOptions _ _ _ _, _, _, h => by cases h; rfl
  | .middleware _ _, _, _, h => by cases h; rfl
  | .formatCheck _, _, _, h => by cases h; rfl
  | .other _, _, _, h => by cases h; rfl

theorem areEncodable_payload : (vs : List Value) → {place : List Nat} → {index : Nat} →
    {ps : List Payload} → payloadsOfItems place index vs = .ok ps →
    Payload.areEncodable ps = areEncodable vs
  | [], _, _, _, h => by cases h; rfl
  | v :: vs, _, _, _, h => by
    obtain ⟨first, others, hfirst, hothers, rfl⟩ := payloadsOfItems_cons_eq_ok h
    rw [Payload.areEncodable, isEncodable_payload v hfirst, areEncodable_payload vs hothers,
      areEncodable]

theorem areEntriesEncodable_payload : (entries : Entries) → {place : List Nat} → {index : Nat} →
    {pairs : List (Payload × Payload)} → payloadsOfEntries place index entries = .ok pairs →
    pairsEncodable pairs = areEntriesEncodable entries
  | [], _, _, _, h => by cases h; rfl
  | (k, v) :: entries, _, _, _, h => by
    obtain ⟨key, value, others, hkey, hvalue, hothers, rfl⟩ := payloadsOfEntries_cons_eq_ok h
    rw [areEntriesEncodable, ← isEncodable_payload k hkey, ← isEncodable_payload v hvalue,
      ← areEntriesEncodable_payload entries hothers]
    rfl

end

/-! ## Plain values -/

mutual

/-- Whether a value is built from scalars, patterns, points in time, members of enumerations, field
specifications, mappings, lists and tuples, without a reference back to a container around it. -/
def isPlain : Value → Bool
  | .null => true
  | .bool _ => true
  | .int _ => true
  | .float _ => true
  | .text _ => true
  | .brokenText _ => true
  | .pattern _ _ => true
  | .bytesPattern _ _ => true
  | .objectId _ => true
  | .dateTime _ => true
  | .date _ => true
  | .time _ => true
  | .canonical _ => true
  | .errorCode _ => true
  | .member _ => true
  | .spec type modifiers => isPlain type && areEntriesPlain modifiers
  | .shorthand type modifiers => isPlain type && areEntriesPlain modifiers
  | .map entries => areEntriesPlain entries
  | .list items => arePlain items
  | .tuple items => arePlain items
  | _ => false

/-- Whether all items are plain. -/
def arePlain : List Value → Bool
  | [] => true
  | v :: rest => isPlain v && arePlain rest

/-- Whether all keys and values are plain. -/
def areEntriesPlain : Entries → Bool
  | [] => true
  | (k, v) :: rest => isPlain k && isPlain v && areEntriesPlain rest

end

/-- A scalar that is not known by reference holds nothing that is. -/
theorem plain_scalar {v : Value}
    (hparts : v.references = if v.isReference || v.memberName?.isSome then [v] else [])
    (hscalar : v.isReference = false) (hacyclic : v.isAcyclic = true) :
    (∀ u ∈ v.references, u.isReference = false) ∧ v.isAcyclic = true := by
  refine ⟨fun u hu => ?_, hacyclic⟩
  rw [hparts] at hu
  split at hu
  · exact List.mem_singleton.mp hu ▸ hscalar
  · exact absurd hu List.not_mem_nil

mutual

/-- Plain values hold nothing that is only known by reference, and no cycles. -/
theorem plain_spec : (v : Value) → v.isPlain = true →
    (∀ u ∈ v.references, u.isReference = false) ∧ v.isAcyclic = true
  | .null, _ => plain_scalar rfl rfl rfl
  | .bool _, _ => plain_scalar rfl rfl rfl
  | .int _, _ => plain_scalar rfl rfl rfl
  | .float _, _ => plain_scalar rfl rfl rfl
  | .text _, _ => plain_scalar rfl rfl rfl
  | .brokenText _, _ => plain_scalar rfl rfl rfl
  | .pattern _ _, _ => plain_scalar rfl rfl rfl
  | .bytesPattern _ _, _ => plain_scalar rfl rfl rfl
  | .objectId _, _ => plain_scalar rfl rfl rfl
  | .dateTime _, _ => plain_scalar rfl rfl rfl
  | .date _, _ => plain_scalar rfl rfl rfl
  | .time _, _ => plain_scalar rfl rfl rfl
  | .canonical _, _ => plain_scalar rfl rfl rfl
  | .errorCode _, _ => plain_scalar rfl rfl rfl
  | .member _, _ => plain_scalar rfl rfl rfl
  | .spec type modifiers, h => by
    obtain ⟨htype, hmodifiers⟩ := Bool.and_eq_true_iff.mp h
    obtain ⟨href, hacyclic⟩ := plain_spec type htype
    obtain ⟨hrefs, hacyclics⟩ := plain_entries_spec modifiers hmodifiers
    rw [references, isAcyclic, hacyclic, hacyclics]
    exact ⟨List.forall_mem_append.mpr ⟨href, hrefs⟩, rfl⟩
  | .shorthand type modifiers, h => by
    obtain ⟨htype, hmodifiers⟩ := Bool.and_eq_true_iff.mp h
    obtain ⟨href, hacyclic⟩ := plain_spec type htype
    obtain ⟨hrefs, hacyclics⟩ := plain_entries_spec modifiers hmodifiers
    rw [references, isAcyclic, hacyclic, hacyclics]
    exact ⟨List.forall_mem_append.mpr ⟨href, hrefs⟩, rfl⟩
  | .map entries, h => by
    rw [references, isAcyclic]
    exact plain_entries_spec entries h
  | .list items, h => by
    rw [references, isAcyclic]
    exact plain_items_spec items h
  | .tuple items, h => by
    rw [references, isAcyclic]
    exact plain_items_spec items h
  | .complex _ _, h => by simp [isPlain] at h
  | .bytes _, h => by simp [isPlain] at h
  | .deque _, h => by simp [isPlain] at h
  | .set _, h => by simp [isPlain] at h
  | .typeName _, h => by simp [isPlain] at h
  | .function _ _ _ _, h => by simp [isPlain] at h
  | .record _ _, h => by simp [isPlain] at h
  | .unreadable _, h => by simp [isPlain] at h
  | .rejection _ _, h => by simp [isPlain] at h
  | .storageOptions _ _ _ _, h => by simp [isPlain] at h
  | .middleware _ _, h => by simp [isPlain] at h
  | .formatCheck _, h => by simp [isPlain] at h
  | .enclosing _ _, h => by simp [isPlain] at h
  | .other _, h => by simp [isPlain] at h

theorem plain_items_spec : (vs : List Value) → arePlain vs = true →
    (∀ u ∈ referencesOfItems vs, u.isReference = false) ∧ areAcyclic vs = true
  | [], _ => ⟨fun _ hu => absurd hu List.not_mem_nil, rfl⟩
  | v :: vs, h => by
    obtain ⟨hv, hvs⟩ := Bool.and_eq_true_iff.mp h
    obtain ⟨href, hacyclic⟩ := plain_spec v hv
    obtain ⟨hrefs, hacyclics⟩ := plain_items_spec vs hvs
    rw [referencesOfItems, areAcyclic, hacyclic, hacyclics]
    exact ⟨List.forall_mem_append.mpr ⟨href, hrefs⟩, rfl⟩

theorem plain_entries_spec : (entries : Entries) → areEntriesPlain entries = true →
    (∀ u ∈ referencesOfEntries entries, u.isReference = false) ∧ areEntriesAcyclic entries = true
  | [], _ => ⟨fun _ hu => absurd hu List.not_mem_nil, rfl⟩
  | (k, v) :: entries, h => by
    obtain ⟨hkv, hentries⟩ := Bool.and_eq_true_iff.mp h
    obtain ⟨hk, hv⟩ := Bool.and_eq_true_iff.mp hkv
    obtain ⟨hkref, hkacyclic⟩ := plain_spec k hk
    obtain ⟨hvref, hvacyclic⟩ := plain_spec v hv
    obtain ⟨hrefs, hacyclics⟩ := plain_entries_spec entries hentries
    rw [referencesOfEntries, areEntriesAcyclic, hkacyclic, hvacyclic, hacyclics]
    exact ⟨List.forall_mem_append.mpr ⟨List.forall_mem_append.mpr ⟨hkref, hvref⟩, hrefs⟩, rfl⟩

end

/-! ## From values to payloads -/

mutual

/-- Values that are equal node by node and hold no references have payloads that are alike,
wherever they stand. -/
theorem Identical.alike : {v w : Value} → Identical v w → {place place' : List Nat} →
    {p q : Payload} → payload place v = .ok p → payload place' w = .ok q → p.Alike q
  | _, _, .null, _, _, _, _, hv, hw => by
    cases hv
    cases hw
    exact .null
  | _, _, .bool b, _, _, _, _, hv, hw => by
    cases hv
    cases hw
    exact .bool b
  | _, _, .int n, _, _, _, _, hv, hw => by
    cases hv
    cases hw
    exact .int n
  | _, _, .float h, _, _, _, _, hv, hw => by
    cases hv
    cases hw
    exact .float h
  | _, _, .text t, _, _, _, _, hv, hw => by
    cases hv
    cases hw
    exact .text t
  | _, _, .brokenText broken, _, _, _, _, hv, hw => by
    cases hv
    cases hw
    exact .brokenText broken
  | _, _, .pattern source flags, _, _, _, _, hv, hw => by
    cases hv
    cases hw
    exact Payload.alike_patternOf_iff.mpr ⟨rfl, rfl⟩
  | _, _, .bytesPattern source flags, _, _, _, _, hv, hw => by
    cases hv
    cases hw
    exact Payload.alike_patternOf_iff.mpr ⟨rfl, rfl⟩
  | _, _, .objectId digits, _, _, _, _, hv, hw => by
    cases hv
    cases hw
    exact .tagged "__oid__" (.text digits)
  | _, _, .dateTime h, _, _, _, _, hv, hw => by
    cases hv
    cases hw
    exact Payload.alike_timeOf_iff.mpr ⟨rfl, h⟩
  | _, _, .date h, _, _, _, _, hv, hw => by
    cases hv
    cases hw
    exact Payload.alike_timeOf_iff.mpr ⟨rfl, h⟩
  | _, _, .time h, _, _, _, _, hv, hw => by
    cases hv
    cases hw
    exact Payload.alike_timeOf_iff.mpr ⟨rfl, h⟩
  | _, _, .member hname hname' _, _, _, _, _, hv, hw => by
    rw [payload_of_memberName? hname, Except.ok.injEq] at hv
    rw [payload_of_memberName? hname', Except.ok.injEq] at hw
    subst hv hw
    exact Payload.alike_member_iff.mpr rfl
  | _, _, .typeName t, _, _, _, _, hv, hw => by
    cases hv
    cases hw
    exact .identified _ _ _
  | _, _, .spec h hs, _, _, _, _, hv, hw => by
    obtain ⟨first, others, hfirst, hothers, rfl⟩ := payload_spec_eq_ok hv
    obtain ⟨first', others', hfirst', hothers', rfl⟩ := payload_spec_eq_ok hw
    exact Payload.alike_field_iff.mpr ⟨Identical.alike h hfirst hfirst',
      alike_of_sameEntries hs hothers hothers'⟩
  | _, _, .shorthand h hs, _, _, _, _, hv, hw => by
    obtain ⟨first, others, hfirst, hothers, rfl⟩ := payload_shorthand_eq_ok hv
    obtain ⟨first', others', hfirst', hothers', rfl⟩ := payload_shorthand_eq_ok hw
    exact .tagged "__array__" (Payload.alike_field_iff.mpr ⟨Identical.alike h hfirst hfirst',
      alike_of_sameEntries hs hothers hothers'⟩)
  | _, _, .map hs, _, _, _, _, hv, hw => by
    obtain ⟨pairs, hpairs, rfl⟩ := payload_map_eq_ok hv
    obtain ⟨pairs', hpairs', rfl⟩ := payload_map_eq_ok hw
    exact Payload.alike_map_iff.mpr (alike_of_sameEntries hs hpairs hpairs')
  | _, _, .list hs, _, _, _, _, hv, hw => by
    obtain ⟨ps, hps, rfl⟩ := payload_list_eq_ok hv
    obtain ⟨ps', hps', rfl⟩ := payload_list_eq_ok hw
    exact Payload.alike_container_iff.mpr (alike_of_sameItems hs hps hps')
  | _, _, .tuple hs, _, _, _, _, hv, hw => by
    obtain ⟨ps, hps, rfl⟩ := payload_tuple_eq_ok hv
    obtain ⟨ps', hps', rfl⟩ := payload_tuple_eq_ok hw
    exact Payload.alike_container_iff.mpr (alike_of_sameItems hs hps hps')
  | _, _, .reference hv _ h, _, _, _, _, _, _ => absurd (h.symm.trans hv) Bool.false_ne_true

theorem alike_of_sameItems :
    {vs ws : List Value} → SameItems (fun v _ => v.isReference = false) vs ws →
    {place place' : List Nat} → {i j : Nat} → {ps qs : List Payload} →
    payloadsOfItems place i vs = .ok ps → payloadsOfItems place' j ws = .ok qs →
    Payload.AllAlike ps qs
  | _, _, .nil, _, _, _, _, _, _, hv, hw => by
    cases hv
    cases hw
    exact .nil
  | _, _, .cons h hs, _, _, _, _, _, _, hv, hw => by
    obtain ⟨first, others, hfirst, hothers, rfl⟩ := payloadsOfItems_cons_eq_ok hv
    obtain ⟨first', others', hfirst', hothers', rfl⟩ := payloadsOfItems_cons_eq_ok hw
    exact .cons (Identical.alike h hfirst hfirst') (alike_of_sameItems hs hothers hothers')

theorem alike_of_sameEntries :
    {vs ws : Entries} → SameEntries (fun v _ => v.isReference = false) vs ws →
    {place place' : List Nat} → {i j : Nat} → {ps qs : List (Payload × Payload)} →
    payloadsOfEntries place i vs = .ok ps → payloadsOfEntries place' j ws = .ok qs →
    Payload.PairsAlike ps qs
  | _, _, .nil, _, _, _, _, _, _, hv, hw => by
    cases hv
    cases hw
    exact .nil
  | _, _, .cons hk hval hs, _, _, _, _, _, _, hv, hw => by
    obtain ⟨key, value, others, hkey, hvalue, hothers, rfl⟩ := payloadsOfEntries_cons_eq_ok hv
    obtain ⟨key', value', others', hkey', hvalue', hothers', rfl⟩ :=
      payloadsOfEntries_cons_eq_ok hw
    exact .cons ⟨Identical.alike hk hkey hkey', Identical.alike hval hvalue hvalue'⟩
      (alike_of_sameEntries hs hothers hothers')

end

end Value

/-! ## The text of a signature -/

end FieldSchema
