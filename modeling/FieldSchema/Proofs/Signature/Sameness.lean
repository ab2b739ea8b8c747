import FieldSchema.Proofs.Signature.PayloadText
import FieldSchema.Signature.Content

/-!
# Equality node by node

Two values have the same contents when they are built alike: the same constructor at every node,
the same order of entries and items, and scalars that are written alike.  What is only known by
reference has no contents to compare, and a relation decides about it; the same relation decides
about members of enumerations that have the same full name.

The module prepares the comparison of payloads.  A payload shows the kind of its value
(`Value.kind_of_payload`), which no two constructors share but for texts, points in time and members
of enumerations, and the payloads of containers are alike exactly when their parts are.

* `Value.references`: what a value holds that is only known by reference or by a full name.
* `Value.SameUpTo`, `Value.Identical`: equality node by node.
* `Payload.alike_field_iff` and others: payloads that are alike, part by part.
-/

namespace FieldSchema

/-! ## Flags and bytes -/

theorem Flags.ofNat_toNat (f : Flags) : Flags.ofNat f.toNat = f := by
  obtain ⟨a, b, c, d, e, f, g, h⟩ := f
  revert a b c d e f g h
  decide

theorem Flags.toNat_injective {f g : Flags} (h : f.toNat = g.toNat) : f = g := by
  rw [← Flags.ofNat_toNat f, h, Flags.ofNat_toNat g]

theorem Text.hexText_injective {a b : List UInt8} (h : Text.hexText a = Text.hexText b) :
    a = b := by
  have hchars := String.ofList_inj.mp h
  clear h
  induction a generalizing b with
  | nil =>
    cases b with
    | nil => rfl
    | cons d ds => simp [hexFixed] at hchars
  | cons c cs ih =>
    cases b with
    | nil => simp [hexFixed] at hchars
    | cons d ds =>
      simp only [List.flatMap_cons, hexFixed, List.nil_append, List.cons_append,
        List.cons.injEq] at hchars
      obtain ⟨hhigh, hlow, hrest⟩ := hchars
      have hc := c.toNat_lt
      have hd := d.toNat_lt
      have hhighValue := congrArg Payload.hexDigitValue hhigh
      have hlowValue := congrArg Payload.hexDigitValue hlow
      rw [Payload.hexDigitValue_hexDigit (by omega), Payload.hexDigitValue_hexDigit (by omega)]
        at hhighValue hlowValue
      have hbyte : c = d := UInt8.toNat_inj.mp (by omega)
      rw [hbyte, ih hrest]

namespace Value

/-! ## Parts known by reference or by name -/

/-- Whether a value is only known by reference: it is no scalar and no container. -/
def isReference : Value → Bool
  | .complex _ _ => true
  | .bytes _ => true
  | .deque _ => true
  | .set _ => true
  | .function _ _ _ _ => true
  | .record _ _ => true
  | .unreadable _ => true
  | .rejection _ _ => true
  | .storageOptions _ _ _ _ => true
  | .middleware _ _ => true
  | .formatCheck _ => true
  | .other _ => true
  | _ => false

/-- The identity of what is known by reference, at its place. -/
def reference (place : List Nat) : Value → List Nat
  | .function identity _ _ _ => [0, identity]
  | .record identity _ => [1, identity]
  | v => identityAt place v

/-- The full name of a member of an enumeration. -/
def memberName? : Value → Option String
  | .canonical t => some t.fullName
  | .errorCode code => some code.fullName
  | .member m => some m.fullName
  | _ => none

mutual

/-- The parts of a value that are only known by reference or by a full name. -/
def references : Value → List Value
  | .spec type modifiers => references type ++ referencesOfEntries modifiers
  | .shorthand type modifiers => references type ++ referencesOfEntries modifiers
  | .map entries => referencesOfEntries entries
  | .list items => referencesOfItems items
  | .tuple items => referencesOfItems items
  | v => if v.isReference || v.memberName?.isSome then [v] else []

/-- The parts of items that are only known by reference or by a full name. -/
def referencesOfItems : List Value → List Value
  | [] => []
  | v :: rest => references v ++ referencesOfItems rest

/-- The parts of keys and values that are only known by reference or by a full name. -/
def referencesOfEntries : List (Value × Value) → List Value
  | [] => []
  | (k, v) :: rest => references k ++ references v ++ referencesOfEntries rest

end

theorem references_of_isReference {v : Value} (h : v.isReference = true) :
    v.references = [v] := by
  cases v <;> first | rfl | exact absurd h Bool.false_ne_true

theorem references_of_memberName? {v : Value} {name : String} (h : v.memberName? = some name) :
    v.references = [v] := by
  cases v <;> first | rfl | exact absurd h.symm (Option.some_ne_none name)

/-- A member of an enumeration is not known by reference. -/
theorem isReference_of_memberName? {v : Value} {name : String} (h : v.memberName? = some name) :
    v.isReference = false := by
  cases v <;> first | rfl | exact absurd h.symm (Option.some_ne_none name)

/-! ## Equality node by node -/

mutual

/-- Equality of values node by node, scalars as they are written.  A relation compares what is only
known by reference, and members of enumerations of one full name. -/
inductive SameUpTo (R : Value → Value → Prop) : Value → Value → Prop
  | null : SameUpTo R .null .null
  | bool (b : Bool) : SameUpTo R (.bool b) (.bool b)
  | int (n : Int) : SameUpTo R (.int n) (.int n)
  | float {x y : Binary64} (h : Payload.floatText x = Payload.floatText y) :
    SameUpTo R (.float x) (.float y)
  | text (s : String) : SameUpTo R (.text s) (.text s)
  | brokenText (broken : BrokenText) : SameUpTo R (.brokenText broken) (.brokenText broken)
  | pattern (source : String) (flags : Flags) :
    SameUpTo R (.pattern source flags) (.pattern source flags)
  | bytesPattern (source : List UInt8) (flags : Flags) :
    SameUpTo R (.bytesPattern source flags) (.bytesPattern source flags)
  | objectId (digits : String) : SameUpTo R (.objectId digits) (.objectId digits)
  | dateTime {t u : DateTime} (h : t.toText = u.toText) : SameUpTo R (.dateTime t) (.dateTime u)
  | date {d e : Date} (h : d.toText = e.toText) : SameUpTo R (.date d) (.date e)
  | time {t u : TimeOfDay} (h : t.toText = u.toText) : SameUpTo R (.time t) (.time u)
  | member {v w : Value} {name : String} (hv : v.memberName? = some name)
    (hw : w.memberName? = some name) (h : R v w) : SameUpTo R v w
  | typeName (t : TypeName) : SameUpTo R (.typeName t) (.typeName t)
  | spec {type type' : Value} {modifiers modifiers' : Entries} (h : SameUpTo R type type')
    (hs : SameEntries R modifiers modifiers') :
    SameUpTo R (.spec type modifiers) (.spec type' modifiers')
  | shorthand {type type' : Value} {modifiers modifiers' : Entries} (h : SameUpTo R type type')
    (hs : SameEntries R modifiers modifiers') :
    SameUpTo R (.shorthand type modifiers) (.shorthand type' modifiers')
  | map {entries entries' : Entries} (hs : SameEntries R entries entries') :
    SameUpTo R (.map entries) (.map entries')
  | list {items items' : List Value} (hs : SameItems R items items') :
    SameUpTo R (.list items) (.list items')
  | tuple {items items' : List Value} (hs : SameItems R items items') :
    SameUpTo R (.tuple items) (.tuple items')
  | reference {v w : Value} (hv : v.isReference = true) (hw : w.isReference = true) (h : R v w) :
    SameUpTo R v w

/-- Equality item by item, in order. -/
inductive SameItems (R : Value → Value → Prop) : List Value → List Value → Prop
  | nil : SameItems R [] []
  | cons {v w : Value} {vs ws : List Value} (h : SameUpTo R v w) (hs : SameItems R vs ws) :
    SameItems R (v :: vs) (w :: ws)

/-- Equality entry by entry, in order. -/
inductive SameEntries (R : Value → Value → Prop) : Entries → Entries → Prop
  | nil : SameEntries R [] []
  | cons {k v k' v' : Value} {entries entries' : Entries} (hk : SameUpTo R k k')
    (hv : SameUpTo R v v') (hs : SameEntries R entries entries') :
    SameEntries R ((k, v) :: entries) ((k', v') :: entries')

end

/-- Equality node by node of values without references; members of enumerations count as equal when
they have the same full name. -/
def Identical : Value → Value → Prop := SameUpTo fun v _ => v.isReference = false

/-! ## Kinds -/

/-- The kind of a value: the tag under which it stands in its payload, or the name of a scalar. -/
def kind : Value → String
  | .null => "null"
  | .bool _ => "bool"
  | .int _ => "int"
  | .float _ => "float"
  | .text _ => "text"
  | .brokenText _ => "text"
  | .canonical _ => "__enum__"
  | .errorCode _ => "__enum__"
  | .member _ => "__enum__"
  | .pattern _ _ => "__re__"
  | .bytesPattern _ _ => "__reb__"
  | .objectId _ => "__oid__"
  | .dateTime _ => "__dt__"
  | .date _ => "__dt__"
  | .time _ => "__dt__"
  | .spec _ _ => "__field__"
  | .shorthand _ _ => "__array__"
  | .typeName _ => "__type__"
  | .map _ => "__map__"
  | .list _ => "__seq__"
  | .tuple _ => "__tuple__"
  | .enclosing _ _ => "enclosing"
  | _ => "__ref__"

end Value

/-- The kind of a payload: its tag, or the name of a scalar. -/
def Payload.kind : Payload → String
  | .null => "null"
  | .bool _ => "bool"
  | .int _ => "int"
  | .float _ => "float"
  | .text _ => "text"
  | .brokenText _ => "text"
  | .array _ => "array"
  | .tagged tag _ => tag
  | .identified tag _ _ => tag

theorem Payload.Alike.kind_eq {p q : Payload} (h : p.Alike q) : p.kind = q.kind := by
  cases h <;> rfl

namespace Value

/-! ## Payloads of containers -/

section

-- Makes the equations of payloads once, for all the proofs of this section.
attribute [local simp] payload payloadsOfItems payloadsOfEntries

theorem payload_spec_eq_ok {place : List Nat} {type : Value} {modifiers : Entries} {p : Payload}
    (h : payload place (.spec type modifiers) = .ok p) :
    ∃ first others, payload (0 :: place) type = .ok first ∧
      payloadsOfEntries (1 :: place) 0 modifiers = .ok others ∧ p = .field first others := by
  simp only [payload] at h
  split at h
  case h_1 first others hfirst hothers =>
    exact ⟨first, others, hfirst, hothers, (Except.ok.inj h).symm⟩
  all_goals contradiction

theorem payload_shorthand_eq_ok {place : List Nat} {type : Value} {modifiers : Entries}
    {p : Payload} (h : payload place (.shorthand type modifiers) = .ok p) :
    ∃ first others, payload (0 :: place) type = .ok first ∧
      payloadsOfEntries (1 :: place) 0 modifiers = .ok others ∧
      p = .tagged "__array__" (.field first others) := by
  simp only [payload] at h
  split at h
  case h_1 first others hfirst hothers =>
    exact ⟨first, others, hfirst, hothers, (Except.ok.inj h).symm⟩
  all_goals contradiction

theorem payload_map_eq_ok {place : List Nat} {entries : Entries} {p : Payload}
    (h : payload place (.map entries) = .ok p) :
    ∃ pairs, payloadsOfEntries place 0 entries = .ok pairs ∧
      p = .container "__map__" (pairs.map fun pair => .array [pair.1, pair.2]) := by
  simp only [payload] at h
  split at h
  case h_1 pairs hpairs => exact ⟨pairs, hpairs, (Except.ok.inj h).symm⟩
  case h_2 => contradiction

theorem payload_list_eq_ok {place : List Nat} {items : List Value} {p : Payload}
    (h : payload place (.list items) = .ok p) :
    ∃ ps, payloadsOfItems place 0 items = .ok ps ∧ p = .container "__seq__" ps := by
  simp only [payload] at h
  split at h
  case h_1 ps hps => exact ⟨ps, hps, (Except.ok.inj h).symm⟩
  case h_2 => contradiction

theorem payload_tuple_eq_ok {place : List Nat} {items : List Value} {p : Payload}
    (h : payload place (.tuple items) = .ok p) :
    ∃ ps, payloadsOfItems place 0 items = .ok ps ∧ p = .container "__tuple__" ps := by
  simp only [payload] at h
  split at h
  case h_1 ps hps => exact ⟨ps, hps, (Except.ok.inj h).symm⟩
  case h_2 => contradiction

theorem payloadsOfItems_cons_eq_ok {place : List Nat} {index : Nat} {v : Value}
    {vs : List Value} {ps : List Payload} (h : payloadsOfItems place index (v :: vs) = .ok ps) :
    ∃ first others, payload (index :: place) v = .ok first ∧
      payloadsOfItems place (index + 1) vs = .ok others ∧ ps = first :: others := by
  simp only [payloadsOfItems] at h
  split at h
  case h_1 first others hfirst hothers =>
    exact ⟨first, others, hfirst, hothers, (Except.ok.inj h).symm⟩
  all_goals contradiction

theorem payloadsOfEntries_cons_eq_ok {place : List Nat} {index : Nat} {k v : Value}
    {entries : Entries} {pairs : List (Payload × Payload)}
    (h : payloadsOfEntries place index ((k, v) :: entries) = .ok pairs) :
    ∃ key value others, payload (0 :: index :: place) k = .ok key ∧
      payload (1 :: index :: place) v = .ok value ∧
      payloadsOfEntries place (index + 1) entries = .ok others ∧
      pairs = (key, value) :: others := by
  simp only [payloadsOfEntries] at h
  split at h
  case h_1 key value others hkey hvalue hothers =>
    exact ⟨key, value, others, hkey, hvalue, hothers, (Except.ok.inj h).symm⟩
  all_goals contradiction

end

theorem payload_of_isReference {v : Value} (h : v.isReference = true) (place : List Nat) :
    payload place v = .ok (.referenceTo v (v.reference place)) := by
  cases v <;> first | rfl | exact absurd h Bool.false_ne_true

theorem payload_of_memberName? {v : Value} {name : String} (h : v.memberName? = some name)
    (place : List Nat) : payload place v = .ok (.member name) := by
  cases v with
  | canonical t => exact congrArg (Except.ok ∘ Payload.member) (Option.some.inj h)
  | errorCode code => exact congrArg (Except.ok ∘ Payload.member) (Option.some.inj h)
  | member m => exact congrArg (Except.ok ∘ Payload.member) (Option.some.inj h)
  | _ => exact absurd h.symm (Option.some_ne_none name)

/-- A payload is of the kind of its value. -/
theorem kind_of_payload {v : Value} {place : List Nat} {p : Payload}
    (h : payload place v = .ok p) : p.kind = v.kind := by
  by_cases href : v.isReference = true
  · rw [payload_of_isReference href, Except.ok.injEq] at h
    subst h
    cases v <;> first | rfl | exact absurd href Bool.false_ne_true
  cases v with
  | spec type modifiers =>
    obtain ⟨first, others, -, -, rfl⟩ := payload_spec_eq_ok h
    rfl
  | shorthand type modifiers =>
    obtain ⟨first, others, -, -, rfl⟩ := payload_shorthand_eq_ok h
    rfl
  | map entries =>
    obtain ⟨pairs, -, rfl⟩ := payload_map_eq_ok h
    rfl
  | list items =>
    obtain ⟨ps, -, rfl⟩ := payload_list_eq_ok h
    rfl
  | tuple items =>
    obtain ⟨ps, -, rfl⟩ := payload_tuple_eq_ok h
    rfl
  | enclosing depth isMapping => contradiction
  | _ => first | exact absurd rfl href | (cases h; rfl)

/-- Payloads that are alike come from values of one kind. -/
theorem kind_eq_of_alike {v w : Value} {place place' : List Nat} {p q : Payload}
    (hv : payload place v = .ok p) (hw : payload place' w = .ok q) (h : p.Alike q) :
    v.kind = w.kind := by
  rw [← kind_of_payload hv, h.kind_eq, kind_of_payload hw]

end Value

/-! ## Payloads of parts -/

namespace Payload

/-- Equality of payloads pair by pair. -/
def PairsAlike : List (Payload × Payload) → List (Payload × Payload) → Prop :=
  List.Forall₂ fun a b => a.1.Alike b.1 ∧ a.2.Alike b.2

theorem alike_tagged_iff {tag : String} {p q : Payload} :
    Alike (.tagged tag p) (.tagged tag q) ↔ p.Alike q := by
  constructor
  · intro h
    cases h with
    | tagged _ h => exact h
  · exact .tagged tag

theorem alike_text_iff {s t : String} : Alike (.text s) (.text t) ↔ s = t := by
  constructor
  · intro h
    cases h
    rfl
  · rintro rfl
    exact .text s

theorem alike_int_iff {m n : Int} : Alike (.int m) (.int n) ↔ m = n := by
  constructor
  · intro h
    cases h
    rfl
  · rintro rfl
    exact .int m

theorem alike_identified_iff {tag tag' name name' : String} {identity identity' : List Nat} :
    Alike (.identified tag name identity) (.identified tag' name' identity') ↔
      tag = tag' ∧ name = name' ∧ identity = identity' := by
  constructor
  · intro h
    cases h
    exact ⟨rfl, rfl, rfl⟩
  · rintro ⟨rfl, rfl, rfl⟩
    exact .identified tag name identity

theorem alike_array_iff {ps qs : List Payload} :
    Alike (.array ps) (.array qs) ↔ AllAlike ps qs := by
  constructor
  · intro h
    cases h with
    | array h => exact h
  · exact .array

/-- Arrays of two items are alike when both items are. -/
theorem alike_pair_iff {a b c d : Payload} :
    Alike (.array [a, b]) (.array [c, d]) ↔ a.Alike c ∧ b.Alike d := by
  rw [alike_array_iff]
  constructor
  · intro h
    cases h with
    | cons hac h => cases h with
      | cons hbd _ => exact ⟨hac, hbd⟩
  · rintro ⟨hac, hbd⟩
    exact .cons hac (.cons hbd .nil)

theorem alike_container_iff {tag : String} {ps qs : List Payload} :
    Alike (container tag ps) (container tag qs) ↔ AllAlike ps qs :=
  alike_tagged_iff.trans alike_array_iff

theorem alike_member_iff {name name' : String} :
    Alike (member name) (member name') ↔ name = name' :=
  alike_tagged_iff.trans alike_text_iff

theorem alike_patternOf_iff {tag source source' : String} {flags flags' : Flags} :
    Alike (patternOf tag source flags) (patternOf tag source' flags') ↔
      source = source' ∧ flags = flags' := by
  rw [patternOf, patternOf, alike_tagged_iff, alike_pair_iff, alike_text_iff, alike_int_iff]
  constructor
  · rintro ⟨hsource, hflags⟩
    exact ⟨hsource, Flags.toNat_injective (Int.ofNat_inj.mp hflags)⟩
  · rintro ⟨rfl, rfl⟩
    exact ⟨rfl, rfl⟩

theorem alike_timeOf_iff {kind kind' text text' : String} :
    Alike (timeOf kind text) (timeOf kind' text') ↔ kind = kind' ∧ text = text' := by
  rw [timeOf, timeOf, alike_tagged_iff, alike_pair_iff, alike_text_iff, alike_text_iff]

/-- Written pair by pair in a way that keeps both parts, pairs are alike when they are written
alike. -/
theorem allAlike_map_iff {f : Payload × Payload → Payload}
    (hf : ∀ a b, Alike (f a) (f b) ↔ a.1.Alike b.1 ∧ a.2.Alike b.2)
    {ps qs : List (Payload × Payload)} : AllAlike (ps.map f) (qs.map f) ↔ PairsAlike ps qs := by
  constructor
  · intro h
    induction ps generalizing qs with
    | nil =>
      cases qs with
      | nil => exact .nil
      | cons b qs => cases h
    | cons a ps ih =>
      cases qs with
      | nil => cases h
      | cons b qs =>
        cases h with
        | cons h hs => exact .cons ((hf a b).mp h) (ih hs)
  · intro h
    induction h with
    | nil => exact .nil
    | cons h _ ih => exact .cons ((hf _ _).mpr h) ih

/-- Pairs of a mapping are written as arrays. -/
theorem alike_map_iff {ps qs : List (Payload × Payload)} :
    Alike (container "__map__" (ps.map fun pair => .array [pair.1, pair.2]))
        (container "__map__" (qs.map fun pair => .array [pair.1, pair.2])) ↔
      PairsAlike ps qs := by
  rw [alike_container_iff]
  exact allAlike_map_iff fun _ _ => alike_pair_iff

theorem alike_field_iff {first first' : Payload} {others others' : List (Payload × Payload)} :
    Alike (field first others) (field first' others') ↔
      first.Alike first' ∧ PairsAlike others others' := by
  have hpairs (a b : Payload × Payload) :
      Alike (container "__tuple__" [a.1, a.2]) (container "__tuple__" [b.1, b.2]) ↔
        a.1.Alike b.1 ∧ a.2.Alike b.2 := by
    rw [alike_container_iff, ← alike_array_iff, alike_pair_iff]
  rw [field, field, alike_tagged_iff, alike_pair_iff, alike_container_iff,
    allAlike_map_iff hpairs]

end Payload

end FieldSchema
