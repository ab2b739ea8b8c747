import FieldSchema.Proofs.Signature.Sharing

/-!
# Values as object graphs

A value is what one sees of an object graph on the ways down from a part: a container that is shared
is seen as often as there are ways to it, and a container around the place is seen as a reference
back (`ObjectGraph.Shows`).  The payload of a value is that of the part which it shows, and a value
has none exactly when the search fails.

* `ObjectGraph.Shows`: the values that show a part of a graph.
* `ObjectGraph.Shows.agrees`: payloads of values and ways down from the parts that they show.
* `ObjectGraph.Shows.result_eq`: payloads of values and what the search finds.
-/

namespace FieldSchema

namespace ObjectGraph

variable {α : Type}

/-! ## What values show -/

/-- A container is a tuple of tuples of two, as the modifiers of a field specification are. -/
def IsTupleOfPairs (contents : α → Cell α) (b : α) (pairs : List (Part α × Part α)) : Prop :=
  ∃ tuples : List α, contents b = .tuple (tuples.map .container) ∧
    List.Forall₂ (fun c pair => contents c = .tuple [pair.1, pair.2]) tuples pairs

/-- What returns from a key or a value of a modifier returns from the modifiers. -/
theorem returns_modifiers {contents : α → Cell α} {around : Finset α} {b : α}
    {pairs : List (Part α × Part α)} (hb : IsTupleOfPairs contents b pairs)
    (h : ∃ pair ∈ pairs, Returns contents around pair.1 ∨ Returns contents around pair.2) :
    Returns contents around (.container b) := by
  obtain ⟨tuples, hb, htuples⟩ := hb
  obtain ⟨pair, hpair, hreturns⟩ := h
  obtain ⟨c, hc, hcell⟩ := exists_of_mem_forall₂ htuples.flip _ hpair
  have htuple : Leads contents (.container b) (.container c) := by
    refine .part ?_
    rw [hb]
    exact List.mem_map_of_mem hc
  have hmember {part : Part α} (hpart : part ∈ [pair.1, pair.2]) :
      Leads contents (.container c) part := by
    refine .part ?_
    rw [hcell]
    exact hpart
  refine returns_of_leads htuple ?_
  rcases hreturns with hkey | hvalue
  · exact returns_of_leads (hmember List.mem_cons_self) hkey
  · exact returns_of_leads (hmember (List.mem_cons_of_mem _ List.mem_cons_self)) hvalue

variable [DecidableEq α]

mutual

/-- A value at a place shows a part of a graph below some containers: what is not searched by its
payload, everything else with its parts.  A reference back shows one of the containers around it. -/
inductive Shows (contents : α → Cell α) : Finset α → List Nat → Part α → Value → Prop
  | leaf {around : Finset α} {place : List Nat} {v : Value} {written : Payload}
    (h : v.payload place = .ok written) : Shows contents around place (.leaf written) v
  | spec {around : Finset α} {place : List Nat} {part : Part α} {b : α}
    {pairs : List (Part α × Part α)} {type : Value} {modifiers : Entries}
    (hpairs : IsTupleOfPairs contents b pairs)
    (htype : Shows contents around (0 :: place) part type)
    (hmodifiers : ShowsEntries contents around (1 :: place) 0 pairs modifiers) :
    Shows contents around place (.spec part (.container b)) (.spec type modifiers)
  | shorthand {around : Finset α} {place : List Nat} {part : Part α} {b : α}
    {pairs : List (Part α × Part α)} {type : Value} {modifiers : Entries}
    (hpairs : IsTupleOfPairs contents b pairs)
    (htype : Shows contents around (0 :: place) part type)
    (hmodifiers : ShowsEntries contents around (1 :: place) 0 pairs modifiers) :
    Shows contents around place (.shorthand (.spec part (.container b))) (.shorthand type modifiers)
  | map {around : Finset α} {place : List Nat} {a : α} {pairs : List (Part α × Part α)}
    {entries : Entries} (ha : contents a = .map pairs)
    (h : ShowsEntries contents (insert a around) place 0 pairs entries) :
    Shows contents around place (.container a) (.map entries)
  | list {around : Finset α} {place : List Nat} {a : α} {parts : List (Part α)}
    {items : List Value} (ha : contents a = .list parts)
    (h : ShowsItems contents (insert a around) place 0 parts items) :
    Shows contents around place (.container a) (.list items)
  | tuple {around : Finset α} {place : List Nat} {a : α} {parts : List (Part α)}
    {items : List Value} (ha : contents a = .tuple parts)
    (h : ShowsItems contents (insert a around) place 0 parts items) :
    Shows contents around place (.container a) (.tuple items)
  | enclosing {around : Finset α} {place : List Nat} {a : α} (ha : a ∈ around) (depth : Nat)
    (isMapping : Bool) : Shows contents around place (.container a) (.enclosing depth isMapping)

/-- Items show parts in order. -/
inductive ShowsItems (contents : α → Cell α) :
    Finset α → List Nat → Nat → List (Part α) → List Value → Prop
  | nil {around : Finset α} {place : List Nat} {index : Nat} :
    ShowsItems contents around place index [] []
  | cons {around : Finset α} {place : List Nat} {index : Nat} {part : Part α}
    {parts : List (Part α)} {v : Value} {items : List Value}
    (hv : Shows contents around (index :: place) part v)
    (hitems : ShowsItems contents around place (index + 1) parts items) :
    ShowsItems contents around place index (part :: parts) (v :: items)

/-- Entries show pairs of parts in order. -/
inductive ShowsEntries (contents : α → Cell α) :
    Finset α → List Nat → Nat → List (Part α × Part α) → Entries → Prop
  | nil {around : Finset α} {place : List Nat} {index : Nat} :
    ShowsEntries contents around place index [] []
  | cons {around : Finset α} {place : List Nat} {index : Nat} {key value : Part α}
    {pairs : List (Part α × Part α)} {k v : Value} {entries : Entries}
    (hk : Shows contents around (0 :: index :: place) key k)
    (hv : Shows contents around (1 :: index :: place) value v)
    (hentries : ShowsEntries contents around place (index + 1) pairs entries) :
    ShowsEntries contents around place index ((key, value) :: pairs) ((k, v) :: entries)

end

/-! ## Payloads that are found -/

variable [Fintype α] {contents : α → Cell α} {active : Finset α}

/-- Every way down from a part has an end, and the search finds a payload unless it returns. -/
def Unfolds (contents : α → Cell α) (part : Part α) (p : Payload) : Prop :=
  Acc (fun next part => Leads contents part next) part ∧
    ∀ active, ¬Returns contents active part → (search contents active part).result = .ok p

theorem Unfolds.leaf (written : Payload) : Unfolds contents (.leaf written) written :=
  ⟨⟨_, fun _ hleads => nomatch hleads⟩, fun _ _ => result_leaf written⟩

theorem Unfolds.spec {type modifiers : Part α} {first second : Payload}
    (htype : Unfolds contents type first) (hmodifiers : Unfolds contents modifiers second) :
    Unfolds contents (.spec type modifiers) (.tagged "__field__" (.array [first, second])) := by
  refine ⟨⟨_, fun next hleads => ?_⟩, fun active hnot => ?_⟩
  · cases hleads with
    | type => exact htype.1
    | modifiers => exact hmodifiers.1
  · rw [returns_spec_iff, not_or] at hnot
    exact result_spec_eq_ok_iff.mpr
      ⟨first, second, htype.2 active hnot.1, hmodifiers.2 active hnot.2, rfl⟩

theorem Unfolds.shorthand {item : Part α} {p : Payload} (hitem : Unfolds contents item p) :
    Unfolds contents (.shorthand item) (.tagged "__array__" p) := by
  refine ⟨⟨_, fun next hleads => ?_⟩, fun active hnot => ?_⟩
  · cases hleads
    exact hitem.1
  · rw [returns_shorthand_iff] at hnot
    exact result_shorthand_eq_ok_iff.mpr ⟨p, hitem.2 active hnot, rfl⟩

theorem Unfolds.container {a : α} {cell : Cell α} (hcell : contents a = cell) {ps : List Payload}
    (hparts : List.Forall₂ (Unfolds contents) cell.parts ps) :
    Unfolds contents (.container a) (cell.written ps) := by
  subst hcell
  refine ⟨⟨_, fun next hleads => ?_⟩, fun active hnot => ?_⟩
  · cases hleads with
    | part hpart =>
      obtain ⟨p, -, hp⟩ := exists_of_mem_forall₂ hparts _ hpart
      exact hp.1
  · have ha : a ∉ active := fun ha => hnot ⟨a, .refl, .inl ha⟩
    rw [returns_container_iff ha] at hnot
    refine (result_container_eq_ok_iff ha).mpr ⟨ps, ?_, rfl⟩
    have hnots : ∀ part ∈ (contents a).parts, ¬Returns contents (insert a active) part :=
      fun part hpart hreturns => hnot ⟨part, hpart, hreturns⟩
    exact ((List.forall₂_and_left _ _).mpr ⟨hnots, hparts⟩).imp fun _ _ h => h.2.2 _ h.1

/-- A payload that is found for a part is found at the start. -/
theorem Unfolds.result_eq {part : Part α} {p : Payload} (h : Unfolds contents part p) :
    (search contents ∅ part).result = .ok p :=
  h.2 ∅ (not_returns_of_acc h.1)

theorem Cell.inPairs_flatMap (pairs : List (Payload × Payload)) :
    inPairs (pairs.flatMap fun pair => [pair.1, pair.2]) =
      pairs.map fun pair => .array [pair.1, pair.2] := by
  induction pairs with
  | nil => rfl
  | cons pair pairs ih =>
    rw [List.flatMap_cons, List.map_cons, ← ih]
    rfl

/-- Pairs of parts have payloads in pairs. -/
def UnfoldPairs (contents : α → Cell α) (pairs : List (Part α × Part α))
    (ps : List (Payload × Payload)) : Prop :=
  List.Forall₂ (fun pair p => Unfolds contents pair.1 p.1 ∧ Unfolds contents pair.2 p.2) pairs ps

theorem Unfolds.map {a : α} {pairs : List (Part α × Part α)} (ha : contents a = .map pairs)
    {ps : List (Payload × Payload)} (hpairs : UnfoldPairs contents pairs ps) :
    Unfolds contents (.container a)
      (.container "__map__" (ps.map fun pair => .array [pair.1, pair.2])) := by
  have hparts : List.Forall₂ (Unfolds contents) (Cell.map pairs).parts
      (ps.flatMap fun pair => [pair.1, pair.2]) :=
    List.rel_flatMap hpairs fun _ _ h => .cons h.1 (.cons h.2 .nil)
  have hunfolds := Unfolds.container ha hparts
  rwa [Cell.written, Cell.inPairs_flatMap] at hunfolds

/-- The modifiers of a field specification have payloads in pairs. -/
theorem Unfolds.modifiers {b : α} {pairs : List (Part α × Part α)}
    (hb : IsTupleOfPairs contents b pairs) {ps : List (Payload × Payload)}
    (hpairs : UnfoldPairs contents pairs ps) :
    Unfolds contents (.container b)
      (.container "__tuple__" (ps.map fun pair => .container "__tuple__" [pair.1, pair.2])) := by
  obtain ⟨tuples, hb, htuples⟩ := hb
  refine Unfolds.container hb ?_
  rw [Cell.parts, List.forall₂_map_left_iff, List.forall₂_map_right_iff]
  clear hb
  induction htuples generalizing ps with
  | nil =>
    cases hpairs
    exact .nil
  | cons hc _ ih =>
    cases hpairs with
    | cons hpair hpairs =>
      exact .cons (Unfolds.container hc (.cons hpair.1 (.cons hpair.2 .nil))) (ih hpairs)

/-! ## Payloads of values -/

theorem payload_shorthand (place : List Nat) (type : Value) (modifiers : Entries) :
    Value.payload place (.shorthand type modifiers) =
      (Value.payload place (.spec type modifiers)).map (.tagged "__array__") := by
  rw [Value.payload, Value.payload]
  split <;> rfl

theorem payload_list (place : List Nat) (items : List Value) :
    Value.payload place (.list items) =
      (Value.payloadsOfItems place 0 items).map (.container "__seq__") := by
  rw [Value.payload]
  cases Value.payloadsOfItems place 0 items <;> rfl

theorem payload_tuple (place : List Nat) (items : List Value) :
    Value.payload place (.tuple items) =
      (Value.payloadsOfItems place 0 items).map (.container "__tuple__") := by
  rw [Value.payload]
  cases Value.payloadsOfItems place 0 items <;> rfl

/-- What the payload of a value says about the part that it shows. -/
def Agrees (contents : α → Cell α) (around : Finset α) (part : Part α) :
    Except DefinitionError Payload → Prop
  | .ok p => Unfolds contents part p
  | .error e => e = .referenceCycle ∧ Returns contents around part

/-- The same of items. -/
def ItemsAgree (contents : α → Cell α) (around : Finset α) (parts : List (Part α)) :
    Except DefinitionError (List Payload) → Prop
  | .ok ps => List.Forall₂ (Unfolds contents) parts ps
  | .error e => e = .referenceCycle ∧ ∃ part ∈ parts, Returns contents around part

/-- The same of entries. -/
def EntriesAgree (contents : α → Cell α) (around : Finset α) (pairs : List (Part α × Part α)) :
    Except DefinitionError (List (Payload × Payload)) → Prop
  | .ok ps => UnfoldPairs contents pairs ps
  | .error e => e = .referenceCycle ∧
    ∃ pair ∈ pairs, Returns contents around pair.1 ∨ Returns contents around pair.2

section

variable {around : Finset α} {place : List Nat}

theorem agrees_spec {part : Part α} {b : α} {pairs : List (Part α × Part α)}
    (hpairs : IsTupleOfPairs contents b pairs) {type : Value} {modifiers : Entries}
    (htype : Agrees contents around part (type.payload (0 :: place)))
    (hmodifiers : EntriesAgree contents around pairs
      (Value.payloadsOfEntries (1 :: place) 0 modifiers)) :
    Agrees contents around (.spec part (.container b))
      (Value.payload place (.spec type modifiers)) := by
  rw [Value.payload]
  cases hfirst : type.payload (0 :: place) with
  | error e =>
    rw [hfirst] at htype
    exact ⟨htype.1, returns_spec_iff.mpr (.inl htype.2)⟩
  | ok first =>
    rw [hfirst] at htype
    cases hothers : Value.payloadsOfEntries (1 :: place) 0 modifiers with
    | error e =>
      rw [hothers] at hmodifiers
      exact ⟨hmodifiers.1, returns_spec_iff.mpr (.inr (returns_modifiers hpairs hmodifiers.2))⟩
    | ok others =>
      rw [hothers] at hmodifiers
      exact Unfolds.spec htype (Unfolds.modifiers hpairs hmodifiers)

theorem agrees_shorthand {item : Part α} {type : Value} {modifiers : Entries}
    (hitem : Agrees contents around item (Value.payload place (.spec type modifiers))) :
    Agrees contents around (.shorthand item) (Value.payload place (.shorthand type modifiers)) := by
  rw [payload_shorthand]
  cases hspec : Value.payload place (.spec type modifiers) with
  | error e =>
    rw [hspec] at hitem
    exact ⟨hitem.1, returns_shorthand_iff.mpr hitem.2⟩
  | ok p =>
    rw [hspec] at hitem
    exact Unfolds.shorthand hitem

/-- A list or a tuple. -/
theorem agrees_items {a : α} {cell : Cell α} (ha : contents a = cell)
    {ps : Except DefinitionError (List Payload)}
    (hps : ItemsAgree contents (insert a around) cell.parts ps) :
    Agrees contents around (.container a) (ps.map cell.written) := by
  subst ha
  cases ps with
  | error e =>
    obtain ⟨rfl, part, hpart, hreturns⟩ := hps
    exact ⟨rfl, returns_container_of_part hpart hreturns⟩
  | ok ps => exact Unfolds.container rfl hps

theorem agrees_map {a : α} {pairs : List (Part α × Part α)} (ha : contents a = .map pairs)
    {entries : Entries} (hentries : EntriesAgree contents (insert a around) pairs
      (Value.payloadsOfEntries place 0 entries)) :
    Agrees contents around (.container a) (Value.payload place (.map entries)) := by
  rw [Value.payload]
  cases hps : Value.payloadsOfEntries place 0 entries with
  | error e =>
    rw [hps] at hentries
    obtain ⟨rfl, pair, hpair, hreturns⟩ := hentries
    have hparts {part : Part α} (hpart : part ∈ [pair.1, pair.2]) : part ∈ (contents a).parts := by
      rw [ha]
      exact List.mem_flatMap.mpr ⟨pair, hpair, hpart⟩
    rcases hreturns with hkey | hvalue
    · exact ⟨rfl, returns_container_of_part (hparts List.mem_cons_self) hkey⟩
    · exact ⟨rfl, returns_container_of_part
        (hparts (List.mem_cons_of_mem _ List.mem_cons_self)) hvalue⟩
  | ok ps =>
    rw [hps] at hentries
    exact Unfolds.map ha hentries

end

mutual

/-- **The payload of a value** is that of the part which it shows; it has none when the part
returns. -/
theorem Shows.agrees : {around : Finset α} → {place : List Nat} → {part : Part α} → {v : Value} →
    Shows contents around place part v → Agrees contents around part (v.payload place)
  | _, _, _, _, .leaf h => by
    rw [h]
    exact Unfolds.leaf _
  | _, _, _, _, .spec hpairs htype hmodifiers => agrees_spec hpairs htype.agrees hmodifiers.agrees
  | _, _, _, _, .shorthand hpairs htype hmodifiers =>
    agrees_shorthand (agrees_spec hpairs htype.agrees hmodifiers.agrees)
  | _, _, _, _, .map ha h => agrees_map ha h.agrees
  | _, _, _, _, .list ha h => by
    rw [payload_list]
    exact agrees_items ha h.agrees
  | _, _, _, _, .tuple ha h => by
    rw [payload_tuple]
    exact agrees_items ha h.agrees
  | _, _, _, _, .enclosing ha _ _ => ⟨rfl, _, .refl, .inl ha⟩

theorem ShowsItems.agrees : {around : Finset α} → {place : List Nat} → {index : Nat} →
    {parts : List (Part α)} → {items : List Value} →
    ShowsItems contents around place index parts items →
    ItemsAgree contents around parts (Value.payloadsOfItems place index items)
  | _, _, _, _, _, .nil => .nil
  | _, _, _, _, _, .cons hv hitems => by
    have hfirst := hv.agrees
    have hothers := hitems.agrees
    rw [Value.payloadsOfItems]
    split
    case h_1 first others hp hps =>
      rw [hp] at hfirst
      rw [hps] at hothers
      exact .cons hfirst hothers
    case h_2 e he =>
      rw [he] at hfirst
      exact ⟨hfirst.1, _, List.mem_cons_self, hfirst.2⟩
    case h_3 e he _ =>
      rw [he] at hothers
      obtain ⟨rfl, part, hpart, hreturns⟩ := hothers
      exact ⟨rfl, part, List.mem_cons_of_mem _ hpart, hreturns⟩

theorem ShowsEntries.agrees : {around : Finset α} → {place : List Nat} → {index : Nat} →
    {pairs : List (Part α × Part α)} → {entries : Entries} →
    ShowsEntries contents around place index pairs entries →
    EntriesAgree contents around pairs (Value.payloadsOfEntries place index entries)
  | _, _, _, _, _, .nil => .nil
  | _, _, _, _, _, .cons hk hv hentries => by
    have hkey := hk.agrees
    have hvalue := hv.agrees
    have hothers := hentries.agrees
    rw [Value.payloadsOfEntries]
    split
    case h_1 key value others hp hq hps =>
      rw [hp] at hkey
      rw [hq] at hvalue
      rw [hps] at hothers
      exact .cons ⟨hkey, hvalue⟩ hothers
    case h_2 e he =>
      rw [he] at hkey
      exact ⟨hkey.1, _, List.mem_cons_self, .inl hkey.2⟩
    case h_3 e he _ =>
      rw [he] at hvalue
      exact ⟨hvalue.1, _, List.mem_cons_self, .inr hvalue.2⟩
    case h_4 e he _ _ =>
      rw [he] at hothers
      obtain ⟨rfl, pair, hpair, hreturns⟩ := hothers
      exact ⟨rfl, pair, List.mem_cons_of_mem _ hpair, hreturns⟩

end

/-- At the start, the search finds the payload of every value that shows the part. -/
theorem Shows.result_eq {place : List Nat} {part : Part α} {v : Value}
    (h : Shows contents ∅ place part v) : (search contents ∅ part).result = v.payload place := by
  have hagrees := h.agrees
  cases hpayload : v.payload place with
  | ok p =>
    rw [hpayload] at hagrees
    exact Unfolds.result_eq hagrees
  | error e =>
    rw [hpayload] at hagrees
    obtain ⟨rfl, hreturns⟩ := hagrees
    rcases search_spec contents ∅ part with ⟨-, hnot⟩ | ⟨herror, -⟩
    · exact absurd hreturns hnot
    · exact herror

end ObjectGraph

end FieldSchema
