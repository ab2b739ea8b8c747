import FieldSchema.Proofs.Signature.Unfolding

/-!
# The graph of a value

Every value shows a part of some finite object graph, unless it refers back where there is no
container around.  The graph has a container for each list, tuple and mapping of the value, and for
the modifiers of field specifications, and they are laid out one after the other: how many there are
does not depend on where they start or on what they are called, so that the graphs of parts can be
put side by side (`ObjectGraph.Drawable`).

With the exactness of the search and what it says about sharing, this gives all there is to say
about cycles: a signature is missing exactly when there is a cycle, and sharing does not show.

* `Value.isAnchored`: values that refer back inside containers only.
* `ObjectGraph.drawable`, `ObjectGraph.exists_shows`: graphs of values.
* `ObjectGraph.signature_exact`: when there is a signature.
-/

namespace FieldSchema

/-! ## References back -/

namespace Value

mutual

/-- Whether references back stand inside containers; `inside` says whether there is one around. -/
def isAnchored (inside : Bool) : Value → Bool
  | .spec type modifiers => isAnchored inside type && areEntriesAnchored inside modifiers
  | .shorthand type modifiers => isAnchored inside type && areEntriesAnchored inside modifiers
  | .map entries => areEntriesAnchored true entries
  | .list items => areAnchored true items
  | .tuple items => areAnchored true items
  | .enclosing _ _ => inside
  | _ => true

/-- The same of all items. -/
def areAnchored (inside : Bool) : List Value → Bool
  | [] => true
  | v :: rest => isAnchored inside v && areAnchored inside rest

/-- The same of all keys and values. -/
def areEntriesAnchored (inside : Bool) : Entries → Bool
  | [] => true
  | (k, v) :: rest => isAnchored inside k && isAnchored inside v && areEntriesAnchored inside rest

end

end Value

namespace ObjectGraph

/-! ## Cells one after the other -/

/-- Cells stand at the numbers from `start` on. -/
def LaidOut {α : Type} (contents : α → Cell α) (name : Nat → α) : Nat → List (Cell α) → Prop
  | _, [] => True
  | start, cell :: cells => contents (name start) = cell ∧ LaidOut contents name (start + 1) cells

theorem laidOut_append {α : Type} {contents : α → Cell α} {name : Nat → α} {start : Nat}
    {cells more : List (Cell α)} (h : LaidOut contents name start (cells ++ more)) :
    LaidOut contents name start cells ∧ LaidOut contents name (start + cells.length) more := by
  induction cells generalizing start with
  | nil => exact ⟨trivial, h⟩
  | cons cell cells ih =>
    obtain ⟨hcells, hmore⟩ := ih h.2
    refine ⟨⟨h.1, hcells⟩, ?_⟩
    rwa [Nat.add_assoc, Nat.add_comm 1] at hmore

/-- What is said of something in a graph, below some containers and at a place. -/
abbrev Depiction (P : Type → Type) :=
  (α : Type) → [DecidableEq α] → (α → Cell α) → Finset α → List Nat → P α → Prop

/-- Something of which this is said can be laid out with a number of cells, under any names and from
any number on.  When it stands inside a container, one is given. -/
def Drawable (inside : Bool) {P : Type → Type} (shown : Depiction P) : Prop :=
  ∃ n, ∀ (α : Type) [DecidableEq α] (name : Nat → α) (outer : α) (start : Nat) (place : List Nat),
    ∃ (x : P α) (cells : List (Cell α)), cells.length = n ∧ ∀ contents around,
      (inside = true → outer ∈ around) → LaidOut contents name start cells →
      shown α contents around place x

variable {inside : Bool} {P Q : Type → Type} {shown : Depiction P} {shown' : Depiction Q}

theorem Drawable.imp (h : Drawable inside shown) (f : (α : Type) → P α → Q α)
    (hf : ∀ α [DecidableEq α] contents around place x, shown α contents around place x →
      shown' α contents around place (f α x)) : Drawable inside shown' := by
  obtain ⟨n, hn⟩ := h
  refine ⟨n, fun α _ name outer start place => ?_⟩
  obtain ⟨x, cells, hlength, hshown⟩ := hn α name outer start place
  exact ⟨f α x, cells, hlength, fun contents around houter hcells =>
    hf α contents around place x (hshown contents around houter hcells)⟩

theorem Drawable.below (h : Drawable inside shown) (below : List Nat → List Nat) :
    Drawable inside (P := P) fun α _ contents around place x =>
      shown α contents around (below place) x := by
  obtain ⟨n, hn⟩ := h
  exact ⟨n, fun α _ name outer start place => hn α name outer start (below place)⟩

theorem Drawable.and (h : Drawable inside shown) (h' : Drawable inside shown') :
    Drawable inside (P := fun α => P α × Q α) fun α _ contents around place x =>
      shown α contents around place x.1 ∧ shown' α contents around place x.2 := by
  obtain ⟨n, hn⟩ := h
  obtain ⟨m, hm⟩ := h'
  refine ⟨n + m, fun α _ name outer start place => ?_⟩
  obtain ⟨x, cells, hlength, hshown⟩ := hn α name outer start place
  obtain ⟨y, more, hmore, hshown'⟩ := hm α name outer (start + n) place
  refine ⟨(x, y), cells ++ more, by rw [List.length_append, hlength, hmore], ?_⟩
  intro contents around houter hcells
  obtain ⟨hcells, hmore⟩ := laidOut_append hcells
  rw [hlength] at hmore
  exact ⟨hshown contents around houter hcells, hshown' contents around houter hmore⟩

/-- A container is laid out in front of what it holds. -/
theorem Drawable.cell (h : Drawable true shown) (cell : (α : Type) → P α → Cell α) :
    Drawable inside (P := fun α => α × P α) fun α _ contents around place x =>
      contents x.1 = cell α x.2 ∧ shown α contents (insert x.1 around) place x.2 := by
  obtain ⟨n, hn⟩ := h
  refine ⟨n + 1, fun α _ name outer start place => ?_⟩
  obtain ⟨x, cells, hlength, hshown⟩ := hn α name (name start) (start + 1) place
  refine ⟨(name start, x), cell α x :: cells, by rw [List.length_cons, hlength], ?_⟩
  intro contents around _ hcells
  exact ⟨hcells.1, hshown contents (insert (name start) around)
    (fun _ => Finset.mem_insert_self _ _) hcells.2⟩

/-- A container that does not count as one around what it holds. -/
theorem Drawable.aside (h : Drawable inside shown) (cell : (α : Type) → P α → Cell α) :
    Drawable inside (P := fun α => α × P α) fun α _ contents around place x =>
      contents x.1 = cell α x.2 ∧ shown α contents around place x.2 := by
  obtain ⟨n, hn⟩ := h
  refine ⟨n + 1, fun α _ name outer start place => ?_⟩
  obtain ⟨x, cells, hlength, hshown⟩ := hn α name outer (start + 1) place
  refine ⟨(name start, x), cell α x :: cells, by rw [List.length_cons, hlength], ?_⟩
  exact fun contents around houter hcells => ⟨hcells.1, hshown contents around houter hcells.2⟩

/-! ## Values -/

/-- Entries show pairs of parts, each of which is also held by a tuple. -/
def ShowsTuples (entries : Entries) (index : Nat) :
    Depiction fun α => List (α × Part α × Part α) :=
  fun _ _ contents around place triples =>
    (∀ triple ∈ triples, contents triple.1 = .tuple [triple.2.1, triple.2.2]) ∧
      ShowsEntries contents around place index (triples.map (·.2)) entries

theorem isTupleOfPairs_of_triples {α : Type} {contents : α → Cell α} {b : α}
    {triples : List (α × Part α × Part α)}
    (hb : contents b = .tuple (triples.map fun triple => .container triple.1))
    (h : ∀ triple ∈ triples, contents triple.1 = .tuple [triple.2.1, triple.2.2]) :
    IsTupleOfPairs contents b (triples.map (·.2)) := by
  refine ⟨triples.map (·.1), by rw [hb, List.map_map]; rfl, ?_⟩
  rw [List.forall₂_map_left_iff, List.forall₂_map_right_iff]
  exact List.forall₂_same.mpr h

/-- What is not searched. -/
theorem drawable_leaf {v : Value} (h : ∀ place, ∃ p, v.payload place = .ok p) :
    Drawable inside (P := Part) fun _ _ contents around place part =>
      Shows contents around place part v := by
  refine ⟨0, fun α _ name outer start place => ?_⟩
  obtain ⟨p, hp⟩ := h place
  exact ⟨.leaf p, [], rfl, fun contents around _ _ => .leaf hp⟩

/-- A type and modifiers, the pairs of which are held by tuples in a tuple. -/
theorem drawable_specified {type : Value} {modifiers : Entries}
    (htype : Drawable inside (P := Part) fun _ _ contents around place part =>
      Shows contents around place part type)
    (hmodifiers : Drawable inside (ShowsTuples modifiers 0)) :
    Drawable inside (P := fun α => Part α × α × List (α × Part α × Part α))
      fun _ _ contents around place x =>
        Shows contents around (0 :: place) x.1 type ∧
          IsTupleOfPairs contents x.2.1 (x.2.2.map (·.2)) ∧
          ShowsEntries contents around (1 :: place) 0 (x.2.2.map (·.2)) modifiers := by
  refine (Drawable.and (htype.below (0 :: ·)) ((hmodifiers.below (1 :: ·)).aside fun α triples =>
    .tuple (triples.map fun triple => .container triple.1))).imp (fun _ => id) ?_
  rintro α _ contents around place x ⟨htype, hb, htuples, hentries⟩
  exact ⟨htype, isTupleOfPairs_of_triples hb htuples, hentries⟩

mutual

/-- A value whose references back stand inside containers can be laid out. -/
theorem drawable (v : Value) {inside : Bool} (h : v.isAnchored inside = true) :
    Drawable inside (P := Part) fun _ _ contents around place part =>
      Shows contents around place part v := by
  cases v with
  | spec type modifiers =>
    obtain ⟨htype, hmodifiers⟩ := Bool.and_eq_true_iff.mp h
    refine (drawable_specified (drawable type htype) (drawableEntries modifiers hmodifiers 0)).imp
      (fun _ x => .spec x.1 (.container x.2.1)) ?_
    rintro α _ contents around place x ⟨htype, hpairs, hentries⟩
    exact .spec hpairs htype hentries
  | shorthand type modifiers =>
    obtain ⟨htype, hmodifiers⟩ := Bool.and_eq_true_iff.mp h
    refine (drawable_specified (drawable type htype) (drawableEntries modifiers hmodifiers 0)).imp
      (fun _ x => .shorthand (.spec x.1 (.container x.2.1))) ?_
    rintro α _ contents around place x ⟨htype, hpairs, hentries⟩
    exact .shorthand hpairs htype hentries
  | map entries =>
    refine ((drawableEntries entries h 0).cell fun _ triples => .map (triples.map (·.2))).imp
      (fun _ x => .container x.1) ?_
    rintro α _ contents around place x ⟨hcell, -, hentries⟩
    exact .map hcell hentries
  | list items =>
    refine ((drawableItems items h 0).cell fun _ parts => .list parts).imp
      (fun _ x => .container x.1) ?_
    rintro α _ contents around place x ⟨hcell, hitems⟩
    exact .list hcell hitems
  | tuple items =>
    refine ((drawableItems items h 0).cell fun _ parts => .tuple parts).imp
      (fun _ x => .container x.1) ?_
    rintro α _ contents around place x ⟨hcell, hitems⟩
    exact .tuple hcell hitems
  | enclosing depth isMapping =>
    refine ⟨0, fun α _ name outer start place => ⟨.container outer, [], rfl, ?_⟩⟩
    exact fun contents around houter _ => .enclosing (houter h) depth isMapping
  | _ => exact drawable_leaf fun _ => ⟨_, rfl⟩

/-- The same of items. -/
theorem drawableItems (items : List Value) {inside : Bool}
    (h : Value.areAnchored inside items = true) (index : Nat) :
    Drawable inside (P := fun α => List (Part α)) fun _ _ contents around place parts =>
      ShowsItems contents around place index parts items := by
  cases items with
  | nil => exact ⟨0, fun α _ name outer start place => ⟨[], [], rfl, fun _ _ _ _ => .nil⟩⟩
  | cons v rest =>
    obtain ⟨hv, hrest⟩ := Bool.and_eq_true_iff.mp h
    refine (((drawable v hv).below (index :: ·)).and (drawableItems rest hrest (index + 1))).imp
      (fun _ x => x.1 :: x.2) ?_
    rintro α _ contents around place x ⟨hv, hrest⟩
    exact .cons hv hrest

/-- The same of entries. -/
theorem drawableEntries (entries : Entries) {inside : Bool}
    (h : Value.areEntriesAnchored inside entries = true) (index : Nat) :
    Drawable inside (ShowsTuples entries index) := by
  cases entries with
  | nil =>
    exact ⟨0, fun α _ name outer start place => ⟨[], [], rfl, fun _ _ _ _ =>
      ⟨fun _ hnone => absurd hnone List.not_mem_nil, .nil⟩⟩⟩
  | cons entry rest =>
    obtain ⟨k, v⟩ := entry
    obtain ⟨hkv, hrest⟩ := Bool.and_eq_true_iff.mp h
    obtain ⟨hk, hv⟩ := Bool.and_eq_true_iff.mp hkv
    have hentry := ((drawable k hk).below fun place => 0 :: index :: place).and
      ((drawable v hv).below fun place => 1 :: index :: place)
    refine ((hentry.aside fun _ pair => .tuple [pair.1, pair.2]).and
      (drawableEntries rest hrest (index + 1))).imp (fun _ x => x.1 :: x.2) ?_
    rintro α _ contents around place x ⟨⟨hcell, hk, hv⟩, hcells, hrest⟩
    exact ⟨List.forall_mem_cons.mpr ⟨hcell, hcells⟩, .cons hk hv hrest⟩

end

theorem laidOut_of_getElem? {α : Type} {contents : α → Cell α} {name : Nat → α} {start : Nat}
    {cells : List (Cell α)}
    (h : ∀ i cell, cells[i]? = some cell → contents (name (start + i)) = cell) :
    LaidOut contents name start cells := by
  induction cells generalizing start with
  | nil => trivial
  | cons cell cells ih =>
    refine ⟨h 0 cell rfl, ih fun i other hother => ?_⟩
    rw [Nat.add_assoc, Nat.add_comm 1]
    exact h (i + 1) other hother

/-- **Values show graphs.**  A definition and options whose references back stand inside containers
show two parts of one finite graph. -/
theorem exists_shows {v w : Value} (hv : v.isAnchored false = true)
    (hw : w.isAnchored false = true) (call : Nat) :
    ∃ (n : Nat) (contents : Fin n → Cell (Fin n)) (definition options : Part (Fin n)),
      Shows contents ∅ [0, call] definition v ∧ Shows contents ∅ [1, call] options w := by
  obtain ⟨n, hn⟩ := ((drawable v hv).below fun _ => [0, call]).and
    ((drawable w hw).below fun _ => [1, call])
  obtain ⟨parts, cells, hlength, hshown⟩ := hn (Fin (n + 1)) (Fin.ofNat (n + 1)) 0 0 []
  let contents : Fin (n + 1) → Cell (Fin (n + 1)) := fun i => cells[i.val]?.getD (.list [])
  have hcells : LaidOut contents (Fin.ofNat (n + 1)) 0 cells := by
    refine laidOut_of_getElem? fun i cell hcell => ?_
    have hi : i < cells.length := (List.getElem?_eq_some_iff.mp hcell).1
    have hname : (Fin.ofNat (n + 1) (0 + i)).val = i := by
      rw [Nat.zero_add, Fin.val_ofNat, Nat.mod_eq_of_lt (by omega)]
    simp only [contents, hname, hcell, Option.getD_some]
  obtain ⟨hfirst, hsecond⟩ := hshown contents ∅ (fun hinside => nomatch hinside) hcells
  exact ⟨n + 1, contents, parts.1, parts.2, hfirst, hsecond⟩

/-! ## Signatures -/

section

open Relation

/-- Some container that is met on the way down from the definition or from the options can reach
itself. -/
def HasCycle {α : Type} (contents : α → Cell α) (definition options : Part α) : Prop :=
  ∃ root ∈ [definition, options], ∃ a,
    ReflTransGen (Leads contents) root (.container a) ∧ ReachesItself contents a

theorem hasCycle_iff {α : Type} {contents : α → Cell α} {definition options : Part α} :
    HasCycle contents definition options ↔
      Returns contents ∅ definition ∨ Returns contents ∅ options := by
  simp [HasCycle, Returns]

end

section

variable {α : Type} [Fintype α] [DecidableEq α] {contents : α → Cell α}
  {definition options : Part α}

/-- There is a signature unless there is a cycle. -/
theorem signature_spec (contents : α → Cell α) (definition options : Part α) :
    (signature contents definition options = .error .referenceCycle ∧
      HasCycle contents definition options) ∨
    ((∃ text, signature contents definition options = .ok text) ∧
      ¬HasCycle contents definition options) := by
  rw [hasCycle_iff, signature]
  rcases search_spec contents ∅ definition with ⟨⟨p, hp⟩, hfirst⟩ | ⟨hp, hfirst⟩
  · rw [hp]
    rcases search_spec contents ∅ options with ⟨⟨q, hq⟩, hsecond⟩ | ⟨hq, hsecond⟩
    · rw [hq]
      exact .inr ⟨⟨_, rfl⟩, not_or.mpr ⟨hfirst, hsecond⟩⟩
    · rw [hq]
      exact .inl ⟨rfl, .inr hsecond⟩
  · rw [hp]
    exact .inl ⟨rfl, .inl hfirst⟩

/-- Values have the signature of what they show. -/
theorem ofContent_eq_signature {call : Nat} {v w : Value}
    (hv : Shows contents ∅ [0, call] definition v) (hw : Shows contents ∅ [1, call] options w) :
    Signature.ofContent call v w = signature contents definition options := by
  rw [signature, hv.result_eq, hw.result_eq, Signature.ofContent, Signature.payload]
  simp only [bind_assoc, pure_bind]

end

/-- **Cycle detection is exact.**  For parts of any finite object graph there is either a signature,
empty if no coding has what it is taken of, or the error about cycles, and the error when and only
when some mapping, list or tuple below the definition or the options can reach itself.  Parts that
match, however they are shared in their graphs, have the same signature or the same error.  Values
have the signature of the parts that they show, and all values, if their references back stand
inside containers, show parts of a graph. -/
theorem signature_exact :
    (∀ (α : Type) [Fintype α] [DecidableEq α] (contents : α → Cell α) (definition options : Part α),
      ((signature contents definition options = .error .referenceCycle ∧
          HasCycle contents definition options) ∨
        ((∃ text, signature contents definition options = .ok text) ∧
          ¬HasCycle contents definition options)) ∧
      (∀ (β : Type) [Fintype β] [DecidableEq β] (contents' : β → Cell β) (R : α → β → Prop)
        (definition' options' : Part β), (∀ a b, R a b → (contents a).Matches R (contents' b)) →
        definition.Matches R definition' → options.Matches R options' →
        signature contents' definition' options' = signature contents definition options) ∧
      ∀ call v w, Shows contents ∅ [0, call] definition v → Shows contents ∅ [1, call] options w →
        Signature.ofContent call v w = signature contents definition options) ∧
    ∀ call v w, v.isAnchored false = true → w.isAnchored false = true →
      ∃ (n : Nat) (contents : Fin n → Cell (Fin n)) (definition options : Part (Fin n)),
        Shows contents ∅ [0, call] definition v ∧ Shows contents ∅ [1, call] options w := by
  refine ⟨fun α _ _ contents definition options =>
    ⟨signature_spec contents definition options, ?_, ?_⟩, ?_⟩
  · intro β _ _ contents' R definition' options' hR hdefinition hoptions
    rw [signature, signature, result_search_eq_of_matches hR hdefinition,
      result_search_eq_of_matches hR hoptions]
  · exact fun call v w hv hw => ofContent_eq_signature hv hw
  · exact fun call v w hv hw => exists_shows hv hw call

/-- A mapping whose two values are one list. -/
def sharedList : Bool → Cell Bool
  | true => .map [(.leaf (.text "a"), .container false), (.leaf (.text "b"), .container false)]
  | false => .list [.leaf (.int 1)]

/-- The same with two lists. -/
def twoLists : Fin 3 → Cell (Fin 3)
  | 0 => .map [(.leaf (.text "a"), .container 1), (.leaf (.text "b"), .container 2)]
  | _ => .list [.leaf (.int 1)]

/-- What both look like. -/
def listTwice : Value :=
  .map [(.text "a", .list [.int 1]), (.text "b", .list [.int 1])]

/-- A list that holds itself. -/
def loop : Unit → Cell Unit := fun _ => .list [.container ()]

/-- A list may stand in two places, but not in itself. -/
theorem signature_exact_shared :
    (∃ text, signature sharedList (.container true) (.leaf .null) = .ok text) ∧
      signature twoLists (.container 0) (.leaf .null) =
        signature sharedList (.container true) (.leaf .null) ∧
      Signature.ofContent 0 listTwice .null =
        signature sharedList (.container true) (.leaf .null) ∧
      signature loop (.container ()) (.leaf .null) = .error .referenceCycle := by
  obtain ⟨-, hmatches, hshows⟩ := signature_exact.1 Bool sharedList (.container true) (.leaf .null)
  have hvalue := hshows 0 listTwice .null (.map rfl (.cons (.leaf rfl)
    (.list rfl (.cons (.leaf rfl) .nil)) (.cons (.leaf rfl) (.list rfl (.cons (.leaf rfl) .nil))
      .nil))) (.leaf rfl)
  have hcells : ∀ a b, a = (b == (0 : Fin 3)) →
      (sharedList a).Matches (fun a b => a = (b == 0)) (twoLists b) := by
    rintro a b rfl
    match b with
    | 0 => exact .map (.cons ⟨.leaf _, .container rfl⟩ (.cons ⟨.leaf _, .container rfl⟩ .nil))
    | 1 => exact .list (.cons (.leaf _) .nil)
    | 2 => exact .list (.cons (.leaf _) .nil)
  have hcycle : HasCycle loop (.container ()) (.leaf .null) :=
    ⟨.container (), List.mem_cons_self, (), .refl, .single (.part List.mem_cons_self)⟩
  have hdigest : ∃ text, Signature.ofContent 0 listTwice .null = .ok text := by
    obtain ⟨p, hp⟩ : ∃ p, Signature.payload 0 listTwice .null = .ok p := ⟨_, rfl⟩
    exact ⟨Signature.digest? p, by rw [Signature.ofContent, hp]; rfl⟩
  refine ⟨hvalue ▸ hdigest,
    hmatches (Fin 3) twoLists _ _ _ hcells (.container rfl) (.leaf _), hvalue, ?_⟩
  rcases (signature_exact.1 Unit loop (.container ()) (.leaf .null)).1 with
    ⟨herror, -⟩ | ⟨-, hnone⟩
  · exact herror
  · exact absurd hcycle hnone

end ObjectGraph

end FieldSchema
