import FieldSchema.Pattern.Regex

/-!
# Places do not matter

The reader of patterns counts the characters that it has read.  The count is for diagnostics: it
says where a fault is, and where a condition names a group.  So the same text gives the same pattern
wherever it begins, and whatever the bound on the steps is, as long as it is enough.

* `PatternReader.AgreesWith`: readers that differ in their places at most.
* `Reading.Follows`: readings of which one gives what the other gives, from readers that agree.
* `Reading.follows_alternatives`: the grammar.
-/

namespace FieldSchema

/-- Readers that differ in their places at most. -/
structure PatternReader.AgreesWith (r r' : PatternReader) : Prop where
  alphabet_eq : r'.alphabet = r.alphabet
  rest_eq : r'.rest = r.rest
  flags_eq : r'.flags = r.flags
  names_eq : r'.names = r.names
  widths_eq : r'.widths = r.widths
  behindLimit_eq : r'.behindLimit = r.behindLimit
  tested_eq : r'.tested.map (·.1) = r.tested.map (·.1)

namespace PatternReader.AgreesWith

variable {r r' : PatternReader}

theorem groupCount_eq (h : r.AgreesWith r') : r'.groupCount = r.groupCount := by
  rw [groupCount, h.widths_eq, groupCount]

theorem groupWidth_eq (h : r.AgreesWith r') : r'.groupWidth = r.groupWidth := by
  funext group
  rw [groupWidth, h.widths_eq, groupWidth]

end PatternReader.AgreesWith

namespace Reading

/-- Whatever the first reading gives, the second gives from a reader that agrees, and the readers
agree afterwards. -/
def Follows {α : Type} (m m' : Reading α) : Prop :=
  ∀ ⦃r r' : PatternReader⦄ ⦃a : α⦄ ⦃s : PatternReader⦄, r.AgreesWith r' → m r = .ok (a, s) →
    ∃ s', m' r' = .ok (a, s') ∧ s.AgreesWith s'

/-! ## Readings put together -/

section

variable {α β : Type} {m m' : Reading α}

theorem Follows.pure (a : α) : Follows (pure a) (pure a) := by
  intro r r' b s hr h
  obtain ⟨rfl, rfl⟩ := Prod.mk.inj (Except.ok.inj h)
  exact ⟨r', rfl, hr⟩

theorem Follows.bind {f f' : α → Reading β} (h : Follows m m') (hf : ∀ a, Follows (f a) (f' a)) :
    Follows (m >>= f) (m' >>= f') := by
  intro r r' b s hr hb
  change (m r).bind (fun read => f read.1 read.2) = _ at hb
  show ∃ s', (m' r').bind (fun read => f' read.1 read.2) = _ ∧ _
  cases ha : m r with
  | error cause =>
    rw [ha] at hb
    contradiction
  | ok read =>
    obtain ⟨a, between⟩ := read
    rw [ha] at hb
    obtain ⟨between', ha', hbetween⟩ := h hr ha
    obtain ⟨s', hb', hs⟩ := hf a hbetween hb
    rw [ha']
    exact ⟨s', hb', hs⟩

theorem Follows.map (f : α → β) (h : Follows m m') : Follows (f <$> m) (f <$> m') :=
  h.bind fun a => .pure (f a)

theorem Follows.ite {n n' : Reading α} {p : Prop} [Decidable p] (h : p → Follows m m')
    (hn : ¬p → Follows n n') : Follows (if p then m else n) (if p then m' else n') := by
  by_cases hp : p
  · rw [if_pos hp, if_pos hp]
    exact h hp
  · rw [if_neg hp, if_neg hp]
    exact hn hp

/-- What is read off the state itself. -/
theorem Follows.get {f f' : PatternReader → Reading α}
    (h : ∀ r position tested, tested.map (·.1) = r.tested.map (·.1) →
      Follows (f r) (f' { r with position := position, tested := tested })) :
    Follows (MonadStateOf.get >>= f) (MonadStateOf.get >>= f') := by
  rintro r ⟨alphabet, rest, position, flags, names, widths, limit, tested⟩ a s hr ha
  obtain ⟨halphabet, hrest, hflags, hnames, hwidths, hlimit, htested⟩ := hr
  dsimp only at halphabet hrest hflags hnames hwidths hlimit htested
  subst halphabet hrest hflags hnames hwidths hlimit
  refine h r position tested htested ?_ ha
  exact ⟨rfl, rfl, rfl, rfl, rfl, rfl, htested⟩

theorem Follows.set {s s' : PatternReader} (h : s.AgreesWith s') :
    Follows (MonadStateOf.set s) (MonadStateOf.set s') := by
  intro r r' a t hr ha
  obtain ⟨rfl, rfl⟩ := Prod.mk.inj (Except.ok.inj ha)
  exact ⟨s', rfl, h⟩

theorem Follows.modify {f f' : PatternReader → PatternReader}
    (h : ∀ r r', r.AgreesWith r' → (f r).AgreesWith (f' r')) :
    Follows (modify f) (modify f') := by
  intro r r' a s hr ha
  obtain ⟨rfl, rfl⟩ := Prod.mk.inj (Except.ok.inj ha)
  exact ⟨f' r', rfl, h r r' hr⟩

theorem Follows.error (failure : PatternFailure) : Follows (fun _ => .error failure) m' :=
  fun _ _ _ _ _ h => nomatch h

theorem Follows.failBack (cause : PatternFault) (back : Nat) : Follows (failBack cause back) m' :=
  fun _ _ _ _ _ h => nomatch h

theorem Follows.failAt (cause : PatternFault) (position : Nat) :
    Follows (failAt cause position) m' :=
  fun _ _ _ _ _ h => nomatch h

end

/-! ## Tokens -/

theorem Follows.goOn (rest : List Char) (position position' : Nat) :
    Follows (goOn rest position) (goOn rest position') := by
  intro r r' a s hr h
  unfold Reading.goOn at h ⊢
  split at h
  · contradiction
  · rename_i hrest
    obtain ⟨rfl, rfl⟩ := Prod.mk.inj (Except.ok.inj h)
    exact ⟨_, if_neg hrest, { hr with rest_eq := rfl }⟩

theorem Follows.next? : Follows next? next? := by
  intro r r' a s hr h
  obtain ⟨rfl, rfl⟩ := Prod.mk.inj (Except.ok.inj h)
  exact ⟨r', by rw [Reading.next?, PatternReader.next?, hr.rest_eq]; rfl, hr⟩

theorem Follows.take? : Follows take? take? := by
  refine .get fun r position tested _ => ?_
  dsimp only
  split
  · exact .pure none
  · exact (Follows.goOn _ _ _).bind fun _ => .pure _
  · exact (Follows.goOn _ _ _).bind fun _ => .pure _

theorem Follows.accept (c : Char) : Follows (accept c) (accept c) := by
  refine Follows.next?.bind fun token => .ite (fun _ => ?_) fun _ => .pure false
  exact Follows.take?.bind fun _ => .pure true

theorem Follows.takeChars (kind : Char → Bool) (limit : Nat) :
    Follows (takeChars kind limit) (takeChars kind limit) := by
  refine .get fun r position tested _ => ?_
  exact .ite (fun _ => .pure _) fun _ => (Follows.goOn _ _ _).bind fun _ => .pure _

/-! ## Names and escapes -/

theorem Follows.readNameFrom (terminator : Char) (what : String) (budget : Nat)
    (name : List Char) : Follows (readNameFrom terminator what budget name)
      (readNameFrom terminator what budget name) := by
  induction budget generalizing name with
  | zero => exact .failBack _ _
  | succ budget ih =>
    unfold Reading.readNameFrom
    refine Follows.take?.bind fun token => ?_
    cases token with
    | none => exact .ite (fun _ => .failBack _ _) fun _ => .failBack _ _
    | some token =>
      refine .ite (fun _ => ?_) fun _ => ih _
      exact .ite (fun _ => .failBack _ _) fun _ => .pure _

theorem Follows.readName (terminator : Char) (what : String) :
    Follows (readName terminator what) (readName terminator what) :=
  .get fun r _ _ _ => .readNameFrom terminator what (r.rest.length + 1) []

theorem Follows.checkLookBehindGroup (group : Nat) :
    Follows (checkLookBehindGroup group) (checkLookBehindGroup group) := by
  refine .get fun r position tested _ => ?_
  dsimp only
  split
  · exact .pure _
  · refine .ite (fun _ => .failBack _ _) fun _ => ?_
    exact .ite (fun _ => .failBack _ _) fun _ => .pure _

theorem Follows.readHexEscape (c : Char) (count : Nat) :
    Follows (readHexEscape c count) (readHexEscape c count) := by
  refine (Follows.takeChars isHex count).bind fun digits =>
    .ite (fun _ => .failBack _ _) fun _ => ?_
  exact .ite (fun _ => .failBack _ _) fun _ => .pure _

theorem Follows.readNamedEscape : Follows readNamedEscape readNamedEscape := by
  refine (Follows.accept _).bind fun _ => .ite (fun _ => .failBack _ _) fun _ => ?_
  refine (Follows.readName _ _).bind fun name => ?_
  split
  · exact .pure _
  · exact .failBack _ _

theorem Follows.readOctalEscape (c : Char) : Follows (readOctalEscape c) (readOctalEscape c) :=
  (Follows.takeChars isOctal 2).bind fun _ => .ite (fun _ => .failBack _ _) fun _ => .pure _

theorem Follows.readCodeEscape? (c : Char) : Follows (readCodeEscape? c) (readCodeEscape? c) := by
  refine .ite (fun _ => (Follows.readHexEscape c 2).map _) fun _ => .get fun r _ _ _ => ?_
  refine .ite (fun _ => .pure _) fun _ =>
    .ite (fun _ => (Follows.readHexEscape c 4).map _) fun _ => ?_
  refine .ite (fun _ => (Follows.readHexEscape c 8).map _) fun _ => ?_
  exact .ite (fun _ => Follows.readNamedEscape.map _) fun _ => .pure _

theorem Follows.readSetEscape (c : Char) : Follows (readSetEscape c) (readSetEscape c) := by
  unfold Reading.readSetEscape
  cases controlEscape? c with
  | some code => exact .pure _
  | none =>
    refine .ite (fun _ => .pure _) fun _ => ?_
    cases categoryEscape? c with
    | some category => exact .pure _
    | none =>
      refine (Follows.readCodeEscape? c).bind fun code => ?_
      cases code with
      | some code => exact .pure _
      | none =>
        refine .ite (fun _ => (Follows.readOctalEscape c).bind fun _ => .pure _) fun _ => ?_
        exact .ite (fun _ => .failBack _ _) fun _ => .pure _

theorem Follows.readReference (digits : List Char) :
    Follows (readReference digits) (readReference digits) := by
  refine .get fun r position tested _ => .ite (fun _ => ?_) fun _ => .failBack _ _
  refine .ite (fun _ => .failBack _ _) fun _ => ?_
  exact (Follows.checkLookBehindGroup _).bind fun _ => .pure _

theorem Follows.readNumberEscape (c : Char) :
    Follows (readNumberEscape c) (readNumberEscape c) := by
  refine (Follows.takeChars isDigit 1).bind fun digits => ?_
  split
  · refine .ite (fun _ => ?_) fun _ => .readReference _
    refine (Follows.takeChars isOctal 1).bind fun digits => ?_
    split
    · exact .ite (fun _ => .failBack _ _) fun _ => .pure _
    · exact .readReference _
  · exact .readReference _

theorem Follows.readEscape (c : Char) : Follows (readEscape c) (readEscape c) := by
  unfold Reading.readEscape
  cases anchorEscape? c with
  | some anchor => exact .pure _
  | none =>
    cases categoryEscape? c with
    | some category => exact .pure _
    | none =>
      cases controlEscape? c with
      | some code => exact .pure _
      | none =>
        refine (Follows.readCodeEscape? c).bind fun code => ?_
        cases code with
        | some code => exact .pure _
        | none =>
          refine .ite (fun _ => (Follows.takeChars isOctal 2).bind fun _ => .pure _) fun _ => ?_
          refine .ite (fun _ => .readNumberEscape c) fun _ => ?_
          exact .ite (fun _ => .failBack _ _) fun _ => .pure _

/-! ## Inline flags -/

theorem Follows.readFlagsOn (budget : Nat) (added : Flags) (c : Char) :
    Follows (readFlagsOn budget added c) (readFlagsOn budget added c) := by
  induction budget generalizing added c with
  | zero => exact .failBack _ _
  | succ budget ih =>
    unfold Reading.readFlagsOn
    split
    · exact .failBack _ _
    · refine .ite (fun _ => .failBack _ _) fun _ => Follows.take?.bind fun token => ?_
      split
      · exact .failBack _ _
      · refine .ite (fun _ => .pure _) fun _ => ?_
        exact .ite (fun _ => ih _ _) fun _ => .failBack _ _
      · exact .failBack _ _

theorem Follows.readFlagsOff (budget : Nat) (removed : Flags) (c : Char) :
    Follows (readFlagsOff budget removed c) (readFlagsOff budget removed c) := by
  induction budget generalizing removed c with
  | zero => exact .failBack _ _
  | succ budget ih =>
    unfold Reading.readFlagsOff
    split
    · exact .failBack _ _
    · refine .ite (fun _ => .failBack _ _) fun _ => Follows.take?.bind fun token => ?_
      split
      · exact .failBack _ _
      · refine .ite (fun _ => .pure _) fun _ => ?_
        exact .ite (fun _ => ih _ _) fun _ => .failBack _ _
      · exact .failBack _ _

theorem Follows.readFlagsOffStart : Follows readFlagsOffStart readFlagsOffStart := by
  refine Follows.take?.bind fun token => ?_
  split
  · exact .failBack _ _
  · refine .ite (fun _ => .get fun r _ _ _ => ?_) fun _ => .failBack _ _
    exact .readFlagsOff _ _ _
  · exact .failBack _ _

theorem Follows.readFlags (c : Char) : Follows (readFlags c) (readFlags c) := by
  unfold Reading.readFlags
  extract_lets finish
  have hfinish : ∀ stated, Follows (finish stated) (finish stated) := by
    rintro ⟨added, mark⟩
    refine .ite (fun _ => ?_) fun _ => .ite (fun _ => .failBack _ _) fun _ => ?_
    · refine (Follows.modify fun r r' h => ?_).bind fun _ => .pure none
      exact { h with flags_eq := congrArg (Flags.union · added) h.flags_eq }
    · extract_lets settle
      have hsettle : ∀ removed, Follows (settle removed) (settle removed) := fun removed =>
        .ite (fun _ => .failBack _ _) fun _ => .ite (fun _ => .failBack _ _) fun _ => .pure _
      exact .ite (fun _ => Follows.readFlagsOffStart.bind hsettle)
        fun _ => (Follows.pure _).bind hsettle
  refine .ite (fun _ => (Follows.pure _).bind hfinish) fun _ => .get fun r _ _ _ => ?_
  exact (Follows.readFlagsOn _ _ _).bind hfinish

/-! ## Sets and repetitions -/

theorem Follows.readMember (token : PatternToken) :
    Follows (readMember token) (readMember token) := by
  cases token with
  | plain c => exact .pure _
  | escaped c => exact .readSetEscape c

theorem Follows.rangeOf (first last : PatternToken) (low high : SetMember) :
    Follows (rangeOf first last low high) (rangeOf first last low high) := by
  unfold Reading.rangeOf
  split
  · exact .ite (fun _ => .failBack _ _) fun _ => .pure _
  · exact .failBack _ _

theorem Follows.readMembers (opening opening' budget : Nat) (members : List SetMember) :
    Follows (readMembers opening budget members) (readMembers opening' budget members) := by
  induction budget generalizing members with
  | zero => exact .failAt _ _
  | succ budget ih =>
    unfold Reading.readMembers
    refine Follows.take?.bind fun token => ?_
    split
    · exact .failAt _ _
    · refine .ite (fun _ => .pure _) fun _ => (Follows.readMember _).bind fun member => ?_
      refine (Follows.accept _).bind fun _ => .ite (fun _ => ?_) fun _ => ih _
      refine Follows.take?.bind fun last => ?_
      split
      · exact .failAt _ _
      · refine .ite (fun _ => .pure _) fun _ => (Follows.readMember _).bind fun high => ?_
        exact (Follows.rangeOf _ _ _ _).bind fun range => ih _

theorem Follows.readSet : Follows readSet readSet := by
  refine .get fun r position tested _ => (Follows.accept _).bind fun negated => ?_
  refine .get fun r _ _ _ => (Follows.readMembers _ _ _ _).bind fun members => ?_
  split <;> exact .pure _

theorem Follows.readBounds? : Follows readBounds? readBounds? := by
  refine .get fun opened position tested _ => (Follows.takeChars _ _).bind fun low => ?_
  refine (Follows.accept _).bind fun hasComma => ?_
  extract_lets least finish finish'
  have hfinish : ∀ high, Follows (finish high) (finish' high) := by
    intro high
    refine (Follows.accept _).bind fun closed => .ite (fun _ => ?_) fun _ => ?_
    · refine (Follows.modify fun r r' h => ?_).bind fun _ => .pure none
      exact { h with rest_eq := rfl }
    · refine .ite (fun _ => .error _) fun _ => .ite (fun _ => .pure _) fun _ => ?_
      refine .ite (fun _ => .error _) fun _ => .ite (fun _ => .failAt _ _) fun _ => .pure _
  exact .ite (fun _ => (Follows.takeChars _ _).bind hfinish) fun _ => (Follows.pure _).bind hfinish

theorem Follows.readMode : Follows readMode readMode := by
  refine (Follows.accept _).bind fun _ => .ite (fun _ => .pure _) fun _ => ?_
  exact (Follows.accept _).bind fun _ => .ite (fun _ => .pure _) fun _ => .pure _

theorem Follows.repeatLast (place place' least : Nat) (most : Option Nat) (found : List Piece) :
    Follows (repeatLast place least most found) (repeatLast place' least most found) := by
  unfold Reading.repeatLast
  split
  · exact .failAt _ _
  · refine .ite (fun _ => .failAt _ _) fun _ => .ite (fun _ => .failAt _ _) fun _ => ?_
    exact Follows.readMode.bind fun mode => .pure _

/-! ## Groups -/

theorem Follows.skipComment (opening opening' budget : Nat) :
    Follows (skipComment opening budget) (skipComment opening' budget) := by
  induction budget with
  | zero => exact .failAt _ _
  | succ budget ih =>
    unfold Reading.skipComment
    refine Follows.take?.bind fun token => ?_
    split
    · exact .failAt _ _
    · exact .ite (fun _ => .pure _) fun _ => ih

theorem Follows.skipLine (budget : Nat) : Follows (skipLine budget) (skipLine budget) := by
  induction budget with
  | zero => exact .pure _
  | succ budget ih =>
    unfold Reading.skipLine
    refine Follows.take?.bind fun token => ?_
    split
    · exact .pure _
    · exact .ite (fun _ => .pure _) fun _ => ih

theorem Follows.openGroup (name : Option String) :
    Follows (openGroup name) (openGroup name) := by
  refine .get fun r position tested htested => ?_
  dsimp only
  split
  · refine (Follows.set ?_).bind fun _ => .pure _
    exact ⟨rfl, rfl, rfl, rfl, rfl, rfl, htested⟩
  · split
    · exact .failBack _ _
    · refine (Follows.set ?_).bind fun _ => .pure _
      exact ⟨rfl, rfl, rfl, rfl, rfl, rfl, htested⟩

theorem Follows.closeGroup (group : Nat) (body : Pattern) :
    Follows (closeGroup group body) (closeGroup group body) := by
  refine .modify fun r r' h => { h with widths_eq := ?_ }
  rw [h.widths_eq, h.groupWidth_eq]

theorem Follows.closing (opening opening' : Nat) : Follows (closing opening) (closing opening') :=
  (Follows.accept _).bind fun _ => .ite (fun _ => .failAt _ _) fun _ => .pure _

theorem Follows.readGroupName (terminator : Char) :
    Follows (readGroupName terminator) (readGroupName terminator) :=
  (Follows.readName _ _).bind fun _ => .ite (fun _ => .pure _) fun _ => .failBack _ _

theorem Follows.readNamedKind : Follows readNamedKind readNamedKind := by
  refine (Follows.accept _).bind fun _ => .ite (fun _ => ?_) fun _ => ?_
  · exact (Follows.readGroupName _).bind fun _ => .pure _
  refine (Follows.accept _).bind fun _ => .ite (fun _ => ?_) fun _ => ?_
  · refine (Follows.readGroupName _).bind fun name => .get fun r position tested _ => ?_
    dsimp only
    split
    · exact .failBack _ _
    · refine .ite (fun _ => .failBack _ _) fun _ => ?_
      exact (Follows.checkLookBehindGroup _).bind fun _ => .pure _
  · refine Follows.take?.bind fun token => ?_
    split <;> exact .failBack _ _

theorem Follows.readKind : Follows readKind readKind := by
  refine (Follows.accept _).bind fun _ => .ite (fun _ => .pure _) fun _ => ?_
  refine Follows.take?.bind fun token => ?_
  split
  · exact .failBack _ _
  · exact .failBack _ _
  · refine .ite (fun _ => .readNamedKind) fun _ => .ite (fun _ => .pure _) fun _ => ?_
    refine .ite (fun _ => .pure _) fun _ => .ite (fun _ => .pure _) fun _ => ?_
    refine .ite (fun _ => .pure _) fun _ => .ite (fun _ => ?_) fun _ => ?_
    · refine Follows.take?.bind fun token => ?_
      split
      · exact .failBack _ _
      · refine .ite (fun _ => .pure _) fun _ => ?_
        exact .ite (fun _ => .pure _) fun _ => .failBack _ _
    · refine .ite (fun _ => .pure _) fun _ => .ite (fun _ => .pure _) fun _ => ?_
      exact .ite (fun _ => .pure _) fun _ => .failBack _ _

/-- A name is looked up by the names alone. -/
theorem isNone_lookup_eq {tested tested' : List (Nat × Nat)}
    (h : tested'.map (·.1) = tested.map (·.1)) (group : Nat) :
    (tested'.lookup group).isNone = (tested.lookup group).isNone := by
  have hnames : ∀ entries : List (Nat × Nat),
      (entries.lookup group).isNone = !(entries.map (·.1)).contains group := by
    intro entries
    induction entries with
    | nil => rfl
    | cons entry rest ih =>
      rw [List.lookup_cons, List.map_cons, List.contains_cons]
      cases group == entry.1 <;> simp [ih]
  rw [hnames, hnames, h]

theorem Follows.readCondition : Follows readCondition readCondition := by
  refine (Follows.readName _ _).bind fun name => .get fun r position tested htested => ?_
  extract_lets finish place place'
  have hfinish : ∀ group, Follows (finish group) (finish group) := fun group =>
    (Follows.checkLookBehindGroup group).bind fun _ => .pure group
  refine .ite (fun _ => ?_) fun _ => ?_
  · dsimp only
    split
    · exact (Follows.pure _).bind hfinish
    · exact (Follows.failBack _ _).bind hfinish
  · split
    · exact (Follows.failBack _ _).bind hfinish
    · refine .ite (fun _ => (Follows.failBack _ _).bind hfinish) fun _ => ?_
      refine .ite (fun _ => (Follows.failBack _ _).bind hfinish) fun _ => ?_
      rw [isNone_lookup_eq htested]
      refine .ite (fun _ => (Follows.set ?_).bind fun _ => ?_)
        fun _ => (Follows.pure _).bind hfinish
      · refine ⟨rfl, rfl, rfl, rfl, rfl, rfl, ?_⟩
        rw [List.map_append, List.map_append, htested]
        rfl
      · exact (Follows.pure _).bind hfinish

/-! ## The grammar -/

/-- With the second bound on the steps, the grammar gives whatever it gives with the first.  Layout
at the top level follows the flags of the whole pattern, so later alternatives there do not depend
on what it was at the start. -/
structure EnoughFor (budget budget' : Nat) : Prop where
  alternatives : ∀ verbose nested,
    Follows (alternatives budget verbose nested) (alternatives budget' verbose nested)
  moreAlternatives : ∀ verbose verbose' nested found, (nested = true → verbose' = verbose) →
    Follows (moreAlternatives budget verbose nested found)
      (moreAlternatives budget' verbose' nested found)
  pieces : ∀ verbose first found,
    Follows (pieces budget verbose first found) (pieces budget' verbose first found)

namespace EnoughFor

variable {budget budget' : Nat}

theorem zero (budget' : Nat) : EnoughFor 0 budget' where
  alternatives _ _ := .failBack _ _
  moreAlternatives _ _ _ _ _ := .failBack _ _
  pieces _ _ _ := .failBack _ _

theorem alternatives_succ (h : EnoughFor budget budget') (verbose nested : Bool) :
    Follows (Reading.alternatives (budget + 1) verbose nested)
      (Reading.alternatives (budget' + 1) verbose nested) := by
  unfold Reading.alternatives
  exact (h.pieces _ _ _).bind fun items => (h.moreAlternatives _ _ _ _ fun _ => rfl).map _

theorem moreAlternatives_succ (h : EnoughFor budget budget') {verbose verbose' nested : Bool}
    (found : List (List Pattern)) (hverbose : nested = true → verbose' = verbose) :
    Follows (Reading.moreAlternatives (budget + 1) verbose nested found)
      (Reading.moreAlternatives (budget' + 1) verbose' nested found) := by
  unfold Reading.moreAlternatives
  refine (Follows.accept _).bind fun _ => .ite (fun _ => .get fun r _ _ _ => ?_) fun _ => .pure _
  have hlayout : (if nested then verbose' else r.flags.verbose) =
      if nested then verbose else r.flags.verbose := by
    cases nested with
    | false => rfl
    | true => rw [hverbose rfl]
  dsimp only
  rw [hlayout]
  exact (h.pieces _ _ _).bind fun items => h.moreAlternatives _ _ _ _ fun _ => rfl

theorem pieces_succ (h : EnoughFor budget budget') (verbose first : Bool) (found : List Piece) :
    Follows (Reading.pieces (budget + 1) verbose first found)
      (Reading.pieces (budget' + 1) verbose first found) := by
  have hitems : ∀ verbose found, Follows (Reading.pieces budget verbose first found)
      (Reading.pieces budget' verbose first found) := fun verbose => h.pieces verbose first
  have hinner : ∀ verbose, Follows (Reading.alternatives budget verbose true)
      (Reading.alternatives budget' verbose true) := fun verbose => h.alternatives verbose true
  have hrepeat : ∀ place place' least most, Follows
      (do Reading.pieces budget verbose first (← repeatLast place least most found))
      (do Reading.pieces budget' verbose first (← repeatLast place' least most found)) :=
    fun _ _ _ _ => (Follows.repeatLast _ _ _ _ _).bind fun _ => hitems _ _
  unfold Reading.pieces
  refine .get fun r position tested _ => Follows.next?.bind fun token => ?_
  dsimp only
  split
  · exact .pure _
  · exact Follows.take?.bind fun _ => (Follows.readEscape _).bind fun p => hitems _ _
  refine .ite (fun _ => .pure _) fun _ => Follows.take?.bind fun _ => ?_
  -- Layout, sets, single characters and positions.
  refine .ite (fun _ => hitems _ _) fun _ => ?_
  refine .ite (fun _ => ?_) fun _ => ?_
  · exact .get fun _ _ _ _ => (Follows.skipLine _).bind fun _ => hitems _ _
  refine .ite (fun _ => Follows.readSet.bind fun p => hitems _ _) fun _ => ?_
  refine .ite (fun _ => hitems _ _) fun _ => .ite (fun _ => hitems _ _) fun _ => ?_
  refine .ite (fun _ => hitems _ _) fun _ => ?_
  -- Repetitions.
  refine .ite (fun _ => hrepeat _ _ _ _) fun _ => .ite (fun _ => hrepeat _ _ _ _) fun _ => ?_
  refine .ite (fun _ => hrepeat _ _ _ _) fun _ => .ite (fun _ => ?_) fun _ => ?_
  · refine Follows.next?.bind fun token => .ite (fun _ => hitems _ _) fun _ => ?_
    refine Follows.readBounds?.bind fun bounds => ?_
    split
    · exact hitems _ _
    · exact hrepeat _ _ _ _
  -- Groups.
  refine .ite (fun _ => Follows.readKind.bind fun kind => ?_) fun _ => hitems _ _
  have hclosed : ∀ place place' {m m' : Reading (List Pattern)}, Follows m m' →
      Follows (do closing place; m) (do closing place'; m') :=
    fun _ _ _ _ hm => (Follows.closing _ _).bind fun _ => hm
  have hgroup : ∀ name place place', Follows
      (do
        let group ← openGroup name
        let items ← Reading.alternatives budget verbose true
        closing place
        closeGroup group (.ofItems items)
        Reading.pieces budget verbose first (found ++ [.single (.capture group (.ofItems items))]))
      (do
        let group ← openGroup name
        let items ← Reading.alternatives budget' verbose true
        closing place'
        closeGroup group (.ofItems items)
        Reading.pieces budget' verbose first
          (found ++ [.single (.capture group (.ofItems items))])) :=
    fun _ _ _ => (Follows.openGroup _).bind fun _ => (hinner _).bind fun _ =>
      hclosed _ _ ((Follows.closeGroup _ _).bind fun _ => hitems _ _)
  split
  · exact .get fun _ _ _ _ => (Follows.skipComment _ _ _).bind fun _ => hitems _ _
  · exact hitems _ _
  · exact (hinner _).bind fun _ => hclosed _ _ (hitems _ _)
  · refine (Follows.readFlags _).bind fun stated => ?_
    split
    · exact .get fun r _ _ _ => .ite (fun _ => .failAt _ _) fun _ => hitems _ _
    · exact (hinner _).bind fun _ => hclosed _ _ (hitems _ _)
  · exact (hinner _).bind fun _ => hclosed _ _ (hitems _ _)
  · exact (hinner _).bind fun _ => hclosed _ _ (hitems _ _)
  · refine .get fun r _ _ _ => (Follows.modify fun r r' h => ?_).bind fun _ => ?_
    · refine { h with behindLimit_eq := ?_ }
      rw [h.groupCount_eq]
    refine (hinner _).bind fun items => (Follows.modify fun r r' h => ?_).bind fun _ => ?_
    · exact { h with behindLimit_eq := rfl }
    · exact hclosed _ _ (.get fun r _ _ _ => hitems _ _)
  · refine Follows.readCondition.bind fun group => (h.pieces _ _ _).bind fun yes => ?_
    refine (Follows.accept _).bind fun hasNo => ?_
    have hrest : ∀ place place' no, Follows
        (do
          if (← Reading.next?) = some (.plain '|') then failBack .tooManyBranches 0
          else
            closing place
            Reading.pieces budget verbose first
              (found ++ [.single (.conditional group (.ofItems yes) (.ofItems no))]))
        (do
          if (← Reading.next?) = some (.plain '|') then failBack .tooManyBranches 0
          else
            closing place'
            Reading.pieces budget' verbose first
              (found ++ [.single (.conditional group (.ofItems yes) (.ofItems no))])) :=
      fun _ _ _ => Follows.next?.bind fun _ => .ite (fun _ => .failBack _ _) fun _ =>
        hclosed _ _ (hitems _ _)
    exact .ite (fun _ => (h.pieces _ _ _).bind fun no => hrest _ _ no) fun _ =>
      (Follows.pure _).bind fun no => hrest _ _ no
  · exact hgroup _ _ _
  · exact hgroup _ _ _

theorem succ (h : EnoughFor budget budget') : EnoughFor (budget + 1) (budget' + 1) where
  alternatives := h.alternatives_succ
  moreAlternatives _ _ _ found := h.moreAlternatives_succ found
  pieces := h.pieces_succ

/-- **Places do not matter**, and a larger bound on the steps is enough for what a smaller one is
enough for. -/
theorem of_le (h : budget ≤ budget') : EnoughFor budget budget' := by
  induction budget generalizing budget' with
  | zero => exact zero budget'
  | succ budget ih =>
    obtain ⟨budget', rfl⟩ := Nat.exists_eq_add_one_of_ne_zero (Nat.ne_zero_of_lt h)
    exact (ih (Nat.le_of_succ_le_succ h)).succ

end EnoughFor

end Reading

end FieldSchema
