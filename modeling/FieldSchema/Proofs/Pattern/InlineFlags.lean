import FieldSchema.Proofs.Pattern.Places
import FieldSchema.Proofs.Storage.Admission

/-!
# Flags in front of a pattern

A collection is told a pattern as one text, with the flags for case, lines, dots and layout in a
group in front of it.  Such a pattern means the same as the check of the field, which has the flags
beside the text.

The group is read first, before anything depends on flags, and the rest of the text begins after it
in the same way as at the start of a text: flags for the whole pattern may still follow, and layout
is free if the group says so.  What is left of the difference is the place where the text stands.

* `Reading.pieces_flags`: the group in front of a text.
* `Pattern.parse_flags`, `Regex.compile_flags`: a pattern with its flags in front.
* `FormatCheck.inlinePattern_hasMatch`: the pattern of a check as a collection is told it.
-/

namespace FieldSchema

/-- The letters of the flags for case, lines, dots and layout. -/
def Flags.inlineLetters : List Char := ['i', 'm', 's', 'x']

/-- The flags that are switched on together with letters. -/
def Flags.withLetters (letters : List Char) (flags : Flags) : Flags :=
  letters.foldl (fun flags c => flags.union ((ofLetter? c).getD none)) flags

namespace Reading

/-! ## The group in front -/

section

variable {α β : Type} {r s : PatternReader} {c : Char} {letters after : List Char}

theorem bind_of_eq_ok {m : Reading α} {f : α → Reading β} {a : α} (h : m r = .ok (a, s)) :
    (m >>= f) r = f a s := by
  show (m r).bind (fun read => f read.1 read.2) = _
  rw [h]
  rfl

theorem bind_eq_bind {m m' : Reading α} {f : α → Reading β} (h : m r = m' s) :
    (m >>= f) r = (m' >>= f) s := by
  show (m r).bind (fun read => f read.1 read.2) = (m' s).bind fun read => f read.1 read.2
  rw [h]

theorem get_bind (f : PatternReader → Reading β) :
    ((get : Reading PatternReader) >>= f) r = f r r :=
  rfl

theorem take?_plain (hrest : r.rest = c :: after) (hc : c ≠ '\\') (hafter : after ≠ ['\\']) :
    take? r = .ok (some (.plain c), { r with rest := after, position := r.position + 1 }) := by
  have hgo : goOn after (r.position + 1) r =
      .ok ((), { r with rest := after, position := r.position + 1 }) := if_neg hafter
  have htake : take? r = (do
      goOn after (r.position + 1)
      pure (some (.plain c)) : Reading (Option PatternToken)) r := by
    refine (get_bind _).trans (congrFun ?_ r)
    rw [hrest]
    split
    case h_1 hnone => exact absurd hnone (List.cons_ne_nil c after)
    case h_2 hescaped => exact absurd (List.cons.inj hescaped).1 hc
    case h_3 hplain =>
      obtain ⟨rfl, rfl⟩ := List.cons.inj hplain
      rfl
  exact htake.trans (bind_of_eq_ok hgo)

theorem next?_plain (hrest : r.rest = c :: after) (hc : c ≠ '\\') :
    next? r = .ok (some (.plain c), r) := by
  have hnext : r.next? = some (.plain c) := by
    rw [PatternReader.next?, hrest]
    split
    case h_1 hnone => exact absurd hnone (List.cons_ne_nil c after)
    case h_2 hescaped => exact absurd (List.cons.inj hescaped).1 hc
    case h_3 hplain => rw [(List.cons.inj hplain).1]
  rw [Reading.next?, hnext]

theorem accept_plain (hrest : r.rest = c :: after) (hc : c ≠ '\\') (hafter : after ≠ ['\\']) :
    accept c r = .ok (true, { r with rest := after, position := r.position + 1 }) := by
  refine (bind_of_eq_ok (next?_plain hrest hc)).trans ?_
  rw [if_pos rfl]
  exact bind_of_eq_ok (take?_plain hrest hc hafter)

/-- A letter stands for a flag that says nothing about the character set. -/
theorem ofLetter?_of_mem (hc : c ∈ Flags.inlineLetters) :
    ∃ flag, Flags.ofLetter? c = some flag ∧ (flag.ascii || flag.unicode) = false := by
  simp only [Flags.inlineLetters, List.mem_cons, List.not_mem_nil, or_false] at hc
  rcases hc with rfl | rfl | rfl | rfl <;> exact ⟨_, rfl, rfl⟩

/-- A letter has no other meaning in front of a group. -/
theorem ne_of_mem (hc : c ∈ Flags.inlineLetters) (other : Char)
    (hother : other ∉ Flags.inlineLetters) : c ≠ other :=
  fun h => hother (h ▸ hc)

theorem letters_ne_backslash (hletters : ∀ c ∈ letters, c ∈ Flags.inlineLetters) :
    letters ++ ')' :: after ≠ ['\\'] := by
  cases letters with
  | nil => simp
  | cons c rest =>
    intro h
    exact ne_of_mem (hletters c List.mem_cons_self) _ (by decide) (List.cons.inj h).1

/-- Letters are read up to the closing parenthesis. -/
theorem readFlagsOn_letters (hc : c ∈ Flags.inlineLetters)
    (hletters : ∀ c ∈ letters, c ∈ Flags.inlineLetters) (hafter : after ≠ ['\\'])
    (hrest : r.rest = letters ++ ')' :: after) {budget : Nat} (hbudget : letters.length < budget)
    (added : Flags) :
    ∃ position, readFlagsOn budget added c r =
      .ok ((added.withLetters (c :: letters), ')'),
        { r with rest := after, position := position }) := by
  induction letters generalizing budget added c r with
  | nil =>
    obtain ⟨budget, rfl⟩ := Nat.exists_eq_add_one_of_ne_zero (Nat.ne_zero_of_lt hbudget)
    obtain ⟨flag, hflag, hset⟩ := ofLetter?_of_mem hc
    refine ⟨r.position + 1, ?_⟩
    unfold readFlagsOn
    simp only [hflag, hset, Bool.false_and, Bool.false_eq_true, if_false]
    refine (bind_of_eq_ok (take?_plain hrest (by decide) hafter)).trans ?_
    rw [Flags.withLetters, List.foldl_cons, hflag]
    rfl
  | cons next letters ih =>
    obtain ⟨budget, rfl⟩ := Nat.exists_eq_add_one_of_ne_zero (Nat.ne_zero_of_lt hbudget)
    obtain ⟨flag, hflag, hset⟩ := ofLetter?_of_mem hc
    rw [List.cons_append] at hrest
    have hnext := hletters next List.mem_cons_self
    obtain ⟨flag', hflag', -⟩ := ofLetter?_of_mem hnext
    have hletters := fun c hc => hletters c (List.mem_cons_of_mem next hc)
    obtain ⟨position, hread⟩ := ih hnext hletters
      (r := { r with rest := letters ++ ')' :: after, position := r.position + 1 }) rfl
      (Nat.lt_of_succ_lt_succ hbudget) (added.union flag)
    refine ⟨position, ?_⟩
    unfold readFlagsOn
    simp only [hflag, hset, Bool.false_and, Bool.false_eq_true, if_false]
    refine (bind_of_eq_ok (take?_plain hrest (ne_of_mem hnext _ (by decide))
      (letters_ne_backslash hletters))).trans ?_
    have hmarks : (next == ')' || next == '-' || next == ':') = false := by
      simp [ne_of_mem hnext ')' (by decide), ne_of_mem hnext '-' (by decide),
        ne_of_mem hnext ':' (by decide)]
    have hletter : isFlagLetter next = true := by rw [isFlagLetter, hflag']; exact Bool.or_true _
    simp only [hmarks, hletter, Bool.false_eq_true, if_false, if_true]
    refine Eq.trans hread ?_
    have hcons : Flags.withLetters (c :: next :: letters) added =
        Flags.withLetters (next :: letters) (added.union flag) := by
      rw [Flags.withLetters, List.foldl_cons, hflag]
      rfl
    rw [hcons]

/-- A group of letters states flags for the whole pattern. -/
theorem readFlags_letters (hc : c ∈ Flags.inlineLetters)
    (hletters : ∀ c ∈ letters, c ∈ Flags.inlineLetters) (hafter : after ≠ ['\\'])
    (hrest : r.rest = letters ++ ')' :: after) :
    ∃ position, readFlags c r = .ok (none,
      { r with
        rest := after
        position := position
        flags := r.flags.union (Flags.none.withLetters (c :: letters)) }) := by
  have hbudget : letters.length < r.rest.length + 1 := by
    rw [hrest, List.length_append]
    exact Nat.lt_succ_of_le (Nat.le_add_right _ _)
  obtain ⟨position, hread⟩ := readFlagsOn_letters hc hletters hafter hrest hbudget {}
  have hdash : (c == '-') = false := beq_eq_false_iff_ne.mpr (ne_of_mem hc _ (by decide))
  refine ⟨position, ?_⟩
  unfold readFlags
  simp only [hdash, Bool.false_eq_true, if_false]
  refine (get_bind _).trans ((bind_of_eq_ok hread).trans ?_)
  rfl

theorem readKind_letter (hc : c ∈ Flags.inlineLetters) (hrest : r.rest = '?' :: c :: after)
    (hafter : after ≠ ['\\']) :
    readKind r = .ok (.flags c, { r with rest := after, position := r.position + 1 + 1 }) := by
  have hmark : accept '?' r =
      .ok (true, { r with rest := c :: after, position := r.position + 1 }) := by
    refine accept_plain hrest (by decide) fun h => ?_
    exact ne_of_mem hc _ (by decide) (List.cons.inj h).1
  obtain ⟨flag, hflag, -⟩ := ofLetter?_of_mem hc
  refine (bind_of_eq_ok hmark).trans ?_
  refine (bind_of_eq_ok (take?_plain rfl (ne_of_mem hc _ (by decide)) hafter)).trans ?_
  simp only [Flags.inlineLetters, List.mem_cons, List.not_mem_nil, or_false] at hc
  rcases hc with rfl | rfl | rfl | rfl <;> rfl

/-- **The group in front of a text** puts its flags into force, and the text is read after it. -/
theorem pieces_flags (hc : c ∈ Flags.inlineLetters)
    (hletters : ∀ c ∈ letters, c ∈ Flags.inlineLetters) (hafter : after ≠ ['\\'])
    (hrest : r.rest = '(' :: '?' :: c :: (letters ++ ')' :: after)) (budget : Nat) :
    ∃ position,
      let flags := r.flags.union (Flags.none.withLetters (c :: letters))
      pieces (budget + 1) false true [] r =
        pieces budget flags.verbose true []
          { r with rest := after, position := position, flags := flags } := by
  let opened : PatternReader :=
    { r with rest := '?' :: c :: (letters ++ ')' :: after), position := r.position + 1 }
  let named : PatternReader :=
    { opened with rest := letters ++ ')' :: after, position := opened.position + 1 + 1 }
  have htake : take? r = .ok (some (.plain '('), opened) :=
    take?_plain hrest (by decide) (by simp)
  have hkind : readKind opened = .ok (.flags c, named) :=
    readKind_letter hc rfl (letters_ne_backslash hletters)
  obtain ⟨position, hflags⟩ := readFlags_letters (r := named) hc hletters hafter rfl
  refine ⟨position, ?_⟩
  dsimp only
  rw [pieces]
  refine (get_bind _).trans ((bind_of_eq_ok (next?_plain hrest (by decide))).trans ?_)
  dsimp only
  rw [if_neg (by decide)]
  refine (bind_of_eq_ok htake).trans ?_
  simp only [Bool.false_and, Bool.false_eq_true, if_false]
  iterate 8 rw [if_neg (by decide)]
  rw [if_pos (by decide)]
  refine (bind_of_eq_ok hkind).trans ?_
  have hletter := hc
  simp only [Flags.inlineLetters, List.mem_cons, List.not_mem_nil, or_false] at hletter
  rcases hletter with rfl | rfl | rfl | rfl <;>
    exact (bind_of_eq_ok hflags).trans (get_bind _)

end

/-- **Alternatives after a group in front** are those of the text after it, read under its flags. -/
theorem alternatives_flags {r r' s : PatternReader} {c : Char} {letters : List Char}
    {items : List Pattern} {budget budget' : Nat} (hc : c ∈ Flags.inlineLetters)
    (hletters : ∀ c ∈ letters, c ∈ Flags.inlineLetters) (hafter : r.rest ≠ ['\\'])
    (hrest : r'.rest = '(' :: '?' :: c :: (letters ++ ')' :: r.rest))
    (hflags : r'.flags.union (Flags.none.withLetters (c :: letters)) = r.flags)
    (hplaces : r.AgreesWith { r' with rest := r.rest, flags := r.flags })
    (hbudget : budget ≤ budget')
    (h : alternatives (budget + 1) r.flags.verbose false r = .ok (items, s)) :
    ∃ s', alternatives (budget' + 2) false false r' = .ok (items, s') ∧ s.AgreesWith s' := by
  obtain ⟨position, hfirst⟩ := pieces_flags hc hletters hafter hrest budget'
  rw [hflags] at hfirst
  have hsame : alternatives (budget' + 2) false false r' =
      (do
        let first ← pieces budget' r.flags.verbose true []
        joinAlternatives <$> moreAlternatives (budget' + 1) false false [first])
          { r' with rest := r.rest, position := position, flags := r.flags } := by
    rw [alternatives]
    exact bind_eq_bind hfirst
  have hfollows : Follows (alternatives (budget + 1) r.flags.verbose false)
      (do
        let first ← pieces budget' r.flags.verbose true []
        joinAlternatives <$> moreAlternatives (budget' + 1) false false [first]) := by
    rw [alternatives]
    refine ((EnoughFor.of_le hbudget).pieces _ _ _).bind fun first => ?_
    exact ((EnoughFor.of_le (Nat.le_succ_of_le hbudget)).moreAlternatives _ _ false _ nofun).map _
  rw [hsame]
  exact hfollows { hplaces with } h

end Reading

/-! ## Whole patterns -/

namespace Pattern

/-- What is made of the items of a whole text. -/
def ofReading (alphabet : Alphabet) (items : List Pattern) (r : PatternReader) :
    Except PatternFailure ParsedPattern := do
  let settled ← settleFlags alphabet r.flags
  if r.rest ≠ [] then throw (.fault .unbalancedParenthesis (some r.position))
  checkTested r.groupCount r.tested
  let body := ofItems items
  pure ⟨body, settled, r.groupCount - 1, (body.width r.groupWidth).clamp⟩

theorem parse_eq_ok_iff {alphabet : Alphabet} {source : String} {flags : Flags}
    {parsed : ParsedPattern} :
    parse alphabet source flags = .ok parsed ↔ source.toList ≠ ['\\'] ∧ ∃ items r,
      Reading.alternatives (2 * source.toList.length + 4) flags.verbose false
        (startReader alphabet source.toList flags) = .ok (items, r) ∧
      ofReading alphabet items r = .ok parsed := by
  have hparse : parse alphabet source flags =
      if source.toList = ['\\'] then .error (.fault .escapeAtEnd (some 0))
      else (Reading.alternatives (2 * source.toList.length + 4) flags.verbose false
        (startReader alphabet source.toList flags)).bind fun read =>
          ofReading alphabet read.1 read.2 := by
    unfold parse
    by_cases hsource : source.toList = ['\\']
    · rw [if_pos hsource]
      dsimp only
      rw [if_pos hsource]
      rfl
    · rw [if_neg hsource]
      dsimp only
      rw [if_neg hsource]
      rfl
  rw [hparse]
  by_cases hsource : source.toList = ['\\']
  · simp [hsource]
  · rw [if_neg hsource, and_iff_right hsource]
    cases Reading.alternatives (2 * source.toList.length + 4) flags.verbose false
        (startReader alphabet source.toList flags) with
    | error failure => simp [Except.bind]
    | ok read =>
      constructor
      · intro h
        exact ⟨read.1, read.2, rfl, h⟩
      · rintro ⟨items, r, hread, h⟩
        obtain rfl := Except.ok.inj hread
        exact h

theorem checkTested_eq_ok_iff {count : Nat} {tested : List (Nat × Nat)} :
    checkTested count tested = .ok () ↔ ∀ group ∈ tested.map (·.1), group < count := by
  induction tested with
  | nil => simp [checkTested]
  | cons entry rest ih =>
    rw [checkTested, List.map_cons, List.forall_mem_cons]
    by_cases hgroup : entry.1 ≥ count
    · rw [if_pos hgroup]
      exact ⟨nofun, fun h => absurd h.1 (Nat.not_lt_of_le hgroup)⟩
    · rw [if_neg hgroup, ih, and_iff_right (Nat.lt_of_not_le hgroup)]

theorem ofReading_eq_ok_iff {alphabet : Alphabet} {items : List Pattern} {r : PatternReader}
    {parsed : ParsedPattern} :
    ofReading alphabet items r = .ok parsed ↔
      ∃ settled, settleFlags alphabet r.flags = .ok settled ∧
      r.rest = [] ∧ (∀ group ∈ r.tested.map (·.1), group < r.groupCount) ∧
      ⟨ofItems items, settled, r.groupCount - 1, ((ofItems items).width r.groupWidth).clamp⟩ =
        parsed := by
  rw [ofReading, ← checkTested_eq_ok_iff]
  cases settleFlags alphabet r.flags with
  | error failure => simp [bind, Except.bind]
  | ok settled =>
    by_cases hrest : r.rest = []
    · cases checkTested r.groupCount r.tested <;> simp [hrest, bind, Except.bind, pure, Except.pure]
    · simp [hrest, bind, Except.bind, throw, throwThe, MonadExceptOf.throw]

/-- What is made of a whole text does not depend on places. -/
theorem ofReading_of_agrees {alphabet : Alphabet} {items : List Pattern} {r r' : PatternReader}
    {parsed : ParsedPattern} (hr : r.AgreesWith r') (h : ofReading alphabet items r = .ok parsed) :
    ofReading alphabet items r' = .ok parsed := by
  rw [ofReading_eq_ok_iff, hr.flags_eq, hr.rest_eq, hr.tested_eq, hr.groupCount_eq,
    hr.groupWidth_eq]
  exact ofReading_eq_ok_iff.mp h

/-- **A pattern with its flags in front** is the pattern under those flags. -/
theorem parse_flags {alphabet : Alphabet} {source : String} {flags : Flags}
    {parsed : ParsedPattern} {c : Char} {letters : List Char} (hc : c ∈ Flags.inlineLetters)
    (hletters : ∀ c ∈ letters, c ∈ Flags.inlineLetters)
    (hflags : Flags.none.withLetters (c :: letters) = flags)
    (h : parse alphabet source flags = .ok parsed) :
    parse alphabet ("(?" ++ String.ofList (c :: letters) ++ ")" ++ source) .none = .ok parsed := by
  obtain ⟨hsource, items, r, hitems, hparsed⟩ := parse_eq_ok_iff.mp h
  have hchars : ("(?" ++ String.ofList (c :: letters) ++ ")" ++ source).toList =
      '(' :: '?' :: c :: (letters ++ ')' :: source.toList) := by
    simp [String.toList_append]
  let start := startReader alphabet source.toList flags
  let start' := startReader alphabet ('(' :: '?' :: c :: (letters ++ ')' :: source.toList)) .none
  have hplaces : start.AgreesWith { start' with rest := start.rest, flags := start.flags } :=
    ⟨rfl, rfl, rfl, rfl, rfl, rfl, rfl⟩
  have hunion : start'.flags.union (Flags.none.withLetters (c :: letters)) = flags := by
    rw [hflags]
    cases flags
    rfl
  have hbudget : 2 * source.toList.length + 3 ≤
      2 * ('(' :: '?' :: c :: (letters ++ ')' :: source.toList)).length + 2 := by
    simp only [List.length_cons, List.length_append]
    omega
  obtain ⟨r', hitems', hr⟩ := Reading.alternatives_flags hc hletters
    (show start.rest ≠ ['\\'] from hsource) (show start'.rest = _ from rfl) hunion hplaces hbudget
    hitems
  refine parse_eq_ok_iff.mpr ⟨?_, items, r', ?_, ofReading_of_agrees hr hparsed⟩
  · rw [hchars]
    simp
  · rw [hchars]
    exact hitems'

end Pattern

namespace Regex

/-- A text is usable when it parses and its tree is in reach. -/
theorem compile_eq_ok_iff {source : String} {flags : Flags} {regex : Regex} :
    compile source flags = .ok regex ↔ ∃ parsed, Pattern.parse .text source flags = .ok parsed ∧
      Pattern.check parsed.flags.template parsed.body = .ok () ∧
      ⟨source, parsed.flags, parsed.body, parsed.groups, parsed.width.least⟩ = regex := by
  rw [compile]
  cases Pattern.parse .text source flags with
  | error failure => simp [bind, Except.bind]
  | ok parsed =>
    cases hcheck : Pattern.check parsed.flags.template parsed.body <;>
      simp [hcheck, bind, Except.bind, pure, Except.pure]

/-- **A usable pattern with its flags in front** has the same tree under the same flags. -/
theorem compile_flags {source : String} {flags : Flags} {regex : Regex} {c : Char}
    {letters : List Char} (hc : c ∈ Flags.inlineLetters)
    (hletters : ∀ c ∈ letters, c ∈ Flags.inlineLetters)
    (hflags : Flags.none.withLetters (c :: letters) = flags)
    (h : compile source flags = .ok regex) :
    compile ("(?" ++ String.ofList (c :: letters) ++ ")" ++ source) .none =
      .ok { regex with source := "(?" ++ String.ofList (c :: letters) ++ ")" ++ source } := by
  obtain ⟨parsed, hparse, hcheck, rfl⟩ := compile_eq_ok_iff.mp h
  exact compile_eq_ok_iff.mpr
    ⟨parsed, Pattern.parse_flags hc hletters hflags hparse, hcheck, rfl⟩

end Regex

/-! ## Checks of fields -/

namespace Flags

/-- The letters of flags are those for case, lines, dots and layout. -/
theorem mem_inlineLetters_of_mem {flags : Flags} {c : Char} (h : c ∈ flags.letters) :
    c ∈ inlineLetters := by
  simp only [letters, List.mem_append] at h
  rcases h with ((h | h) | h) | h <;> split at h <;> simp_all [inlineLetters]

/-- Flags for case, lines, dots and layout are those of their letters. -/
theorem withLetters_letters (ignoreCase multiline dotAll verbose : Bool) :
    none.withLetters (letters { ignoreCase, multiline, dotAll, verbose }) =
      { ignoreCase, multiline, dotAll, verbose } := by
  cases ignoreCase <;> cases multiline <;> cases dotAll <;> cases verbose <;> rfl

end Flags

/-- What is stated about the format of texts is the pattern of the check. -/
theorem StoredField.stated_pattern {field : StoredField} {check : FormatCheck}
    (h : field.check? = some check) :
    (Value.ofFields field.property).stated "pattern" = .ofTextValue check.inlinePattern := by
  rw [Value.stated_ofFields, property, h]
  simp [List.lookup_append, lookup_propertyBound,
    lookup_propertyType_of_ne field (show "pattern" ≠ "bsonType" by decide) (by decide)]

namespace FormatCheck

/-- The one text of a usable check is usable without flags, with the same tree. -/
theorem compile_inlinePattern {source : String} {ignoreCase multiline dotAll verbose : Bool}
    {regex : Regex} (message : String)
    (h : Regex.compile source { ignoreCase, multiline, dotAll, verbose } = .ok regex) :
    let inline := inlinePattern ⟨source, { ignoreCase, multiline, dotAll, verbose }, message⟩
    Regex.compile inline.text .none = .ok { regex with source := inline.text } := by
  have hstated := Flags.withLetters_letters ignoreCase multiline dotAll verbose
  dsimp only [inlinePattern]
  cases hletters : Flags.letters { ignoreCase, multiline, dotAll, verbose } with
  | nil =>
    rw [hletters] at hstated
    obtain ⟨parsed, -, -, rfl⟩ := Regex.compile_eq_ok_iff.mp h
    rw [← hstated] at h
    exact h
  | cons c letters =>
    rw [hletters] at hstated
    have hmem : ∀ c' ∈ c :: letters, c' ∈ Flags.inlineLetters := fun c' hc' =>
      Flags.mem_inlineLetters_of_mem (hletters ▸ hc')
    rw [List.isEmpty_cons, if_neg Bool.false_ne_true]
    exact Regex.compile_flags (hmem c List.mem_cons_self)
      (fun c' hc' => hmem c' (List.mem_cons_of_mem c hc')) hstated h

/-- **A collection is told the check of a field**: for every pattern that compiles under flags for
case, lines, dots and layout, the one text with the flags in front compiles without flags, and finds
a match in exactly the texts that the check accepts. -/
theorem inlinePattern_hasMatch {source : String} {ignoreCase multiline dotAll verbose : Bool}
    {regex : Regex} (message : String)
    (h : Regex.compile source { ignoreCase, multiline, dotAll, verbose } = .ok regex) :
    let check : FormatCheck := ⟨source, { ignoreCase, multiline, dotAll, verbose }, message⟩
    (∃ inline, Regex.compile check.inlinePattern.text .none = .ok inline) ∧
    (∀ v text, v.asText? = some text →
      Regex.hasMatch check.inlinePattern.text .none text = check.accepts v) ∧
    ∀ field : StoredField, field.check? = some check →
      (Value.ofFields field.property).stated "pattern" = .ofTextValue check.inlinePattern := by
  have hinline := compile_inlinePattern message h
  refine ⟨⟨_, hinline⟩, fun v text hv => ?_, fun field => StoredField.stated_pattern⟩
  have hnull : v.isNull = false := by cases v <;> first | rfl | contradiction
  rw [accepts, hnull, hv, Regex.hasMatch, hinline]
  show _ = Regex.hasMatch source _ text
  rw [Regex.hasMatch, h]
  rfl

/-- A pattern of two alternatives under free layout, with a group of flags of its own. -/
def layered : FormatCheck :=
  ⟨"(?m)^ab | c", { ignoreCase := true, verbose := true }, "Invalid format"⟩

/-- Both groups of flags are read, and the layout stays free behind them. -/
theorem inlinePattern_hasMatch_layered :
    (∃ regex, Regex.compile "(?m)^ab | c" { ignoreCase := true, verbose := true } = .ok regex) ∧
    layered.inlinePattern = .plain "(?ix)(?m)^ab | c" ∧
    Regex.hasMatch "(?ix)(?m)^ab | c" .none "xC" = .ok true ∧
    layered.accepts (.text "xC") = .ok true := by
  have hok : ∀ {α : Type} {result : Except PatternFailure α} {a : α},
      result.toOption = some a → result = .ok a := by
    intro α result a h
    cases result with
    | ok b => exact congrArg Except.ok (Option.some.inj h)
    | error failure => contradiction
  obtain ⟨regex, hregex⟩ := Option.isSome_iff_exists.mp (show (Regex.compile "(?m)^ab | c"
    { ignoreCase := true, verbose := true }).toOption.isSome = true by decide +kernel)
  have haccepts : layered.accepts (.text "xC") = .ok true := hok (by decide +kernel)
  obtain ⟨-, hmatch, -⟩ := inlinePattern_hasMatch "Invalid format" (hok hregex)
  exact ⟨⟨regex, hok hregex⟩, rfl, (hmatch (.text "xC") "xC" rfl).trans haccepts, haccepts⟩

end FormatCheck

end FieldSchema
