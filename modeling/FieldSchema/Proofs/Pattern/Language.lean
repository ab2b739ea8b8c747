import FieldSchema.Pattern.Regex

/-!
# What patterns without choice match

A matcher that tries one count after another finds a match whenever there is one: which it tries
first, and what the failed tries leave behind, decides only about the match that is found.  For the
patterns below the matches are known without any trying.  They are sequences of characters,
positions, looks ahead and greedy repetitions of one character, and such a pattern leads from a
place to some later places (`Pattern.Leads`).

The matcher goes on by a continuation.  What is shown of every part is that it finds a match if and
only if it leads to a place from which the continuation finds one (`Pattern.run_finds`).  Two short
cuts are taken on the way: a repetition is not continued where the next character is not the one
that has to follow it, and a search gives up where the text left is shorter than every match.
Neither loses a match (`Pattern.meets_openingLiteral?`, `Pattern.exists_forward_of_leads`).

* `Continuation.Finds`: from where a continuation finds a match.
* `Pattern.isPlain`, `Pattern.Leads`: the patterns, and where they lead.
* `Regex.search_of_isPlain`, `Regex.matchStart_of_isPlain`: the answers of a search and of a match
  from the start.
-/

namespace FieldSchema

/-! ## Attempts -/

namespace Attempt

/-- Whether a try has found a match. -/
def isFound : Attempt → Bool
  | .found _ => true
  | .failed _ => false

@[simp] theorem isFound_found (t : Trail) : (found t).isFound = true := rfl

@[simp] theorem isFound_failed (t : Trail) : (failed t).isFound = false := rfl

@[simp] theorem isFound_onFailure (change : Trail → Trail) (a : Attempt) :
    (a.onFailure change).isFound = a.isFound := by
  cases a <;> rfl

/-- A second try that does not depend on what the first one leaves behind. -/
theorem isFound_orElse_iff {a : Attempt} {next : Trail → Attempt} {finds : Prop}
    (h : ∀ t, (next t).isFound = true ↔ finds) :
    (a.orElse next).isFound = true ↔ a.isFound = true ∨ finds := by
  cases a with
  | found t => exact iff_of_true rfl (.inl rfl)
  | failed t => exact (h t).trans (or_iff_right Bool.false_ne_true).symm

end Attempt

/-! ## Continuations -/

namespace Continuation

/-- A continuation that finds a match from the places of a goal, whatever was tried before. -/
def Finds (k : Continuation) (goal : Place → Prop) : Prop :=
  ∀ p t, (k p t).isFound = true ↔ goal p

theorem finds_accept : accept.Finds fun _ => True := fun _ _ => iff_of_true rfl trivial

end Continuation

/-! ## Places -/

namespace Place

variable {p q : Place} {test : Nat → Bool} {count : Nat}

@[simp] theorem length_after_forward (p : Place) (count : Nat) :
    (p.forward count).after.length = p.after.length - count :=
  List.length_drop

theorem forward_forward (p : Place) (first second : Nat) :
    (p.forward first).forward second = p.forward (first + second) := by
  unfold forward
  dsimp only
  rw [List.drop_drop, List.take_add, List.reverse_append, List.append_assoc]

theorem next?_eq_none (h : p.after = []) : p.next? = none := by
  rw [next?.eq_def, h]

theorem next?_eq_some {c : Char} {rest : List Char} (h : p.after = c :: rest) :
    p.next? = some (c, p.forward 1) := by
  rw [next?.eq_def, forward, h]
  rfl

/-- The place after some characters, each of which passes a test. -/
def Passes (test : Nat → Bool) (count : Nat) (p q : Place) : Prop :=
  count ≤ p.after.length ∧ (∀ c ∈ p.after.take count, test c.toNat = true) ∧ q = p.forward count

/-- The characters that a place has passed are a first part of those after it. -/
theorem passes_iff {test : Nat → Bool} {count : Nat} {p q : Place} :
    p.Passes test count q ↔ ∃ run rest, p.after = run ++ rest ∧ run.length = count ∧
      (∀ c ∈ run, test c.toNat = true) ∧ q = ⟨run.reverse ++ p.before, rest⟩ := by
  constructor
  · rintro ⟨hlong, htest, rfl⟩
    exact ⟨p.after.take count, p.after.drop count, (List.take_append_drop _ _).symm,
      List.length_take_of_le hlong, htest, rfl⟩
  · rintro ⟨run, rest, hafter, rfl, htest, rfl⟩
    refine ⟨?_, ?_, ?_⟩
    · rw [hafter, List.length_append]
      exact Nat.le_add_right _ _
    · rwa [hafter, List.take_left]
    · rw [forward, hafter, List.take_left, List.drop_left]

end Place

namespace Pattern

/-! ## Patterns without choice -/

/-- A pattern for one character. -/
def isUnit : Pattern → Bool
  | .literal _ => true
  | .notLiteral _ => true
  | .any => true
  | .set _ _ => true
  | _ => false

/-- A sequence of characters, positions, looks ahead and greedy repetitions of one character. -/
def isPlain : Pattern → Bool
  | .empty => true
  | .anchor _ => true
  | .cat first second => first.isPlain && second.isPlain
  | .ahead _ body => body.isPlain
  | .repeated .greedy _ _ body => body.isUnit
  | p => p.isUnit

/-- The places where the matches of such a pattern from a place on end. -/
def Leads (flags : Flags) : Pattern → Place → Place → Prop
  | .empty, p, q => q = p
  | .literal code, p, q => p.Passes (literalMatches flags code) 1 q
  | .notLiteral code, p, q => p.Passes (fun c => !literalMatches flags code c) 1 q
  | .any, p, q => p.Passes (anyMatches flags) 1 q
  | .set negated members, p, q => p.Passes (setMatches flags negated members) 1 q
  | .anchor a, p, q => anchorHolds flags p a = true ∧ q = p
  | .cat first second, p, q =>
    ∃ between, first.Leads flags p between ∧ second.Leads flags between q
  | .ahead negated body, p, q => ((∃ r, body.Leads flags p r) ↔ negated = false) ∧ q = p
  | .repeated _ least most body, p, q =>
    ∃ test, body.unitTest? flags = some test ∧
      ∃ count, least ≤ count ∧ (∀ m, most = some m → count ≤ m) ∧ p.Passes test count q
  | _, _, _ => False

/-- A pattern for one character has a test. -/
theorem exists_unitTest? {body : Pattern} (h : body.isUnit = true) (flags : Flags) :
    ∃ test, body.unitTest? flags = some test := by
  cases body <;> first | exact ⟨_, rfl⟩ | contradiction

/-! ## Single characters -/

variable {k : Continuation} {goal : Place → Prop} {test : Nat → Bool}

theorem step_finds (hk : k.Finds goal) :
    Continuation.Finds (fun p t => step test p t k) fun p => ∃ q, p.Passes test 1 q ∧ goal q := by
  intro p t
  dsimp only [step]
  cases hafter : p.after with
  | nil =>
    rw [Place.next?_eq_none hafter]
    refine iff_of_false Bool.false_ne_true ?_
    rintro ⟨q, ⟨hlong, -⟩, -⟩
    rw [hafter] at hlong
    exact absurd hlong (Nat.not_succ_le_zero 0)
  | cons c rest =>
    rw [Place.next?_eq_some hafter]
    have hpasses : (∃ q, p.Passes test 1 q ∧ goal q) ↔
        test c.toNat = true ∧ goal (p.forward 1) := by
      simp [Place.Passes, hafter, and_assoc]
    rw [hpasses]
    dsimp only
    split
    · rename_i htest
      exact (hk _ _).trans (and_iff_right htest).symm
    · rename_i htest
      exact iff_of_false Bool.false_ne_true fun h => htest h.1

/-! ## Repetitions -/

/-- How far a count of characters goes. -/
theorem le_countOf_iff {most : Option Nat} {chars : List Char} {count : Nat} :
    count ≤ countOf test most chars ↔ (∀ m, most = some m → count ≤ m) ∧
      count ≤ chars.length ∧ ∀ c ∈ chars.take count, test c.toNat = true := by
  have hrun : ∀ chars : List Char, ∀ count,
      count ≤ (chars.takeWhile fun c => test c.toNat).length ↔
        count ≤ chars.length ∧ ∀ c ∈ chars.take count, test c.toNat = true := by
    intro chars
    induction chars with
    | nil => simp
    | cons c rest ih =>
      intro count
      cases count with
      | zero => simp
      | succ count =>
        by_cases hc : test c.toNat = true
        · simp [hc, ih]
        · simp [hc]
  unfold countOf
  cases most with
  | none => simpa using hrun chars count
  | some m =>
    dsimp only
    rw [Nat.le_min, hrun chars count, and_comm]
    simp

/-- Going on from the end of a run, and then from nearer places, finds a match if there is one from
any of these places. -/
theorem longestFirst_finds {go : Continuation} (hgo : go.Finds goal) {count least : Nat} {p : Place}
    {t : Trail} (hcount : count ≤ p.after.length) :
    (longestFirst go count least p t).isFound = true ↔
      ∃ n, least ≤ n ∧ n ≤ count ∧ goal (p.forward n) := by
  -- Where nothing more is kept, there is the place itself if that is far enough.
  have hleave : ∀ (p : Place) (least : Nat) (u : Trail),
      (if least = 0 then go p u else .failed u).isFound = true ↔ least = 0 ∧ goal p := by
    intro p least u
    split
    · rename_i hzero
      exact (hgo p u).trans (and_iff_right hzero).symm
    · rename_i hsome
      exact iff_of_false Bool.false_ne_true fun h => hsome h.1
  induction count generalizing least p t with
  | zero =>
    rw [longestFirst, hleave]
    constructor
    · rintro ⟨rfl, hp⟩
      exact ⟨0, Nat.le_refl 0, Nat.le_refl 0, hp⟩
    · rintro ⟨n, hleast, hn, hp⟩
      obtain rfl := Nat.le_zero.mp hn
      exact ⟨Nat.le_zero.mp hleast, hp⟩
  | succ count ih =>
    obtain ⟨c, rest, hafter⟩ := List.exists_cons_of_length_pos (Nat.zero_lt_of_lt hcount)
    have hfar : count ≤ (p.forward 1).after.length := by
      rw [Place.length_after_forward]
      omega
    rw [longestFirst, Place.next?_eq_some hafter]
    dsimp only
    rw [Attempt.isFound_orElse_iff (hleave p least)]
    refine (or_congr_left (ih hfar)).trans ?_
    constructor
    · rintro (⟨n, hleast, hn, hp⟩ | ⟨rfl, hp⟩)
      · rw [Place.forward_forward, Nat.add_comm] at hp
        exact ⟨n + 1, by omega, by omega, hp⟩
      · exact ⟨0, Nat.le_refl 0, Nat.zero_le _, hp⟩
    · rintro ⟨n, hleast, hn, hp⟩
      cases n with
      | zero => exact .inr ⟨Nat.le_zero.mp hleast, hp⟩
      | succ n =>
        refine .inl ⟨n, by omega, by omega, ?_⟩
        rwa [Place.forward_forward, Nat.add_comm]

/-- The places of a goal are followed by the character that has to come next, if one is known. -/
def Meets (next : Option Nat) (goal : Place → Prop) : Prop :=
  ∀ code, next = some code → ∀ p, goal p → p.after.head?.map Char.toNat = some code

theorem meets_none (goal : Place → Prop) : Meets none goal := fun _ h => absurd h (by simp)

theorem repeatUnit_finds {scope : Scope} (hk : k.Finds goal) (hnext : Meets scope.next goal)
    (least : Nat) (most : Option Nat) (tried : Bool) :
    Continuation.Finds (fun p t => repeatUnit scope .greedy least most test tried p t k) fun p =>
      ∃ q, (∃ count, least ≤ count ∧ (∀ m, most = some m → count ≤ m) ∧ p.Passes test count q) ∧
        goal q := by
  intro p t
  have hcounts : (∃ q, (∃ count, least ≤ count ∧ (∀ m, most = some m → count ≤ m) ∧
      p.Passes test count q) ∧ goal q) ↔
      ∃ n, least ≤ n ∧ n ≤ countOf test most p.after ∧ goal (p.forward n) := by
    constructor
    · rintro ⟨q, ⟨count, hleast, hmost, hlong, htest, rfl⟩, hq⟩
      exact ⟨count, hleast, le_countOf_iff.mpr ⟨hmost, hlong, htest⟩, hq⟩
    · rintro ⟨n, hleast, hn, hq⟩
      obtain ⟨hmost, hlong, htest⟩ := le_countOf_iff.mp hn
      exact ⟨p.forward n, ⟨n, hleast, hmost, hlong, htest, rfl⟩, hq⟩
  have hshort : countOf test most p.after ≤ p.after.length :=
    (le_countOf_iff.mp (Nat.le_refl _)).2.1
  dsimp only
  rw [hcounts]
  unfold repeatUnit
  split
  · rename_i hless
    refine iff_of_false Bool.false_ne_true ?_
    rintro ⟨n, hleast, hn, -⟩
    omega
  · have hmode : ¬RepeatMode.greedy = .lazy := by decide
    dsimp only
    rw [if_neg hmode]
    split
    · rename_i hless
      refine iff_of_false Bool.false_ne_true ?_
      rintro ⟨n, hleast, hn, -⟩
      omega
    · refine longestFirst_finds (fun q u => ?_) hshort
      split
      · rename_i hunmet
        -- What has to come next does not stand there, so nothing is lost.
        refine iff_of_false Bool.false_ne_true fun hq => ?_
        simp only [decide_true, Bool.true_and, Option.any_eq_true] at hunmet
        obtain ⟨code, hcode, hother⟩ := hunmet
        rw [hnext code hcode q hq, bne_self_eq_false] at hother
        exact Bool.false_ne_true hother
      · rw [Attempt.isFound_onFailure]
        exact hk q _

/-! ## Looking ahead -/

theorem look_finds {scope : Scope} {body : Matching} {leads : Place → Prop} (hk : k.Finds goal)
    (hbody : Continuation.Finds (fun p t => body p t Continuation.accept) leads) (negated : Bool) :
    Continuation.Finds (fun p t => look scope 0 negated body p t k) fun p =>
      (leads p ↔ negated = false) ∧ goal p := by
  intro p t
  have hback : p.back? 0 = some p := rfl
  have hfound := hbody p (t.moveTo p)
  dsimp only at hfound
  dsimp only [look]
  rw [hback]
  dsimp only
  cases hattempt : body p (t.moveTo p) Continuation.accept with
  | found u =>
    have hleads : leads p := hfound.mp (by rw [hattempt]; rfl)
    cases negated <;> simp [hleads, hk p u]
  | failed u =>
    have hleads : ¬leads p := fun h => by
      rw [← hfound, hattempt] at h
      exact Bool.false_ne_true h
    cases negated <;> simp [hleads, hk p _]

/-! ## The character that comes next -/

theorem openingLiteral?_cat (flags : Flags) (next : Option Nat) (first second : Pattern) :
    openingLiteral? flags next (.cat first second) =
      openingLiteral? flags (openingLiteral? flags next second) first := by
  unfold openingLiteral?
  rw [opening?]
  cases opening? flags first with
  | none => rfl
  | some opening =>
    obtain ⟨inner, part⟩ := opening
    cases part <;> rfl

/-- A match of a pattern that begins with a character starts before that character. -/
theorem meets_openingLiteral? {flags : Flags} (hcase : flags.ignoreCase = false)
    {pattern : Pattern} (hplain : pattern.isPlain = true) {next : Option Nat}
    (hnext : Meets next goal) :
    Meets (openingLiteral? flags next pattern) fun p => ∃ q, pattern.Leads flags p q ∧ goal q := by
  induction pattern generalizing next goal with
  | empty =>
    rintro code hcode p ⟨q, rfl, hq⟩
    exact hnext code hcode _ hq
  | literal code =>
    rintro code' hcode p ⟨q, ⟨hlong, htest, -⟩, -⟩
    have hexact : isExact flags code = true := by rw [isExact, hcase]; rfl
    have hopens : openingLiteral? flags next (.literal code) = some code := if_pos hexact
    obtain rfl := Option.some.inj (hopens.symm.trans hcode)
    obtain ⟨c, rest, hafter⟩ := List.exists_cons_of_length_pos hlong
    have hc := htest c (by rw [hafter]; exact List.mem_cons_self)
    rw [literalMatches, hcase] at hc
    rw [hafter, List.head?_cons, Option.map_some, eq_of_beq hc]
  | cat first second ihFirst ihSecond =>
    obtain ⟨hfirst, hsecond⟩ := Bool.and_eq_true_iff.mp hplain
    rw [openingLiteral?_cat]
    rintro code hcode p ⟨q, ⟨between, hleads, hmore⟩, hq⟩
    exact ihFirst hfirst (ihSecond hsecond hnext) code hcode p ⟨between, hleads, q, hmore, hq⟩
  | _ => first | exact meets_none _ | contradiction

/-! ## The matcher -/

/-- **The matcher finds what there is to find.**  A pattern without choice is matched before a
continuation if and only if it leads to a place from which the continuation finds a match. -/
theorem run_finds {pattern : Pattern} (hplain : pattern.isPlain = true) {scope : Scope}
    (hcase : scope.flags.ignoreCase = false) (hk : k.Finds goal) (hnext : Meets scope.next goal) :
    Continuation.Finds (fun p t => run scope pattern p t k) fun p =>
      ∃ q, pattern.Leads scope.flags p q ∧ goal q := by
  induction pattern generalizing scope k goal with
  | empty =>
    intro p t
    simp only [run, Leads, exists_eq_left]
    exact hk p t
  | anchor a =>
    intro p t
    simp only [run, Leads]
    split
    · rename_i hholds
      simpa [hholds] using hk p t
    · rename_i hfails
      simp [hfails]
  | cat first second ihFirst ihSecond =>
    obtain ⟨hfirst, hsecond⟩ := Bool.and_eq_true_iff.mp hplain
    have hrest := ihSecond hsecond hcase hk hnext
    have hall := @ihFirst _ _ hfirst
      { scope with next := second.openingLiteral? scope.flags scope.next } hcase hrest
      (meets_openingLiteral? hcase hsecond hnext)
    intro p t
    refine (hall p t).trans ⟨?_, ?_⟩
    · rintro ⟨between, hleads, q, hmore, hq⟩
      exact ⟨q, ⟨between, hleads, hmore⟩, hq⟩
    · rintro ⟨q, ⟨between, hleads, hmore⟩, hq⟩
      exact ⟨between, hleads, q, hmore, hq⟩
  | ahead negated body ih =>
    have hbody := @ih _ _ hplain scope.inner hcase Continuation.finds_accept (meets_none _)
    simp only [and_true] at hbody
    intro p t
    refine (look_finds hk hbody negated p t).trans ?_
    constructor
    · rintro ⟨hlooks, hp⟩
      exact ⟨p, ⟨hlooks, rfl⟩, hp⟩
    · rintro ⟨q, ⟨hlooks, rfl⟩, hq⟩
      exact ⟨hlooks, hq⟩
  | repeated mode least most body ih =>
    cases mode with
    | greedy =>
      have hunit : body.isUnit = true := hplain
      obtain ⟨test, htest⟩ := exists_unitTest? hunit scope.flags
      intro p t
      simp only [run, Leads, htest]
      refine (repeatUnit_finds hk hnext least most _ p t).trans ?_
      simp
    | lazy => contradiction
    | possessive => contradiction
  | literal code => exact step_finds hk
  | notLiteral code => exact step_finds hk
  | any => exact step_finds hk
  | set negated members => exact step_finds hk
  | _ => contradiction

/-! ## Widths -/

theorem width_of_isUnit {pattern : Pattern} (h : pattern.isUnit = true) (groups : Nat → Width) :
    pattern.width groups = .one := by
  cases pattern <;> first | rfl | contradiction

/-- A match takes up at least as many characters as the pattern needs. -/
theorem exists_forward_of_leads {flags : Flags} {pattern : Pattern}
    (hplain : pattern.isPlain = true) (groups : Nat → Width) {p q : Place}
    (h : pattern.Leads flags p q) :
    ∃ count, (pattern.width groups).least ≤ count ∧ count ≤ p.after.length ∧
      q = p.forward count := by
  induction pattern generalizing p q with
  | empty => exact ⟨0, Nat.le_refl 0, Nat.zero_le _, h⟩
  | anchor a => exact ⟨0, Nat.le_refl 0, Nat.zero_le _, h.2⟩
  | ahead negated body => exact ⟨0, Nat.le_refl 0, Nat.zero_le _, h.2⟩
  | cat first second ihFirst ihSecond =>
    obtain ⟨hfirst, hsecond⟩ := Bool.and_eq_true_iff.mp hplain
    obtain ⟨between, hleads, hmore⟩ := h
    obtain ⟨m, hm, hlong, rfl⟩ := ihFirst hfirst hleads
    obtain ⟨n, hn, hrest, rfl⟩ := ihSecond hsecond hmore
    rw [Place.length_after_forward] at hrest
    exact ⟨m + n, Nat.add_le_add hm hn, by omega, p.forward_forward m n⟩
  | repeated mode least most body =>
    obtain ⟨test, -, count, hleast, -, hlong, -, rfl⟩ := h
    refine ⟨count, ?_, hlong, rfl⟩
    have hunit : body.isUnit = true := by
      cases mode <;> first | exact hplain | contradiction
    rw [width, width_of_isUnit hunit]
    exact Nat.le_trans (Nat.le_of_eq (Nat.one_mul least)) hleast
  | literal code => exact ⟨1, Nat.le_refl 1, h.1, h.2.2⟩
  | notLiteral code => exact ⟨1, Nat.le_refl 1, h.1, h.2.2⟩
  | any => exact ⟨1, Nat.le_refl 1, h.1, h.2.2⟩
  | set negated members => exact ⟨1, Nat.le_refl 1, h.1, h.2.2⟩
  | _ => contradiction

/-! ## Searching -/

/-- A match of a pattern in a text, from some place of the text on. -/
def OccursIn (flags : Flags) (pattern : Pattern) (p : Place) : Prop :=
  ∃ count ≤ p.after.length, ∃ q, pattern.Leads flags (p.forward count) q

variable {flags : Flags} {pattern : Pattern}

theorem attemptAt_isFound_iff (hplain : pattern.isPlain = true) (hcase : flags.ignoreCase = false)
    (p : Place) : (pattern.attemptAt flags p).isFound = true ↔ ∃ q, pattern.Leads flags p q := by
  have hrun : Continuation.Finds
      (fun p t => run ⟨flags, false, none⟩ pattern p t Continuation.accept) _ :=
    run_finds hplain hcase Continuation.finds_accept (meets_none _)
  simp only [and_true] at hrun
  exact hrun p (.start p)

/-- A text that is shorter than every match of a pattern has none. -/
theorem not_occursIn_of_short (hplain : pattern.isPlain = true) (groups : Nat → Width) {p : Place}
    (h : p.after.length < (pattern.width groups).least) : ¬pattern.OccursIn flags p := by
  rintro ⟨n, -, q, hleads⟩
  obtain ⟨count, hcount, hlong, -⟩ := exists_forward_of_leads hplain groups hleads
  rw [Place.length_after_forward] at hlong
  omega

theorem occursIn_cons_iff {before rest : List Char} {c : Char} :
    pattern.OccursIn flags ⟨before, c :: rest⟩ ↔
      (∃ q, pattern.Leads flags ⟨before, c :: rest⟩ q) ∨
        pattern.OccursIn flags ⟨c :: before, rest⟩ := by
  have hnext : ∀ n, (Place.mk before (c :: rest)).forward (n + 1) =
      (Place.mk (c :: before) rest).forward n := by
    intro n
    rw [Nat.add_comm, ← Place.forward_forward]
    rfl
  constructor
  · rintro ⟨n, hn, q, hleads⟩
    cases n with
    | zero => exact .inl ⟨q, hleads⟩
    | succ n => exact .inr ⟨n, Nat.le_of_succ_le_succ hn, q, hnext n ▸ hleads⟩
  · rintro (⟨q, hleads⟩ | ⟨n, hn, q, hleads⟩)
    · exact ⟨0, Nat.zero_le _, q, hleads⟩
    · exact ⟨n + 1, Nat.succ_le_succ hn, q, (hnext n).symm ▸ hleads⟩

/-- A pattern for the start of a text occurs from there on or not at all. -/
theorem occursIn_start_iff (hlines : flags.multiline = false) {chars : List Char} :
    (cat (.anchor .start) pattern).OccursIn flags (.start chars) ↔
      ∃ q, pattern.Leads flags (.start chars) q := by
  constructor
  · rintro ⟨count, hcount, q, between, ⟨hstart, rfl⟩, hleads⟩
    rw [anchorHolds, hlines, Bool.false_and, Bool.or_false, List.isEmpty_iff] at hstart
    have hnone : chars.take count = [] :=
      List.reverse_eq_nil_iff.mp ((List.append_nil _).symm.trans hstart)
    have hlength : (chars.take count).length = count := List.length_take_of_le hcount
    rw [hnone] at hlength
    obtain rfl : 0 = count := hlength
    exact ⟨q, hleads⟩
  · rintro ⟨q, hleads⟩
    exact ⟨0, Nat.zero_le _, q, .start chars, ⟨rfl, rfl⟩, hleads⟩

/-- **A search finds a match if there is one.** -/
theorem searchFrom_isSome_iff (hplain : pattern.isPlain = true) (hcase : flags.ignoreCase = false)
    (groups : Nat → Width) {before after : List Char} :
    (pattern.searchFrom flags (pattern.width groups).least before after).isSome = true ↔
      pattern.OccursIn flags ⟨before, after⟩ := by
  induction after generalizing before with
  | nil =>
    have hattempt := attemptAt_isFound_iff hplain hcase ⟨before, []⟩
    have honly : pattern.OccursIn flags ⟨before, []⟩ ↔ ∃ q, pattern.Leads flags ⟨before, []⟩ q := by
      constructor
      · rintro ⟨n, hn, q, hleads⟩
        obtain rfl := Nat.le_zero.mp hn
        exact ⟨q, hleads⟩
      · rintro ⟨q, hleads⟩
        exact ⟨0, Nat.le_refl 0, q, hleads⟩
    rw [searchFrom, honly, ← hattempt]
    cases pattern.attemptAt flags ⟨before, []⟩ <;> simp
  | cons c rest ih =>
    have hattempt := attemptAt_isFound_iff hplain hcase ⟨before, c :: rest⟩
    rw [searchFrom, occursIn_cons_iff, ← hattempt]
    cases pattern.attemptAt flags ⟨before, c :: rest⟩ with
    | found t => simp
    | failed t =>
      dsimp only
      split
      · rename_i hshort
        have hnone : ¬pattern.OccursIn flags ⟨c :: before, rest⟩ :=
          not_occursIn_of_short hplain groups (by dsimp only; omega)
        simp [hnone]
      · simp [ih]

end Pattern

namespace Regex

variable {r : Regex} {text : String}

/-- Without groups there is an answer. -/
theorem answer_of_noGroups (hgroups : r.groups = 0) (found : Option Trail) :
    r.answer found = .ok found.isSome := by
  cases found with
  | none => rfl
  | some t =>
    rw [answer, hgroups]
    rfl

/-- The answer of a search for a pattern without choice and without groups. -/
theorem search_of_isPlain (hplain : r.body.isPlain = true) (hcase : r.flags.ignoreCase = false)
    (hgroups : r.groups = 0) (groups : Nat → Width)
    (hleast : r.least = (r.body.width groups).least) (text : String) :
    ∃ found, r.search text = .ok found ∧
      (found = true ↔ r.body.OccursIn r.flags (.start text.toList)) := by
  refine ⟨_, answer_of_noGroups hgroups _, ?_⟩
  split
  · rename_i hshort
    rw [hleast, ← String.length_toList] at hshort
    exact iff_of_false Bool.false_ne_true (Pattern.not_occursIn_of_short hplain groups hshort)
  · rw [hleast]
    exact Pattern.searchFrom_isSome_iff hplain hcase groups

/-- The answer of a match from the start of a text. -/
theorem matchStart_of_isPlain (hplain : r.body.isPlain = true)
    (hcase : r.flags.ignoreCase = false) (hgroups : r.groups = 0) (groups : Nat → Width)
    (hleast : r.least = (r.body.width groups).least) (text : String) :
    ∃ found, r.matchStart text = .ok found ∧
      (found = true ↔ ∃ q, r.body.Leads r.flags (.start text.toList) q) := by
  refine ⟨_, answer_of_noGroups hgroups _, ?_⟩
  split
  · rename_i hshort
    rw [hleast, ← String.length_toList] at hshort
    have hnone : ¬r.body.OccursIn r.flags (.start text.toList) :=
      Pattern.not_occursIn_of_short hplain groups hshort
    refine iff_of_false Bool.false_ne_true ?_
    rintro ⟨q, hleads⟩
    exact hnone ⟨0, Nat.zero_le _, q, hleads⟩
  · rw [← Pattern.attemptAt_isFound_iff hplain hcase]
    cases r.body.attemptAt r.flags (.start text.toList) <;> simp

end Regex

end FieldSchema
