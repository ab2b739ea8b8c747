import FieldSchema.Proofs.Pattern.Language

/-!
# Patterns for a whole text

A pattern between the start and the end of a text matches the text as a whole, or does not match.
Where it consists of single characters and greedy repetitions of one character, a text has a match
if it splits into words, one for every item (`Pattern.Spells`).  How far a repetition goes at first
plays no part: any split will do, however the items overlap in what they match.

The end of a text is also the place before a line break that ends it.  What such a pattern matches
is therefore a spelled text, or one with a line break after it (`Regex.answers_whole`).  A search
and a match from the start have the same answer, since the pattern cannot start later.

* `Pattern.isRun`, `Pattern.Fits`: the items, and the words of one item.
* `Pattern.Spells`: the words of several items.
* `Regex.whole`: the usable pattern of items between the start and the end.
-/

namespace FieldSchema

/-- A pattern text stands for the usable pattern that reading it gives. -/
theorem Regex.compile_eq_ok {source : String} {flags : Flags} {r : Regex}
    (h : (match Regex.compile source flags with
      | .ok made => decide (made = r)
      | .error _ => false) = true) : Regex.compile source flags = .ok r := by
  split at h
  · rename_i made hmade
    rw [hmade, of_decide_eq_true h]
  · exact absurd h Bool.false_ne_true

namespace Pattern

/-! ## The flags of texts -/

/-- The flags of a text pattern that states none. -/
def textFlags : Flags := { unicode := true }

/-- The end of a text, or of its last line. -/
theorem anchorHolds_stop_iff {p : Place} :
    anchorHolds textFlags p .stop = true ↔ p.after = [] ∨ p.after = ['\n'] := by
  simp [anchorHolds, textFlags]

theorem setMatches_lower (code : Nat) :
    setMatches textFlags false [.range 0x61 0x7A] code = Text.isAsciiLower code := by
  simp [setMatches, memberMatches, textFlags, inRange, Text.isAsciiLower]

theorem setMatches_upper (code : Nat) :
    setMatches textFlags false [.range 0x41 0x5A] code = Text.isAsciiUpper code := by
  simp [setMatches, memberMatches, textFlags, inRange, Text.isAsciiUpper]

/-! ## Words -/

/-- A character, or a greedy repetition of one. -/
def isRun : Pattern → Bool
  | .repeated .greedy _ _ body => body.isUnit
  | p => p.isUnit

/-- The words that such a pattern matches. -/
def Fits (flags : Flags) : Pattern → List Char → Prop
  | .repeated _ least most body, word =>
    (least ≤ word.length ∧ ∀ m, most = some m → word.length ≤ m) ∧
      ∃ test, body.unitTest? flags = some test ∧ ∀ c ∈ word, test c.toNat = true
  | item, word =>
    word.length = 1 ∧ ∃ test, item.unitTest? flags = some test ∧ ∀ c ∈ word, test c.toNat = true

/-- The words of items one after the other. -/
def Spells (flags : Flags) : List Pattern → List Char → Prop
  | [], word => word = []
  | item :: items, word =>
    ∃ first rest, word = first ++ rest ∧ item.Fits flags first ∧ Spells flags items rest

variable {flags : Flags} {item : Pattern} {items : List Pattern} {p q : Place}

theorem isPlain_of_isUnit (h : item.isUnit = true) : item.isPlain = true := by
  cases item <;> first | rfl | contradiction

theorem isPlain_of_isRun (h : item.isRun = true) : item.isPlain = true := by
  cases item with
  | repeated mode least most body =>
    cases mode with
    | greedy => exact h
    | lazy => contradiction
    | possessive => contradiction
  | _ => exact isPlain_of_isUnit h

/-- A pattern for one character leads over a character that passes its test. -/
theorem leads_iff_of_isUnit (h : item.isUnit = true) :
    item.Leads flags p q ↔ ∃ test, item.unitTest? flags = some test ∧ p.Passes test 1 q := by
  cases item <;> first | contradiction | simp [Leads, unitTest?]

/-- An item leads over its words. -/
theorem leads_iff_of_isRun (h : item.isRun = true) :
    item.Leads flags p q ↔ ∃ word rest, p.after = word ++ rest ∧ item.Fits flags word ∧
      q = ⟨word.reverse ++ p.before, rest⟩ := by
  have hunit : item.isUnit = true → item.Fits flags = fun word =>
      word.length = 1 ∧ ∃ test, item.unitTest? flags = some test ∧
        ∀ c ∈ word, test c.toNat = true := by
    intro hitem
    cases item <;> first | rfl | contradiction
  by_cases hitem : item.isUnit = true
  · rw [leads_iff_of_isUnit hitem, hunit hitem]
    constructor
    · rintro ⟨test, htest, hpassed⟩
      obtain ⟨word, rest, hafter, hone, hfits, rfl⟩ := Place.passes_iff.mp hpassed
      exact ⟨word, rest, hafter, ⟨hone, test, htest, hfits⟩, rfl⟩
    · rintro ⟨word, rest, hafter, ⟨hone, test, htest, hfits⟩, rfl⟩
      exact ⟨test, htest, Place.passes_iff.mpr ⟨word, rest, hafter, hone, hfits, rfl⟩⟩
  · cases item with
    | repeated mode least most body =>
      constructor
      · rintro ⟨test, htest, count, hleast, hmost, hpassed⟩
        obtain ⟨word, rest, hafter, rfl, hfits, rfl⟩ := Place.passes_iff.mp hpassed
        exact ⟨word, rest, hafter, ⟨⟨hleast, hmost⟩, test, htest, hfits⟩, rfl⟩
      · rintro ⟨word, rest, hafter, ⟨⟨hleast, hmost⟩, test, htest, hfits⟩, rfl⟩
        exact ⟨test, htest, word.length, hleast, hmost,
          Place.passes_iff.mpr ⟨word, rest, hafter, rfl, hfits, rfl⟩⟩
    | _ => exact absurd h hitem

/-! ## Items up to the end of a text -/

/-- Items and, after them, the end of a text. -/
def upToStop (items : List Pattern) : Pattern := ofItems (items ++ [.anchor .stop])

theorem upToStop_cons (item : Pattern) (items : List Pattern) :
    upToStop (item :: items) = .cat item (upToStop items) := by
  cases items <;> rfl

theorem isPlain_upToStop (h : ∀ item ∈ items, item.isRun = true) :
    (upToStop items).isPlain = true := by
  induction items with
  | nil => rfl
  | cons item items ih =>
    rw [upToStop_cons]
    exact Bool.and_eq_true_iff.mpr ⟨isPlain_of_isRun (h item List.mem_cons_self),
      ih fun other hother => h other (List.mem_cons_of_mem item hother)⟩

/-- Items lead up to the end of a text if what is left of the text is spelled by them, with at most
a line break after it. -/
theorem upToStop_leads_iff (h : ∀ item ∈ items, item.isRun = true) :
    (∃ q, (upToStop items).Leads textFlags p q) ↔
      ∃ word rest, p.after = word ++ rest ∧ (rest = [] ∨ rest = ['\n']) ∧
        Spells textFlags items word := by
  induction items generalizing p with
  | nil =>
    constructor
    · rintro ⟨q, hstop, -⟩
      exact ⟨[], p.after, rfl, anchorHolds_stop_iff.mp hstop, rfl⟩
    · rintro ⟨word, rest, hafter, hrest, rfl⟩
      have hends : p.after = [] ∨ p.after = ['\n'] := by rwa [hafter]
      exact ⟨p, anchorHolds_stop_iff.mpr hends, rfl⟩
  | cons item items ih =>
    have hitem : item.isRun = true := h item List.mem_cons_self
    have hitems : ∀ other ∈ items, other.isRun = true := fun other hother =>
      h other (List.mem_cons_of_mem item hother)
    rw [upToStop_cons]
    constructor
    · rintro ⟨q, between, hleads, hmore⟩
      obtain ⟨first, after, hafter, hfits, rfl⟩ := (leads_iff_of_isRun hitem).mp hleads
      obtain ⟨word, rest, hsplit, hrest, hspells⟩ := (ih hitems).mp ⟨q, hmore⟩
      obtain rfl : after = word ++ rest := hsplit
      refine ⟨first ++ word, rest, ?_, hrest, first, word, rfl, hfits, hspells⟩
      rw [hafter, List.append_assoc]
    · rintro ⟨word, rest, hafter, hrest, first, more, rfl, hfits, hspells⟩
      have hsplit : p.after = first ++ (more ++ rest) := by rw [hafter, List.append_assoc]
      have hleads : item.Leads textFlags p ⟨first.reverse ++ p.before, more ++ rest⟩ :=
        (leads_iff_of_isRun hitem).mpr ⟨first, more ++ rest, hsplit, hfits, rfl⟩
      obtain ⟨q, hmore⟩ := (ih (p := ⟨first.reverse ++ p.before, more ++ rest⟩) hitems).mpr
        ⟨more, rest, rfl, hrest, hspells⟩
      exact ⟨q, _, hleads, hmore⟩

end Pattern

/-! ## Answers -/

namespace Regex

/-- The usable pattern of items between the start and the end of a text. -/
def whole (source : String) (items : List Pattern) : Regex where
  source := source
  flags := Pattern.textFlags
  body := .cat (.anchor .start) (Pattern.upToStop items)
  groups := 0
  least := ((Pattern.cat (.anchor .start) (Pattern.upToStop items)).width fun _ => .zero).least

/-- **The texts that items match as a whole.**  A search and a match from the start agree on
them. -/
theorem answers_whole (source : String) {items : List Pattern}
    (h : ∀ item ∈ items, item.isRun = true) (text : String) :
    ∃ found, (whole source items).search text = .ok found ∧
      (whole source items).matchStart text = .ok found ∧
      (found = true ↔ ∃ word rest, text.toList = word ++ rest ∧ (rest = [] ∨ rest = ['\n']) ∧
        Pattern.Spells Pattern.textFlags items word) := by
  have hplain : (whole source items).body.isPlain = true := Pattern.isPlain_upToStop h
  obtain ⟨found, hsearch, hoccurs⟩ := search_of_isPlain hplain rfl rfl _ rfl text
  obtain ⟨started, hstart, hleads⟩ := matchStart_of_isPlain hplain rfl rfl _ rfl text
  have hspelled : (∃ q, (Pattern.upToStop items).Leads Pattern.textFlags (.start text.toList) q) ↔
      ∃ word rest, text.toList = word ++ rest ∧ (rest = [] ∨ rest = ['\n']) ∧
        Pattern.Spells Pattern.textFlags items word :=
    Pattern.upToStop_leads_iff h
  -- The start of the text is where the pattern is, so it leads from there or not at all.
  have hanchored : (∃ q, (whole source items).body.Leads Pattern.textFlags
      (.start text.toList) q) ↔
        ∃ q, (Pattern.upToStop items).Leads Pattern.textFlags (.start text.toList) q := by
    constructor
    · rintro ⟨q, between, ⟨-, rfl⟩, hmore⟩
      exact ⟨q, hmore⟩
    · rintro ⟨q, hmore⟩
      exact ⟨q, _, ⟨rfl, rfl⟩, hmore⟩
  have hfound := (hoccurs.trans (Pattern.occursIn_start_iff rfl)).trans hspelled
  have hstarted := (hleads.trans hanchored).trans hspelled
  have hsame : started = found := Bool.eq_iff_iff.mpr (hstarted.trans hfound.symm)
  exact ⟨found, hsearch, hsame ▸ hstart, hfound⟩

end Regex

end FieldSchema
