import FieldSchema.Proofs.Rule.Formats
import FieldSchema.Proofs.Rule.Throughout
import FieldSchema.Proofs.Validation.Exported
import FieldSchema.Proofs.Validation.Stable

/-!
# Accepted values and the documented schema

Every refinement puts its own keywords into a documented schema, and a keyword that is stated twice
keeps the last one only.  A value has to pass all refinements, so it also obeys the one that is
left.  Two things have to be seen for that.  Lower case changes a value on its way through the
refinements, but it comes first, and all that follow look at what is handed on.  And allowed values
are stated in lower case, which the value itself is by then.

A pattern is stated without its flags.  What is handed on has a match of the stated pattern under
the flags of the refinement that states it (`Rule.patternReading`), and only without flags is this
what the document says.  The pattern of object identifiers is about digits, and has a match unless
the library that is asked about them passes over blanks.

The document is followed from the outside in: arrays state their items, and what refers to a model
is documented where the model is.

* `PatternReading`: in which sense a stated pattern has a match.
* `Value.Obeys`, `Rule.MeetsDocument`: what a documented schema states about a value.
* `Rule.Follows`, `Rule.FieldsFollow`: values with parts.
* `ValidationSchema.documented_of_parse`: what is given out follows the document.
-/

namespace FieldSchema

/-! ## Keywords -/

/-- The keywords under which a documented schema restricts values. -/
def constraintKeywords : List String :=
  ["minLength", "maxLength", "minimum", "maximum", "minItems", "maxItems", "pattern", "enum"]

theorem Measure.leastKeyword_mem (measure : Measure) :
    measure.leastKeyword ∈ constraintKeywords := by
  cases measure <;> decide

theorem Measure.mostKeyword_mem (measure : Measure) :
    measure.mostKeyword ∈ constraintKeywords := by
  cases measure <;> decide

/-- How a pattern that is stated is read in the texts that are accepted. -/
inductive PatternReading where
  /-- It has a match under flags. -/
  | under (flags : Flags)
  /-- It has a match, without flags, exactly where no blank stands. -/
  | unlessBlank
  deriving DecidableEq, Repr

/-- What is true of a pattern and of a text that is accepted. -/
def PatternReading.Holds : PatternReading → String → String → Prop
  | .under flags, source, text => Regex.hasMatch source flags text = .ok true
  | .unlessBlank, source, text => ∃ found, Regex.hasMatch source .none text = .ok found ∧
    (found = true ↔ ∀ c ∈ text.toList, Text.isAsciiBlank c.toNat = false)

namespace Value

/-- A value obeys what is stated under a keyword.  A bound is a number, and the measure of the value
does not lie beyond it; a pattern is a text, and what the given reading says of it holds in the
value; and the value is one of the options. -/
structure Obeys (v : Value) (reading : PatternReading) (keyword : String) (stated : Value) :
    Prop where
  least : ∀ measure : Measure, keyword = measure.leastKeyword → ∃ bound size,
    stated.asNumber? = some bound ∧ measure.of? v = some size ∧ size.lt bound = false
  most : ∀ measure : Measure, keyword = measure.mostKeyword → ∃ bound size,
    stated.asNumber? = some bound ∧ measure.of? v = some size ∧ bound.lt size = false
  pattern : keyword = "pattern" → ∃ source text, stated.asText? = some source ∧
    v = .text text ∧ reading.Holds source text
  options : keyword = "enum" → ∃ text, v = .text text ∧ .text text ∈ stated.listed

variable {v stated : Value} {reading : PatternReading} {keyword : String}

theorem obeys_least {measure : Measure} {bound size : Number}
    (hbound : stated.asNumber? = some bound) (hsize : measure.of? v = some size)
    (h : size.lt bound = false) : v.Obeys reading measure.leastKeyword stated where
  least other hother := by
    obtain rfl := Measure.leastKeyword_injective hother
    exact ⟨bound, size, hbound, hsize, h⟩
  most other hother := absurd hother (Measure.leastKeyword_ne_mostKeyword measure other)
  pattern hname := absurd hname measure.leastKeyword_ne.1
  options hname := absurd hname measure.leastKeyword_ne.2

theorem obeys_most {measure : Measure} {bound size : Number}
    (hbound : stated.asNumber? = some bound) (hsize : measure.of? v = some size)
    (h : bound.lt size = false) : v.Obeys reading measure.mostKeyword stated where
  least other hother := absurd hother.symm (Measure.leastKeyword_ne_mostKeyword other measure)
  most other hother := by
    obtain rfl := Measure.mostKeyword_injective hother
    exact ⟨bound, size, hbound, hsize, h⟩
  pattern hname := absurd hname measure.mostKeyword_ne.1
  options hname := absurd hname measure.mostKeyword_ne.2

theorem obeys_pattern {source text : String} (hsource : stated.asText? = some source)
    (hv : v = .text text) (h : reading.Holds source text) :
    v.Obeys reading "pattern" stated where
  least other hother := absurd hother.symm other.leastKeyword_ne.1
  most other hother := absurd hother.symm other.mostKeyword_ne.1
  pattern _ := ⟨source, text, hsource, hv, h⟩
  options hname := absurd hname (by decide)

theorem obeys_options {text : String} (hv : v = .text text) (h : .text text ∈ stated.listed) :
    v.Obeys reading "enum" stated where
  least other hother := absurd hother.symm other.leastKeyword_ne.2
  most other hother := absurd hother.symm other.mostKeyword_ne.2
  pattern hname := absurd hname (by decide)
  options _ := ⟨text, hv, h⟩

/-- Other keywords restrict nothing. -/
theorem obeys_of_notMem (h : keyword ∉ constraintKeywords) : v.Obeys reading keyword stated where
  least measure hname := absurd (hname ▸ measure.leastKeyword_mem) h
  most measure hname := absurd (hname ▸ measure.mostKeyword_mem) h
  pattern hname := absurd (by rw [hname]; decide) h
  options hname := absurd (by rw [hname]; decide) h

/-- Texts in a list have no keys, and stay. -/
theorem text_mem_sortKeysOfList (parent : String) {items : List Value} {text : String}
    (h : .text text ∈ items) : .text text ∈ sortKeysOfList parent items := by
  induction items with
  | nil => cases h
  | cons first rest ih =>
    rcases List.mem_cons.mp h with rfl | hrest
    · exact List.mem_cons_self
    · exact List.mem_cons_of_mem _ (ih hrest)

/-- What is stated means the same with its own keys in order. -/
theorem Obeys.sortKeys (h : v.Obeys reading keyword stated) (parent : String) :
    v.Obeys reading keyword (stated.sortKeys parent) := by
  have hnumber : ∀ bound, stated.asNumber? = some bound →
      (stated.sortKeys parent).asNumber? = some bound := by
    intro bound hbound
    cases stated <;> exact hbound
  have htext : ∀ source, stated.asText? = some source →
      (stated.sortKeys parent).asText? = some source := by
    intro source hsource
    cases stated <;> exact hsource
  have hlisted : ∀ text : String, .text text ∈ stated.listed →
      .text text ∈ (stated.sortKeys parent).listed := by
    intro text hmem
    cases stated with
    | list items => exact text_mem_sortKeysOfList parent hmem
    | _ => cases hmem
  refine ⟨fun measure hname => ?_, fun measure hname => ?_, fun hname => ?_, fun hname => ?_⟩
  · obtain ⟨bound, size, hbound, hkept⟩ := h.least measure hname
    exact ⟨bound, size, hnumber bound hbound, hkept⟩
  · obtain ⟨bound, size, hbound, hkept⟩ := h.most measure hname
    exact ⟨bound, size, hnumber bound hbound, hkept⟩
  · obtain ⟨source, text, hsource, hkept⟩ := h.pattern hname
    exact ⟨source, text, htext source hsource, hkept⟩
  · obtain ⟨text, hv, hmem⟩ := h.options hname
    exact ⟨text, hv, hlisted text hmem⟩

end Value

/-! ## Hints -/

namespace Refinement

/-- How the pattern that a refinement documents is read in the texts that it accepts. -/
def patternReading? : Refinement → Option PatternReading
  | .pattern _ flags _ => some (.under (flags.asIndex?.elim .none Flags.ofInt))
  | .objectId _ _ => some .unlessBlank
  | _ => none

/-- A refinement documents a pattern when there is a reading for one. -/
theorem isSome_patternReading? (r : Refinement) :
    r.patternReading?.isSome = (r.hints.reverse.lookup "pattern").isSome := by
  cases r with
  | bounds measure least most message =>
    rw [hints]
    split
    · have hother : ("pattern" == measure.mostKeyword) = false :=
        beq_eq_false_iff_ne.mpr measure.mostKeyword_ne.1.symm
      simp [patternReading?, List.lookup_cons, hother]
    · have hother : ("pattern" == measure.leastKeyword) = false :=
        beq_eq_false_iff_ne.mpr measure.leastKeyword_ne.1.symm
      simp [patternReading?, List.lookup_cons, hother]
  | _ => simp [patternReading?, hints, List.lookup_cons]

theorem hint_mem (r : Refinement) :
    ∀ hint ∈ r.hints, hint.1 ∈ constraintKeywords ∨ hint.1 = "format" := by
  cases r with
  | bounds measure least most message =>
    rw [hints]
    split
    · exact List.forall_mem_singleton.mpr (.inl measure.mostKeyword_mem)
    · exact List.forall_mem_singleton.mpr (.inl measure.leastKeyword_mem)
  | _ => simp [hints, constraintKeywords]

variable {overrides : Overrides} {field : TextValue} {r : Refinement} {v : Value}

/-- A bound that a value keeps is one on its measure. -/
theorem obeys_limit {measure : Measure} {isLeast : Bool} {n : Number} {message : Value}
    {reading : PatternReading} (h : (limit measure isLeast n message).check v = .ok none) :
    ∀ hint ∈ (limit measure isLeast n message).hints, v.Obeys reading hint.1 hint.2 := by
  have hsize : ∃ size, measure.of? v = some size := by
    cases hsize : measure.of? v with
    | some size => exact ⟨size, rfl⟩
    | none => cases isLeast <;> simp [limit, check, hsize] at h
  obtain ⟨size, hsize⟩ := hsize
  have hkept := Value.isWithin_of_limit h
  rw [Value.isWithin, hsize, Value.asNumber?_ofNumber] at hkept
  have hnull : (Value.ofNumber n).isNull = false := by cases n <;> rfl
  cases isLeast with
  | true =>
    have hhints : (limit measure true n message).hints =
        [(measure.leastKeyword, .ofNumber n)] := by
      simp [limit, hints, hnull]
    rw [hhints]
    exact List.forall_mem_singleton.mpr
      (Value.obeys_least (Value.asNumber?_ofNumber n) hsize (by simpa using hkept))
  | false =>
    have hhints : (limit measure false n message).hints =
        [(measure.mostKeyword, .ofNumber n)] := by
      simp [limit, hints, Value.isNull]
    rw [hhints]
    exact List.forall_mem_singleton.mpr
      (Value.obeys_most (Value.asNumber?_ofNumber n) hsize (by simpa using hkept))

/-- What passes for an object identifier obeys the keywords of object identifiers, the pattern where
no blank stands. -/
theorem obeys_objectId {text : String} (h : Rule.objectId.check (.text text) = .ok none) :
    ∀ hint ∈ Rule.objectId.hints, ∀ reading, (hint.1 = "pattern" → reading = .unlessBlank) →
      (Value.text text).Obeys reading hint.1 hint.2 := by
  obtain ⟨hlong, hvalid⟩ := checkObjectId_eq_none_iff.mp (Except.ok.inj h)
  have hdigits := List.all_eq_true.mp ((ObjectId.isValid_iff hlong).mp hvalid)
  have hidentifier : Text.IsIdentifier text.toList :=
    Text.isIdentifier_iff.mpr ⟨String.length_toList.trans hlong, hdigits⟩
  have hmeets := (Value.meetsHints_objectId_iff (v := .text text) rfl (.text "Invalid ObjectId")
    (.text "Invalid ObjectId format")).mpr hidentifier
  have hmatch : Regex.hasMatch objectIdPattern .none text = .ok true :=
    (Value.satisfies_pattern_iff rfl).mp (hmeets _ List.mem_cons_self)
  have hpattern : PatternReading.unlessBlank.Holds objectIdPattern text :=
    ⟨true, hmatch, iff_of_true rfl fun c hc => Text.not_isAsciiBlank_of_isHexDigit (hdigits c hc)⟩
  have hsize : Measure.length.of? (.text text) = some (.int 24) := by
    simp [Measure.of?, Value.asText?, hlong]
  have hkept : (Number.int 24).lt (.int 24) = false := by decide
  refine List.forall_mem_cons.mpr ⟨fun reading hreading => ?_, List.forall_mem_cons.mpr
    ⟨fun reading _ => ?_, List.forall_mem_singleton.mpr fun reading _ => ?_⟩⟩
  · exact hreading rfl ▸ Value.obeys_pattern rfl rfl hpattern
  · exact Value.obeys_least rfl hsize hkept
  · exact Value.obeys_most rfl hsize hkept

/-- A text in lower case that is one of some, whatever the case, is stated among them. -/
theorem obeys_oneOf {allowed : List TextValue} {message : Value} {text : String}
    {reading : PatternReading} (hlower : Text.lowercase text = text)
    (h : (oneOf allowed message).check (.text text) = .ok none) :
    ∀ hint ∈ (oneOf allowed message).hints, (Value.text text).Obeys reading hint.1 hint.2 := by
  have hoption : isOneOf allowed text = true := by
    have hanswer := Except.ok.inj h
    split at hanswer
    · assumption
    · cases hanswer
  rw [isOneOf, hlower, List.contains_iff_mem] at hoption
  obtain ⟨option, hmem, rfl⟩ := List.mem_map.mp hoption
  exact List.forall_mem_singleton.mpr (Value.obeys_options rfl (List.mem_map_of_mem hmem))

/-- A text that a pattern accepts has a match of it under its flags. -/
theorem obeys_matching (source : TextValue) (flags : Flags) {message : Value} {text : String}
    (h : (pattern (.ofTextValue source) (.int flags.toNat) message).check (.text text) = .ok none) :
    ∀ hint ∈ (pattern (.ofTextValue source) (.int flags.toNat) message).hints,
      (Value.text text).Obeys (.under flags) hint.1 hint.2 :=
  List.forall_mem_singleton.mpr (Value.obeys_pattern (Value.asText?_ofTextValue source) rfl
    (FormatCheck.hasMatch_of_check rfl h))

/-- **One refinement**: a value that it accepts, in lower case where it looks at allowed values,
obeys its hints, under its reading if it documents a pattern. -/
theorem obeys_of_check (hr : r.IsWorded overrides field) (hkind : r.ruleKind.Holds v)
    (hlower : r.kind = .oneOf → ∀ text, v = .text text → Text.lowercase text = text)
    (h : r.check v = .ok none) :
    ∀ hint ∈ r.hints, ∀ reading, (hint.1 = "pattern" → r.patternReading? = some reading) →
      v.Obeys reading hint.1 hint.2 := by
  intro hint hhint reading hreading
  cases hr with
  | limit measure isLeast n => exact obeys_limit h hint hhint
  | email =>
    obtain rfl := List.mem_singleton.mp hhint
    exact Value.obeys_of_notMem (by decide)
  | pattern source own =>
    obtain ⟨text, rfl⟩ := hkind
    obtain rfl := List.mem_singleton.mp hhint
    obtain rfl : .under own = reading := by
      have hown := Option.some.inj (hreading rfl)
      rwa [Value.asIndex?, Option.elim_some, Flags.ofInt_toNat] at hown
    exact obeys_matching source own h _ List.mem_cons_self
  | oneOf allowed =>
    obtain ⟨text, rfl⟩ := hkind
    exact obeys_oneOf (hlower rfl text rfl) h hint hhint
  | strong =>
    obtain ⟨text, rfl⟩ := hkind
    obtain rfl := List.mem_singleton.mp hhint
    obtain rfl : .under Flags.none = reading := Option.some.inj (hreading rfl)
    exact obeys_matching (.plain passwordPattern) .none h _ List.mem_cons_self
  | objectId =>
    obtain ⟨text, rfl⟩ := hkind
    exact obeys_objectId h hint hhint reading fun hname =>
      (Option.some.inj (hreading hname)).symm
  | lowercase => cases hhint

end Refinement

/-! ## What is stated last -/

namespace Rule

/-- How the pattern that is documented is read: as the last refinement that documents one does. -/
def patternReading (refinements : List Refinement) : PatternReading :=
  (refinements.reverse.findSome? Refinement.patternReading?).getD (.under .none)

/-- The hint that is left of several is that of some refinement, of the last one if it is about a
pattern. -/
theorem exists_of_lookup_hints {refinements : List Refinement} {keyword : String} {stated : Value}
    (h : (refinements.flatMap Refinement.hints).reverse.lookup keyword = some stated) :
    ∃ r ∈ refinements, (keyword, stated) ∈ r.hints ∧
      (keyword = "pattern" → r.patternReading? = some (patternReading refinements)) := by
  obtain ⟨reversed, rfl⟩ : ∃ reversed, refinements = reversed.reverse :=
    ⟨refinements.reverse, (List.reverse_reverse _).symm⟩
  induction reversed with
  | nil => cases h
  | cons last before ih =>
    have hreading : patternReading (last :: before).reverse =
        (last.patternReading?.or
          (before.findSome? Refinement.patternReading?)).getD (.under .none) := by
      rw [patternReading, List.reverse_reverse, List.findSome?_cons]
      cases last.patternReading? <;> rfl
    rw [List.reverse_cons, List.flatMap_append, List.flatMap_singleton, List.reverse_append,
      List.lookup_append] at h
    cases hlast : last.hints.reverse.lookup keyword with
    | some own =>
      rw [hlast, Option.some_or] at h
      obtain rfl := Option.some.inj h
      obtain ⟨first, rest, hsplit, -⟩ := List.lookup_eq_some_iff.mp hlast
      have hmem : (keyword, own) ∈ last.hints := List.mem_reverse.mp (by simp [hsplit])
      refine ⟨last, by simp, hmem, fun hpattern => ?_⟩
      have hdocuments : last.patternReading?.isSome = true := by
        rw [last.isSome_patternReading?, ← hpattern, hlast, Option.isSome_some]
      obtain ⟨reading, hown⟩ := Option.isSome_iff_exists.mp hdocuments
      rw [hreading, hown]
      rfl
    | none =>
      rw [hlast, Option.none_or] at h
      obtain ⟨r, hr, hmem, hown⟩ := ih h
      refine ⟨r, ?_, hmem, fun hpattern => ?_⟩
      · rw [List.reverse_cons]
        exact List.mem_append_left _ hr
      · have hnone : last.patternReading? = none := by
          rw [← Option.isNone_iff_eq_none, ← Option.not_isSome, last.isSome_patternReading?,
            ← hpattern, hlast]
          rfl
        rw [hown hpattern, hreading, hnone, Option.none_or, patternReading, List.reverse_reverse]

/-- What is said of the parts of a value stays when hints are added to it. -/
theorem lookup_addHints {refinements : List Refinement} {base extra : List (String × Value)}
    {keyword : String} (hkeyword : keyword = "items" ∨ keyword = "$ref")
    (hextra : ∀ entry ∈ extra, entry.1 = "default" ∨ entry.1 = "title") :
    (addHints refinements base ++ extra).reverse.lookup keyword =
      base.reverse.lookup keyword := by
  have hother : ∀ other : List (String × Value), (∀ entry ∈ other, keyword ≠ entry.1) →
      other.reverse.lookup keyword = none := fun other hother =>
    List.lookup_eq_none_iff.mpr fun entry hentry =>
      bne_iff_ne.mpr (hother entry (List.mem_reverse.mp hentry))
  have hextraOther : ∀ entry ∈ extra, keyword ≠ entry.1 := by
    intro entry hentry
    rcases hextra entry hentry with hname | hname <;> rcases hkeyword with rfl | rfl <;>
      rw [hname] <;> decide
  have hhintsOther : ∀ hint ∈ refinements.flatMap Refinement.hints, keyword ≠ hint.1 := by
    rintro hint hhint rfl
    obtain ⟨r, -, hr⟩ := List.mem_flatMap.mp hhint
    rcases r.hint_mem hint hr with hname | hname <;> rcases hkeyword with hkeyword | hkeyword <;>
      rw [hkeyword] at hname <;> exact absurd hname (by decide)
  rw [addHints, List.append_assoc, List.reverse_append, List.reverse_append, List.lookup_append,
    List.lookup_append, hother _ hextraOther, hother _ hhintsOther, Option.none_or, Option.none_or]

/-- A value obeys all that a document states, the pattern as the refinements read it. -/
def MeetsDocument (refinements : List Refinement) (document v : Value) : Prop :=
  ∃ entries : Entries, document = .map entries ∧ ∀ keyword stated,
    entries.getText? keyword = some stated → v.Obeys (patternReading refinements) keyword stated

/-- Refinements accept what they hand on, if only the first of them changes values. -/
theorem checks_of_checkRefinements {refinements : List Refinement} {input v w : Value}
    (hlower : ∀ r ∈ refinements.tail, r.kind ≠ .lowercase)
    (h : checkRefinements input refinements v = .ok (.accepted w)) :
    ∀ r ∈ refinements, r.check w = .ok none := by
  cases refinements with
  | nil => exact List.forall_mem_nil _
  | cons r rest =>
    obtain ⟨hcheck, hrest⟩ := checkRefinements_cons_eq_accepted h
    obtain ⟨rfl, hothers⟩ := checkRefinements_eq_accepted hlower hrest
    exact List.forall_mem_cons.mpr ⟨hcheck, hothers⟩

/-- What refinements hand on is in lower case when the first of them says so. -/
theorem lowercase_of_checkRefinements {refinements : List Refinement} {input v : Value}
    {text : String} (hlower : ∀ r ∈ refinements.tail, r.kind ≠ .lowercase)
    (hhead : refinements.head? = some .lowercase)
    (h : checkRefinements input refinements v = .ok (.accepted (.text text))) :
    Text.lowercase text = text := by
  cases refinements with
  | nil => cases hhead
  | cons r rest =>
    obtain rfl := Option.some.inj hhead
    obtain ⟨-, hrest⟩ := checkRefinements_cons_eq_accepted h
    obtain ⟨hsame, -⟩ := checkRefinements_eq_accepted hlower hrest
    have hagain := Refinement.lowercase.transform_transform v
    rw [← hsame] at hagain
    exact Value.text.inj hagain

variable {policy : ObjectPolicy} {overrides : Overrides} {field : TextValue}

/-- **Refinements of a rule**: what they hand on meets the document that they add their hints to,
whatever else it states, as long as nothing else restricts values. -/
theorem meetsDocument_of_checkRefinements {facts : RuleFacts} {kind : RuleKind}
    (hfits : facts.Fits kind) (hworded : ∀ r ∈ facts.refinements, r.IsWorded overrides field)
    (hlower : ComparesInLowercase facts.refinements) {input v w : Value} (hv : kind.Holds v)
    (h : checkRefinements input facts.refinements v = .ok (.accepted w))
    {base extra : List (String × Value)} (hbase : ∀ entry ∈ base, entry.1 ∉ constraintKeywords)
    (hextra : ∀ entry ∈ extra, entry.1 ∉ constraintKeywords) (parent : String) :
    MeetsDocument facts.refinements
      ((saying (addHints facts.refinements base ++ extra)).sortKeys parent) w := by
  obtain ⟨entries, hentries, hkept⟩ :=
    exists_sortKeys_saying (addHints facts.refinements base ++ extra) parent
  refine ⟨entries, hentries, fun keyword stated hstated => ?_⟩
  rw [hkept] at hstated
  obtain ⟨said, hsaid, rfl⟩ := Option.map_eq_some_iff.mp hstated
  refine Value.Obeys.sortKeys ?_ keyword
  by_cases hkeyword : keyword ∈ constraintKeywords
  · have hnone : ∀ other : List (String × Value),
        (∀ entry ∈ other, entry.1 ∉ constraintKeywords) → other.reverse.lookup keyword = none := by
      refine fun other hother => List.lookup_eq_none_iff.mpr fun entry hentry => ?_
      exact bne_iff_ne.mpr fun hsame => hother entry (List.mem_reverse.mp hentry) (hsame ▸ hkeyword)
    rw [addHints, List.append_assoc, List.reverse_append, List.reverse_append, List.lookup_append,
      List.lookup_append, hnone extra hextra, hnone base hbase, Option.none_or, Option.or_none]
      at hsaid
    obtain ⟨r, hr, hhint, hreading⟩ := exists_of_lookup_hints hsaid
    have hw : kind.Holds w :=
      kept_of_checkRefinements (fun r _ _ => r.holds_transform) v hv h
    have hcase : r.kind = .oneOf → ∀ text, w = .text text → Text.lowercase text = text := by
      rintro hkind text rfl
      exact lowercase_of_checkRefinements hfits.lowerFirst (hlower ⟨r, hr, hkind⟩) h
    exact Refinement.obeys_of_check (hworded r hr) (hfits.ruleKind_eq r hr ▸ hw) hcase
      (checks_of_checkRefinements hfits.lowerFirst h r hr) _ hhint _ hreading
  · exact Value.obeys_of_notMem hkeyword

/-! ## Values with parts -/

mutual

/-- A value follows the document of a rule: it obeys what is stated about it, and its parts follow
what is documented for them, in the items of an array and in the model that an object refers to. -/
def Follows (defines : String → Value → Prop) (rule : Rule) (document w : Value) : Prop :=
  match rule with
  | .leaf facts _ => MeetsDocument facts.refinements document w
  | .array facts item => MeetsDocument facts.refinements document w ∧
    ∃ parts, w = .list parts ∧ ∀ part ∈ parts, Follows defines item (document.stated "items") part
  | .object facts fields => MeetsDocument facts.refinements document w ∧
    ∃ name model outcomes, document.stated "$ref" = .text ("#/$defs/" ++ name) ∧
      defines name model ∧ w = .map (Entries.ofPairs (outputOf fields 0 outcomes)) ∧
      FieldsFollow defines fields (model.stated "properties") outcomes

/-- What fields come to follows what is documented under their names. -/
def FieldsFollow (defines : String → Value → Prop) (fields : List (TextValue × Rule))
    (properties : Value) (outcomes : List (Option Value)) : Prop :=
  match fields, outcomes with
  | [], [] => True
  | (name, rule) :: rest, outcome :: others =>
    (∀ w, outcome = some w → Follows defines rule (properties.stated name.text) w) ∧
      FieldsFollow defines rest properties others
  | _, _ => False

end

variable {defines : String → Value → Prop}

theorem FieldsFollow.of_forall {properties : Value} {input earlier : Entries}
    {fields : List (TextValue × Rule)} {index : Nat} {outcomes : List (Option Value)}
    (h : FieldOutcomes policy input fields index earlier outcomes)
    (hfields : ∀ field ∈ fields, ∀ v w, Accepts policy field.2 v w →
      Follows defines field.2 (properties.stated field.1.text) w) :
    FieldsFollow defines fields properties outcomes := by
  induction h with
  | nil => trivial
  | cons first others ih =>
    obtain ⟨hfirst, hrest⟩ := List.forall_mem_cons.mp hfields
    refine ⟨?_, ih hrest⟩
    rintro w rfl
    obtain ⟨v, -, haccepts⟩ := first.exists_supplied
    exact hfirst v w haccepts

theorem describeKind_notMem (kind : RuleKind) :
    ∀ entry ∈ describeKind kind, entry.1 ∉ constraintKeywords := by
  cases kind <;> simp [describeKind, constraintKeywords]

/-- A field of an object is documented, with the models that it refers to, among those of all. -/
theorem exists_of_mem_fields {fields : List (TextValue × Rule)} {field : TextValue × Rule}
    (hfield : field ∈ fields) (path : String) (done : Nat) :
    ∃ before, (Value.ofTextValue field.1, describeField field.1 field.2.facts.default?
        (describe policy field.2 (fieldPath path field.1) before)) ∈
          (describeFields policy fields path done).properties ∧
      ∀ entry ∈ (describe policy field.2 (fieldPath path field.1) before).models,
        entry ∈ (describeFields policy fields path done).models := by
  induction fields generalizing done with
  | nil => cases hfield
  | cons first rest ih =>
    obtain ⟨name, rule⟩ := first
    rcases List.mem_cons.mp hfield with rfl | hrest
    · exact ⟨done, List.mem_cons_self, fun entry hentry => List.mem_append_left _ hentry⟩
    · obtain ⟨before, hproperty, hmodels⟩ := ih hrest (done + modelCount rule)
      exact ⟨before, List.mem_cons_of_mem _ hproperty,
        fun entry hentry => List.mem_append_right _ (hmodels entry hentry)⟩

/-- What a document says of a field beside its values. -/
theorem exists_describeField (name : TextValue) (default? : Option Value) (described : Described) :
    ∃ extra : List (String × Value), describeField name default? described =
        saying (described.entries ++ extra) ∧
      ∀ entry ∈ extra, entry.1 = "default" ∨ entry.1 = "title" := by
  refine ⟨_, by rw [describeField, List.append_assoc], fun entry hentry => ?_⟩
  rcases List.mem_append.mp hentry with hdefault | htitle
  · left
    unfold describeDefault at hdefault
    split at hdefault
    · cases hdefault
    · split at hdefault
      · cases hdefault
      · rename_i v _
        obtain ⟨form, -, rfl⟩ : ∃ form, v.jsonForm? = some form ∧ ("default", form) = entry := by
          simpa using hdefault
        rfl
  · right
    split at htitle
    · cases htitle
    · rw [List.mem_singleton.mp htitle]

/-- **What a rule accepts** follows what is said of the rule, in a document that defines the models
it refers to. -/
theorem follows_of_accepts {rule : Rule} (hwell : rule.IsWellFormed)
    (hworded : rule.IsWorded overrides field) (hlower : rule.Throughout ComparesInLowercase)
    {path : String} {done : Nat}
    (hmodels : ∀ entry ∈ (describe policy rule path done).models,
      defines entry.1 (entry.2.sortKeys entry.1))
    {extra : List (String × Value)}
    (hextra : ∀ entry ∈ extra, entry.1 = "default" ∨ entry.1 = "title")
    (parent : String) {v w : Value} (h : Accepts policy rule v w) :
    Follows defines rule
      ((saying ((describe policy rule path done).entries ++ extra)).sortKeys parent) w := by
  have hnoConstraint : ∀ extra : List (String × Value),
      (∀ entry ∈ extra, entry.1 = "default" ∨ entry.1 = "title") →
      ∀ entry ∈ extra, entry.1 ∉ constraintKeywords := by
    intro extra hextra entry hentry
    rcases hextra entry hentry with hname | hname <;> rw [hname] <;> decide
  induction hwell generalizing field path done extra parent v w with
  | leaf hfits =>
    cases hworded with
    | leaf hfacts =>
      obtain ⟨path', done', h⟩ := h
      rw [check] at h
      obtain ⟨u, hkind, hrefine⟩ := exists_of_gives_refineVerdict h
      rw [Follows, describe]
      exact meetsDocument_of_checkRefinements hfits hfacts hlower.refinements
        (RuleKind.holds_of_check hkind) hrefine (describeKind_notMem _)
        (hnoConstraint extra hextra) parent
  | @array facts item hfits hitem ih =>
    cases hworded with
    | array hfacts hwordedItem =>
      obtain ⟨items, parts, -, hw, hparts, hrefine⟩ := h.array
      rw [Follows, describe]
      refine ⟨meetsDocument_of_checkRefinements hfits hfacts hlower.refinements
        ⟨parts, rfl⟩ hrefine ?_ (hnoConstraint extra hextra) parent, parts, hw, ?_⟩
      · simp [constraintKeywords]
      · intro part hpart
        obtain ⟨given, -, hgiven⟩ := exists_of_mem_forall₂ hparts.flip part hpart
        rw [stated_sortKeys_saying ((lookup_addHints (.inl rfl) hextra).trans rfl),
          ← List.append_nil (describe policy item path done).entries]
        exact ih hwordedItem hlower.item hmodels (List.forall_mem_nil _) "items" hgiven
  | @object facts fields hfits hdistinct _ ih =>
    cases hworded with
    | object hfacts hwordedFields =>
      obtain ⟨path', done', h⟩ := h
      obtain ⟨input, output, -, hw, hgives⟩ := exists_of_gives_object h
      obtain ⟨outcomes, houtcomes, rfl⟩ := fieldOutcomes_of_gives hgives
      rw [describe] at hmodels
      rw [Follows, describe]
      refine ⟨?_, _, _, outcomes, ?_, hmodels _ (List.mem_append_right _ List.mem_cons_self), hw,
        .of_forall houtcomes fun part hpart v w haccepts => ?_⟩
      · have hnil : checkRefinements w facts.refinements w = .ok (.accepted w) := by
          rw [hfits.eq_nil (by decide)]
          rfl
        exact meetsDocument_of_checkRefinements hfits hfacts hlower.refinements ⟨_, hw⟩ hnil
          (by simp [constraintKeywords]) (hnoConstraint extra hextra) parent
      · rw [stated_sortKeys_saying ((lookup_addHints (.inr rfl) hextra).trans rfl)]
        rfl
      · obtain ⟨before, hproperty, hinner⟩ := exists_of_mem_fields hpart path done
        obtain ⟨key, hstated⟩ := exists_getText?_properties hdistinct path done part.1 hproperty rfl
        obtain ⟨more, hdescribed, hmore⟩ := exists_describeField part.1 part.2.facts.default?
          (describe policy part.2 (fieldPath path part.1) before)
        rw [stated_modelDocument, hstated, hdescribed]
        exact ih part hpart (hwordedFields part hpart) (hlower.fields part hpart)
          (fun entry hentry => hmodels entry (List.mem_append_left _ (hinner entry hentry)))
          hmore key haccepts

end Rule

/-! ## Schemas -/

namespace ValidationSchema

variable {schema : ValidationSchema} {fields : List (TextValue × Rule)}

/-- A model that a schema says of objects inside it, with its keys in order. -/
def Defines (schema : ValidationSchema) (name : String) (model : Value) : Prop :=
  ∃ said, (name, said) ∈ schema.said.models ∧ model = said.sortKeys name

/-- The output of a schema is made of what the fields come to that an input is checked against. -/
theorem exists_outcomes_of_parse (hrule : schema.rule = .ofFields fields) {data : Value}
    {history : CallHistory} {document : Entries}
    (h : (schema.parse data history).1.result = .ok document) :
    ∃ input outcomes, document = Entries.ofPairs (Rule.outputOf schema.inputFields 0 outcomes) ∧
      Rule.FieldOutcomes schema.policy input schema.inputFields 0 [] outcomes := by
  let full : ValidationSchema := { schema with rule := schema.inputRule, isPartial := false }
  have hparse : (full.parse data history).1.result = .ok document := by
    have hcheck : full.check data = schema.check data := (check_eq_checkObject hrule).symm
    unfold parse at h ⊢
    rw [hcheck]
    split at h
    · exact h
    · cases h
    · cases h
  have hwhole : full.isPartial = false := rfl
  obtain ⟨input, output, -, rfl, hgives⟩ := exists_of_parse hwhole hparse
  obtain ⟨outcomes, houtcomes, rfl⟩ := Rule.fieldOutcomes_of_gives hgives
  exact ⟨input, outcomes, rfl, houtcomes⟩

/-- The fields that an input is checked against have different names and rules as definitions have
them. -/
theorem wellFormed_inputFields (hrule : schema.rule = .ofFields fields)
    (hwell : schema.rule.IsWellFormed) : (Rule.fieldTexts schema.inputFields).Nodup ∧
      ∀ part ∈ schema.inputFields, part.2.IsWellFormed := by
  have hinput := isWellFormed_inputRule hrule hwell
  obtain ⟨own, hown⟩ := exists_inputRule hrule
  rw [inputFields, hown]
  rw [hown] at hinput
  cases hinput with
  | object _ hdistinct hparts => exact ⟨hdistinct, hparts⟩

/-- **The document of a schema.**  What the schema of a definition gives out, or its partial schema,
follows the document of that schema: at every depth, what a field comes to keeps every bound, is
among the options, and has a match of the pattern that is stated under the name of the field, under
the flags of the refinement that states the pattern; the pattern of object identifiers has a match
exactly where no blank stands.  Every model that is referred to is found under its name, when every
field has one. -/
theorem documented_of_parse {options : ValidationOptions} {definition : Value}
    (hkeys : definition.IsWellKeyed) {schema : ValidationSchema}
    (hschema : (ofDefinition options definition).result = .ok schema) :
    ∀ view, view = schema ∨ view = schema.asPartial →
      (∀ data history document, (view.parse data history).1.result = .ok document →
        ∃ outcomes, document = Entries.ofPairs (Rule.outputOf view.inputFields 0 outcomes) ∧
          Rule.FieldsFollow view.Defines view.inputFields (view.document.stated "properties")
            outcomes) ∧
      (schema.rule.hasNames = true → ∀ name model, view.Defines name model →
        (view.document.stated "$defs").stated name = model) := by
  obtain ⟨hrule, -⟩ := ofDefinition_eq_ok hschema
  obtain ⟨hwell, forms, fields, -, hfields, -⟩ := Rule.isWellFormed_ofDefinition hrule hkeys
  have hworded := Rule.isWorded_ofDefinition hrule (.plain "")
  have hlower := Rule.throughout_comparesInLowercase hrule
  intro view hview
  have hviewRule : view.rule = .ofFields fields := by rcases hview with rfl | rfl <;> exact hfields
  have hviewWell : view.rule.IsWellFormed := by rcases hview with rfl | rfl <;> exact hwell
  have hparts : ∀ part ∈ view.inputFields, part.2.IsWorded options.overrides part.1 ∧
      part.2.Throughout Rule.ComparesInLowercase := by
    rw [hfields] at hworded hlower
    have hown : ∀ part ∈ fields, part.2.IsWorded options.overrides part.1 ∧
        part.2.Throughout Rule.ComparesInLowercase :=
      fun part hpart => ⟨hworded.fields part hpart, hlower.fields part hpart⟩
    rw [inputFields_eq hviewRule]
    split
    · refine List.forall_mem_map.mpr fun part hpart => ?_
      obtain ⟨hpartWorded, hpartLower⟩ := hown part hpart
      exact ⟨hpartWorded.withFacts hpartWorded.facts, hpartLower.withFacts hpartLower.refinements⟩
    · exact hown
  refine ⟨fun data history document hparse => ?_, ?_⟩
  · obtain ⟨input, outcomes, hdocument, houtcomes⟩ := exists_outcomes_of_parse hviewRule hparse
    refine ⟨outcomes, hdocument, .of_forall houtcomes fun part hpart v w haccepts => ?_⟩
    obtain ⟨hdistinct, hpartsWell⟩ := wellFormed_inputFields hviewRule hviewWell
    obtain ⟨hpartWorded, hpartLower⟩ := hparts part hpart
    obtain ⟨before, hproperty, hmodels⟩ := Rule.exists_of_mem_fields hpart "" 0
    obtain ⟨key, hstated⟩ := Rule.exists_getText?_properties hdistinct "" 0 part.1 hproperty rfl
    obtain ⟨more, hdescribed, hmore⟩ := Rule.exists_describeField part.1 part.2.facts.default?
      (Rule.describe view.policy part.2 (Rule.fieldPath "" part.1) before)
    rw [stated_properties hviewRule, said, hstated, hdescribed]
    exact Rule.follows_of_accepts (hpartsWell part hpart) hpartWorded hpartLower
      (fun entry hentry => ⟨entry.2, hmodels entry hentry, rfl⟩) hmore key haccepts
  · rintro hnames name model ⟨said, hsaid, rfl⟩
    rw [hfields] at hnames
    exact stated_defs hviewRule hnames hsaid

/-- A pattern whatever the case of the letters. -/
def letters : Value := .pattern "^abc$" { ignoreCase := true, unicode := true }

/-- A definition of a field with the pattern, and of one with a bound. -/
def flagged : Value :=
  .map [(.text "code", .map [(.text "type", .text "String"), (.text "regex", letters)]),
    (.text "size", .map [(.text "type", .text "Number"), (.text "min", .int 5)])]

/-- The rule of the first field. -/
def codeRule : Rule :=
  .leaf { refinements := [.pattern (.text "^abc$") (.int 2)
    (Message.ofPattern .none (.plain "code") "^abc$")] } .string

/-- The rule of the second field. -/
def sizeRule : Rule :=
  .leaf { refinements := [.bounds .number (.int 5) .null (.text "Min value for size is 5")] }
    .number

/-- The schema of the definition. -/
def flaggedSchema : ValidationSchema where
  rule := .ofFields [(.plain "code", codeRule), (.plain "size", sizeRule)]

theorem ofForm_letters : (Rule.ofForm .none (.plain "code")
    (.single ⟨.text "String", [(.text "regex", letters)]⟩)).result = .ok codeRule := by
  have hcompiles : (Regex.compile "^abc$" { ignoreCase := true }).toOption.isSome = true := by
    decide +kernel
  have hadds : Rule.matchPattern .none (.plain "code") (.ofKind .string []) letters =
      .ok codeRule := by
    cases hcompile : Regex.compile "^abc$" { ignoreCase := true } with
    | ok regex =>
      rw [letters, Rule.matchPattern]
      exact (if_pos rfl).trans (Rule.matching_of_compile hcompile)
    | error failure =>
      rw [hcompile] at hcompiles
      cases hcompiles
  have hmodifiers : Rule.applyModifiers .none (.plain "code") (.ofKind .string [])
      [(.text "regex", letters)] = .ok codeRule := by
    have hregex : ∀ v, Rule.applyModifier .none (.plain "code") (.ofKind .string []) "regex" v =
        Rule.matchPattern .none (.plain "code") (.ofKind .string []) v := fun _ => rfl
    rw [Rule.applyModifiers_singleton rfl, hregex, hadds]
  have htype : (Value.text "String").category? = some .string := by with_unfolding_all rfl
  have hstart : (Rule.ofType .none (.plain "code") .string
      ⟨.text "String", [(.text "regex", letters)]⟩).result = .ok (.ofKind .string []) := by
    unfold Rule.ofType
    rfl
  have hfinish : Rule.finish (.plain "code") ⟨.text "String", [(.text "regex", letters)]⟩
      codeRule = codeRule := by
    rw [Rule.finish, Rule.strengthen, if_neg (by simp [FieldSpec.has, Value.asText?]), Rule.relax,
      if_neg (by simp [FieldSpec.has, Value.asText?])]
  rw [← hfinish]
  exact Rule.ofForm_single htype hstart hmodifiers

theorem ofDefinition_flagged : (ofDefinition {} flagged).result = .ok flaggedSchema := by
  have hsize : (Rule.ofForm .none (.plain "size") (.single ⟨.text "Number",
      [(.text "min", .int 5)]⟩)).result = .ok sizeRule := by
    rw [Rule.ofForm]
    unfold Rule.ofType
    with_unfolding_all rfl
  have hforms : (Rule.ofForms .none [(.plain "code", .single ⟨.text "String",
      [(.text "regex", letters)]⟩), (.plain "size", .single ⟨.text "Number",
        [(.text "min", .int 5)]⟩)]).result = .ok flaggedSchema.fields := by
    rw [Rule.ofForms, Rule.ofForms, Rule.ofForms]
    exact Logged.result_andThen_eq_ok_iff.mpr ⟨codeRule, ofForm_letters,
      Logged.result_andThen_eq_ok_iff.mpr ⟨_, Logged.result_andThen_eq_ok_iff.mpr
        ⟨_, hsize, rfl⟩, rfl⟩⟩
  refine Logged.result_andThen_eq_ok_iff.mpr ⟨flaggedSchema.rule,
    Logged.result_andThen_eq_ok_iff.mpr ⟨_, rfl, ?_⟩, rfl⟩
  rw [Rule.ofParts]
  exact Logged.result_andThen_eq_ok_iff.mpr ⟨_, hforms, rfl⟩

/-- An input with the letters in upper case. -/
def flaggedData : Value := .map [(.text "code", .text "ABC"), (.text "size", .int 7)]

/-- The first rule accepts the letters as they are. -/
theorem check_codeRule (policy : Rule.ObjectPolicy) (path : String) (done : Nat) :
    Rule.check policy codeRule path done (.text "ABC") = .value (.accepted (.text "ABC")) := by
  have hfound : ((Regex.ofValues (.text "^abc$") (.int 2)).bind fun regex => regex.search "ABC") =
      .ok true := by decide +kernel
  have haccepts : ∀ message, (Refinement.pattern (.text "^abc$") (.int 2) message).check
      (.text "ABC") = .ok none := by
    intro message
    rw [Refinement.check_of_text (fun _ => RefinementKind.noConfusion) rfl, Refinement.checkText,
      hfound]
    rfl
  rw [codeRule, Rule.check]
  show Checking.ofExcept (Rule.checkRefinements _ _ (.text "ABC")) = _
  rw [Rule.checkRefinements]
  dsimp only [Refinement.transform]
  rw [haccepts]
  rfl

theorem parse_flagged : (flaggedSchema.parse flaggedData .empty).1.result =
    .ok [(.text "code", .text "ABC"), (.text "size", .int 7)] := by
  have hparse : ∀ code : Rule, (∀ policy path done, Rule.check policy code path done (.text "ABC") =
      .value (.accepted (.text "ABC"))) →
      (parse { rule := .ofFields [(.plain "code", code), (.plain "size", sizeRule)] } flaggedData
        .empty).1.result = .ok [(.text "code", .text "ABC"), (.text "size", .int 7)] := by
    intro code hcode
    have hfields : ∀ policy, Rule.checkFields policy
        [(.plain "code", code), (.plain "size", sizeRule)] "" 0 0 {}
        [(.text "code", .text "ABC"), (.text "size", .int 7)] =
          .value (.accepted [(.text "code", .text "ABC"), (.text "size", .int 7)]) := by
      intro policy
      have hfirst : Rule.checkField policy "" 0 0 {} (.plain "code") code (some (.text "ABC")) =
          .value (.accepted (some (.text "ABC"))) := by
        rw [Rule.checkField]
        dsimp only
        rw [hcode]
        rfl
      rw [Rule.checkFields_cons, show Entries.getText? _ (TextValue.plain "code").text =
        some (Value.text "ABC") from rfl, hfirst, Checking.value_andThen]
      with_unfolding_all rfl
    unfold parse check Rule.checkObject
    simp only [flaggedData, Rule.ofFields, Rule.fields?, Option.getD_some, Bool.false_eq_true,
      if_false]
    rw [hfields]
    with_unfolding_all rfl
  unfold flaggedSchema
  exact hparse codeRule check_codeRule

/-- The letters are accepted in upper case, and the pattern that the document states without its
flags has no match in them. -/
theorem documented_of_parse_flagged :
    flagged.IsWellKeyed ∧ (ofDefinition {} flagged).result = .ok flaggedSchema ∧
      (flaggedSchema.parse flaggedData .empty).1.result =
        .ok [(.text "code", .text "ABC"), (.text "size", .int 7)] ∧
      (∃ outcomes, [(.text "code", .text "ABC"), (.text "size", .int 7)] =
          Entries.ofPairs (Rule.outputOf flaggedSchema.inputFields 0 outcomes) ∧
        Rule.FieldsFollow flaggedSchema.Defines flaggedSchema.inputFields
          (flaggedSchema.document.stated "properties") outcomes) ∧
      ((flaggedSchema.document.stated "properties").stated "code").stated "pattern" =
        .text "^abc$" ∧
      Rule.patternReading codeRule.facts.refinements = .under { ignoreCase := true } ∧
      Regex.hasMatch "^abc$" { ignoreCase := true } "ABC" = .ok true ∧
      Regex.hasMatch "^abc$" .none "ABC" = .ok false := by
  have hkeys : flagged.IsWellKeyed := by
    simp [flagged, letters, Value.IsWellKeyed, Value.EntriesAreWellKeyed, Entries.HasDistinctKeys,
      Value.equals, Value.asText?]
  have hstated : ((flaggedSchema.document.stated "properties").stated "code").stated "pattern" =
      .text "^abc$" := by
    have hdistinct : (Rule.fieldTexts flaggedSchema.inputFields).Nodup :=
      show ["code", "size"].Nodup by decide
    have hrule : flaggedSchema.rule = .ofFields flaggedSchema.fields := rfl
    have hproperty : (Value.ofTextValue (.plain "code"), Rule.describeField (.plain "code") none
        (Rule.describe flaggedSchema.policy codeRule "code" 0)) ∈ flaggedSchema.said.properties :=
      List.mem_cons_self
    obtain ⟨parent, hcode⟩ :=
      Rule.exists_getText?_properties hdistinct "" 0 (.plain "code") hproperty rfl
    rw [stated_properties hrule, said, show "code" = (TextValue.plain "code").text from rfl, hcode]
    exact Rule.stated_sortKeys_saying (v := .text "^abc$") rfl parent
  exact ⟨hkeys, ofDefinition_flagged, parse_flagged,
    (documented_of_parse hkeys ofDefinition_flagged flaggedSchema (.inl rfl)).1 flaggedData .empty _
      parse_flagged, hstated, rfl, by decide +kernel, by decide +kernel⟩

end ValidationSchema

end FieldSchema
