import FieldSchema.Proofs.Calendar.ReadingBack
import FieldSchema.Proofs.Validation.Fitting

/-!
# Written dates

A rule for dates takes points in time as they are, days as their first moments, and texts that state
either.  Before a text is read, the letter Z is replaced in all of it by the offset zero; the letter
does not stand in the written form of a day or of a point in time, so the form is read as it is, and
a Z behind a form without an offset gives it one.

* `Text.replaceAll_append_of_not_mem`: replacing a character behind a text that does not hold it.
* `Value.dateTimeOfText?_toText`: texts that were written.
* `Rule.dates_read_back`: rules for dates on values and on their written forms.
-/

namespace FieldSchema

namespace Text

/-- Characters without the one to replace stay as they are in front of others. -/
theorem replaceChars_append_of_not_mem {c : Char} {new chars : List Char} (h : c ∉ chars)
    (rest : List Char) :
    replaceChars [c] new 0 (chars ++ rest) = chars ++ replaceChars [c] new 0 rest := by
  induction chars with
  | nil => rfl
  | cons d chars ih =>
    obtain ⟨hd, hchars⟩ := not_or.mp (mt List.mem_cons.mpr h)
    have hprefix : [c].isPrefixOf (d :: (chars ++ rest)) = false := by
      rw [List.isPrefixOf, beq_eq_false_iff_ne.mpr hd, Bool.false_and]
    rw [List.cons_append, replaceChars, hprefix, ih hchars]
    rfl

/-- A text without the character to replace stays as it is in front of another. -/
theorem replaceAll_append_of_not_mem {c : Char} {new text : String} (h : c ∉ text.toList)
    (rest : String) : replaceAll (.singleton c) new (text ++ rest) =
      text ++ replaceAll (.singleton c) new rest := by
  have hpart : (String.singleton c).isEmpty = false := by simp
  rw [← String.toList_inj]
  simp only [replaceAll, hpart, String.toList_append, String.toList_singleton, String.toList_ofList,
    replaceChars_append_of_not_mem h, Bool.false_eq_true, if_false]

end Text

open IsoText

/-! ## The letter for universal time -/

theorem IsoText.not_mem_padded (width n : Nat) : 'Z' ∉ (padded width n).toList := by
  intro h
  have hdigit := isDigit_of_mem_padded h
  revert hdigit
  decide

theorem IsoText.not_mem_fractionText (micros : Nat) : 'Z' ∉ (fractionText micros).toList := by
  rw [toList_fractionText]
  split
  · exact List.not_mem_nil
  · simp [not_mem_padded]

theorem IsoText.not_mem_offsetChars (offset : Option Offset) : 'Z' ∉ offsetChars offset := by
  cases offset with
  | none => exact List.not_mem_nil
  | some o =>
    have hseconds (seconds micros : Nat) : 'Z' ∉ offsetSeconds seconds micros := by
      unfold offsetSeconds
      split
      · exact List.not_mem_nil
      · simp [not_mem_padded, not_mem_fractionText]
    have hsign : 'Z' ≠ if o.micros < 0 then '-' else '+' := by
      split <;> decide
    rw [offsetChars, toList_offsetText]
    simp [not_mem_padded, hseconds, hsign]

theorem Date.not_mem_toText (d : Date) : 'Z' ∉ d.toText.toList := by
  rw [toList_toText]
  simp [not_mem_padded]

theorem DateTime.not_mem_toText (t : DateTime) : 'Z' ∉ t.toText.toList := by
  rw [toList_toText, TimeOfDay.toList_toText]
  simp [not_mem_padded, Date.not_mem_toText, not_mem_fractionText, not_mem_offsetChars]

/-- The point in time with the offset zero, by the same clock. -/
def DateTime.inUtc (t : DateTime) : DateTime :=
  { t with time := { t.time with offset := some ⟨0⟩ } }

/-- The offset zero is written behind a form that has none. -/
theorem DateTime.toText_inUtc {t : DateTime} (ht : t.time.offset = none) :
    t.inUtc.toText = t.toText ++ "+00:00" := by
  obtain ⟨date, hour, minute, second, micros, offset⟩ := t
  obtain rfl : offset = none := ht
  simp only [inUtc, toText, TimeOfDay.toText, String.append_assoc]
  rfl

namespace Value

/-- Behind a text without the letter, it is replaced in what follows. -/
theorem dateTimeOfText?_append {text : String} (h : 'Z' ∉ text.toList) (rest : String) :
    dateTimeOfText? (text ++ rest) = DateTime.read? (text ++ Text.replaceAll "Z" "+00:00" rest) :=
  congrArg DateTime.read? (Text.replaceAll_append_of_not_mem h rest)

/-- A text without the letter is read as it is. -/
theorem dateTimeOfText?_of_not_mem {text : String} (h : 'Z' ∉ text.toList) :
    dateTimeOfText? text = DateTime.read? text := by
  have hread := dateTimeOfText?_append h ""
  rwa [show Text.replaceAll "Z" "+00:00" "" = "" by decide, String.append_empty] at hread

/-- Written points in time are read back, but for offsets of less than a second. -/
theorem dateTimeOfText?_toText {t : DateTime} (ht : t.isValid = true) :
    dateTimeOfText? t.toText = some t.asRead := by
  rw [dateTimeOfText?_of_not_mem t.not_mem_toText, DateTime.read?_toText ht]

/-- A written day is read as its first moment. -/
theorem dateTimeOfText?_toText_date {d : Date} (hd : d.isValid = true) :
    dateTimeOfText? d.toText = some (.ofDate d) := by
  rw [dateTimeOfText?_of_not_mem d.not_mem_toText, DateTime.read?_toText_date hd]

/-- The letter behind a form without an offset gives it the offset zero. -/
theorem dateTimeOfText?_inUtc {t : DateTime} (ht : t.isValid = true)
    (hnaive : t.time.offset = none) : dateTimeOfText? (t.toText ++ "Z") = some t.inUtc := by
  have hvalid : t.inUtc.isValid = true := by
    obtain ⟨date, hour, minute, second, micros, offset⟩ := t
    obtain rfl : offset = none := hnaive
    exact ht
  have hsame : t.inUtc.asRead = t.inUtc := rfl
  rw [dateTimeOfText?_append t.not_mem_toText,
    show Text.replaceAll "Z" "+00:00" "Z" = "+00:00" by decide, ← DateTime.toText_inUtc hnaive,
    DateTime.read?_toText hvalid, hsame]

end Value

/-! ## Rules for dates -/

namespace Rule

/-- A rule for dates without refinements gives out what the check of its kind makes. -/
theorem check_date {inner : Rule} (hkind : inner.kind = .date)
    (hrefinements : inner.facts.refinements = []) (policy : ObjectPolicy) (path : String)
    (done : Nat) {v : Value} {t : DateTime} (h : RuleKind.checkDate v = .accepted (.dateTime t)) :
    inner.check policy path done v = .value (.accepted (.dateTime t)) := by
  cases inner with
  | leaf facts kind =>
    obtain rfl : kind = .date := hkind
    have hnone : facts.refinements = [] := hrefinements
    rw [check, hnone, RuleKind.check, h]
    rfl
  | array facts item => cases hkind
  | object facts fields => cases hkind

/-- The check of the kind on a text that states a point in time. -/
theorem checkDate_text {text : String} {t : DateTime} (h : Value.dateTimeOfText? text = some t) :
    RuleKind.checkDate (.text text) = .accepted (.dateTime t) := by
  simp only [RuleKind.checkDate, Value.asText?, h]

/-- **Dates are read back.**  Wherever a definition has a rule for dates, the rule accepts every
point in time as it is and every day as its first moment, and the written form of an existing day
like the day.  The form of an existing point in time without an offset, with the letter Z behind it,
is read as that point with the offset zero.  The form of any existing point in time is read as that
point, unless its offset is not zero but less than a second: the offset is then read as zero. -/
theorem dates_read_back {overrides : Overrides} {definition : Value}
    (hkeys : definition.IsWellKeyed) {rule inner : Rule}
    (hrule : (ofDefinition overrides definition).result = .ok rule) (hinner : rule.HasNode inner)
    (hdate : inner.kind = .date) (policy : ObjectPolicy) (path : String) (done : Nat) :
    (∀ t : DateTime,
      inner.check policy path done (.dateTime t) = .value (.accepted (.dateTime t)) ∧
      (t.isValid = true →
        inner.check policy path done (.text t.toText) = .value (.accepted (.dateTime t.asRead)) ∧
        (t.asRead = t ↔
          ∀ o, t.time.offset = some o → o.micros = 0 ∨ 1000000 ≤ o.micros.natAbs) ∧
        (t.time.offset = none → inner.check policy path done (.text (t.toText ++ "Z")) =
          .value (.accepted (.dateTime t.inUtc))))) ∧
    ∀ d : Date,
      inner.check policy path done (.date d) = .value (.accepted (.dateTime (.ofDate d))) ∧
      (d.isValid = true → inner.check policy path done (.text d.toText) =
        .value (.accepted (.dateTime (.ofDate d)))) := by
  have hfits := ((isWellFormed_ofDefinition hrule hkeys).1.of_hasNode hinner).fits
  have hnone : inner.facts.refinements = [] := hfits.eq_nil (by rw [hdate]; decide)
  have haccepts {v : Value} {t : DateTime} (h : RuleKind.checkDate v = .accepted (.dateTime t)) :
      inner.check policy path done v = .value (.accepted (.dateTime t)) :=
    check_date hdate hnone policy path done h
  refine ⟨fun t => ⟨haccepts rfl, fun ht => ⟨?_, DateTime.asRead_eq_self_iff, fun hnaive => ?_⟩⟩,
    fun d => ⟨haccepts rfl, fun hd => ?_⟩⟩
  · exact haccepts (checkDate_text (Value.dateTimeOfText?_toText ht))
  · exact haccepts (checkDate_text (Value.dateTimeOfText?_inUtc ht hnaive))
  · exact haccepts (checkDate_text (Value.dateTimeOfText?_toText_date hd))

/-- A definition of a field for dates. -/
def dated : Value := .map [(.text "at", .map [(.text "type", .text "Date")])]

/-- The rule of the field. -/
def dateRule : Rule := .leaf {} .date

theorem ofDefinition_dated : (ofDefinition {} dated).result =
    .ok (.ofFields [(.plain "at", dateRule)]) := by
  refine Logged.result_andThen_eq_ok_iff.mpr ⟨_, rfl, ?_⟩
  rw [ofParts, ofForms, ofForms, ofForm]
  unfold ofType
  with_unfolding_all rfl

/-- A point in time with an offset of a microsecond. -/
def shifted : DateTime := ⟨⟨2024, 1, 2⟩, ⟨3, 4, 5, 0, some ⟨1⟩⟩⟩

/-- The written form of the point in time is read, but without the offset. -/
theorem dates_read_back_shifted :
    dated.IsWellKeyed ∧ shifted.isValid = true ∧
      shifted.toText = "2024-01-02T03:04:05+00:00:00.000001" ∧ shifted.asRead ≠ shifted ∧
      dateRule.check ⟨"", false⟩ "at" 0 (.text shifted.toText) =
        .value (.accepted (.dateTime shifted.asRead)) := by
  have hkeys : dated.IsWellKeyed := by
    simp [dated, Value.IsWellKeyed, Value.EntriesAreWellKeyed, Entries.HasDistinctKeys,
      Value.equals, Value.asText?]
  have hnode : HasNode (.ofFields [(.plain "at", dateRule)]) dateRule :=
    .field List.mem_cons_self (.self dateRule)
  obtain ⟨htimes, -⟩ := dates_read_back hkeys ofDefinition_dated hnode rfl ⟨"", false⟩ "at" 0
  have hvalid : shifted.isValid = true := by decide
  obtain ⟨-, hwritten⟩ := htimes shifted
  refine ⟨hkeys, hvalid, by decide, by decide, (hwritten hvalid).1⟩

end Rule

end FieldSchema
