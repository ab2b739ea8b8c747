import FieldSchema.Proofs.Number.Digits

/-!
# The written forms of days and times determine them

The parts of a written day or time are numbers in digits, and between two of them stands a mark that
is no digit.  So the numbers can be read off one after the other, whatever their size, and the parts
that are left out when they are zero show by the mark that would come first.

* `IsoText.fraction_reads`: a fraction of a second, which may be left out.
* `Date.toText_injective`, `TimeOfDay.toText_injective`, `DateTime.toText_injective`.
-/

namespace FieldSchema

namespace IsoText

/-- Whether a rest may follow a number: no digit begins it. -/
def endsDigits (rest : List Char) : Bool := rest.head?.all fun c => !c.isDigit

/-- Whether a rest may follow seconds: neither a digit nor a point begins it. -/
def endsSeconds (rest : List Char) : Bool := rest.head?.all fun c => !c.isDigit && c != '.'

theorem endsDigits_of_endsSeconds {rest : List Char} (h : endsSeconds rest = true) :
    endsDigits rest = true := by
  cases rest with
  | nil => rfl
  | cons c rest => exact (Bool.and_eq_true_iff.mp h).1

/-- A padded number with a mark behind it. -/
theorem padded_mark_reads {width m n : Nat} {mark : Char} (hmark : mark.isDigit = false)
    {r s : List Char}
    (h : (padded width m).toList ++ mark :: r = (padded width n).toList ++ mark :: s) :
    m = n ∧ r = s := by
  have hends (t : List Char) : endsDigits (mark :: t) = true := by
    simp [endsDigits, hmark]
  obtain ⟨hsame, hrest⟩ := padded_reads (hends r) (hends s) h
  exact ⟨hsame, (List.cons_eq_cons.mp hrest).2⟩

/-! ## Fractions and offsets -/

theorem toList_fractionText (micros : Nat) :
    (fractionText micros).toList = if micros = 0 then [] else '.' :: (padded 6 micros).toList := by
  unfold fractionText
  by_cases h : micros = 0
  · simp [h]
  · simp [h]

/-- No fraction is written like the start of what may follow seconds. -/
theorem fraction_ne {micros : Nat} {r s : List Char} (hs : endsSeconds s = true) :
    '.' :: (padded 6 micros).toList ++ r ≠ s := by
  rintro rfl
  revert hs
  simp [endsSeconds]

/-- A fraction of a second is determined by its text, whatever follows that is neither a digit nor a
point. -/
theorem fraction_reads {m n : Nat} {r s : List Char} (hr : endsSeconds r = true)
    (hs : endsSeconds s = true)
    (h : (fractionText m).toList ++ r = (fractionText n).toList ++ s) : m = n ∧ r = s := by
  rw [toList_fractionText, toList_fractionText] at h
  by_cases hm : m = 0
  · by_cases hn : n = 0
    · rw [if_pos hm, if_pos hn] at h
      exact ⟨hm.trans hn.symm, h⟩
    · rw [if_pos hm, if_neg hn] at h
      exact absurd h.symm (fraction_ne hr)
  · by_cases hn : n = 0
    · rw [if_neg hm, if_pos hn] at h
      exact absurd h (fraction_ne hs)
    · rw [if_neg hm, if_neg hn] at h
      exact padded_reads (endsDigits_of_endsSeconds hr) (endsDigits_of_endsSeconds hs)
        (List.cons_eq_cons.mp h).2

/-- Seconds of an offset with their fraction, left out when both are zero. -/
def offsetSeconds (seconds micros : Nat) : List Char :=
  if seconds = 0 ∧ micros = 0 then []
  else ':' :: ((padded 2 seconds).toList ++ (fractionText micros).toList)

theorem offsetSeconds_injective {a b m n : Nat} (h : offsetSeconds a m = offsetSeconds b n) :
    a = b ∧ m = n := by
  have hfraction (k : Nat) : endsDigits (fractionText k).toList = true := by
    rw [toList_fractionText]
    split <;> rfl
  unfold offsetSeconds at h
  split at h
  · split at h
    · omega
    · contradiction
  · split at h
    · contradiction
    · obtain ⟨hsame, hrest⟩ := padded_reads (hfraction m) (hfraction n) (List.cons_eq_cons.mp h).2
      have hmicros := fraction_reads (r := []) (s := []) rfl rfl (by simpa using hrest)
      exact ⟨hsame, hmicros.1⟩

/-- The parts of an offset. -/
theorem toList_offsetText (o : Offset) :
    (offsetText o).toList = (if o.micros < 0 then '-' else '+') ::
      ((padded 2 (o.micros.natAbs / 1000000 / 3600)).toList ++ ':' ::
        ((padded 2 (o.micros.natAbs / 1000000 / 60 % 60)).toList ++
          offsetSeconds (o.micros.natAbs / 1000000 % 60) (o.micros.natAbs % 1000000))) := by
  unfold offsetText offsetSeconds
  by_cases hsign : o.micros < 0
  · by_cases hzero : o.micros.natAbs / 1000000 % 60 = 0 ∧ o.micros.natAbs % 1000000 = 0
    · simp [hsign, hzero]
    · simp [hsign, hzero]
  · by_cases hzero : o.micros.natAbs / 1000000 % 60 = 0 ∧ o.micros.natAbs % 1000000 = 0
    · simp [hsign, hzero]
    · simp [hsign, hzero]

theorem offsetText_injective {o o' : Offset} (h : offsetText o = offsetText o') : o = o' := by
  have hchars := congrArg String.toList h
  rw [toList_offsetText, toList_offsetText] at hchars
  obtain ⟨hsign, hchars⟩ := List.cons_eq_cons.mp hchars
  obtain ⟨hhours, hchars⟩ := padded_mark_reads (by decide) hchars
  have hends (a m : Nat) : endsDigits (offsetSeconds a m) = true := by
    unfold offsetSeconds
    split <;> rfl
  obtain ⟨hminutes, hchars⟩ := padded_reads (hends _ _) (hends _ _) hchars
  obtain ⟨hseconds, hmicros⟩ := offsetSeconds_injective hchars
  have habs : o.micros.natAbs = o'.micros.natAbs := by omega
  have hnegative : o.micros < 0 ↔ o'.micros < 0 := by
    constructor
    · intro hneg
      by_contra hpos
      rw [if_pos hneg, if_neg hpos] at hsign
      contradiction
    · intro hneg
      by_contra hpos
      rw [if_neg hpos, if_pos hneg] at hsign
      contradiction
  obtain ⟨micros⟩ := o
  obtain ⟨micros'⟩ := o'
  have hsame : micros = micros' := by
    simp only at habs hnegative
    omega
  rw [hsame]

end IsoText

open IsoText

/-! ## Days and times -/

theorem Date.toList_toText (d : Date) :
    d.toText.toList = (padded 4 d.year).toList ++ '-' :: ((padded 2 d.month).toList ++ '-' ::
      (padded 2 d.day).toList) := by
  simp [Date.toText]

/-- A day is determined by its text, whatever follows that is no digit. -/
theorem Date.toText_reads {d e : Date} {r s : List Char} (hr : endsDigits r = true)
    (hs : endsDigits s = true) (h : d.toText.toList ++ r = e.toText.toList ++ s) :
    d = e ∧ r = s := by
  simp only [Date.toList_toText, List.append_assoc, List.cons_append] at h
  obtain ⟨hyear, h⟩ := padded_mark_reads (by decide) h
  obtain ⟨hmonth, h⟩ := padded_mark_reads (by decide) h
  obtain ⟨hday, hrest⟩ := padded_reads hr hs h
  obtain ⟨year, month, day⟩ := d
  obtain ⟨year', month', day'⟩ := e
  simp only at hyear hmonth hday
  rw [hyear, hmonth, hday]
  exact ⟨rfl, hrest⟩

theorem Date.toText_injective {d e : Date} (h : d.toText = e.toText) : d = e := by
  refine (Date.toText_reads (r := []) (s := []) rfl rfl ?_).1
  rw [h]

/-- The characters of an offset, none where it is not known. -/
def IsoText.offsetChars : Option Offset → List Char
  | some o => (offsetText o).toList
  | none => []

theorem IsoText.endsSeconds_offsetChars (offset : Option Offset) :
    endsSeconds (offsetChars offset) = true := by
  cases offset with
  | none => rfl
  | some o =>
    rw [offsetChars, toList_offsetText]
    split <;> rfl

theorem IsoText.offsetChars_injective {a b : Option Offset} (h : offsetChars a = offsetChars b) :
    a = b := by
  cases a with
  | none =>
    cases b with
    | none => rfl
    | some o =>
      rw [offsetChars, offsetChars, toList_offsetText] at h
      contradiction
  | some o =>
    cases b with
    | none =>
      rw [offsetChars, offsetChars, toList_offsetText] at h
      contradiction
    | some o' => rw [offsetText_injective (String.toList_inj.mp h)]

theorem TimeOfDay.toList_toText (t : TimeOfDay) :
    t.toText.toList = (padded 2 t.hour).toList ++ ':' :: ((padded 2 t.minute).toList ++ ':' ::
      ((padded 2 t.second).toList ++
        ((fractionText t.micros).toList ++ offsetChars t.offset))) := by
  unfold TimeOfDay.toText offsetChars
  cases t.offset with
  | none => simp
  | some o => simp

theorem TimeOfDay.toText_injective {t u : TimeOfDay} (h : t.toText = u.toText) : t = u := by
  have hchars := congrArg String.toList h
  rw [TimeOfDay.toList_toText, TimeOfDay.toList_toText] at hchars
  have hends (micros : Nat) (offset : Option Offset) :
      endsDigits ((fractionText micros).toList ++ offsetChars offset) = true := by
    rw [toList_fractionText]
    split
    · exact endsDigits_of_endsSeconds (endsSeconds_offsetChars offset)
    · rfl
  obtain ⟨hhour, hchars⟩ := padded_mark_reads (by decide) hchars
  obtain ⟨hminute, hchars⟩ := padded_mark_reads (by decide) hchars
  obtain ⟨hsecond, hchars⟩ := padded_reads (hends _ _) (hends _ _) hchars
  obtain ⟨hmicros, hchars⟩ := fraction_reads (endsSeconds_offsetChars _)
    (endsSeconds_offsetChars _) hchars
  have hoffset := offsetChars_injective hchars
  obtain ⟨hour, minute, second, micros, offset⟩ := t
  obtain ⟨hour', minute', second', micros', offset'⟩ := u
  simp only at hhour hminute hsecond hmicros hoffset
  rw [hhour, hminute, hsecond, hmicros, hoffset]

theorem DateTime.toText_injective {t u : DateTime} (h : t.toText = u.toText) : t = u := by
  have hchars : t.date.toText.toList ++ 'T' :: t.time.toText.toList =
      u.date.toText.toList ++ 'T' :: u.time.toText.toList := by
    simpa [DateTime.toText] using congrArg String.toList h
  obtain ⟨hdate, hrest⟩ := Date.toText_reads rfl rfl hchars
  have htime := TimeOfDay.toText_injective (String.toList_inj.mp (List.cons_eq_cons.mp hrest).2)
  obtain ⟨date, time⟩ := t
  obtain ⟨date', time'⟩ := u
  simp only at hdate htime
  rw [hdate, htime]

end FieldSchema
