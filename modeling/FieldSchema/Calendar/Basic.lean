/-!
# Dates, times and offsets

Days of the proleptic Gregorian calendar from year 1 to year 9999, times of day down to the
microsecond, and offsets from universal time of less than a day in either direction.

* `Date.ordinal`, `Date.ofOrdinal`: days counted from the first day of year 1.
* `Date.ofWeek?`: a day named by week-numbering year, week and weekday.
* `DateTime.instant?`: the universal time of a point in time whose offset is known.
-/

namespace FieldSchema

/-! ## Years and months -/

/-- Every fourth year is a leap year, but of the full centuries only every fourth. -/
def isLeapYear (year : Nat) : Bool :=
  year % 4 == 0 && (year % 100 != 0 || year % 400 == 0)

/-- Days in a month of a year. -/
def daysInMonth (year month : Nat) : Nat :=
  if month == 2 then (if isLeapYear year then 29 else 28)
  else if month == 4 || month == 6 || month == 9 || month == 11 then 30
  else 31

/-- Days before the first day of a year, counted from year 1. -/
def daysBeforeYear (year : Nat) : Nat :=
  let past := year - 1
  past * 365 + past / 4 - past / 100 + past / 400

/-- Days of a year before the first day of a month. -/
def daysBeforeMonth (year month : Nat) : Nat :=
  (List.range (month - 1)).foldl (fun days i => days + daysInMonth year (i + 1)) 0

/-! ## Dates -/

/-- A day of the calendar. -/
structure Date where
  year : Nat
  month : Nat
  day : Nat
  deriving DecidableEq, Repr, Inhabited

namespace Date

/-- Whether the day exists, in a year from 1 to 9999. -/
def isValid (d : Date) : Bool :=
  1 ≤ d.year && d.year ≤ 9999 && 1 ≤ d.month && d.month ≤ 12 &&
    1 ≤ d.day && d.day ≤ daysInMonth d.year d.month

/-- The number of a day; the first day of year 1 has number one. -/
def ordinal (d : Date) : Nat := daysBeforeYear d.year + daysBeforeMonth d.year d.month + d.day

/-- The month of a day of a year counted from zero, with the day of the month, searched from
`month` on over at most `months` months. -/
def monthOfDay (year : Nat) : Nat → Nat → Nat → Nat × Nat
  | 0, month, day => (month, day + 1)
  | months + 1, month, day =>
    if day < daysInMonth year month then (month, day + 1)
    else monthOfDay year months (month + 1) (day - daysInMonth year month)

/-- The day with a given number.  Whole cycles of four hundred, one hundred, four and one years are
split off; the last day of a cycle belongs to the cycle's last year. -/
def ofOrdinal (ordinal : Nat) : Date :=
  let n := ordinal - 1
  let n400 := n / 146097
  let r400 := n % 146097
  let n100 := r400 / 36524
  let r100 := r400 % 36524
  let n4 := r100 / 1461
  let r4 := r100 % 1461
  let n1 := r4 / 365
  let r1 := r4 % 365
  let year := n400 * 400 + n100 * 100 + n4 * 4 + n1 + 1
  if n1 == 4 || n100 == 4 then ⟨year - 1, 12, 31⟩
  else
    let (month, day) := monthOfDay year 11 1 r1
    ⟨year, month, day⟩

/-- The weekday of a day, Monday being zero. -/
def weekday (d : Date) : Nat := (d.ordinal + 6) % 7

/-- The number of the Monday that starts the first week of a year: the week that holds the year's
first Thursday.  The answer is shifted up by seven days, so that it is no negative number. -/
def firstMonday (year : Nat) : Nat :=
  let first : Date := ⟨year, 1, 1⟩
  let monday := first.ordinal + 7 - first.weekday
  if first.weekday > 3 then monday + 7 else monday

/-- Whether a year has fifty-three weeks: it starts on a Thursday, or is a leap year that starts on
a Wednesday. -/
def hasLongYear (year : Nat) : Bool :=
  let start := (⟨year, 1, 1⟩ : Date).weekday
  start == 3 || (start == 2 && isLeapYear year)

/-- The day named by a week-numbering year, a week and a weekday from one to seven. -/
def ofWeek? (year week day : Nat) : Option Date :=
  if year == 0 || week == 0 || week > 53 || (week == 53 && !hasLongYear year) then none
  else if day == 0 || day > 7 then none
  else some (ofOrdinal (firstMonday year + (week - 1) * 7 + (day - 1) - 7))

end Date

/-! ## Times -/

/-- Microseconds east of universal time. -/
structure Offset where
  micros : Int
  deriving DecidableEq, Repr, Inhabited

/-- Microseconds in a day. -/
def microsPerDay : Int := 86400000000

/-- Offsets lie strictly within a day in either direction. -/
def Offset.isValid (o : Offset) : Bool := -microsPerDay < o.micros && o.micros < microsPerDay

/-- A time of day, with an offset where it is known. -/
structure TimeOfDay where
  hour : Nat
  minute : Nat
  second : Nat
  micros : Nat
  offset : Option Offset
  deriving DecidableEq, Repr, Inhabited

namespace TimeOfDay

/-- The start of the day, with no offset. -/
def midnight : TimeOfDay := ⟨0, 0, 0, 0, none⟩

/-- Whether the time exists: there is no hour 24 and no leap second. -/
def isValid (t : TimeOfDay) : Bool :=
  t.hour ≤ 23 && t.minute ≤ 59 && t.second ≤ 59 && t.micros ≤ 999999 &&
    (match t.offset with
     | some o => o.isValid
     | none => true)

/-- Microseconds since midnight. -/
def sinceMidnight (t : TimeOfDay) : Int :=
  Int.ofNat (((t.hour * 60 + t.minute) * 60 + t.second) * 1000000 + t.micros)

end TimeOfDay

/-- A point in time: a day and a time of day. -/
structure DateTime where
  date : Date
  time : TimeOfDay
  deriving DecidableEq, Repr, Inhabited

namespace DateTime

/-- Whether day and time exist. -/
def isValid (t : DateTime) : Bool := t.date.isValid && t.time.isValid

/-- Midnight at the start of a day. -/
def ofDate (d : Date) : DateTime := ⟨d, .midnight⟩

/-- Microseconds on the local clock since the start of day zero. -/
def localMicros (t : DateTime) : Int :=
  Int.ofNat t.date.ordinal * microsPerDay + t.time.sinceMidnight

/-- Microseconds of universal time, where the offset is known. -/
def instant? (t : DateTime) : Option Int :=
  t.time.offset.map fun o => t.localMicros - o.micros

end DateTime

end FieldSchema
