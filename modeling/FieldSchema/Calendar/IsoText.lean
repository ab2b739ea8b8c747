import FieldSchema.Calendar.Basic
import FieldSchema.Text.CharClass

/-!
# Dates and times as text

The written form is `2024-01-02T03:04:05.000006+05:30`: microseconds only when they are not zero,
an offset only when it is known, its seconds and microseconds only when they are not zero.

The reader accepts the written form and many others: days without dashes, days named by week,
any single character between day and time, times cut off after the hour or the minute, times
without colons, fractions of a second of any length after a point or a comma.  It works through
the text once, from the left, and a NUL reads like the end of the text.

* `Date.toText`, `TimeOfDay.toText`, `DateTime.toText`: the written forms.
* `Date.read?`, `TimeOfDay.read?`, `DateTime.read?`: the readers.
-/

namespace FieldSchema

namespace IsoText

/-! ## Writing -/

/-- A number in decimal digits, with zeros in front up to the given width. -/
def padded (width n : Nat) : String :=
  let digits := toString n
  String.ofList (List.replicate (width - digits.length) '0') ++ digits

/-- A fraction of a second, left out when it is zero. -/
def fractionText (micros : Nat) : String := if micros == 0 then "" else "." ++ padded 6 micros

/-- An offset as sign, hours and minutes, and seconds where they are needed. -/
def offsetText (o : Offset) : String :=
  let total := o.micros.natAbs
  let micros := total % 1000000
  let seconds := total / 1000000
  let rest := seconds % 60
  (if o.micros < 0 then "-" else "+") ++ padded 2 (seconds / 3600) ++ ":" ++
    padded 2 (seconds / 60 % 60) ++
    (if rest == 0 && micros == 0 then "" else ":" ++ padded 2 rest ++ fractionText micros)

end IsoText

/-- A day as year, month and day with dashes. -/
def Date.toText (d : Date) : String :=
  IsoText.padded 4 d.year ++ "-" ++ IsoText.padded 2 d.month ++ "-" ++ IsoText.padded 2 d.day

/-- A time of day with colons. -/
def TimeOfDay.toText (t : TimeOfDay) : String :=
  IsoText.padded 2 t.hour ++ ":" ++ IsoText.padded 2 t.minute ++ ":" ++
    IsoText.padded 2 t.second ++ IsoText.fractionText t.micros ++
    (match t.offset with
     | some o => IsoText.offsetText o
     | none => "")

/-- Day and time with a `T` between them. -/
def DateTime.toText (t : DateTime) : String := t.date.toText ++ "T" ++ t.time.toText

namespace IsoText

/-! ## Reading digits -/

/-- The next character; behind the text it is NUL. -/
def peek (chars : List Char) : Char := chars.headD '\x00'

/-- An ASCII digit. -/
def isDigit (c : Char) : Bool := Text.isAsciiDigit c.toNat

/-- A number of exactly `count` digits after the number `n` read so far, and the rest. -/
def readDigitsFrom? (n : Nat) : Nat → List Char → Option (Nat × List Char)
  | 0, chars => some (n, chars)
  | count + 1, c :: rest =>
    if isDigit c then readDigitsFrom? (n * 10 + (c.toNat - 0x30)) count rest else none
  | _ + 1, [] => none

/-- A number of exactly `count` digits, and the rest. -/
def readDigits? (count : Nat) (chars : List Char) : Option (Nat × List Char) :=
  readDigitsFrom? 0 count chars

/-! ## Reading days -/

/-- How many characters of the text name the day.  Dashes and the week mark at the fifth and sixth
places decide.  A week with dashes is followed by a weekday unless a digit stands at the eleventh
place, and a week without dashes is followed by a weekday when that leaves pairs of digits. -/
def dayLength? (chars : List Char) : Option Nat :=
  let at? (i : Nat) : Char := peek (chars.drop i)
  let length := chars.length
  if length == 7 then some 7
  else if at? 4 == '-' then
    if at? 5 == 'W' then
      if length > 8 && at? 8 == '-' then
        if length == 9 then none
        else if length > 10 && isDigit (at? 10) then some 8
        else some 10
      else some 8
    else some 10
  else if at? 4 == 'W' then
    let stop := 7 + ((chars.drop 7).takeWhile isDigit).length
    if stop < 9 then some stop
    else if stop % 2 == 0 then some 7
    else some 8
  else some 8

/-- A day named by week; a weekday follows when the day has more characters. -/
def readWeekDay? (year : Nat) (dashed : Bool) (chars : List Char) : Option Date := do
  let (week, rest) ← readDigits? 2 chars
  if rest.isEmpty then Date.ofWeek? year week 1
  else
    let rest ← if dashed then (if peek rest == '-' then some (rest.drop 1) else none) else some rest
    let (day, _) ← readDigits? 1 rest
    Date.ofWeek? year week day

/-- The day that the given characters name, whether or not it exists. -/
def readDay? (chars : List Char) : Option Date := do
  let (year, rest) ← readDigits? 4 chars
  let dashed := peek rest == '-'
  let rest := if dashed then rest.drop 1 else rest
  if peek rest == 'W' then readWeekDay? year dashed (rest.drop 1)
  else
    let (month, rest) ← readDigits? 2 rest
    let rest ← if dashed then (if peek rest == '-' then some (rest.drop 1) else none) else some rest
    let (day, _) ← readDigits? 2 rest
    some ⟨year, month, day⟩

/-! ## Reading times -/

/-- A time of day read so far, without offset. -/
structure ClockParts where
  hour : Nat
  minute : Nat
  second : Nat
  micros : Nat
  deriving DecidableEq, Repr

namespace ClockParts

/-- The parts in order of reading. -/
def ofList : List Nat → Nat → ClockParts
  | [h], f => ⟨h, 0, 0, f⟩
  | [h, m], f => ⟨h, m, 0, f⟩
  | h :: m :: s :: _, f => ⟨h, m, s, f⟩
  | [], f => ⟨0, 0, 0, f⟩

/-- Microseconds of the whole seconds. -/
def wholeSeconds (p : ClockParts) : Nat := (p.hour * 60 + p.minute) * 60 + p.second

end ClockParts

/-- What the reader of a clock stopped at: the parts, and whether all characters were used. -/
structure ClockReading where
  parts : ClockParts
  complete : Bool
  deriving DecidableEq, Repr

/-- A fraction of a second: of the first `limit` characters up to six must be digits and count;
further digits are skipped.  Then the text has to be at its end. -/
def readFraction? (parts : List Nat) (limit : Nat) (chars : List Char) : Option ClockReading := do
  let count := min limit 6
  let (digits, rest) ← readDigits? count chars
  let rest := rest.dropWhile isDigit
  some ⟨.ofList parts (digits * Nat.pow 10 (6 - count)), peek rest == '\x00'⟩

/-- Hours, minutes and seconds in two digits each, all with colons or all without, cut off where
the first `limit` characters end, and a fraction after them.  `limit` counts the characters that
belong to the clock; the text itself may go on with an offset. -/
def readClock? (colons : Bool) (parts : List Nat) :
    Nat → Nat → List Char → Option ClockReading
  | 0, limit, chars => readFraction? parts limit chars
  | more + 1, limit, chars => do
    let (part, rest) ← readDigits? 2 chars
    let parts := parts ++ [part]
    let mark := peek rest
    let colons := if more == 2 then mark == ':' else colons
    if limit ≤ 3 then some ⟨.ofList parts 0, mark == '\x00'⟩
    else if colons && mark == ':' then readClock? colons parts more (limit - 3) (rest.drop 1)
    else if mark == '.' || mark == ',' then readFraction? parts (limit - 3) (rest.drop 1)
    else if !colons then readClock? colons parts more (limit - 2) rest
    else none

/-- A time of day with an optional offset, which starts at the first sign.  An offset below a
second is dropped with its fraction. -/
def readTime? (chars : List Char) : Option TimeOfDay := do
  let limit := (chars.takeWhile fun c => c != '+' && c != '-' && c != 'Z').length
  let clock ← readClock? false [] 3 limit chars
  let parts := clock.parts
  match chars.drop limit with
  | [] =>
    if clock.complete then some ⟨parts.hour, parts.minute, parts.second, parts.micros, none⟩
    else none
  | mark :: rest =>
    if mark == 'Z' then
      if peek rest == '\x00' then
        some ⟨parts.hour, parts.minute, parts.second, parts.micros, some ⟨0⟩⟩
      else none
    else
      let shift ← readClock? false [] 3 rest.length rest
      if !shift.complete then none
      else
        let seconds := shift.parts.wholeSeconds
        let micros : Int :=
          if seconds == 0 then 0 else Int.ofNat (seconds * 1000000 + shift.parts.micros)
        let offset : Offset := ⟨if mark == '-' then -micros else micros⟩
        some ⟨parts.hour, parts.minute, parts.second, parts.micros, some offset⟩

end IsoText

/-! ## Readers -/

/-- The day and time that a text names.  The text has at least seven characters; any character may
stand between day and time. -/
def DateTime.read? (text : String) : Option DateTime := do
  let chars := text.toList
  if chars.length < 7 then none
  else
    let length ← IsoText.dayLength? chars
    let date ← IsoText.readDay? (chars.take length)
    let time ← match chars.drop length with
      | [] => some TimeOfDay.midnight
      | _ :: rest => IsoText.readTime? rest
    let result : DateTime := ⟨date, time⟩
    if result.isValid then some result else none

/-- The day that a text of seven to ten characters names. -/
def Date.read? (text : String) : Option Date := do
  let chars := text.toList
  if chars.length == 7 || chars.length == 8 || chars.length == 10 then
    let date ← IsoText.readDay? chars
    if date.isValid then some date else none
  else none

/-- The time of day that a text names, after an optional leading `T`. -/
def TimeOfDay.read? (text : String) : Option TimeOfDay := do
  let chars := text.toList
  let chars := if IsoText.peek chars == 'T' then chars.drop 1 else chars
  let time ← IsoText.readTime? chars
  if time.isValid then some time else none

end FieldSchema
