import FieldSchema.Proofs.Calendar.WrittenForm
import Mathlib.Data.Nat.Digits.Defs

/-!
# Reading back what was written

The reader of days and times goes through a written text part by part: a number with zeros in front
of it is read as that number (`IsoText.readDigits?_padded`), the mark behind it says which part
comes next, and the clock ends where the sign of an offset stands.  So every existing day and time
is read back, but for one thing: an offset of less than a second is read as the offset zero, since
the reader looks at whole seconds only to see whether it has something to shift by.

* `Offset.asRead`, `DateTime.asRead`: what is read back of an offset and of a point in time.
* `DateTime.read?_toText`: the reader of points in time on their written forms.
* `DateTime.read?_toText_date`: the same reader on the written forms of days.
* `DateTime.asRead_eq_self_iff`: which points in time are read back as they are.
-/

namespace FieldSchema

namespace IsoText

/-! ## Numbers -/

theorem isDigit_eq (c : Char) : isDigit c = c.isDigit := by
  simp only [isDigit, Text.isAsciiDigit, Char.isDigit, Char.toNat, UInt32.le_iff_toNat_le,
    ge_iff_le]
  rfl

theorem readDigitsFrom?_append {digits : List Char} (h : ∀ c ∈ digits, c.isDigit = true) (n : Nat)
    (rest : List Char) : readDigitsFrom? n digits.length (digits ++ rest) =
      some (Nat.ofDigitChars 10 digits n, rest) := by
  induction digits generalizing n with
  | nil => rfl
  | cons c digits ih =>
    obtain ⟨hc, hdigits⟩ := List.forall_mem_cons.mp h
    rw [List.length_cons, List.cons_append, readDigitsFrom?, isDigit_eq, if_pos hc, ih hdigits,
      Nat.ofDigitChars_cons, Nat.mul_comm n 10]
    rfl

theorem length_padded {width n : Nat} (hwidth : 0 < width) (hn : n < 10 ^ width) :
    (padded width n).toList.length = width := by
  have hle : (toString n).toList.length ≤ width := by
    rw [toList_toString_nat]
    exact Nat.toDigits_length 10 n width hwidth hn
  rw [toList_padded, List.length_append, List.length_replicate, ← String.length_toList]
  omega

/-- A number is read back from its digits. -/
theorem readDigits?_padded {width n : Nat} (hwidth : 0 < width) (hn : n < 10 ^ width)
    (rest : List Char) : readDigits? width ((padded width n).toList ++ rest) = some (n, rest) := by
  have hread := readDigitsFrom?_append
    (fun c (hc : c ∈ (padded width n).toList) => isDigit_of_mem_padded hc) 0 rest
  rw [length_padded hwidth hn] at hread
  rw [readDigits?, hread, toList_padded, ofDigitChars_zeros_append_digits]

/-- Nothing but a digit starts a number. -/
theorem peek_padded_ne {mark : Char} (hmark : mark.isDigit = false) (width n : Nat)
    (rest : List Char) : (peek ((padded width n).toList ++ rest) == mark) = false := by
  cases hdigits : (padded width n).toList with
  | nil =>
    rw [toList_padded] at hdigits
    exact absurd (List.append_eq_nil_iff.mp hdigits).2 (toList_toString_ne_nil n)
  | cons c digits =>
    have hc : c.isDigit = true := isDigit_of_mem_padded (hdigits ▸ List.mem_cons_self)
    have hpeek : peek (c :: digits ++ rest) = c := rfl
    rw [hpeek, beq_eq_false_iff_ne]
    intro hsame
    rw [hsame, hmark] at hc
    exact absurd hc Bool.false_ne_true

/-! ## Clocks -/

section Clock

variable {colons : Bool} {parts : List Nat} {more limit n : Nat} {rest : List Char}

/-- A colon leads to the next part. -/
theorem readClock?_colon (hcolons : more ≠ 2 → colons = true) (hn : n < 100) (hlimit : 3 < limit) :
    readClock? colons parts (more + 1) limit ((padded 2 n).toList ++ ':' :: rest) =
      readClock? true (parts ++ [n]) more (limit - 3) rest := by
  have hmarks : (if more == 2 then peek (':' :: rest) == ':' else colons) = true := by
    by_cases hmore : more = 2
    · rw [if_pos (beq_iff_eq.mpr hmore)]
      rfl
    · rw [if_neg (mt beq_iff_eq.mp hmore), hcolons hmore]
  rw [readClock?, readDigits?_padded (by decide) hn]
  simp only [Option.bind_eq_bind, Option.bind_some, hmarks]
  rw [if_neg (Nat.not_le.mpr hlimit)]
  rfl

/-- The clock ends where its characters do. -/
theorem readClock?_last (hn : n < 100) (hlimit : limit ≤ 3) :
    readClock? colons parts (more + 1) limit ((padded 2 n).toList ++ rest) =
      some ⟨.ofList (parts ++ [n]) 0, peek rest == '\x00'⟩ := by
  rw [readClock?, readDigits?_padded (by decide) hn]
  simp only [Option.bind_eq_bind, Option.bind_some, if_pos hlimit]

/-- A point leads to a fraction. -/
theorem readClock?_point (hmore : more ≠ 2) (hn : n < 100) (hlimit : 3 < limit) :
    readClock? colons parts (more + 1) limit ((padded 2 n).toList ++ '.' :: rest) =
      readFraction? (parts ++ [n]) (limit - 3) rest := by
  have hpoint : (colons && peek ('.' :: rest) == ':') = false := Bool.and_false colons
  rw [readClock?, readDigits?_padded (by decide) hn]
  simp only [Option.bind_eq_bind, Option.bind_some, beq_iff_eq, if_neg hmore]
  rw [if_neg (Nat.not_le.mpr hlimit), if_neg (ne_true_of_eq_false hpoint)]
  rfl

/-- A fraction of six digits is read back. -/
theorem readFraction?_padded (hn : n < 1000000) (hrest : endsDigits rest = true) :
    readFraction? parts 6 ((padded 6 n).toList ++ rest) =
      some ⟨.ofList parts n, peek rest == '\x00'⟩ := by
  have hdrop : rest.dropWhile isDigit = rest := by
    cases rest with
    | nil => rfl
    | cons c rest =>
      have hc : isDigit c = false := by
        rw [isDigit_eq]
        exact Bool.not_eq_true' _ ▸ hrest
      rw [List.dropWhile_cons, hc]
      rfl
  rw [readFraction?, show min 6 6 = 6 from rfl, readDigits?_padded (by decide) hn]
  simp only [Option.bind_eq_bind, Option.bind_some, hdrop]
  rw [show n * Nat.pow 10 (6 - 6) = n from Nat.mul_one n]

/-- Seconds are read back with their fraction. -/
theorem readClock?_seconds {micros : Nat} (hn : n < 100) (hmicros : micros < 1000000)
    (hrest : endsDigits rest = true) :
    readClock? colons parts 1 (2 + (fractionText micros).toList.length)
        ((padded 2 n).toList ++ ((fractionText micros).toList ++ rest)) =
      some ⟨.ofList (parts ++ [n]) micros, peek rest == '\x00'⟩ := by
  rw [toList_fractionText]
  by_cases hzero : micros = 0
  · rw [if_pos hzero, hzero]
    exact readClock?_last hn (by decide)
  · rw [if_neg hzero, List.length_cons, length_padded (by decide) hmicros]
    rw [List.cons_append, readClock?_point (by decide) hn (by decide)]
    exact readFraction?_padded hmicros hrest

end Clock

/-- The characters of a clock with a fraction. -/
def clockChars (hour minute second micros : Nat) : List Char :=
  (padded 2 hour).toList ++ ':' :: ((padded 2 minute).toList ++ ':' ::
    ((padded 2 second).toList ++ (fractionText micros).toList))

theorem length_clockChars {hour minute second : Nat} (hhour : hour < 100) (hminute : minute < 100)
    (hsecond : second < 100) (micros : Nat) :
    (clockChars hour minute second micros).length = 8 + (fractionText micros).toList.length := by
  have htwo {n : Nat} (hn : n < 100) : (padded 2 n).toList.length = 2 := length_padded two_pos hn
  simp only [clockChars, List.length_append, List.length_cons, htwo hhour, htwo hminute,
    htwo hsecond]
  omega

/-- **A clock is read back**, whatever follows that is no digit. -/
theorem readClock?_clockChars {hour minute second micros : Nat} (hhour : hour < 100)
    (hminute : minute < 100) (hsecond : second < 100) (hmicros : micros < 1000000)
    {rest : List Char} (hrest : endsDigits rest = true) :
    readClock? false [] 3 (clockChars hour minute second micros).length
        (clockChars hour minute second micros ++ rest) =
      some ⟨⟨hour, minute, second, micros⟩, peek rest == '\x00'⟩ := by
  rw [length_clockChars hhour hminute hsecond, clockChars]
  simp only [List.append_assoc, List.cons_append]
  rw [readClock?_colon (by decide) hhour (by omega),
    readClock?_colon (fun _ => rfl) hminute (by omega),
    show 8 + (fractionText micros).toList.length - 3 - 3 =
      2 + (fractionText micros).toList.length by omega,
    readClock?_seconds hsecond hmicros hrest]
  rfl

/-- No character of a clock starts an offset. -/
theorem ne_sign_of_mem_clockChars {hour minute second micros : Nat} {c : Char}
    (h : c ∈ clockChars hour minute second micros) : (c != '+' && c != '-' && c != 'Z') = true := by
  have hclock : c.isDigit = true ∨ c = ':' ∨ c = '.' := by
    rw [clockChars, toList_fractionText] at h
    simp only [List.mem_append, List.mem_cons] at h
    rcases h with h | rfl | h | rfl | h | h
    · exact .inl (isDigit_of_mem_padded h)
    · exact .inr (.inl rfl)
    · exact .inl (isDigit_of_mem_padded h)
    · exact .inr (.inl rfl)
    · exact .inl (isDigit_of_mem_padded h)
    · split at h
      · cases h
      · rcases List.mem_cons.mp h with rfl | h
        · exact .inr (.inr rfl)
        · exact .inl (isDigit_of_mem_padded h)
  rcases hclock with hdigit | rfl | rfl
  · simp only [Bool.and_eq_true, bne_iff_ne, ne_eq]
    refine ⟨⟨?_, ?_⟩, ?_⟩ <;>
    · rintro rfl
      cases hdigit
  · rfl
  · rfl

/-! ## Offsets -/

/-- The characters of an offset behind its sign, for whole seconds and microseconds. -/
def shiftChars (seconds micros : Nat) : List Char :=
  (padded 2 (seconds / 3600)).toList ++ ':' :: ((padded 2 (seconds / 60 % 60)).toList ++
    offsetSeconds (seconds % 60) micros)

/-- The size of an offset is read back. -/
theorem readClock?_shiftChars {seconds micros : Nat} (hseconds : seconds < 86400)
    (hmicros : micros < 1000000) :
    readClock? false [] 3 (shiftChars seconds micros).length (shiftChars seconds micros) =
      some ⟨⟨seconds / 3600, seconds / 60 % 60, seconds % 60, micros⟩, true⟩ := by
  have hhour : seconds / 3600 < 100 := by omega
  have hminute : seconds / 60 % 60 < 100 := by omega
  have hsecond : seconds % 60 < 100 := by omega
  rw [shiftChars, offsetSeconds]
  by_cases hzero : seconds % 60 = 0 ∧ micros = 0
  · have hlength : ((padded 2 (seconds / 3600)).toList ++
        ':' :: ((padded 2 (seconds / 60 % 60)).toList ++ [])).length = 5 := by
      rw [List.append_nil, List.length_append, List.length_cons, length_padded two_pos hhour,
        length_padded two_pos hminute]
      rfl
    rw [if_pos hzero, hlength, readClock?_colon (by decide) hhour (by decide),
      readClock?_last hminute (by decide), hzero.1, hzero.2]
    rfl
  · rw [if_neg hzero]
    have hread := readClock?_clockChars hhour hminute hsecond hmicros
      (show endsDigits [] = true from rfl)
    rw [List.append_nil] at hread
    exact hread

end IsoText

/-- What is read back of an offset: one of less than a second counts as zero. -/
def Offset.asRead (o : Offset) : Offset := if o.micros.natAbs < 1000000 then ⟨0⟩ else o

/-- What is read back of a time of day. -/
def TimeOfDay.asRead (t : TimeOfDay) : TimeOfDay := { t with offset := t.offset.map Offset.asRead }

/-- What is read back of a point in time. -/
def DateTime.asRead (t : DateTime) : DateTime := { t with time := t.time.asRead }

open IsoText

theorem TimeOfDay.toList_toText_eq_clockChars (t : TimeOfDay) :
    t.toText.toList = clockChars t.hour t.minute t.second t.micros ++ offsetChars t.offset := by
  rw [toList_toText, clockChars]
  simp only [List.append_assoc, List.cons_append]

theorem IsoText.toList_offsetText_eq_shiftChars (o : Offset) :
    (offsetText o).toList = (if o.micros < 0 then '-' else '+') ::
      shiftChars (o.micros.natAbs / 1000000) (o.micros.natAbs % 1000000) := toList_offsetText o

/-! ## Times -/

theorem Offset.natAbs_lt_of_isValid {o : Offset} (h : o.isValid = true) :
    o.micros.natAbs < 86400000000 := by
  obtain ⟨hleast, hmost⟩ := Bool.and_eq_true_iff.mp h
  have hleast := of_decide_eq_true hleast
  have hmost := of_decide_eq_true hmost
  rw [microsPerDay] at hleast hmost
  omega

/-- What is read back of an offset, from its size and its sign. -/
theorem Offset.asRead_eq (o : Offset) :
    let seconds := o.micros.natAbs / 1000000
    let micros : Int :=
      if seconds == 0 then 0 else Int.ofNat (seconds * 1000000 + o.micros.natAbs % 1000000)
    o.asRead = ⟨if (if o.micros < 0 then '-' else '+') == '-' then -micros else micros⟩ := by
  obtain ⟨micros⟩ := o
  simp only [asRead, Nat.div_add_mod', Int.ofNat_eq_natCast, beq_iff_eq]
  by_cases hsmall : micros.natAbs < 1000000
  · rw [if_pos hsmall, if_pos (Nat.div_eq_of_lt hsmall)]
    split <;> rfl
  · have hsome : micros.natAbs / 1000000 ≠ 0 := by omega
    rw [if_neg hsmall, if_neg hsome]
    congr 1
    by_cases hneg : micros < 0
    · rw [if_pos hneg, if_pos rfl]
      omega
    · rw [if_neg hneg, if_neg (by decide)]
      omega

theorem Offset.asRead_eq_self_iff {o : Offset} :
    o.asRead = o ↔ o.micros = 0 ∨ 1000000 ≤ o.micros.natAbs := by
  obtain ⟨micros⟩ := o
  unfold asRead
  dsimp only
  split
  · rw [Offset.mk.injEq]
    omega
  · exact iff_of_true rfl (.inr (by omega))

/-- **A time of day is read back**. -/
theorem IsoText.readTime?_toText {t : TimeOfDay} (ht : t.isValid = true) :
    readTime? t.toText.toList = some t.asRead := by
  obtain ⟨hour, minute, second, micros, offset⟩ := t
  simp only [TimeOfDay.isValid, Bool.and_eq_true, decide_eq_true_eq] at ht
  obtain ⟨⟨⟨⟨hhour, hminute⟩, hsecond⟩, hmicros⟩, hoffset⟩ := ht
  have hclock := readClock?_clockChars (Nat.lt_of_le_of_lt hhour (by decide))
    (Nat.lt_of_le_of_lt hminute (by decide)) (Nat.lt_of_le_of_lt hsecond (by decide))
    (Nat.lt_of_le_of_lt hmicros (by decide))
    (endsDigits_of_endsSeconds (endsSeconds_offsetChars offset))
  have hsplit : (clockChars hour minute second micros ++ offsetChars offset).takeWhile
      (fun c => c != '+' && c != '-' && c != 'Z') = clockChars hour minute second micros := by
    rw [List.takeWhile_append_of_pos fun c => ne_sign_of_mem_clockChars]
    cases offset with
    | none => exact List.append_nil _
    | some o =>
      rw [offsetChars, toList_offsetText_eq_shiftChars]
      split <;> exact List.append_nil _
  rw [TimeOfDay.toList_toText_eq_clockChars]
  unfold readTime?
  dsimp only
  rw [hsplit, hclock, List.drop_left]
  simp only [Option.bind_eq_bind, Option.bind_some]
  cases offset with
  | none => rfl
  | some o =>
    have hsize := Offset.natAbs_lt_of_isValid hoffset
    have hshift := readClock?_shiftChars (show o.micros.natAbs / 1000000 < 86400 by omega)
      (Nat.mod_lt o.micros.natAbs (by decide : 0 < 1000000))
    have hseconds : (o.micros.natAbs / 1000000 / 3600 * 60 +
        o.micros.natAbs / 1000000 / 60 % 60) * 60 + o.micros.natAbs / 1000000 % 60 =
          o.micros.natAbs / 1000000 := by omega
    have hsign : ((if o.micros < 0 then '-' else '+') == 'Z') = false := by
      split <;> rfl
    rw [offsetChars, toList_offsetText_eq_shiftChars]
    dsimp only
    rw [hsign, hshift]
    simp only [Option.bind_some, ClockParts.wholeSeconds, hseconds, TimeOfDay.asRead,
      Option.map_some, Offset.asRead_eq]
    rfl

/-! ## Days -/

theorem daysInMonth_le (year month : Nat) : daysInMonth year month ≤ 31 := by
  unfold daysInMonth
  split
  · split <;> decide
  · split <;> decide

/-- A day that exists has few enough digits. -/
theorem Date.bounds_of_isValid {d : Date} (h : d.isValid = true) :
    d.year < 10000 ∧ d.month < 100 ∧ d.day < 100 := by
  simp only [isValid, Bool.and_eq_true, decide_eq_true_eq] at h
  have hdays := daysInMonth_le d.year d.month
  omega

namespace IsoText

variable {d : Date} {rest : List Char}

theorem length_toText (hd : d.isValid = true) : d.toText.toList.length = 10 := by
  obtain ⟨hyear, hmonth, hday⟩ := Date.bounds_of_isValid hd
  rw [Date.toList_toText]
  simp only [List.length_append, List.length_cons]
  rw [length_padded (by decide) hyear, length_padded two_pos hmonth, length_padded two_pos hday]
  rfl

/-- **A day is read back**. -/
theorem readDay?_toText (hd : d.isValid = true) : readDay? d.toText.toList = some d := by
  obtain ⟨hyear, hmonth, hday⟩ := Date.bounds_of_isValid hd
  have hlast := readDigits?_padded two_pos hday []
  rw [List.append_nil] at hlast
  have hdash (chars : List Char) : (peek ('-' :: chars) == '-') = true := rfl
  rw [Date.toList_toText, readDay?, readDigits?_padded (by decide) hyear]
  simp only [Option.bind_eq_bind, Option.bind_some, hdash, if_true, List.drop_succ_cons,
    List.drop_zero]
  rw [peek_padded_ne (by decide), readDigits?_padded two_pos hmonth]
  simp only [Option.bind_some, hdash, if_true, List.drop_succ_cons, List.drop_zero, hlast]
  rfl

/-- Ten characters name a day with dashes that is not named by week. -/
theorem dayLength?_eq_ten {chars : List Char} (hlength : ¬chars.length = 7)
    (hdash : (peek (chars.drop 4) == '-') = true) (hweek : (peek (chars.drop 5) == 'W') = false) :
    dayLength? chars = some 10 := by
  unfold dayLength?
  dsimp only
  rw [if_neg (mt beq_iff_eq.mp hlength), if_pos hdash, hweek]
  rfl

/-- The characters of a day are those that name it, whatever follows. -/
theorem dayLength?_toText (hd : d.isValid = true) (rest : List Char) :
    dayLength? (d.toText.toList ++ rest) = some 10 := by
  obtain ⟨hyear, -, -⟩ := Date.bounds_of_isValid hd
  have hdash : (d.toText.toList ++ rest).drop 4 =
      '-' :: ((padded 2 d.month).toList ++ '-' :: ((padded 2 d.day).toList ++ rest)) := by
    rw [Date.toList_toText, List.append_assoc, List.drop_left' (length_padded (by decide) hyear)]
    simp only [List.append_assoc, List.cons_append]
  have hmonths : (d.toText.toList ++ rest).drop 5 =
      (padded 2 d.month).toList ++ '-' :: ((padded 2 d.day).toList ++ rest) := by
    rw [show 5 = 4 + 1 from rfl, ← List.drop_drop, hdash, List.drop_succ_cons, List.drop_zero]
  refine dayLength?_eq_ten ?_ ?_ ?_
  · rw [List.length_append, length_toText hd]
    omega
  · rw [hdash]
    rfl
  · rw [hmonths]
    exact peek_padded_ne (by decide) _ _ _

end IsoText

/-! ## Points in time -/

namespace DateTime

theorem toList_toText (t : DateTime) :
    t.toText.toList = t.date.toText.toList ++ 'T' :: t.time.toText.toList := by
  simp [toText]

/-- Behind a day that exists, anything is left to the reader of times. -/
theorem read?_eq {text : String} {d : Date} (hd : d.isValid = true) {mark : Char}
    {rest : List Char} (h : text.toList = d.toText.toList ++ mark :: rest) :
    read? text =
      (readTime? rest).bind fun time => if isValid ⟨d, time⟩ then some ⟨d, time⟩ else none := by
  have hlength : ¬(d.toText.toList ++ mark :: rest).length < 7 := by
    rw [List.length_append, length_toText hd]
    omega
  unfold read?
  dsimp only
  rw [h, if_neg hlength, dayLength?_toText hd]
  simp only [Option.bind_eq_bind, Option.bind_some]
  rw [List.take_left' (length_toText hd), readDay?_toText hd, List.drop_left' (length_toText hd)]
  simp only [Option.bind_some]

/-- The text of a day names its first moment. -/
theorem read?_toText_date {d : Date} (hd : d.isValid = true) :
    read? d.toText = some (ofDate d) := by
  have hlength : d.toText.toList.length = 10 := length_toText hd
  have hday : dayLength? d.toText.toList = some 10 := by
    have hday := dayLength?_toText hd []
    rwa [List.append_nil] at hday
  have hvalid : isValid ⟨d, .midnight⟩ = true := Bool.and_eq_true_iff.mpr ⟨hd, rfl⟩
  unfold read?
  dsimp only
  rw [if_neg (by omega), hday]
  simp only [Option.bind_eq_bind, Option.bind_some]
  rw [List.take_of_length_le hlength.le, readDay?_toText hd, List.drop_of_length_le hlength.le]
  simp only [Option.bind_some]
  exact if_pos hvalid

theorem isValid_asRead {t : DateTime} (ht : t.isValid = true) : t.asRead.isValid = true := by
  obtain ⟨date, hour, minute, second, micros, offset⟩ := t
  cases offset with
  | none => exact ht
  | some o =>
    obtain ⟨hdate, htime⟩ := Bool.and_eq_true_iff.mp ht
    obtain ⟨hclock, hoffset⟩ := Bool.and_eq_true_iff.mp htime
    refine Bool.and_eq_true_iff.mpr ⟨hdate, Bool.and_eq_true_iff.mpr ⟨hclock, ?_⟩⟩
    show o.asRead.isValid = true
    unfold Offset.asRead
    split
    · rfl
    · exact hoffset

/-- **Points in time are read back**, but for offsets of less than a second. -/
theorem read?_toText {t : DateTime} (ht : t.isValid = true) : read? t.toText = some t.asRead := by
  obtain ⟨hdate, htime⟩ := Bool.and_eq_true_iff.mp ht
  rw [read?_eq hdate t.toList_toText, readTime?_toText htime, Option.bind_some]
  exact if_pos (isValid_asRead ht)

/-- What is read back is what was written, unless that has an offset of less than a second. -/
theorem asRead_eq_self_iff {t : DateTime} :
    t.asRead = t ↔ ∀ o, t.time.offset = some o → o.micros = 0 ∨ 1000000 ≤ o.micros.natAbs := by
  obtain ⟨date, hour, minute, second, micros, offset⟩ := t
  cases offset with
  | none => exact iff_of_true rfl fun o ho => nomatch ho
  | some o =>
    simp only [asRead, TimeOfDay.asRead, Option.map_some, DateTime.mk.injEq, TimeOfDay.mk.injEq,
      Option.some.injEq, true_and, forall_eq', Offset.asRead_eq_self_iff]

end DateTime

end FieldSchema
