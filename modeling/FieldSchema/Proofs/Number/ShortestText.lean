import FieldSchema.Proofs.Number.DecimalSearch
import FieldSchema.Proofs.Number.Digits
import FieldSchema.Signature.Payload

/-!
# The text of a double determines it

The shortest text of a double is a decimal that rounds to the double, so that no two doubles have
one text.  A text is read as a rational number, whatever its layout: digits with a point among them,
and an exponent behind its mark (`Binary64.decimalValue`).  Both layouts of the digits of a double
state the number that the digits and the exponent of the leading one stand for, and the search has
found digits for which this number rounds to the double.

* `Binary64.shortestDigits_spec`: the shortest digits state a number that rounds to the double.
* `Binary64.decimalValue`: the number that a text states.
* `Binary64.nearest_decimalValue`: the text of a double states a number that rounds to it.
* `Payload.floatText_injective`: texts determine doubles.
-/

namespace FieldSchema

namespace Binary64

/-! ## Digits -/

/-- The number that digits state. -/
def digitsValue (digits : List Char) : ℕ := Nat.ofDigitChars 10 digits 0

theorem digitsValue_append (front back : List Char) :
    digitsValue (front ++ back) = digitsValue front * 10 ^ back.length + digitsValue back := by
  rw [digitsValue, Nat.ofDigitChars_append, Nat.ofDigitChars_eq_ofDigitChars_zero, mul_comm]
  rfl

theorem digitsValue_zeros (count : ℕ) : digitsValue (List.replicate count '0') = 0 := by
  rw [digitsValue, Nat.ofDigitChars_replicate_zero, mul_zero]

theorem digitsValue_zeros_append (count : ℕ) (digits : List Char) :
    digitsValue (List.replicate count '0' ++ digits) = digitsValue digits := by
  rw [digitsValue_append, digitsValue_zeros, zero_mul, zero_add]

theorem digitsValue_append_zeros (digits : List Char) (count : ℕ) :
    digitsValue (digits ++ List.replicate count '0') = digitsValue digits * 10 ^ count := by
  rw [digitsValue_append, digitsValue_zeros, add_zero, List.length_replicate]

theorem digitsValue_decimalDigits (n : ℕ) : digitsValue (decimalDigits n) = n := by
  rw [digitsValue, decimalDigits, toList_toString_nat, Nat.ofDigitChars_ten_toDigits]

/-- Only zeros are dropped at the end. -/
theorem exists_dropTrailingZeros_append (digits : List Char) :
    ∃ count, digits = dropTrailingZeros digits ++ List.replicate count '0' := by
  refine ⟨(digits.reverse.takeWhile (· == '0')).length, ?_⟩
  have hzeros : digits.reverse.takeWhile (· == '0') =
      List.replicate (digits.reverse.takeWhile (· == '0')).length '0' := by
    rw [List.eq_replicate_iff]
    refine ⟨rfl, ?_⟩
    intro c hc
    simpa using List.mem_takeWhile_imp hc
  rw [← List.reverse_replicate, ← hzeros, dropTrailingZeros, ← List.reverse_append,
    List.takeWhile_append_dropWhile, List.reverse_reverse]

/-- The sign goes through rounding. -/
theorem nearest_of_nearest_false {q : ℚ} {m : ℕ} {e : ℤ}
    (h : nearest false q = .finite false m e) (negative : Bool) :
    nearest negative q = .finite negative m e := by
  unfold nearest at h ⊢
  split at h
  · cases h
    rw [if_pos ‹q = 0›]
  · rw [if_neg ‹¬q = 0›]
    simp only at h ⊢
    generalize (if roundNearest (q / 2 ^ exponentOf q) == 0x20000000000000 then
      ((0x10000000000000 : ℕ), exponentOf q + 1)
      else (roundNearest (q / 2 ^ exponentOf q), exponentOf q)) = parts at h ⊢
    split at h
    · contradiction
    · cases h
      rw [if_neg ‹_›]

/-- **The shortest digits** of a double that is not zero state a number that rounds to it. -/
theorem shortestDigits_spec {m : ℕ} {e : ℤ} (hm : 0 < m)
    (hcanonical : IsCanonical (.finite false m e)) :
    (shortestDigits (.finite false m e)).1 ≠ [] ∧
      nearest false (digitsValue (shortestDigits (.finite false m e)).1 *
        10 ^ ((shortestDigits (.finite false m e)).2 -
          (shortestDigits (.finite false m e)).1.length + 1)) = .finite false m e := by
  obtain ⟨num, den, hratio, hnum, hden, hvalue, hlow, hhigh⟩ := ratio_spec hm hcanonical
  obtain ⟨hpos, hreads⟩ := gridNeighbour_reads hm hcanonical hnum hden hvalue hlow hhigh
  have hsearch := searchGrid_reads 17 (decimalExponent num den) (isSome_digitsOnGrid? hpos hreads)
  obtain ⟨hn, hnearest⟩ := nearest_of_ofScaledDecimal hm hsearch
  have hdigits : shortestDigits (.finite false m e) =
      (dropTrailingZeros
          (decimalDigits (searchGrid (.finite false m e) num den 18 (decimalExponent num den)).1),
        (searchGrid (.finite false m e) num den 18 (decimalExponent num den)).2 +
          (decimalDigits (searchGrid (.finite false m e) num den 18
            (decimalExponent num den)).1).length - 1) := by
    unfold shortestDigits
    rw [hratio]
    rfl
  rw [hdigits]
  generalize (searchGrid (.finite false m e) num den 18 (decimalExponent num den)) = found
    at hn hnearest
  obtain ⟨n, exponent⟩ := found
  obtain ⟨count, hcount⟩ := exists_dropTrailingZeros_append (decimalDigits n)
  have hstated := digitsValue_decimalDigits n
  rw [hcount, digitsValue_append_zeros] at hstated
  refine ⟨?_, ?_⟩
  · intro hempty
    have hempty : dropTrailingZeros (decimalDigits n) = [] := hempty
    rw [hempty] at hstated
    have hzero : n = 0 := by
      rw [← hstated]
      exact Nat.zero_mul _
    omega
  · have hlength : (decimalDigits n).length =
        (dropTrailingZeros (decimalDigits n)).length + count := by
      conv_lhs => rw [hcount]
      rw [List.length_append, List.length_replicate]
    have hpower : exponent + ((decimalDigits n).length : ℤ) - 1 -
        ((dropTrailingZeros (decimalDigits n)).length : ℤ) + 1 = exponent + count := by
      rw [hlength]
      push_cast
      ring
    have hsame : (digitsValue (dropTrailingZeros (decimalDigits n)) : ℚ) *
        10 ^ (exponent + (count : ℤ)) = n * 10 ^ exponent := by
      have hstatedQ : (digitsValue (dropTrailingZeros (decimalDigits n)) : ℚ) * 10 ^ count = n := by
        exact_mod_cast hstated
      rw [← hstatedQ, zpow_add₀ (by norm_num), zpow_natCast]
      ring
    show nearest false (_ * 10 ^ (exponent + ((decimalDigits n).length : ℤ) - 1 -
      ((dropTrailingZeros (decimalDigits n)).length : ℤ) + 1)) = _
    rw [hpower, hsame, hnearest]

/-! ## Reading a text -/

/-- The number that digits with a point among them state. -/
def pointValue (chars : List Char) : ℚ :=
  digitsValue (chars.takeWhile (· != '.') ++ (chars.dropWhile (· != '.')).drop 1) /
    10 ^ ((chars.dropWhile (· != '.')).drop 1).length

/-- The number that digits behind a sign state. -/
def signedValue : List Char → ℤ
  | '-' :: digits => -digitsValue digits
  | _ :: digits => digitsValue digits
  | [] => 0

/-- The number that a text states: digits with a point, and an exponent behind its mark. -/
def decimalValue (chars : List Char) : ℚ :=
  pointValue (chars.takeWhile (· != 'e')) *
    10 ^ signedValue ((chars.dropWhile (· != 'e')).drop 1)

/-- Digits come before any mark. -/
theorem takeWhile_ne_of_isDigit {mark : Char} (hmark : mark.isDigit = false) {digits : List Char}
    (hdigits : ∀ c ∈ digits, c.isDigit = true) (rest : List Char) :
    (digits ++ mark :: rest).takeWhile (· != mark) = digits ∧
      (digits ++ mark :: rest).dropWhile (· != mark) = mark :: rest ∧
      digits.takeWhile (· != mark) = digits ∧ digits.dropWhile (· != mark) = [] := by
  have hne : ∀ c ∈ digits, (c != mark) = true := by
    intro c hc
    rw [bne_iff_ne]
    rintro rfl
    rw [hdigits c hc] at hmark
    contradiction
  refine ⟨?_, ?_, ?_, ?_⟩
  · rw [List.takeWhile_append_of_pos hne]
    simp
  · rw [List.dropWhile_append_of_pos hne]
    simp
  · rw [List.takeWhile_eq_self_iff]
    exact hne
  · rw [List.dropWhile_eq_nil_iff]
    exact hne

/-- Digits on both sides of a point. -/
theorem pointValue_point {whole fraction : List Char} (hwhole : ∀ c ∈ whole, c.isDigit = true) :
    pointValue (whole ++ '.' :: fraction) =
      digitsValue (whole ++ fraction) / 10 ^ fraction.length := by
  have hmark : Char.isDigit '.' = false := by decide
  obtain ⟨htake, hdrop, -, -⟩ := takeWhile_ne_of_isDigit hmark hwhole fraction
  simp only [pointValue, htake, hdrop, List.drop_one, List.tail_cons]

/-- Digits without a point. -/
theorem pointValue_digits {digits : List Char} (hdigits : ∀ c ∈ digits, c.isDigit = true) :
    pointValue digits = digitsValue digits := by
  have hmark : Char.isDigit '.' = false := by decide
  obtain ⟨-, -, htake, hdrop⟩ := takeWhile_ne_of_isDigit hmark hdigits []
  simp [pointValue, htake, hdrop]

/-- A text without an exponent mark. -/
theorem decimalValue_of_noMark {chars : List Char} (h : ∀ c ∈ chars, (c != 'e') = true) :
    decimalValue chars = pointValue chars := by
  rw [decimalValue, List.takeWhile_eq_self_iff.mpr h, List.dropWhile_eq_nil_iff.mpr h]
  simp [signedValue]

/-- A text with an exponent mark behind its mantissa. -/
theorem decimalValue_mark {mantissa power : List Char} (h : ∀ c ∈ mantissa, (c != 'e') = true) :
    decimalValue (mantissa ++ 'e' :: power) = pointValue mantissa * 10 ^ signedValue power := by
  rw [decimalValue, List.takeWhile_append_of_pos h, List.dropWhile_append_of_pos h]
  simp

/-- A sign and zeros in front of digits. -/
theorem signedValue_power (leading : ℤ) (count : ℕ) :
    signedValue ((if leading < 0 then '-' else '+') ::
      (List.replicate count '0' ++ decimalDigits leading.natAbs)) = leading := by
  by_cases hsign : leading < 0
  · simp only [hsign, if_true, signedValue, digitsValue_zeros_append, digitsValue_decimalDigits]
    omega
  · simp only [hsign, if_false]
    show (digitsValue (List.replicate count '0' ++ decimalDigits leading.natAbs) : ℤ) = leading
    rw [digitsValue_zeros_append, digitsValue_decimalDigits]
    omega

theorem ne_mark_of_shape {c : Char} (h : c.isDigit = true ∨ c = '.') : (c != 'e') = true := by
  rw [bne_iff_ne]
  rintro rfl
  revert h
  decide

/-- The number that digits with a point state. -/
theorem decimalValue_positional {digits : List Char} (hdigits : ∀ c ∈ digits, c.isDigit = true)
    (leading : ℤ) :
    decimalValue (positional digits leading) =
      digitsValue digits * 10 ^ (leading - digits.length + 1) := by
  rw [decimalValue_of_noMark fun c hc =>
    ne_mark_of_shape ((positional_shape hdigits leading).1 c hc)]
  cases leading with
  | negSucc e =>
    have hpoint : positional digits (Int.negSucc e) =
        ['0'] ++ '.' :: (List.replicate e '0' ++ digits) := rfl
    have hzeros : ['0'] ++ (List.replicate e '0' ++ digits) =
        List.replicate (e + 1) '0' ++ digits := rfl
    have hpower : (Int.negSucc e - digits.length + 1 : ℤ) = -((e + digits.length : ℕ) : ℤ) := by
      push_cast
      omega
    have hwhole : ∀ c ∈ ['0'], c.isDigit = true := List.all_eq_true.mp (by decide)
    rw [hpoint, pointValue_point hwhole, hzeros, digitsValue_zeros_append, List.length_append,
      List.length_replicate, hpower, zpow_neg, zpow_natCast, div_eq_mul_inv]
  | ofNat e =>
    by_cases hlength : digits.length ≤ e + 1
    · -- All digits stand in front of the point, and zeros fill the rest.
      have hpoint : positional digits (Int.ofNat e) =
          (digits ++ List.replicate (e + 1 - digits.length) '0') ++ '.' :: ['0'] := by
        simp only [positional, List.take_of_length_le hlength, List.drop_of_length_le hlength]
        simp
      have hwhole : ∀ c ∈ digits ++ List.replicate (e + 1 - digits.length) '0',
          c.isDigit = true := by
        intro c hc
        rcases List.mem_append.mp hc with hc | hc
        · exact hdigits c hc
        · rw [List.eq_of_mem_replicate hc]
          decide
      have hvalue : digitsValue (digits ++ List.replicate (e + 1 - digits.length) '0' ++ ['0']) =
          digitsValue digits * 10 ^ (e + 1 - digits.length) * 10 := by
        rw [digitsValue_append, digitsValue_append_zeros]
        rfl
      have hpower : (Int.ofNat e - digits.length + 1 : ℤ) = ((e + 1 - digits.length : ℕ) : ℤ) := by
        rw [Int.ofNat_eq_natCast]
        omega
      rw [hpoint, pointValue_point hwhole, hvalue, hpower, zpow_natCast]
      push_cast
      rw [List.length_singleton, pow_one, mul_div_assoc, div_self (by norm_num), mul_one]
    · -- The point stands among the digits.
      have hlength : e + 1 < digits.length := by omega
      have htake : (digits.take (e + 1)).length = e + 1 := List.length_take_of_le (by omega)
      have hpoint : positional digits (Int.ofNat e) =
          digits.take (e + 1) ++ '.' :: digits.drop (e + 1) := by
        have hrest : (digits.drop (e + 1)).isEmpty = false := by
          rw [List.isEmpty_eq_false_iff, ← List.length_pos_iff, List.length_drop]
          omega
        simp only [positional, htake, hrest]
        simp
      have hwhole : ∀ c ∈ digits.take (e + 1), c.isDigit = true :=
        fun c hc => hdigits c (List.mem_of_mem_take hc)
      have hpower : (Int.ofNat e - digits.length + 1 : ℤ) =
          -((digits.length - (e + 1) : ℕ) : ℤ) := by
        rw [Int.ofNat_eq_natCast]
        omega
      rw [hpoint, pointValue_point hwhole, List.take_append_drop, List.length_drop, hpower,
        zpow_neg, zpow_natCast, div_eq_mul_inv]

/-- The number that digits with an exponent state. -/
theorem decimalValue_scientific {digits : List Char} (hdigits : ∀ c ∈ digits, c.isDigit = true)
    (hne : digits ≠ []) (leading : ℤ) :
    decimalValue (scientific digits leading) =
      digitsValue digits * 10 ^ (leading - digits.length + 1) := by
  rw [scientific_eq, decimalValue_mark fun c hc =>
    ne_mark_of_shape (mantissaOf_shape hdigits c hc), signedValue_power]
  obtain ⟨d, rest, rfl⟩ := List.exists_cons_of_ne_nil hne
  cases rest with
  | nil =>
    have hmantissa : mantissaOf [d] = [d] := rfl
    rw [hmantissa, pointValue_digits hdigits, List.length_singleton]
    congr 2
    push_cast
    ring
  | cons next rest =>
    have hmantissa : mantissaOf (d :: next :: rest) = [d] ++ '.' :: (next :: rest) := rfl
    have hfirst : ∀ c ∈ [d], c.isDigit = true := by
      intro c hc
      rw [List.mem_singleton.mp hc]
      exact hdigits d List.mem_cons_self
    rw [hmantissa, pointValue_point hfirst, List.singleton_append, div_mul_eq_mul_div,
      mul_div_assoc, ← zpow_natCast, ← zpow_sub₀ (by norm_num)]
    congr 2
    simp only [List.length_cons]
    push_cast
    ring

theorem decimalValue_layout {digits : List Char} (hdigits : ∀ c ∈ digits, c.isDigit = true)
    (hne : digits ≠ []) (leading : ℤ) :
    decimalValue (layout digits leading) =
      digitsValue digits * 10 ^ (leading - digits.length + 1) := by
  unfold layout
  split
  · exact decimalValue_positional hdigits leading
  · exact decimalValue_scientific hdigits hne leading

/-! ## Texts and doubles -/

/-- The text of a finite double without its sign. -/
def magnitudeText (significand : ℕ) (exponent : ℤ) : List Char :=
  if significand = 0 then ['0', '.', '0']
  else layout (shortestDigits (.finite false significand exponent)).1
    (shortestDigits (.finite false significand exponent)).2

theorem toList_toText_finite (negative : Bool) (significand : ℕ) (exponent : ℤ) :
    (toText (.finite negative significand exponent)).toList =
      (if negative then ['-'] else []) ++ magnitudeText significand exponent := by
  cases significand with
  | zero =>
    rw [toText_zero, magnitudeText, if_pos rfl]
    cases negative <;> decide
  | succ n =>
    rw [toList_toText, magnitudeText, if_neg (Nat.succ_ne_zero n)]

/-- No layout begins with a sign. -/
theorem layout_ne_minus {digits : List Char} (hdigits : ∀ c ∈ digits, c.isDigit = true)
    (leading : ℤ) (rest : List Char) : layout digits leading ≠ '-' :: rest := by
  have hminus : ¬(('-' : Char).isDigit = true ∨ ('-' : Char) = '.') := by decide
  intro h
  unfold layout at h
  split at h
  · refine hminus ((positional_shape hdigits leading).1 '-' ?_)
    rw [h]
    exact List.mem_cons_self
  · refine hminus (mantissaOf_shape hdigits '-' ?_)
    rw [scientific_eq] at h
    obtain ⟨c, cs, hmantissa⟩ := List.exists_cons_of_ne_nil (mantissaOf_ne_nil digits)
    rw [hmantissa, List.cons_append] at h
    rw [hmantissa, (List.cons_eq_cons.mp h).1]
    exact List.mem_cons_self

/-- The sign is not part of the magnitude. -/
theorem magnitudeText_ne_minus (significand : ℕ) (exponent : ℤ) (rest : List Char) :
    magnitudeText significand exponent ≠ '-' :: rest := by
  unfold magnitudeText
  split
  · simp
  · exact layout_ne_minus (fun c hc => isDigit_of_mem_shortestDigits hc) _ rest

/-- **The text of a finite double** states a number that rounds to it. -/
theorem nearest_decimalValue {negative : Bool} {significand : ℕ} {exponent : ℤ}
    (hcanonical : IsCanonical (.finite negative significand exponent)) :
    nearest negative (decimalValue (magnitudeText significand exponent)) =
      .finite negative significand exponent := by
  unfold magnitudeText
  split
  · next hzero =>
    subst hzero
    have hexponent : exponent = -1074 := by
      obtain ⟨-, -, -, hnormal⟩ := hcanonical
      exact hnormal.resolve_left (by norm_num)
    have hwhole : ∀ c ∈ ['0'], c.isDigit = true := List.all_eq_true.mp (by decide)
    have hpoint : pointValue ['0', '.', '0'] = digitsValue (['0'] ++ ['0']) / 10 ^ ['0'].length :=
      pointValue_point hwhole
    have hvalue : decimalValue ['0', '.', '0'] = 0 := by
      rw [decimalValue_of_noMark (List.all_eq_true.mp (by decide))]
      refine hpoint.trans ?_
      have hdigits : digitsValue (['0'] ++ ['0']) = 0 := by decide
      rw [hdigits, Nat.cast_zero, zero_div]
    rw [hvalue, nearest, if_pos rfl, hexponent]
  · next hne =>
    obtain ⟨hdigits, hnearest⟩ := shortestDigits_spec (Nat.pos_of_ne_zero hne) hcanonical
    rw [decimalValue_layout (fun c hc => isDigit_of_mem_shortestDigits hc) hdigits]
    exact nearest_of_nearest_false hnearest negative

end Binary64

/-- **Texts determine doubles.** -/
theorem Payload.floatText_injective {x y : Binary64} (hx : x.IsCanonical) (hy : y.IsCanonical)
    (h : floatText x = floatText y) : x = y := by
  have hnumerals {special : Binary64} {b : Bool} {n : ℕ} {e : ℤ}
      (h : floatText special = floatText (.finite b n e)) :
      ∀ c ∈ (floatText special).toList, Binary64.isNumeral c = true := by
    rw [h]
    exact (Binary64.toText_shape b n e).1
  cases x with
  | notANumber =>
    cases y with
    | notANumber => rfl
    | infinite b => cases b <;> exact absurd h (by decide)
    | finite b n e => exact absurd (hnumerals h 'N' (by decide)) (by decide)
  | infinite a =>
    cases y with
    | notANumber => cases a <;> exact absurd h (by decide)
    | infinite b =>
      revert h
      cases a <;> cases b <;> decide
    | finite b n e =>
      exact absurd (hnumerals h 'I' (by cases a <;> decide)) (by decide)
  | finite a m d =>
    cases y with
    | notANumber => exact absurd (hnumerals h.symm 'N' (by decide)) (by decide)
    | infinite b => exact absurd (hnumerals h.symm 'I' (by cases b <;> decide)) (by decide)
    | finite b n e =>
      have hchars := congrArg String.toList (show Binary64.toText _ = Binary64.toText _ from h)
      rw [Binary64.toList_toText_finite, Binary64.toList_toText_finite] at hchars
      have hsame : a = b ∧ Binary64.magnitudeText m d = Binary64.magnitudeText n e := by
        cases a <;> cases b
        · exact ⟨rfl, hchars⟩
        · exact absurd hchars (Binary64.magnitudeText_ne_minus _ _ _)
        · exact absurd hchars.symm (Binary64.magnitudeText_ne_minus _ _ _)
        · exact ⟨rfl, (List.cons_eq_cons.mp hchars).2⟩
      rw [← Binary64.nearest_decimalValue hx, ← Binary64.nearest_decimalValue hy, hsame.1, hsame.2]

end FieldSchema
