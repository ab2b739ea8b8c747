import FieldSchema.Number.Shortest
import FieldSchema.Calendar.IsoText
import Mathlib.Data.List.TakeWhile

/-!
# Digits in texts

Numbers, days and identities are all written with the decimal digits of natural numbers.  What is
needed about them is that a digit is never taken for anything else and that the digits of a number
determine it, also with zeros in front of them.

* `eq_of_append_stop`: what stands in front of a stop can be told from what stands behind it.
* `eq_of_zeros_append_digits`, `IsoText.padded_reads`: digits determine numbers.
* `Binary64.toText_shape`: the characters of the text of a double.
-/

namespace FieldSchema

/-! ## Up to the first stop -/

/-- Characters without a stop among them are determined up to the first stop. -/
theorem eq_of_append_stop {stop : Char → Bool} {cs ds r s : List Char}
    (hcs : ∀ c ∈ cs, stop c = false) (hds : ∀ d ∈ ds, stop d = false)
    (hr : r.head?.all stop = true) (hs : s.head?.all stop = true) (h : cs ++ r = ds ++ s) :
    cs = ds ∧ r = s := by
  induction cs generalizing ds with
  | nil =>
    cases ds with
    | nil => exact ⟨rfl, h⟩
    | cons d ds =>
      have hstop : stop d = true := by
        rw [List.nil_append] at h
        rw [h] at hr
        exact hr
      rw [hds d List.mem_cons_self] at hstop
      contradiction
  | cons c cs ih =>
    cases ds with
    | nil =>
      have hstop : stop c = true := by
        rw [List.nil_append] at h
        rw [← h] at hs
        exact hs
      rw [hcs c List.mem_cons_self] at hstop
      contradiction
    | cons d ds =>
      obtain ⟨rfl, htail⟩ := List.cons_eq_cons.mp h
      obtain ⟨rfl, hrest⟩ := ih (fun c hc => hcs c (List.mem_cons_of_mem _ hc))
        (fun d hd => hds d (List.mem_cons_of_mem _ hd)) htail
      exact ⟨rfl, hrest⟩

/-! ## Digits of natural numbers -/

theorem toList_toString_nat (n : Nat) : (toString n).toList = Nat.toDigits 10 n := Nat.toList_repr

theorem isDigit_of_mem_toString {n : Nat} {c : Char} (h : c ∈ (toString n).toList) :
    c.isDigit = true := by
  rw [toList_toString_nat] at h
  exact Nat.isDigit_of_mem_toDigits (by decide) (by decide) h

theorem toList_toString_ne_nil (n : Nat) : (toString n).toList ≠ [] := by
  rw [toList_toString_nat]
  exact Nat.toDigits_ne_nil

/-- The digits of a number name it, whatever zeros stand in front of them. -/
theorem ofDigitChars_zeros_append_digits (i n : Nat) :
    Nat.ofDigitChars 10 (List.replicate i '0' ++ (toString n).toList) 0 = n := by
  rw [toList_toString_nat, Nat.ofDigitChars_append, Nat.ofDigitChars_replicate_zero,
    Nat.mul_zero, Nat.ofDigitChars_ten_toDigits]

/-- The digits of a number determine it, whatever zeros stand in front of them. -/
theorem eq_of_zeros_append_digits {i j m n : Nat}
    (h : List.replicate i '0' ++ (toString m).toList =
      List.replicate j '0' ++ (toString n).toList) : m = n := by
  rw [← ofDigitChars_zeros_append_digits i m, h, ofDigitChars_zeros_append_digits j n]

theorem toString_nat_injective {m n : Nat} (h : toString m = toString n) : m = n :=
  eq_of_zeros_append_digits (i := 0) (j := 0) (by rw [h])

/-! ## Padded numbers -/

namespace IsoText

theorem toList_padded (width n : Nat) :
    (padded width n).toList =
      List.replicate (width - (toString n).length) '0' ++ (toString n).toList := by
  simp [padded]

theorem isDigit_of_mem_padded {width n : Nat} {c : Char} (h : c ∈ (padded width n).toList) :
    c.isDigit = true := by
  rw [toList_padded, List.mem_append] at h
  rcases h with hzero | hdigit
  · rw [List.eq_of_mem_replicate hzero]
    decide
  · exact isDigit_of_mem_toString hdigit

/-- A padded number is determined by its digits, whatever follows that is no digit. -/
theorem padded_reads {width m n : Nat} {r s : List Char}
    (hr : r.head?.all (fun c => !c.isDigit) = true) (hs : s.head?.all (fun c => !c.isDigit) = true)
    (h : (padded width m).toList ++ r = (padded width n).toList ++ s) : m = n ∧ r = s := by
  have hdigits (k : Nat) : ∀ c ∈ (padded width k).toList, (!c.isDigit) = false := by
    intro c hc
    rw [isDigit_of_mem_padded hc]
    rfl
  obtain ⟨hsame, hrest⟩ := eq_of_append_stop (hdigits m) (hdigits n) hr hs h
  rw [toList_padded, toList_padded] at hsame
  exact ⟨eq_of_zeros_append_digits hsame, hrest⟩

end IsoText

/-! ## Texts of doubles -/

namespace Binary64

/-- What the text of a finite double is made of: digits, a sign, a point and an exponent mark. -/
def isNumeral (c : Char) : Bool := c.isDigit || c == '-' || c == '+' || c == '.' || c == 'e'

theorem isNumeral_of_isDigit {c : Char} (h : c.isDigit = true) : isNumeral c = true := by
  simp [isNumeral, h]

theorem isDigit_of_mem_decimalDigits {n : Nat} {c : Char} (h : c ∈ decimalDigits n) :
    c.isDigit = true := isDigit_of_mem_toString h

theorem mem_of_mem_dropTrailingZeros {digits : List Char} {c : Char}
    (h : c ∈ dropTrailingZeros digits) : c ∈ digits := by
  unfold dropTrailingZeros at h
  rw [List.mem_reverse] at h
  exact List.mem_reverse.mp ((List.dropWhile_sublist _).mem h)

theorem isDigit_of_mem_shortestDigits {x : Binary64} {c : Char}
    (h : c ∈ (shortestDigits x).1) : c.isDigit = true := by
  unfold shortestDigits at h
  cases hratio : x.ratio with
  | none =>
    rw [hratio] at h
    simp at h
  | some ratio =>
    rw [hratio] at h
    exact isDigit_of_mem_decimalDigits (mem_of_mem_dropTrailingZeros h)

/-- Digits laid out with a point are digits and a point. -/
theorem positional_shape {digits : List Char} (hdigits : ∀ c ∈ digits, c.isDigit = true)
    (leading : Int) :
    (∀ c ∈ positional digits leading, c.isDigit = true ∨ c = '.') ∧
      '.' ∈ positional digits leading := by
  have hzeros {count : Nat} {c : Char} (hc : c ∈ List.replicate count '0') :
      c.isDigit = true ∨ c = '.' := by
    rw [List.eq_of_mem_replicate hc]
    decide
  cases leading with
  | ofNat e =>
    refine ⟨?_, by simp [positional]⟩
    intro c hc
    simp only [positional, List.mem_append, List.mem_singleton] at hc
    rcases hc with ((hwhole | hfill) | hpoint) | hfraction
    · exact Or.inl (hdigits c (List.mem_of_mem_take hwhole))
    · exact hzeros hfill
    · exact Or.inr hpoint
    · split at hfraction
      · rw [List.mem_singleton.mp hfraction]
        decide
      · exact Or.inl (hdigits c (List.mem_of_mem_drop hfraction))
  | negSucc e =>
    refine ⟨?_, by simp [positional]⟩
    intro c hc
    simp only [positional, List.mem_cons, List.mem_append] at hc
    rcases hc with rfl | hpoint | hfill | hdigit
    · decide
    · exact Or.inr hpoint
    · exact hzeros hfill
    · exact Or.inl (hdigits c hdigit)

/-- Digits with a point behind the first of them, when there are more. -/
def mantissaOf : List Char → List Char
  | [] => ['0']
  | [d] => [d]
  | d :: rest => d :: '.' :: rest

theorem mantissaOf_ne_nil (digits : List Char) : mantissaOf digits ≠ [] := by
  match digits with
  | [] => simp [mantissaOf]
  | [_] => simp [mantissaOf]
  | _ :: _ :: _ => simp [mantissaOf]

/-- A layout with an exponent is a mantissa, the exponent mark, a sign and at least two digits. -/
theorem scientific_eq (digits : List Char) (leading : Int) :
    scientific digits leading = mantissaOf digits ++ 'e' :: (if leading < 0 then '-' else '+') ::
      (List.replicate (2 - (decimalDigits leading.natAbs).length) '0' ++
        decimalDigits leading.natAbs) := by
  have hmantissa : scientific digits leading =
      mantissaOf digits ++ ['e', if leading < 0 then '-' else '+'] ++
        List.replicate (2 - (decimalDigits leading.natAbs).length) '0' ++
        decimalDigits leading.natAbs := by
    match digits with
    | [] => rfl
    | [d] => rfl
    | d :: e :: rest => rfl
  rw [hmantissa, List.append_assoc, List.append_assoc, List.cons_append, List.singleton_append]

theorem mantissaOf_shape {digits : List Char} (hdigits : ∀ c ∈ digits, c.isDigit = true) :
    ∀ c ∈ mantissaOf digits, c.isDigit = true ∨ c = '.' := by
  intro c hc
  match digits, hdigits, hc with
  | [], _, hc =>
    rw [List.mem_singleton.mp hc]
    decide
  | [d], hdigits, hc => exact Or.inl (hdigits c hc)
  | d :: e :: rest, hdigits, hc =>
    rcases List.mem_cons.mp hc with rfl | hc
    · exact Or.inl (hdigits c List.mem_cons_self)
    · rcases List.mem_cons.mp hc with hpoint | hc
      · exact Or.inr hpoint
      · exact Or.inl (hdigits c (List.mem_cons_of_mem d hc))

theorem isNumeral_of_shape {c : Char} (h : c.isDigit = true ∨ c = '.') : isNumeral c = true := by
  rcases h with h | rfl
  · exact isNumeral_of_isDigit h
  · decide

/-- Digits in the layout that their leading exponent calls for. -/
def layout (digits : List Char) (leading : Int) : List Char :=
  if -4 ≤ leading && leading < 16 then positional digits leading else scientific digits leading

theorem layout_shape {digits : List Char} (hdigits : ∀ c ∈ digits, c.isDigit = true)
    (leading : Int) :
    (∀ c ∈ layout digits leading, isNumeral c = true) ∧
      ∃ c ∈ layout digits leading, c = '.' ∨ c = 'e' := by
  unfold layout
  split
  · obtain ⟨hall, hpoint⟩ := positional_shape hdigits leading
    exact ⟨fun c hc => isNumeral_of_shape (hall c hc), '.', hpoint, Or.inl rfl⟩
  · rw [scientific_eq]
    refine ⟨?_, 'e', by simp, Or.inr rfl⟩
    intro c hc
    simp only [List.mem_append, List.mem_cons] at hc
    rcases hc with hmantissa | rfl | rfl | hfill | hpower
    · exact isNumeral_of_shape (mantissaOf_shape hdigits c hmantissa)
    · decide
    · split <;> decide
    · rw [List.eq_of_mem_replicate hfill]
      decide
    · exact isNumeral_of_isDigit (isDigit_of_mem_decimalDigits hpower)

theorem toText_zero (negative : Bool) (exponent : Int) :
    toText (.finite negative 0 exponent) = if negative then "-0.0" else "0.0" := by
  cases negative <;> rfl

/-- The text of a double that is not zero: its sign and its shortest digits. -/
theorem toList_toText (negative : Bool) (significand : Nat) (exponent : Int) :
    (toText (.finite negative (significand + 1) exponent)).toList =
      (if negative then ['-'] else []) ++
        layout (shortestDigits (.finite false (significand + 1) exponent)).1
          (shortestDigits (.finite false (significand + 1) exponent)).2 := by
  cases negative <;> simp [toText, layout, isNegative]

/-- **The text of a finite double** is made of numerals, and a point or an exponent mark is among
them, which the text of a whole number never has. -/
theorem toText_shape (negative : Bool) (significand : Nat) (exponent : Int) :
    (∀ c ∈ (toText (.finite negative significand exponent)).toList, isNumeral c = true) ∧
      ∃ c ∈ (toText (.finite negative significand exponent)).toList, c = '.' ∨ c = 'e' := by
  cases significand with
  | zero =>
    rw [toText_zero]
    refine ⟨List.all_eq_true.mp ?_, '.', ?_, .inl rfl⟩ <;> cases negative <;> decide
  | succ n =>
    have hsign : ∀ c ∈ (if negative then ['-'] else []), isNumeral c = true := by
      refine List.all_eq_true.mp ?_
      cases negative <;> decide
    obtain ⟨hall, mark, hmem, hmark⟩ := layout_shape
      (fun c hc => isDigit_of_mem_shortestDigits (x := .finite false (n + 1) exponent) hc)
      (shortestDigits (.finite false (n + 1) exponent)).2
    rw [toList_toText]
    refine ⟨?_, mark, List.mem_append_right _ hmem, hmark⟩
    intro c hc
    rcases List.mem_append.mp hc with hc | hc
    · exact hsign c hc
    · exact hall c hc

end Binary64

end FieldSchema
