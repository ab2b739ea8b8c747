import FieldSchema.Number.Binary64
import Mathlib.Algebra.Order.Floor.Semifield
import Mathlib.Data.Int.Log
import Mathlib.Data.Rat.Floor
import Mathlib.Tactic.FieldSimp
import Mathlib.Tactic.Linarith
import Mathlib.Tactic.NormNum
import Mathlib.Tactic.Positivity
import Mathlib.Tactic.Ring

/-!
# Rounding as a function of the rational number

A quotient of natural numbers is rounded by exact arithmetic on its two parts.  What comes out
depends on the rational number only, and this module gives the rounding as a function of it: the
exponent is read off the binary logarithm, and the significand is the nearest natural number.

## A neighbourhood of every double

A double is what every rational number close to it rounds to (`nearest_of_close`): closer than the
`2 ^ 54`-th part of it is close enough.  There are two cases.  Inside a binade the quotient by the
unit lies within one half of the significand.  At the lower end of a binade the number may fall
below it, where the unit is half as large, and rounding carries it back up.

* `Binary64.roundNearest`, `Binary64.nearest`: rounding of rational numbers.
* `Binary64.ofRatio_eq_nearest`: rounding of quotients.
* `Binary64.IsCanonical`: the form of the doubles that there are.
* `Binary64.nearest_of_close`: what rounds to a double.
-/

namespace FieldSchema

namespace Binary64

/-! ## Whole numbers -/

/-- A rational number rounded to the nearest natural number, a tie to the even one. -/
def roundNearest (q : ℚ) : ℕ :=
  let low := ⌊q⌋₊
  if q - low < 1 / 2 then low
  else if 1 / 2 < q - low then low + 1
  else if low % 2 == 0 then low else low + 1

theorem roundHalfEven_eq {num den : ℕ} (hden : 0 < den) :
    roundHalfEven num den = roundNearest ((num : ℚ) / den) := by
  have hpos : (0 : ℚ) < den := by exact_mod_cast hden
  have hfloor : ⌊(num : ℚ) / den⌋₊ = num / den := Nat.floor_div_eq_div num den
  have hrest : (num : ℚ) / den - (num / den : ℕ) = (num % den : ℕ) / den := by
    have hsplit : (num : ℚ) = den * (num / den : ℕ) + (num % den : ℕ) := by
      exact_mod_cast (Nat.div_add_mod num den).symm
    rw [eq_div_iff hpos.ne', sub_mul, div_mul_cancel₀ _ hpos.ne']
    linarith
  have hlow : ((num % den : ℕ) : ℚ) / den < 1 / 2 ↔ 2 * (num % den) < den := by
    rw [div_lt_div_iff₀ hpos two_pos, one_mul, mul_comm]
    exact_mod_cast Iff.rfl
  have hhigh : 1 / 2 < ((num % den : ℕ) : ℚ) / den ↔ den < 2 * (num % den) := by
    rw [div_lt_div_iff₀ two_pos hpos, one_mul, mul_comm (_ : ℚ) 2]
    exact_mod_cast Iff.rfl
  simp only [roundHalfEven, roundNearest, hfloor, hrest, hlow, hhigh]

/-- A number within one half of a natural number is rounded to it. -/
theorem roundNearest_of_close {q : ℚ} {m : ℕ} (hq : 0 ≤ q) (h : |q - m| < 1 / 2) :
    roundNearest q = m := by
  obtain ⟨hlow, hhigh⟩ := abs_lt.mp h
  by_cases hle : (m : ℚ) ≤ q
  · have hfloor : ⌊q⌋₊ = m := by
      rw [Nat.floor_eq_iff hq]
      exact ⟨hle, by linarith⟩
    simp only [roundNearest, hfloor]
    rw [if_pos hhigh]
  · obtain ⟨k, rfl⟩ : ∃ k, m = k + 1 := by
      refine Nat.exists_eq_succ_of_ne_zero ?_
      rintro rfl
      exact hle (by simpa using hq)
    push_cast at hlow hhigh hle
    have hfloor : ⌊q⌋₊ = k := by
      rw [Nat.floor_eq_iff hq]
      constructor <;> linarith
    simp only [roundNearest, hfloor]
    rw [if_neg (by linarith), if_pos (by linarith)]

/-! ## Exponents -/

theorem scaleRatio_spec (num : ℕ) {den : ℕ} (hden : 0 < den) (exponent : ℤ) :
    0 < (scaleRatio num den exponent).2 ∧
      ((scaleRatio num den exponent).1 : ℚ) / (scaleRatio num den exponent).2 =
        (num : ℚ) / den / 2 ^ exponent := by
  have hpos : (den : ℚ) ≠ 0 := by exact_mod_cast hden.ne'
  cases exponent with
  | ofNat e =>
    refine ⟨Nat.mul_pos hden (Nat.two_pow_pos e), ?_⟩
    simp only [scaleRatio, Int.ofNat_eq_natCast, zpow_natCast, Nat.pow_eq]
    push_cast
    rw [div_div]
  | negSucc e =>
    refine ⟨hden, ?_⟩
    simp only [scaleRatio, zpow_negSucc, Nat.pow_eq]
    push_cast
    rw [div_inv_eq_mul]
    ring

/-- The logarithm of a quotient lies between the bounds that the lengths of its parts give. -/
theorem ratio_bounds {num den : ℕ} (hnum : 0 < num) (hden : 0 < den) :
    (2 : ℚ) ^ ((num.log2 : ℤ) - den.log2 - 1) < (num : ℚ) / den ∧
      (num : ℚ) / den < 2 ^ ((num.log2 : ℤ) - den.log2 + 1) := by
  have hnumLow : (2 : ℚ) ^ num.log2 ≤ num := by exact_mod_cast Nat.log2_self_le hnum.ne'
  have hnumHigh : (num : ℚ) < 2 ^ (num.log2 + 1) := by exact_mod_cast Nat.lt_log2_self
  have hdenLow : (2 : ℚ) ^ den.log2 ≤ den := by exact_mod_cast Nat.log2_self_le hden.ne'
  have hdenHigh : (den : ℚ) < 2 ^ (den.log2 + 1) := by exact_mod_cast Nat.lt_log2_self
  have hpos : (0 : ℚ) < den := by exact_mod_cast hden
  have hsub (a b : ℕ) : (2 : ℚ) ^ ((a : ℤ) - b) = 2 ^ a / 2 ^ b := by
    rw [zpow_sub₀ two_ne_zero, zpow_natCast, zpow_natCast]
  constructor
  · have hexponent : (num.log2 : ℤ) - den.log2 - 1 = (num.log2 : ℤ) - (den.log2 + 1 : ℕ) := by
      push_cast
      ring
    rw [hexponent, hsub]
    exact div_lt_div₀' hnumLow hdenHigh (by positivity) hpos
  · have hexponent : (num.log2 : ℤ) - den.log2 + 1 = ((num.log2 + 1 : ℕ) : ℤ) - den.log2 := by
      push_cast
      ring
    rw [hexponent, hsub]
    exact div_lt_div₀ hnumHigh hdenLow (by positivity) (by positivity)

/-- The exponent of the significand that represents a positive number. -/
def exponentOf (q : ℚ) : ℤ := max (-1074) (Int.log 2 q - 52)

/-- The exponent of the significand is read off the binary logarithm. -/
theorem exponentFor_eq {num den : ℕ} (hnum : 0 < num) (hden : 0 < den) :
    exponentFor num den = exponentOf ((num : ℚ) / den) := by
  have hq : (0 : ℚ) < (num : ℚ) / den := by positivity
  obtain ⟨hlow, hhigh⟩ := ratio_bounds hnum hden
  set guess : ℤ := (num.log2 : ℤ) - den.log2 - 53 with hguess
  obtain ⟨hscaledPos, hscaled⟩ := scaleRatio_spec num hden guess
  have hfloor : (scaleRatio num den guess).1 / (scaleRatio num den guess).2 < 0x20000000000000 ↔
      (num : ℚ) / den < 2 ^ (guess + 53) := by
    have hunit : (0 : ℚ) < 2 ^ guess := zpow_pos two_pos guess
    have hnonneg : (0 : ℚ) ≤ (num : ℚ) / den / 2 ^ guess := (div_pos hq hunit).le
    rw [← Nat.floor_div_eq_div (K := ℚ), hscaled, Nat.floor_lt hnonneg, div_lt_iff₀ hunit,
      zpow_add₀ two_ne_zero, mul_comm]
    norm_num
  have hlogLow : guess + 52 ≤ Int.log 2 ((num : ℚ) / den) := by
    rw [← Int.zpow_le_iff_le_log one_lt_two hq]
    refine le_of_lt (lt_of_eq_of_lt ?_ hlow)
    rw [hguess]
    congr 1
    ring
  have hlogHigh : Int.log 2 ((num : ℚ) / den) < guess + 54 := by
    rw [← Int.lt_zpow_iff_log_lt one_lt_two hq]
    refine lt_of_lt_of_eq hhigh ?_
    rw [hguess]
    congr 1
    ring
  have hcut : (num : ℚ) / den < 2 ^ (guess + 53) ↔ Int.log 2 ((num : ℚ) / den) < guess + 53 := by
    exact_mod_cast Int.lt_zpow_iff_log_lt (one_lt_two) hq
  have hdef : exponentFor num den = max (-1074)
      (if (scaleRatio num den guess).1 / (scaleRatio num den guess).2 < 0x20000000000000 then guess
        else guess + 1) := rfl
  rw [hdef, exponentOf]
  by_cases h : Int.log 2 ((num : ℚ) / den) < guess + 53
  · rw [if_pos (hfloor.mpr (hcut.mpr h))]
    omega
  · rw [if_neg fun hlt => h (hcut.mp (hfloor.mp hlt))]
    omega

/-! ## Rational numbers -/

/-- The double nearest to a number that is not negative, with the given sign. -/
def nearest (negative : Bool) (q : ℚ) : Binary64 :=
  if q = 0 then .finite negative 0 (-1074)
  else
    let significand := roundNearest (q / 2 ^ exponentOf q)
    let (significand, exponent) :=
      if significand == 0x20000000000000 then (0x10000000000000, exponentOf q + 1)
      else (significand, exponentOf q)
    if exponent > 971 then .infinite negative else .finite negative significand exponent

/-- **Rounding a quotient** is rounding the rational number that it is. -/
theorem ofRatio_eq_nearest (negative : Bool) (num : ℕ) {den : ℕ} (hden : 0 < den) :
    ofRatio negative num den = nearest negative ((num : ℚ) / den) := by
  have hdenQ : (den : ℚ) ≠ 0 := by exact_mod_cast hden.ne'
  by_cases hnum : num = 0
  · subst hnum
    simp [ofRatio, nearest]
  · have hq : (num : ℚ) / den ≠ 0 := div_ne_zero (by exact_mod_cast hnum) hdenQ
    obtain ⟨hpos, hscaled⟩ := scaleRatio_spec num hden (exponentOf ((num : ℚ) / den))
    have hnum' : (num == 0) = false := by simpa using hnum
    simp only [ofRatio, nearest, hnum', exponentFor_eq (Nat.pos_of_ne_zero hnum) hden, if_neg hq,
      Bool.false_eq_true, if_false, roundHalfEven_eq hpos, hscaled]

/-! ## Doubles and what rounds to them -/

/-- The finite doubles that there are: the significand is below `2 ^ 53`, and below `2 ^ 52` only
where the exponent is the least one. -/
def IsCanonical : Binary64 → Prop
  | .notANumber => True
  | .infinite _ => True
  | .finite _ significand exponent =>
    significand < 2 ^ 53 ∧ -1074 ≤ exponent ∧ exponent ≤ 971 ∧
      (2 ^ 52 ≤ significand ∨ exponent = -1074)

instance : DecidablePred IsCanonical := fun x => by
  cases x <;> unfold IsCanonical <;> infer_instance

/-- Inside a binade the unit of the number is that of the double. -/
theorem nearest_of_sameUnit {negative : Bool} {m : ℕ} {e : ℤ} {q : ℚ} (hm : 0 < m)
    (hbound : m < 2 ^ 53) (he : e ≤ 971) (hq : 0 < q) (hunit : exponentOf q = e)
    (hclose : |q / 2 ^ e - m| < 1 / 2) : nearest negative q = .finite negative m e := by
  have hround : roundNearest (q / 2 ^ e) = m :=
    roundNearest_of_close (div_pos hq (zpow_pos two_pos e)).le hclose
  have hcarry : (m == 0x20000000000000) = false := by
    rw [beq_eq_false_iff_ne]
    norm_num at hbound
    omega
  simp only [nearest, if_neg hq.ne', hunit, hround, hcarry, Bool.false_eq_true, if_false]
  rw [if_neg (by omega)]

/-- Just below a power of two rounding carries into the next binade. -/
theorem nearest_of_carry {negative : Bool} {e : ℤ} {q : ℚ} (he : e ≤ 971) (hq : 0 < q)
    (hunit : exponentOf q = e - 1) (hclose : |q / 2 ^ (e - 1) - (2 ^ 53 : ℕ)| < 1 / 2) :
    nearest negative q = .finite negative (2 ^ 52) e := by
  have hround : roundNearest (q / 2 ^ (e - 1)) = 2 ^ 53 :=
    roundNearest_of_close (div_pos hq (zpow_pos two_pos (e - 1))).le hclose
  have hcarry : ((2 ^ 53 : ℕ) == 0x20000000000000) = true := by decide
  simp only [nearest, if_neg hq.ne', hunit, hround, hcarry, if_true]
  rw [if_neg (by omega)]
  norm_num

/-- **A neighbourhood of every double** is rounded to it. -/
theorem nearest_of_close {negative : Bool} {m : ℕ} {e : ℤ} (hm : 0 < m)
    (hcanonical : IsCanonical (.finite negative m e)) {q : ℚ}
    (hclose : |q - m * 2 ^ e| < m * 2 ^ e / 2 ^ 54) :
    nearest negative q = .finite negative m e := by
  obtain ⟨hbound, hleast, hgreatest, hnormal⟩ := hcanonical
  have hunit : (0 : ℚ) < 2 ^ e := zpow_pos two_pos e
  have hmQ : (1 : ℚ) ≤ m := by exact_mod_cast hm
  have hboundQ : (m : ℚ) ≤ 2 ^ 53 - 1 := by
    have hsucc : m + 1 ≤ 2 ^ 53 := hbound
    have hcast : ((m + 1 : ℕ) : ℚ) ≤ (2 ^ 53 : ℕ) := by exact_mod_cast hsucc
    push_cast at hcast
    linarith
  -- The distance in units of the double.
  have hscaled : |q / 2 ^ e - m| < m / 2 ^ 54 := by
    have hdiv : q / 2 ^ e - m = (q - m * 2 ^ e) / 2 ^ e := by
      field_simp
    rw [hdiv, abs_div, abs_of_pos hunit, div_lt_iff₀ hunit]
    calc |q - m * 2 ^ e| < m * 2 ^ e / 2 ^ 54 := hclose
      _ = m / 2 ^ 54 * 2 ^ e := by ring
  obtain ⟨hlow, hhigh⟩ := abs_lt.mp hscaled
  have hquotient : 0 < q / 2 ^ e := by linarith
  have hq : 0 < q := by
    have hback := mul_pos hquotient hunit
    rwa [div_mul_cancel₀ _ hunit.ne'] at hback
  have hbelow : q / 2 ^ e < 2 ^ 53 := by linarith
  have hlogHigh : Int.log 2 q < e + 53 := by
    rw [← Int.lt_zpow_iff_log_lt one_lt_two hq]
    rw [div_lt_iff₀ hunit] at hbelow
    rw [Nat.cast_two, zpow_add₀ two_ne_zero, mul_comm]
    exact_mod_cast hbelow
  by_cases hlogLow : e + 52 ≤ Int.log 2 q ∨ e = -1074
  · have hexponent : exponentOf q = e := by
      unfold exponentOf
      omega
    refine nearest_of_sameUnit hm hbound hgreatest hq hexponent (lt_trans hscaled ?_)
    linarith
  · -- The number falls below the binade, of which the double is the least.
    obtain ⟨hlogLow, hsub⟩ := not_or.mp hlogLow
    have hnormal := hnormal.resolve_right hsub
    have hbelowUnit : q / 2 ^ e < 2 ^ 52 := by
      rw [not_le, ← Int.lt_zpow_iff_log_lt one_lt_two hq, Nat.cast_two, zpow_add₀ two_ne_zero]
        at hlogLow
      rw [div_lt_iff₀ hunit, mul_comm]
      exact_mod_cast hlogLow
    have hleastOne : m = 2 ^ 52 := by
      by_contra hne
      have hmore : 2 ^ 52 + 1 ≤ m := by omega
      have hmoreQ : (2 : ℚ) ^ 52 + 1 ≤ m := by exact_mod_cast hmore
      linarith
    subst hleastOne
    push_cast at hscaled hlow hhigh
    have hhalf : (2 : ℚ) ^ (e - 1) = 2 ^ e / 2 := by
      rw [zpow_sub₀ two_ne_zero, zpow_one]
    have hdouble : q / 2 ^ (e - 1) = 2 * (q / 2 ^ e) := by
      rw [hhalf]
      field_simp
    have hlogBelow : e + 51 ≤ Int.log 2 q := by
      rw [← Int.zpow_le_iff_le_log one_lt_two hq, Nat.cast_two, zpow_add₀ two_ne_zero]
      have habove : (2 : ℚ) ^ 51 ≤ q / 2 ^ e := by linarith
      rw [le_div_iff₀ hunit, mul_comm] at habove
      exact_mod_cast habove
    have hexponent : exponentOf q = e - 1 := by
      unfold exponentOf
      omega
    refine nearest_of_carry hgreatest hq hexponent ?_
    rw [hdouble, abs_lt]
    push_cast
    constructor <;> linarith

end Binary64

end FieldSchema
