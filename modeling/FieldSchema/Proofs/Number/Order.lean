import FieldSchema.Number.Basic
import FieldSchema.Proofs.Number.Rounding
import Mathlib.Order.Compare
import Mathlib.Order.WithBot

/-!
# The order of numbers, and differences of doubles

Whole numbers and doubles are compared by their exact values.  Here the order of numbers is that of
their *extended values*: the rational numbers with an infinity at either end, and no value for what
is not a number (`Number.le_iff`, `Number.lt_iff`).

## Rounding is monotone

The value of the double nearest to a number depends on the number in a monotone way.  Within a
binade this is so because rounding to whole numbers is, and between binades there is a power of two,
which rounding does not pass (`Binary64.roundedValue_mono`).  So the rounded difference to a fixed
double grows with the other one, and a bound that it has reached stays reached
(`Number.le_sub_of_le`).

* `Binary64.extended?`, `Number.extended?`: the extended values.
* `Number.le_iff`, `Number.lt_iff`: the order.
* `Binary64.extended?_nearest`: the value of the nearest double.
* `Number.le_sub_of_le`: differences to later doubles.
-/

namespace FieldSchema

namespace Binary64

/-! ## Extended values -/

/-- The value of a finite double. -/
def finiteValue (negative : Bool) (significand : ℕ) (exponent : ℤ) : ℚ :=
  (if negative then -(significand : ℚ) else significand) * 2 ^ exponent

/-- The value of a double among the rational numbers and two infinities. -/
def extended? : Binary64 → Option (WithBot (WithTop ℚ))
  | .notANumber => none
  | .infinite true => some ⊥
  | .infinite false => some ⊤
  | .finite negative significand exponent =>
    some (((finiteValue negative significand exponent : ℚ) : WithTop ℚ) : WithBot (WithTop ℚ))

theorem finiteValue_not (negative : Bool) (m : ℕ) (e : ℤ) :
    finiteValue (!negative) m e = -finiteValue negative m e := by
  cases negative <;> simp [finiteValue]

/-- A finite double is a quotient. -/
theorem exists_ratio (negative : Bool) (m : ℕ) (e : ℤ) :
    ∃ (num : ℤ) (den : ℕ), (finite negative m e).ratio = some (num, den) ∧ 0 < den ∧
      (num : ℚ) / den = finiteValue negative m e := by
  have hsigned : ((if negative then -Int.ofNat m else Int.ofNat m : ℤ) : ℚ) =
      if negative then -(m : ℚ) else m := by
    cases negative <;> simp
  cases e with
  | ofNat e =>
    refine ⟨_, _, rfl, Nat.one_pos, ?_⟩
    rw [Nat.cast_one, div_one, Int.cast_mul, hsigned, finiteValue]
    simp
  | negSucc e =>
    refine ⟨_, _, rfl, Nat.two_pow_pos (e + 1), ?_⟩
    rw [hsigned, finiteValue, zpow_negSucc, div_eq_mul_inv]
    simp

theorem compares_compareRatio {a b : ℤ × ℕ} (ha : 0 < a.2) (hb : 0 < b.2) :
    (compareRatio a b).Compares ((a.1 : ℚ) / a.2) ((b.1 : ℚ) / b.2) := by
  have haQ : (0 : ℚ) < a.2 := by exact_mod_cast ha
  have hbQ : (0 : ℚ) < b.2 := by exact_mod_cast hb
  rw [compareRatio]
  rcases lt_trichotomy (a.1 * b.2) (b.1 * a.2) with h | h | h
  · rw [compare_lt_iff_lt.mpr h]
    show (a.1 : ℚ) / a.2 < b.1 / b.2
    rw [div_lt_div_iff₀ haQ hbQ]
    exact_mod_cast h
  · rw [compare_eq_iff_eq.mpr h]
    show (a.1 : ℚ) / a.2 = b.1 / b.2
    rw [div_eq_div_iff haQ.ne' hbQ.ne']
    exact_mod_cast h
  · rw [compare_gt_iff_gt.mpr h]
    show (b.1 : ℚ) / b.2 < a.1 / a.2
    rw [div_lt_div_iff₀ hbQ haQ]
    exact_mod_cast h

theorem bot_lt_coe (q : ℚ) : (⊥ : WithBot (WithTop ℚ)) < ((q : WithTop ℚ) : WithBot (WithTop ℚ)) :=
  WithBot.bot_lt_coe _

theorem coe_lt_top (q : ℚ) : ((q : WithTop ℚ) : WithBot (WithTop ℚ)) < ⊤ :=
  WithBot.coe_lt_coe.mpr (WithTop.coe_lt_top q)

theorem compares_coe {o : Ordering} {p q : ℚ} (h : o.Compares p q) :
    o.Compares ((p : WithTop ℚ) : WithBot (WithTop ℚ)) ((q : WithTop ℚ) : WithBot (WithTop ℚ)) := by
  cases o with
  | lt => exact WithBot.coe_lt_coe.mpr (WithTop.coe_lt_coe.mpr h)
  | eq => exact congrArg (fun p : ℚ => ((p : WithTop ℚ) : WithBot (WithTop ℚ))) h
  | gt => exact WithBot.coe_lt_coe.mpr (WithTop.coe_lt_coe.mpr h)

/-- Doubles are compared by their extended values. -/
theorem exists_compares {x y : Binary64} {a b : WithBot (WithTop ℚ)}
    (hx : x.extended? = some a) (hy : y.extended? = some b) :
    ∃ o, x.compare? y = some o ∧ o.Compares a b := by
  cases x with
  | notANumber => contradiction
  | infinite negative =>
    cases y with
    | notANumber => contradiction
    | infinite negative' =>
      cases negative <;> cases negative' <;> obtain rfl := Option.some.inj hx <;>
        obtain rfl := Option.some.inj hy
      · exact ⟨.eq, rfl, rfl⟩
      · exact ⟨.gt, rfl, bot_lt_top⟩
      · exact ⟨.lt, rfl, bot_lt_top⟩
      · exact ⟨.eq, rfl, rfl⟩
    | finite negative' m' e' =>
      obtain rfl := Option.some.inj hy
      cases negative <;> obtain rfl := Option.some.inj hx
      · exact ⟨.gt, rfl, coe_lt_top _⟩
      · exact ⟨.lt, rfl, bot_lt_coe _⟩
  | finite negative m e =>
    obtain rfl := Option.some.inj hx
    cases y with
    | notANumber => contradiction
    | infinite negative' =>
      cases negative' <;> obtain rfl := Option.some.inj hy
      · exact ⟨.lt, rfl, coe_lt_top _⟩
      · exact ⟨.gt, rfl, bot_lt_coe _⟩
    | finite negative' m' e' =>
      obtain rfl := Option.some.inj hy
      obtain ⟨num, den, hratio, hden, hvalue⟩ := exists_ratio negative m e
      obtain ⟨num', den', hratio', hden', hvalue'⟩ := exists_ratio negative' m' e'
      refine ⟨compareRatio (num, den) (num', den'), ?_, ?_⟩
      · simp only [compare?, hratio, hratio']
      · rw [← hvalue, ← hvalue']
        exact compares_coe (compares_compareRatio hden hden')

theorem extended?_eq_none_iff {x : Binary64} : x.extended? = none ↔ x = .notANumber := by
  cases x with
  | infinite negative => cases negative <;> simp [extended?]
  | _ => simp [extended?]

theorem eq_infinite_of_top_le {x : Binary64} {a : WithBot (WithTop ℚ)} (hx : x.extended? = some a)
    (h : ⊤ ≤ a) : x = .infinite false := by
  cases x with
  | notANumber => contradiction
  | infinite negative =>
    cases negative with
    | false => rfl
    | true =>
      obtain rfl := Option.some.inj hx
      exact absurd h bot_lt_top.not_ge
  | finite negative m e =>
    obtain rfl := Option.some.inj hx
    exact absurd h (coe_lt_top _).not_ge

theorem eq_infinite_of_le_bot {x : Binary64} {a : WithBot (WithTop ℚ)} (hx : x.extended? = some a)
    (h : a ≤ ⊥) : x = .infinite true := by
  cases x with
  | notANumber => contradiction
  | infinite negative =>
    cases negative with
    | false =>
      obtain rfl := Option.some.inj hx
      exact absurd h bot_lt_top.not_ge
    | true => rfl
  | finite negative m e =>
    obtain rfl := Option.some.inj hx
    exact absurd h (bot_lt_coe _).not_ge

/-! ## Rounding to whole numbers -/

theorem floor_le_roundNearest (q : ℚ) :
    ⌊q⌋₊ ≤ roundNearest q ∧ roundNearest q ≤ ⌊q⌋₊ + 1 := by
  unfold roundNearest
  dsimp only
  split_ifs <;> omega

theorem roundNearest_mono {q r : ℚ} (h : q ≤ r) : roundNearest q ≤ roundNearest r := by
  have hfloor : ⌊q⌋₊ ≤ ⌊r⌋₊ := Nat.floor_mono h
  rcases Nat.lt_or_eq_of_le hfloor with hlt | hsame
  · exact (floor_le_roundNearest q).2.trans (Nat.le_trans hlt (floor_le_roundNearest r).1)
  · unfold roundNearest
    rw [← hsame]
    dsimp only
    split_ifs <;> first | omega | (exfalso; linarith)

theorem roundNearest_natCast (m : ℕ) : roundNearest (m : ℚ) = m := by
  refine roundNearest_of_close (Nat.cast_nonneg m) ?_
  rw [sub_self, abs_zero]
  exact one_half_pos

/-! ## Rounding to doubles -/

/-- The value of a number that is not negative after rounding, when there is no greatest double. -/
def roundedValue (q : ℚ) : ℚ := roundNearest (q / 2 ^ exponentOf q) * 2 ^ exponentOf q

theorem exponentOf_mono {q r : ℚ} (hq : 0 < q) (h : q ≤ r) : exponentOf q ≤ exponentOf r :=
  max_le_max le_rfl (Int.sub_le_sub_right (Int.log_mono_right hq h) 52)

/-- The significand is at most `2 ^ 53`. -/
theorem roundNearest_le {q : ℚ} (hq : 0 < q) : roundNearest (q / 2 ^ exponentOf q) ≤ 2 ^ 53 := by
  have hunit : (0 : ℚ) < 2 ^ exponentOf q := zpow_pos two_pos _
  have hbelow : q < 2 ^ (exponentOf q + 53) := by
    have hlog : Int.log 2 q < exponentOf q + 53 := by
      unfold exponentOf
      omega
    exact_mod_cast (Int.lt_zpow_iff_log_lt one_lt_two hq).mpr hlog
  have hquotient : q / 2 ^ exponentOf q ≤ (2 ^ 53 : ℕ) := by
    rw [div_le_iff₀ hunit]
    rw [zpow_add₀ two_ne_zero, mul_comm] at hbelow
    exact_mod_cast hbelow.le
  exact (roundNearest_mono hquotient).trans_eq (roundNearest_natCast _)

/-- The significand is at least `2 ^ 52` where the exponent is not the least one. -/
theorem le_roundNearest {q : ℚ} (hq : 0 < q) (hexponent : -1074 < exponentOf q) :
    2 ^ 52 ≤ roundNearest (q / 2 ^ exponentOf q) := by
  have hunit : (0 : ℚ) < 2 ^ exponentOf q := zpow_pos two_pos _
  have habove : (2 : ℚ) ^ (exponentOf q + 52) ≤ q := by
    have hlog : exponentOf q + 52 ≤ Int.log 2 q := by
      unfold exponentOf at hexponent ⊢
      omega
    exact_mod_cast (Int.zpow_le_iff_le_log one_lt_two hq).mpr hlog
  have hquotient : ((2 ^ 52 : ℕ) : ℚ) ≤ q / 2 ^ exponentOf q := by
    rw [le_div_iff₀ hunit]
    rw [zpow_add₀ two_ne_zero, mul_comm] at habove
    exact_mod_cast habove
  exact (roundNearest_natCast _).symm.trans_le (roundNearest_mono hquotient)

theorem roundedValue_zero : roundedValue 0 = 0 := by
  have hzero : roundNearest 0 = 0 := by exact_mod_cast roundNearest_natCast 0
  rw [roundedValue, zero_div, hzero, Nat.cast_zero, zero_mul]

theorem roundedValue_nonneg (q : ℚ) : 0 ≤ roundedValue q :=
  mul_nonneg (Nat.cast_nonneg _) (zpow_pos two_pos _).le

/-- **Rounding is monotone.** -/
theorem roundedValue_mono {q r : ℚ} (hq : 0 ≤ q) (h : q ≤ r) : roundedValue q ≤ roundedValue r := by
  rcases hq.eq_or_lt with rfl | hq
  · rw [roundedValue_zero]
    exact roundedValue_nonneg r
  · have hunit : (0 : ℚ) < 2 ^ exponentOf q := zpow_pos two_pos _
    rcases (exponentOf_mono hq h).eq_or_lt with hsame | hlt
    · rw [roundedValue, roundedValue, ← hsame]
      have hmono : roundNearest (q / 2 ^ exponentOf q) ≤ roundNearest (r / 2 ^ exponentOf q) :=
        roundNearest_mono (div_le_div_of_nonneg_right h hunit.le)
      exact mul_le_mul_of_nonneg_right (by exact_mod_cast hmono) hunit.le
    · -- The power of two between the binades is passed by neither.
      have hleast : -1074 < exponentOf r := lt_of_le_of_lt (le_max_left _ _) hlt
      have hlow : ((roundNearest (q / 2 ^ exponentOf q) : ℕ) : ℚ) ≤ 2 ^ 53 := by
        exact_mod_cast roundNearest_le hq
      have hhigh : (2 : ℚ) ^ 52 ≤ (roundNearest (r / 2 ^ exponentOf r) : ℕ) := by
        exact_mod_cast le_roundNearest (hq.trans_le h) hleast
      calc roundedValue q ≤ 2 ^ 53 * 2 ^ exponentOf q := mul_le_mul_of_nonneg_right hlow hunit.le
        _ = 2 ^ 52 * 2 ^ (exponentOf q + 1) := by
          rw [zpow_add₀ two_ne_zero, zpow_one]
          ring
        _ ≤ 2 ^ 52 * 2 ^ exponentOf r := by
          refine mul_le_mul_of_nonneg_left ?_ (by positivity)
          exact zpow_le_zpow_right₀ one_le_two hlt
        _ ≤ roundedValue r := mul_le_mul_of_nonneg_right hhigh (zpow_pos two_pos _).le

/-- The least power of two above all finite doubles. -/
def upperEnd : ℚ := 2 ^ (1024 : ℤ)

theorem upperEnd_pos : 0 < upperEnd := zpow_pos two_pos _

theorem two_zpow_mul (a b : ℤ) : (2 : ℚ) ^ a * 2 ^ b = 2 ^ (a + b) :=
  (zpow_add₀ two_ne_zero a b).symm

section

variable {q : ℚ}

/-- A significand that is carried makes the power of two above its binade. -/
theorem roundedValue_of_carry (hcarry : roundNearest (q / 2 ^ exponentOf q) = 2 ^ 53) :
    roundedValue q = 2 ^ (53 + exponentOf q) := by
  rw [roundedValue, hcarry, ← two_zpow_mul, zpow_ofNat, Nat.cast_pow, Nat.cast_two]

theorem lt_upperEnd_of_carry_iff (hcarry : roundNearest (q / 2 ^ exponentOf q) = 2 ^ 53) :
    roundedValue q < upperEnd ↔ ¬ exponentOf q + 1 > 971 := by
  rw [roundedValue_of_carry hcarry, upperEnd, zpow_lt_zpow_iff_right₀ one_lt_two]
  omega

theorem lt_upperEnd_iff (hq : 0 < q) (hbelow : roundNearest (q / 2 ^ exponentOf q) < 2 ^ 53) :
    roundedValue q < upperEnd ↔ ¬ exponentOf q > 971 := by
  have hunit : (0 : ℚ) < 2 ^ exponentOf q := zpow_pos two_pos _
  constructor
  · intro hlt hexponent
    have hnormal : (2 : ℚ) ^ (52 : ℤ) ≤ (roundNearest (q / 2 ^ exponentOf q) : ℕ) := by
      rw [zpow_ofNat]
      exact_mod_cast le_roundNearest hq (by omega)
    have hhigh : (2 : ℚ) ^ (972 : ℤ) ≤ 2 ^ exponentOf q := zpow_le_zpow_right₀ one_le_two hexponent
    have hproduct : (2 : ℚ) ^ (52 : ℤ) * 2 ^ (972 : ℤ) ≤ roundedValue q :=
      mul_le_mul hnormal hhigh (zpow_pos two_pos _).le (Nat.cast_nonneg _)
    rw [two_zpow_mul] at hproduct
    exact absurd hlt (not_lt.mpr hproduct)
  · intro hexponent
    have hlow : ((roundNearest (q / 2 ^ exponentOf q) : ℕ) : ℚ) < 2 ^ (53 : ℤ) := by
      rw [zpow_ofNat]
      exact_mod_cast hbelow
    have hhigh : (2 : ℚ) ^ exponentOf q ≤ 2 ^ (971 : ℤ) :=
      zpow_le_zpow_right₀ one_le_two (not_lt.mp hexponent)
    calc roundedValue q < 2 ^ (53 : ℤ) * 2 ^ exponentOf q := mul_lt_mul_of_pos_right hlow hunit
      _ ≤ 2 ^ (53 : ℤ) * 2 ^ (971 : ℤ) := mul_le_mul_of_nonneg_left hhigh (zpow_pos two_pos _).le
      _ = upperEnd := two_zpow_mul 53 971

/-- The value of the nearest double: beyond the finite ones there is only the infinity. -/
theorem extended?_nearest (hq : 0 ≤ q) :
    (nearest false q).extended? =
      some (if roundedValue q < upperEnd then ((roundedValue q : WithTop ℚ) : WithBot (WithTop ℚ))
        else ⊤) := by
  rcases hq.eq_or_lt with rfl | hq
  · rw [roundedValue_zero, if_pos upperEnd_pos, nearest, if_pos rfl, extended?, finiteValue]
    simp
  · rcases (roundNearest_le hq).eq_or_lt with hcarry | hbelow
    · have hbeq : ((2 ^ 53 : ℕ) == 0x20000000000000) = true := by decide
      have hvalue : finiteValue false 0x10000000000000 (exponentOf q + 1) = roundedValue q := by
        rw [roundedValue_of_carry hcarry, finiteValue, add_comm 53,
          show exponentOf q + 53 = 52 + (exponentOf q + 1) by ring, ← two_zpow_mul 52]
        norm_num
      simp only [nearest, if_neg hq.ne', hcarry, hbeq, if_true, lt_upperEnd_of_carry_iff hcarry]
      split_ifs
      · rfl
      · rw [extended?, hvalue]
    · have hbeq : (roundNearest (q / 2 ^ exponentOf q) == 0x20000000000000) = false := by
        rw [beq_eq_false_iff_ne]
        exact ne_of_lt hbelow
      simp only [nearest, if_neg hq.ne', hbeq, Bool.false_eq_true, if_false,
        lt_upperEnd_iff hq hbelow]
      split_ifs
      · rfl
      · rfl

end

/-- Later is nearer to the upper end. -/
theorem extended?_nearest_mono {q r : ℚ} (hq : 0 ≤ q) (h : q ≤ r) :
    ∃ a b, (nearest false q).extended? = some a ∧ (nearest false r).extended? = some b ∧ a ≤ b := by
  refine ⟨_, _, extended?_nearest hq, extended?_nearest (hq.trans h), ?_⟩
  have hmono := roundedValue_mono hq h
  split_ifs with hlow hhigh hhigh
  · exact WithBot.coe_le_coe.mpr (WithTop.coe_le_coe.mpr hmono)
  · exact le_top
  · exact absurd (lt_of_le_of_lt hmono hhigh) hlow
  · exact le_rfl

/-! ## Differences -/

/-- A difference of finite doubles that is not negative has the value of the double nearest to
it. -/
theorem extended?_sub {negative negative' : Bool} {m m' : ℕ} {e e' : ℤ}
    (h : finiteValue negative' m' e' ≤ finiteValue negative m e) :
    ((finite negative m e).sub (finite negative' m' e')).extended? =
      (nearest false (finiteValue negative m e - finiteValue negative' m' e')).extended? := by
  obtain ⟨num, den, hratio, hden, hvalue⟩ := exists_ratio negative m e
  obtain ⟨num', den', hratio', hden', hvalue'⟩ := exists_ratio (!negative') m' e'
  rw [finiteValue_not] at hvalue'
  have hdenQ : (0 : ℚ) < den := by exact_mod_cast hden
  have hdenQ' : (0 : ℚ) < den' := by exact_mod_cast hden'
  have htotal : ((num * den' + num' * den : ℤ) : ℚ) / (den * den' : ℕ) =
      finiteValue negative m e - finiteValue negative' m' e' := by
    rw [sub_eq_add_neg, ← hvalue, ← hvalue', div_add_div _ _ hdenQ.ne' hdenQ'.ne']
    push_cast
    ring
  have hsub : (finite negative m e).sub (finite negative' m' e') =
      if num * den' + num' * den == 0 then .finite (negative && !negative') 0 (-1074)
      else ofRatio (num * den' + num' * den < 0) (num * den' + num' * den).natAbs (den * den') := by
    simp only [sub, neg, add, hratio, hratio', isNegative]
  by_cases hzero : num * den' + num' * den = 0
  · have hnone : finiteValue negative m e - finiteValue negative' m' e' = 0 := by
      rw [← htotal, hzero, Int.cast_zero, zero_div]
    rw [hsub, hzero, hnone, nearest, if_pos rfl]
    simp [extended?, finiteValue]
  · have hpos : (0 : ℚ) < (den * den' : ℕ) := by exact_mod_cast Nat.mul_pos hden hden'
    have hnonneg : 0 ≤ num * den' + num' * den := by
      have hquotient : (0 : ℚ) ≤ ((num * den' + num' * den : ℤ) : ℚ) / (den * den' : ℕ) := by
        rw [htotal]
        exact sub_nonneg.mpr h
      have hproduct := mul_nonneg hquotient hpos.le
      rw [div_mul_cancel₀ _ hpos.ne'] at hproduct
      exact_mod_cast hproduct
    have hsign : decide (num * den' + num' * den < 0) = false := by simpa using hnonneg
    have habs : (((num * den' + num' * den).natAbs : ℕ) : ℚ) = (num * den' + num' * den : ℤ) := by
      rw [← Int.cast_natCast, Int.natAbs_of_nonneg hnonneg]
    have hbeq : (num * den' + num' * den == 0) = false := by simpa using hzero
    rw [hsub, hbeq, hsign]
    simp only [Bool.false_eq_true, if_false]
    rw [ofRatio_eq_nearest _ _ (Nat.mul_pos hden hden'), habs, htotal]

end Binary64

/-! ## The order of numbers -/

namespace Number

/-- The value of a number among the rational numbers and two infinities. -/
def extended? : Number → Option (WithBot (WithTop ℚ))
  | .int n => some (((n : ℚ) : WithTop ℚ) : WithBot (WithTop ℚ))
  | .float x => x.extended?

theorem compareInt?_spec {x : Binary64} {a : WithBot (WithTop ℚ)} (hx : x.extended? = some a)
    (n : ℤ) : ∃ o, x.compareInt? n = some o ∧ o.Compares a (((n : ℚ) : WithTop ℚ) :
      WithBot (WithTop ℚ)) := by
  cases x with
  | notANumber => contradiction
  | infinite negative =>
    cases negative <;> obtain rfl := Option.some.inj hx
    · exact ⟨.gt, rfl, Binary64.coe_lt_top _⟩
    · exact ⟨.lt, rfl, Binary64.bot_lt_coe _⟩
  | finite negative m e =>
    obtain rfl := Option.some.inj hx
    obtain ⟨num, den, hratio, hden, hvalue⟩ := Binary64.exists_ratio negative m e
    refine ⟨Binary64.compareRatio (num, den) (n, 1), ?_, ?_⟩
    · simp only [Binary64.compareInt?, hratio, Option.map_some]
    · have hcompare :=
        Binary64.compares_compareRatio (a := (num, den)) (b := (n, 1)) hden Nat.one_pos
      rw [Nat.cast_one, div_one, hvalue] at hcompare
      exact Binary64.compares_coe hcompare

/-- Numbers are compared by their extended values. -/
theorem exists_compares {a b : Number} {x y : WithBot (WithTop ℚ)} (ha : a.extended? = some x)
    (hb : b.extended? = some y) : ∃ o, a.compare? b = some o ∧ o.Compares x y := by
  cases a with
  | int m =>
    obtain rfl := Option.some.inj ha
    cases b with
    | int n =>
      obtain rfl := Option.some.inj hb
      refine ⟨compare m n, rfl, Binary64.compares_coe ?_⟩
      have hcompare := Binary64.compares_compareRatio (a := (m, 1)) (b := (n, 1)) Nat.one_pos
        Nat.one_pos
      simpa [Binary64.compareRatio] using hcompare
    | float y =>
      obtain ⟨o, hcompare, ho⟩ := compareInt?_spec hb m
      refine ⟨o.swap, ?_, Ordering.compares_swap.mpr ho⟩
      rw [compare?, hcompare, Option.map_some]
  | float x =>
    cases b with
    | int n =>
      obtain rfl := Option.some.inj hb
      exact compareInt?_spec ha n
    | float y => exact Binary64.exists_compares ha hb

theorem compare?_eq_none {a b : Number} (h : a.extended? = none ∨ b.extended? = none) :
    a.compare? b = none := by
  have hnone : ∀ {a : Number}, a.extended? = none → a = .float .notANumber := by
    intro a ha
    cases a with
    | int n => contradiction
    | float x => rw [Binary64.extended?_eq_none_iff.mp ha]
  rcases h with h | h
  · rw [hnone h]
    cases b <;> rfl
  · rw [hnone h]
    cases a with
    | int n => rfl
    | float x =>
      cases x with
      | infinite negative => cases negative <;> rfl
      | _ => rfl

/-- **The order** is that of the extended values. -/
theorem le_iff {a b : Number} :
    a.le b = true ↔ ∃ x y, a.extended? = some x ∧ b.extended? = some y ∧ x ≤ y := by
  cases ha : a.extended? with
  | none => simp [le, compare?_eq_none (.inl ha)]
  | some x =>
    cases hb : b.extended? with
    | none => simp [le, compare?_eq_none (.inr hb)]
    | some y =>
      obtain ⟨o, hcompare, ho⟩ := exists_compares ha hb
      cases o with
      | lt => simp [le, hcompare, ho.le]
      | eq => simp [le, hcompare, ho.le]
      | gt => simp [le, hcompare, ho.not_ge]

theorem lt_iff {a b : Number} :
    a.lt b = true ↔ ∃ x y, a.extended? = some x ∧ b.extended? = some y ∧ x < y := by
  cases ha : a.extended? with
  | none => simp [lt, compare?_eq_none (.inl ha)]
  | some x =>
    cases hb : b.extended? with
    | none => simp [lt, compare?_eq_none (.inr hb)]
    | some y =>
      obtain ⟨o, hcompare, ho⟩ := exists_compares ha hb
      cases o with
      | lt =>
        have hlt : x < y := ho
        simp [lt, hcompare, hlt]
      | eq => simp [lt, hcompare, ho.ge.not_gt]
      | gt =>
        have hlt : y < x := ho
        simp [lt, hcompare, hlt.le]

theorem le_trans {a b c : Number} (hab : a.le b = true) (hbc : b.le c = true) :
    a.le c = true := by
  obtain ⟨x, y, ha, hb, hxy⟩ := le_iff.mp hab
  obtain ⟨y', z, hb', hc, hyz⟩ := le_iff.mp hbc
  obtain rfl := Option.some.inj (hb.symm.trans hb')
  exact le_iff.mpr ⟨x, z, ha, hc, hxy.trans hyz⟩

theorem le_self {a b : Number} (h : a.le b = true) : a.le a = true := by
  obtain ⟨x, y, ha, hb, hxy⟩ := le_iff.mp h
  exact le_iff.mpr ⟨x, x, ha, ha, le_rfl⟩

/-- Of two numbers that have values one is below the other. -/
theorem lt_of_le_eq_false {a b : Number} (ha : a.extended? ≠ none) (hb : b.extended? ≠ none)
    (h : a.le b = false) : b.lt a = true := by
  obtain ⟨x, hx⟩ := Option.ne_none_iff_exists'.mp ha
  obtain ⟨y, hy⟩ := Option.ne_none_iff_exists'.mp hb
  refine lt_iff.mpr ⟨y, x, hy, hx, lt_of_not_ge fun hle => ?_⟩
  rw [le_iff.mpr ⟨x, y, hx, hy, hle⟩] at h
  contradiction

theorem le_infinite {a b : Number} (h : a.le b = true) :
    a.le (.float (.infinite false)) = true := by
  obtain ⟨x, -, hx, -, -⟩ := le_iff.mp h
  exact le_iff.mpr ⟨x, ⊤, hx, rfl, le_top⟩

theorem le_notANumber (a : Number) : a.le (.float .notANumber) = false := by
  rw [le, compare?_eq_none (.inr rfl)]

/-- A bound that the difference of finite doubles has reached stays reached. -/
theorem le_sub_finite {bound : Number} {n n₁ n₂ : Bool} {m m₁ m₂ : ℕ} {e e₁ e₂ : ℤ}
    (hfirst : Binary64.finiteValue n m e ≤ Binary64.finiteValue n₁ m₁ e₁)
    (hsecond : Binary64.finiteValue n₁ m₁ e₁ ≤ Binary64.finiteValue n₂ m₂ e₂)
    (h : bound.le (.float ((Binary64.finite n₁ m₁ e₁).sub (.finite n m e))) = true) :
    bound.le (.float ((Binary64.finite n₂ m₂ e₂).sub (.finite n m e))) = true := by
  obtain ⟨a, b, ha, hb, hab⟩ := Binary64.extended?_nearest_mono (sub_nonneg.mpr hfirst)
    (sub_le_sub_right hsecond (Binary64.finiteValue n m e))
  rw [← Binary64.extended?_sub hfirst] at ha
  rw [← Binary64.extended?_sub (hfirst.trans hsecond)] at hb
  exact le_trans h (le_iff.mpr ⟨a, b, ha, hb, hab⟩)

/-- **Differences to later doubles.**  A bound that the difference of a double to an earlier one has
reached is reached by the difference of every later double. -/
theorem le_sub_of_le {bound : Number} {start first second : Binary64}
    (hfirst : Number.le (.float start) (.float first) = true)
    (hsecond : Number.le (.float first) (.float second) = true)
    (h : bound.le (.float (first.sub start)) = true) :
    bound.le (.float (second.sub start)) = true := by
  obtain ⟨a, b, ha, hb, hab⟩ := le_iff.mp hfirst
  obtain ⟨b', c, hb', hc, hbc⟩ := le_iff.mp hsecond
  obtain rfl := Option.some.inj (hb.symm.trans hb')
  have hend := le_infinite h
  have hnone := le_notANumber bound
  -- Infinities that cancel make no number, and no bound is reached by that.
  have hcancel (negative : Bool) :
      bound.le (.float ((Binary64.infinite negative).sub (.infinite negative))) = false := by
    cases negative <;> exact hnone
  cases start with
  | notANumber => contradiction
  | infinite negative =>
    cases negative with
    | false =>
      obtain rfl := Option.some.inj ha
      obtain rfl := Binary64.eq_infinite_of_top_le hb hab
      rw [hcancel false] at h
      contradiction
    | true =>
      cases second with
      | notANumber => contradiction
      | finite n₂ m₂ e₂ => exact hend
      | infinite negative =>
        cases negative with
        | false => exact hend
        | true =>
          obtain rfl := Option.some.inj hc
          obtain rfl := Binary64.eq_infinite_of_le_bot hb hbc
          rw [hcancel true] at h
          contradiction
  | finite n m e =>
    obtain rfl := Option.some.inj ha
    cases second with
    | notANumber => contradiction
    | infinite negative =>
      cases negative with
      | false => exact hend
      | true =>
        obtain rfl := Option.some.inj hc
        exact absurd (hab.trans hbc) (Binary64.bot_lt_coe _).not_ge
    | finite n₂ m₂ e₂ =>
      obtain rfl := Option.some.inj hc
      cases first with
      | notANumber => contradiction
      | infinite negative =>
        cases negative with
        | false =>
          obtain rfl := Option.some.inj hb
          exact absurd hbc (Binary64.coe_lt_top _).not_ge
        | true =>
          obtain rfl := Option.some.inj hb
          exact absurd hab (Binary64.bot_lt_coe _).not_ge
      | finite n₁ m₁ e₁ =>
        obtain rfl := Option.some.inj hb
        exact le_sub_finite (WithTop.coe_le_coe.mp (WithBot.coe_le_coe.mp hab))
          (WithTop.coe_le_coe.mp (WithBot.coe_le_coe.mp hbc)) h

end Number

end FieldSchema
