import FieldSchema.Number.Shortest
import FieldSchema.Proofs.Number.Rounding

/-!
# The search for the shortest decimal

The search for a decimal that reads back as a double ends.  On the decimal grid with seventeen
digits behind the leading one the neighbour below the double is closer to it than its `2 ^ 54`-th
part, and everything so close rounds to it (`Binary64.gridNeighbour_reads`).

## The leading digit

The exponent of the leading digit is guessed from the binary length of the double with the factor
`30103 / 100000`, which is a little more than the logarithm of two.  The guess may be too large by
one; that it is no larger is the comparison `10 ^ 59 ≤ 2 ^ 196` for exponents that are not negative
and `2 ^ 93 ≤ 10 ^ 28` for negative ones, both good for far more exponents than there are.

* `Binary64.nearest_of_ofScaledDecimal`: a decimal that reads as a double rounds to it.
* `Binary64.decimalExponent_spec`: the exponent of the leading digit.
* `Binary64.searchGrid_reads`, `Binary64.gridNeighbour_reads`: the search finds a decimal that reads
  back.
-/

namespace FieldSchema

namespace Binary64

/-! ## Decimals -/

/-- The power of ten that a decimal has when it is as large as its length allows. -/
theorem ten_pow_le_of_log2 (n : ℕ) (hn : 0 < n) : 10 ^ (n.log2 * 3 / 10) ≤ n := by
  set k := n.log2 * 3 / 10 with hk
  have hlog : 10 * k ≤ 3 * n.log2 := by omega
  have hcube : (10 ^ k) ^ 3 ≤ (2 ^ n.log2) ^ 3 := by
    calc (10 ^ k) ^ 3 = (10 ^ 3) ^ k := by rw [← pow_mul, ← pow_mul, mul_comm]
      _ ≤ (2 ^ 10) ^ k := Nat.pow_le_pow_left (by norm_num) k
      _ = 2 ^ (10 * k) := by rw [← pow_mul]
      _ ≤ 2 ^ (3 * n.log2) := Nat.pow_le_pow_right (by norm_num) hlog
      _ = (2 ^ n.log2) ^ 3 := by rw [← pow_mul, mul_comm]
  exact le_trans ((Nat.pow_le_pow_iff_left (by norm_num)).mp hcube) (Nat.log2_self_le hn.ne')

/-- A decimal whose size is not far outside the range of doubles is rounded as the number that it
is. -/
theorem ofScaledDecimal_eq_nearest {negative : Bool} {n : ℕ} {e : ℤ} (hn : 0 < n)
    (hhigh : e + (n.log2 * 3 / 10 : ℕ) ≤ 400)
    (hlow : -800 ≤ e + (n.log2 * 3 / 10 : ℕ)) :
    ofScaledDecimal negative n e = nearest negative (n * 10 ^ e) := by
  have hzero : (n == 0) = false := by simpa using hn.ne'
  unfold ofScaledDecimal
  rw [hzero]
  simp only [Bool.false_eq_true, if_false, Int.ofNat_eq_natCast]
  rw [if_neg (by omega), if_neg (by omega)]
  cases e with
  | ofNat k =>
    show ofRatio negative (n * 10 ^ k) 1 = _
    rw [ofRatio_eq_nearest _ _ Nat.one_pos]
    simp
  | negSucc k =>
    show ofRatio negative n (10 ^ (k + 1)) = _
    rw [ofRatio_eq_nearest _ _ (Nat.pow_pos (by norm_num)), zpow_negSucc, div_eq_mul_inv]
    push_cast
    rfl

/-- A decimal that reads as a finite double other than zero rounds to it. -/
theorem nearest_of_ofScaledDecimal {negative : Bool} {n m : ℕ} {e x : ℤ} (hm : 0 < m)
    (h : ofScaledDecimal negative n e = .finite negative m x) :
    0 < n ∧ nearest negative (n * 10 ^ e) = .finite negative m x := by
  have hn : 0 < n := by
    rcases Nat.eq_zero_or_pos n with rfl | hn
    · simp [ofScaledDecimal] at h
      omega
    · exact hn
  refine ⟨hn, ?_⟩
  have hzero : (n == 0) = false := by simpa using hn.ne'
  by_cases hhigh : e + (n.log2 * 3 / 10 : ℕ) ≤ 400
  · by_cases hlow : -800 ≤ e + (n.log2 * 3 / 10 : ℕ)
    · rw [← ofScaledDecimal_eq_nearest hn hhigh hlow, h]
    · unfold ofScaledDecimal at h
      rw [hzero] at h
      simp only [Bool.false_eq_true, if_false, Int.ofNat_eq_natCast] at h
      rw [if_neg (by omega), if_pos (by omega)] at h
      cases h
      omega
  · unfold ofScaledDecimal at h
    rw [hzero] at h
    simp only [Bool.false_eq_true, if_false, Int.ofNat_eq_natCast] at h
    rw [if_pos (by omega)] at h
    contradiction

/-! ## The leading digit -/

/-- A power of ten that is read off a binary length is not much larger than the power of two. -/
theorem ten_zpow_le {length : ℤ} (hlow : -6000 ≤ length) (hhigh : length ≤ 6000) :
    (10 : ℚ) ^ (length * 30103 / 100000) ≤ 2 ^ (length + 1) := by
  have hfloor : 100000 * (length * 30103 / 100000) ≤ 30103 * length := by omega
  have hfloor' : 30103 * length < 100000 * (length * 30103 / 100000) + 100000 := by omega
  generalize length * 30103 / 100000 = guess at hfloor hfloor'
  by_cases hsign : 0 ≤ guess
  · obtain ⟨k, rfl⟩ := Int.eq_ofNat_of_zero_le hsign
    obtain ⟨l, hl⟩ := Int.eq_ofNat_of_zero_le (a := length + 1) (by omega)
    have hpower : (10 ^ k) ^ 59 ≤ (2 ^ l) ^ 59 := by
      calc (10 ^ k) ^ 59 = (10 ^ 59) ^ k := by rw [← pow_mul, ← pow_mul, mul_comm]
        _ ≤ (2 ^ 196) ^ k := Nat.pow_le_pow_left (by norm_num) k
        _ = 2 ^ (196 * k) := by rw [← pow_mul]
        _ ≤ 2 ^ (l * 59) := Nat.pow_le_pow_right (by norm_num) (by omega)
        _ = (2 ^ l) ^ 59 := by rw [← pow_mul]
    rw [hl, zpow_natCast, zpow_natCast]
    exact_mod_cast (Nat.pow_le_pow_iff_left (by norm_num)).mp hpower
  · obtain ⟨h, hh⟩ := Int.eq_ofNat_of_zero_le (a := -guess) (by omega)
    obtain ⟨j, hj⟩ := Int.eq_ofNat_of_zero_le (a := -(length + 1)) (by omega)
    have hpower : (2 ^ j) ^ 28 ≤ (10 ^ h) ^ 28 := by
      calc (2 ^ j) ^ 28 = 2 ^ (j * 28) := by rw [← pow_mul]
        _ ≤ 2 ^ (93 * h) := Nat.pow_le_pow_right (by norm_num) (by omega)
        _ = (2 ^ 93) ^ h := by rw [← pow_mul]
        _ ≤ (10 ^ 28) ^ h := Nat.pow_le_pow_left (by norm_num) h
        _ = (10 ^ h) ^ 28 := by rw [← pow_mul, ← pow_mul, mul_comm]
    have hroot : 2 ^ j ≤ 10 ^ h := (Nat.pow_le_pow_iff_left (by norm_num)).mp hpower
    have hguess : guess = -(h : ℤ) := by omega
    have hlength : length + 1 = -(j : ℤ) := by omega
    rw [hguess, hlength, zpow_neg, zpow_neg, zpow_natCast, zpow_natCast]
    have hrootQ : (2 : ℚ) ^ j ≤ 10 ^ h := by exact_mod_cast hroot
    exact inv_anti₀ (by positivity) hrootQ

/-- Whether a power of ten is at most a quotient. -/
def reachesTenPower (num den : ℕ) : ℤ → Bool
  | .ofNat e => den * 10 ^ e ≤ num
  | .negSucc e => den ≤ num * 10 ^ (e + 1)

theorem reachesTenPower_iff (num : ℕ) {den : ℕ} (hden : 0 < den) (e : ℤ) :
    reachesTenPower num den e = true ↔ (10 : ℚ) ^ e ≤ (num : ℚ) / den := by
  have hdenQ : (0 : ℚ) < den := by exact_mod_cast hden
  rw [le_div_iff₀ hdenQ]
  cases e with
  | ofNat k =>
    rw [reachesTenPower, decide_eq_true_iff, Int.ofNat_eq_natCast, zpow_natCast, mul_comm]
    exact_mod_cast Iff.rfl
  | negSucc k =>
    rw [reachesTenPower, decide_eq_true_iff, zpow_negSucc, inv_mul_le_iff₀ (by positivity),
      mul_comm (_ ^ _) (_ : ℚ)]
    exact_mod_cast Iff.rfl

/-- The power of ten of the leading digit is not above the number, and the exponent not far below
what the length of the number says. -/
theorem decimalExponent_spec {num den : ℕ} (hnum : 0 < num) (hden : 0 < den)
    (hlow : -6000 ≤ (num.log2 : ℤ) - den.log2) (hhigh : (num.log2 : ℤ) - den.log2 ≤ 6000) :
    (10 : ℚ) ^ decimalExponent num den ≤ (num : ℚ) / den ∧
      ((num.log2 : ℤ) - den.log2) * 30103 / 100000 - 1 ≤ decimalExponent num den := by
  have hguess := ten_zpow_le hlow hhigh
  have hbounds := (ratio_bounds hnum hden).1
  have hreaches := reachesTenPower_iff num hden
  set length := (num.log2 : ℤ) - den.log2
  set guess := length * 30103 / 100000
  have hdef : decimalExponent num den = if reachesTenPower num den (guess + 1) then guess + 1
      else if reachesTenPower num den guess then guess else guess - 1 := rfl
  rw [hdef]
  by_cases habove : (10 : ℚ) ^ (guess + 1) ≤ (num : ℚ) / den
  · rw [if_pos ((hreaches _).mpr habove)]
    exact ⟨habove, by omega⟩
  · rw [if_neg fun h => habove ((hreaches _).mp h)]
    by_cases hexact : (10 : ℚ) ^ guess ≤ (num : ℚ) / den
    · rw [if_pos ((hreaches _).mpr hexact)]
      exact ⟨hexact, by omega⟩
    · rw [if_neg fun h => hexact ((hreaches _).mp h)]
      refine ⟨le_trans ?_ hbounds.le, le_refl _⟩
      have hpos : (0 : ℚ) < 2 ^ length := zpow_pos two_pos length
      rw [zpow_sub₀ (by norm_num), zpow_one, zpow_sub₀ two_ne_zero, zpow_one]
      rw [zpow_add₀ two_ne_zero, zpow_one] at hguess
      linarith

/-! ## The search -/

theorem inUnitsOf_spec {num den : ℕ} (hden : 0 < den) (exponent : ℤ) :
    0 < (inUnitsOf num den exponent).2 ∧
      ((inUnitsOf num den exponent).1 : ℚ) / (inUnitsOf num den exponent).2 =
        (num : ℚ) / den / 10 ^ exponent := by
  cases exponent with
  | ofNat e =>
    refine ⟨Nat.mul_pos hden (Nat.pow_pos (by norm_num)), ?_⟩
    simp only [inUnitsOf, Int.ofNat_eq_natCast, zpow_natCast, Nat.pow_eq]
    push_cast
    rw [div_div]
  | negSucc e =>
    refine ⟨hden, ?_⟩
    simp only [inUnitsOf, zpow_negSucc, Nat.pow_eq]
    push_cast
    rw [div_inv_eq_mul]
    ring

/-- The neighbour of a number below it on a decimal grid. -/
def gridNeighbour (num den : ℕ) (exponent : ℤ) : ℕ :=
  (inUnitsOf num den exponent).1 / (inUnitsOf num den exponent).2

theorem gridNeighbour_eq_floor {num den : ℕ} (hden : 0 < den) (exponent : ℤ) :
    gridNeighbour num den exponent = ⌊(num : ℚ) / den / 10 ^ exponent⌋₊ := by
  rw [gridNeighbour, ← Nat.floor_div_eq_div (K := ℚ), (inUnitsOf_spec hden exponent).2]

/-- What is found on a grid reads back. -/
theorem digitsOnGrid?_reads {x : Binary64} {num den n : ℕ} {exponent : ℤ}
    (h : digitsOnGrid? x num den exponent = some n) : ofScaledDecimal false n exponent = x := by
  unfold digitsOnGrid? at h
  dsimp only at h
  split at h
  · next hlow hhigh =>
    have hlow := beq_iff_eq.mp (Bool.and_eq_true_iff.mp hlow).2
    split at h
    · rw [← Option.some.inj h, hlow]
    · rw [← Option.some.inj h, beq_iff_eq.mp hhigh]
  · next hlow _ => rw [← Option.some.inj h, beq_iff_eq.mp (Bool.and_eq_true_iff.mp hlow).2]
  · next _ hhigh => rw [← Option.some.inj h, beq_iff_eq.mp hhigh]
  · contradiction

/-- A grid on which the neighbour below reads back holds something. -/
theorem isSome_digitsOnGrid? {x : Binary64} {num den : ℕ} {exponent : ℤ}
    (hpos : 0 < gridNeighbour num den exponent)
    (h : ofScaledDecimal false (gridNeighbour num den exponent) exponent = x) :
    (digitsOnGrid? x num den exponent).isSome = true := by
  have hlow : (gridNeighbour num den exponent != 0 &&
      ofScaledDecimal false (gridNeighbour num den exponent) exponent == x) = true := by
    rw [h, beq_self_eq_true, Bool.and_true, bne_iff_ne]
    exact hpos.ne'
  unfold gridNeighbour at hlow
  unfold digitsOnGrid?
  simp only [hlow]
  split
  · split <;> rfl
  · rfl
  · contradiction
  · contradiction

/-- The search ends with something that reads back when the last grid holds something. -/
theorem searchGrid_reads {x : Binary64} {num den : ℕ} : (tries : ℕ) → (exponent : ℤ) →
    (digitsOnGrid? x num den (exponent - tries)).isSome = true →
    ofScaledDecimal false (searchGrid x num den (tries + 1) exponent).1
      (searchGrid x num den (tries + 1) exponent).2 = x
  | 0, exponent, h => by
    rw [Nat.cast_zero, sub_zero] at h
    obtain ⟨n, hn⟩ := Option.isSome_iff_exists.mp h
    simp only [searchGrid, hn]
    exact digitsOnGrid?_reads hn
  | tries + 1, exponent, h => by
    rw [searchGrid]
    cases hgrid : digitsOnGrid? x num den exponent with
    | some n => exact digitsOnGrid?_reads hgrid
    | none =>
      refine searchGrid_reads tries (exponent - 1) ?_
      rw [sub_sub, add_comm 1 (tries : ℤ)]
      exact_mod_cast h

/-! ## Seventeen digits suffice -/

/-- A double that is not zero as a quotient of natural numbers. -/
theorem ratio_spec {m : ℕ} {e : ℤ} (hm : 0 < m) (h : IsCanonical (.finite false m e)) :
    ∃ num den : ℕ, ratio (.finite false m e) = some ((num : ℤ), den) ∧ 0 < num ∧ 0 < den ∧
      (num : ℚ) / den = m * 2 ^ e ∧ -1074 ≤ (num.log2 : ℤ) - den.log2 ∧
      (num.log2 : ℤ) - den.log2 ≤ 1023 := by
  obtain ⟨hbound, hleast, hgreatest, -⟩ := h
  have hlog : m.log2 < 53 := (Nat.log2_lt hm.ne').mpr hbound
  cases e with
  | ofNat k =>
    have hk : k ≤ 971 := by simpa using hgreatest
    have hnum : 0 < m * 2 ^ k := Nat.mul_pos hm (Nat.two_pow_pos k)
    have hlength : (m * 2 ^ k).log2 < 1024 := by
      rw [Nat.log2_lt hnum.ne']
      calc m * 2 ^ k < 2 ^ 53 * 2 ^ k := Nat.mul_lt_mul_of_pos_right hbound (Nat.two_pow_pos k)
        _ = 2 ^ (53 + k) := by rw [← pow_add]
        _ ≤ 2 ^ 1024 := Nat.pow_le_pow_right (by norm_num) (by omega)
    have hone : Nat.log2 1 = 0 := by decide
    refine ⟨m * 2 ^ k, 1, by simp [ratio], hnum, Nat.one_pos, by simp, ?_, ?_⟩
    · rw [hone]
      omega
    · rw [hone]
      omega
  | negSucc k =>
    have hk : k ≤ 1073 := by omega
    refine ⟨m, 2 ^ (k + 1), by simp [ratio], hm, Nat.two_pow_pos _, ?_, ?_, ?_⟩
    · rw [zpow_negSucc, div_eq_mul_inv]
      push_cast
      rfl
    · rw [Nat.log2_two_pow]
      omega
    · rw [Nat.log2_two_pow]
      omega

/-- **Seventeen digits behind the leading one** tell a double from all others: the neighbour below
it on that grid reads back. -/
theorem gridNeighbour_reads {m num den : ℕ} {e : ℤ} (hm : 0 < m)
    (hcanonical : IsCanonical (.finite false m e)) (hnum : 0 < num) (hden : 0 < den)
    (hvalue : (num : ℚ) / den = m * 2 ^ e) (hlow : -1074 ≤ (num.log2 : ℤ) - den.log2)
    (hhigh : (num.log2 : ℤ) - den.log2 ≤ 1023) :
    0 < gridNeighbour num den (decimalExponent num den - 17) ∧
      ofScaledDecimal false (gridNeighbour num den (decimalExponent num den - 17))
        (decimalExponent num den - 17) = .finite false m e := by
  obtain ⟨hleading, hexponent⟩ := decimalExponent_spec hnum hden (by omega) (by omega)
  have hq : (0 : ℚ) < m * 2 ^ e := by
    rw [← hvalue]
    positivity
  have hsize : (m : ℚ) * 2 ^ e < 10 ^ (309 : ℤ) := by
    have hbounds := (ratio_bounds hnum hden).2
    rw [hvalue] at hbounds
    calc (m : ℚ) * 2 ^ e < 2 ^ ((num.log2 : ℤ) - den.log2 + 1) := hbounds
      _ ≤ 2 ^ (1024 : ℤ) := zpow_le_zpow_right₀ (by norm_num) (by omega)
      _ = (2 ^ 93) ^ 11 * 2 := by rw [← pow_mul, ← pow_succ, ← zpow_natCast]; rfl
      _ ≤ (10 ^ 28) ^ 11 * 10 := by gcongr <;> norm_num
      _ = 10 ^ (309 : ℤ) := by rw [← pow_mul, ← pow_succ, ← zpow_natCast]; rfl
  rw [hvalue] at hleading
  rw [gridNeighbour_eq_floor hden, hvalue]
  set grid := decimalExponent num den - 17 with hgrid
  set low := ⌊(m : ℚ) * 2 ^ e / 10 ^ grid⌋₊ with hlowDef
  have hunit : (0 : ℚ) < 10 ^ grid := zpow_pos (by norm_num) grid
  have hbelow : (low : ℚ) * 10 ^ grid ≤ m * 2 ^ e := by
    rw [← le_div_iff₀ hunit]
    exact Nat.floor_le (div_pos hq hunit).le
  have habove : (m : ℚ) * 2 ^ e < low * 10 ^ grid + 10 ^ grid := by
    have hfloor := Nat.lt_floor_add_one ((m : ℚ) * 2 ^ e / 10 ^ grid)
    rw [div_lt_iff₀ hunit, add_mul, one_mul] at hfloor
    exact hfloor
  -- The unit of the grid is small beside the number.
  have hsmall : (10 : ℚ) ^ grid < m * 2 ^ e / 2 ^ 54 := by
    have hseventeen : (10 : ℚ) ^ grid = 10 ^ decimalExponent num den / 10 ^ 17 := by
      rw [hgrid, zpow_sub₀ (by norm_num)]
      norm_num
    rw [hseventeen]
    calc (10 : ℚ) ^ decimalExponent num den / 10 ^ 17
        ≤ (m : ℚ) * 2 ^ e / 10 ^ 17 := by gcongr
      _ < (m : ℚ) * 2 ^ e / 2 ^ 54 := div_lt_div_of_pos_left hq (by norm_num) (by norm_num)
  have hclose : |(low : ℚ) * 10 ^ grid - m * 2 ^ e| < m * 2 ^ e / 2 ^ 54 := by
    rw [abs_lt]
    constructor <;> linarith
  have hpos : 0 < low := by
    by_contra hzero
    have hzero : low = 0 := by omega
    rw [hzero, Nat.cast_zero, zero_mul, zero_add] at habove
    have hless : (m : ℚ) * 2 ^ e / 2 ^ 54 < m * 2 ^ e := div_lt_self hq (by norm_num)
    linarith
  refine ⟨hpos, ?_⟩
  have hmagnitude : grid + (low.log2 * 3 / 10 : ℕ) < 309 := by
    have htens : (10 : ℚ) ^ (low.log2 * 3 / 10) ≤ low := by
      exact_mod_cast ten_pow_le_of_log2 low hpos
    have hpower : (10 : ℚ) ^ (grid + (low.log2 * 3 / 10 : ℕ)) < 10 ^ (309 : ℤ) := by
      rw [zpow_add₀ (by norm_num), zpow_natCast, mul_comm]
      calc (10 : ℚ) ^ (low.log2 * 3 / 10) * 10 ^ grid ≤ low * 10 ^ grid := by gcongr
        _ ≤ m * 2 ^ e := hbelow
        _ < 10 ^ (309 : ℤ) := hsize
    exact (zpow_lt_zpow_iff_right₀ (by norm_num)).mp hpower
  rw [ofScaledDecimal_eq_nearest hpos (by omega) (by omega)]
  exact nearest_of_close hm hcanonical hclose

end Binary64

end FieldSchema
