import FieldSchema.Text.Hex
import Mathlib.Tactic.Common

/-!
# Pairs of hexadecimal digits

Bytes are read from pairs of hexadecimal digits, and blanks may stand around the pairs but not
inside one.  A byte takes two characters and a blank takes one, so a text of twice as many
characters as bytes has no room for blanks: it consists of digits.

* `IsPaired`: the texts that bytes can be read from.
* `isSome_bytesOfHexChars?_iff`: the reader.
* `exists_bytesOfHexChars?_iff`: texts that are just long enough for their bytes.
-/

namespace FieldSchema.Text

/-- Pairs of hexadecimal digits, with blanks of ASCII before, between and after them. -/
inductive IsPaired : List Char → Prop where
  | nil : IsPaired []
  | blank {c : Char} {rest : List Char} (hblank : isAsciiBlank c.toNat = true)
    (hrest : IsPaired rest) : IsPaired (c :: rest)
  | pair {c d : Char} {rest : List Char} (hhigh : isHexDigit c = true) (hlow : isHexDigit d = true)
    (hrest : IsPaired rest) : IsPaired (c :: d :: rest)

/-- A hexadecimal digit is no blank. -/
theorem not_isAsciiBlank_of_isHexDigit {c : Char} (h : isHexDigit c = true) :
    isAsciiBlank c.toNat = false := by
  have hnone : ∀ code ∈ [0x20, 0x09, 0x0A, 0x0B, 0x0C, 0x0D], (hexValue? code).isSome = false := by
    decide
  cases hblank : isAsciiBlank c.toNat with
  | false => rfl
  | true =>
    have hcode : c.toNat ∈ [0x20, 0x09, 0x0A, 0x0B, 0x0C, 0x0D] := by
      simp only [isAsciiBlank, Bool.or_eq_true, beq_iff_eq, Bool.and_eq_true, decide_eq_true_eq]
        at hblank
      simp only [List.mem_cons, List.not_mem_nil, or_false]
      omega
    exact absurd ((hnone _ hcode).symm.trans h) Bool.false_ne_true

variable {chars : List Char}

/-- The characters of pairs are digits and blanks. -/
theorem IsPaired.digit_or_blank (h : IsPaired chars) :
    ∀ c ∈ chars, isHexDigit c = true ∨ isAsciiBlank c.toNat = true := by
  induction h with
  | nil => exact List.forall_mem_nil _
  | blank hblank _ ih => exact List.forall_mem_cons.mpr ⟨.inr hblank, ih⟩
  | pair hhigh hlow _ ih =>
    exact List.forall_mem_cons.mpr ⟨.inl hhigh, List.forall_mem_cons.mpr ⟨.inl hlow, ih⟩⟩

/-- An even number of digits is made of pairs. -/
theorem isPaired_of_digits (count : Nat) (hlength : chars.length = 2 * count)
    (hdigits : ∀ c ∈ chars, isHexDigit c = true) : IsPaired chars := by
  induction count generalizing chars with
  | zero =>
    obtain rfl := List.length_eq_zero_iff.mp hlength
    exact .nil
  | succ count ih =>
    match chars, hlength, hdigits with
    | c :: d :: rest, hlength, hdigits =>
      simp only [List.forall_mem_cons] at hdigits
      simp only [List.length_cons] at hlength
      exact .pair hdigits.1 hdigits.2.1 (ih (by omega) hdigits.2.2)

theorem bytesOfHexChars?_blank {c : Char} (h : isAsciiBlank c.toNat = true) (rest : List Char) :
    bytesOfHexChars? (c :: rest) = bytesOfHexChars? rest := by
  rw [bytesOfHexChars?.eq_def]
  dsimp only
  rw [if_pos h]

/-- Of a pair of digits one byte is read. -/
theorem exists_bytesOfHexChars?_pair {c d : Char} (hhigh : isHexDigit c = true)
    (hlow : isHexDigit d = true) (rest : List Char) :
    ∃ byte, bytesOfHexChars? (c :: d :: rest) = (bytesOfHexChars? rest).map (byte :: ·) := by
  obtain ⟨high, hc⟩ := Option.isSome_iff_exists.mp hhigh
  obtain ⟨low, hd⟩ := Option.isSome_iff_exists.mp hlow
  refine ⟨UInt8.ofNat (16 * high + low), ?_⟩
  rw [bytesOfHexChars?, if_neg (ne_true_of_eq_false (not_isAsciiBlank_of_isHexDigit hhigh)), hc, hd]

/-- What bytes are read from starts with a blank or with a pair of digits. -/
theorem bytesOfHexChars?_cons_isSome {c : Char} {rest : List Char}
    (h : (bytesOfHexChars? (c :: rest)).isSome = true) :
    (isAsciiBlank c.toNat = true ∧ (bytesOfHexChars? rest).isSome = true) ∨
      ∃ d more, rest = d :: more ∧ isHexDigit c = true ∧ isHexDigit d = true ∧
        (bytesOfHexChars? more).isSome = true := by
  rw [bytesOfHexChars?.eq_def] at h
  dsimp only at h
  split at h
  · rename_i hblank
    exact .inl ⟨hblank, h⟩
  · cases rest with
    | nil => cases h
    | cons d more =>
      dsimp only at h
      split at h
      · rename_i high low hhigh hlow
        refine .inr ⟨d, more, rfl, ?_, ?_, Option.isSome_map.symm.trans h⟩
        · rw [isHexDigit, hhigh, Option.isSome_some]
        · rw [isHexDigit, hlow, Option.isSome_some]
      · cases h

/-- **The reader**: bytes can be read from the texts of pairs. -/
theorem isSome_bytesOfHexChars?_iff : (bytesOfHexChars? chars).isSome = true ↔ IsPaired chars := by
  constructor
  · intro h
    induction chars using bytesOfHexChars?.induct with
    | case1 => exact .nil
    | case2 c rest hblank ih =>
      rw [bytesOfHexChars?_blank hblank] at h
      exact .blank hblank (ih h)
    | case3 c hnoBlank =>
      rcases bytesOfHexChars?_cons_isSome h with ⟨hblank, -⟩ | ⟨d, more, hrest, -⟩
      · exact absurd hblank hnoBlank
      · cases hrest
    | case4 c hnoBlank d more high low hlow hhigh ih =>
      rcases bytesOfHexChars?_cons_isSome h with ⟨hblank, -⟩ | ⟨d', more', hrest, hc, hd, hmore⟩
      · exact absurd hblank hnoBlank
      · obtain ⟨rfl, rfl⟩ := List.cons.inj hrest
        exact .pair hc hd (ih hmore)
    | case5 c hnoBlank d more hnone =>
      rcases bytesOfHexChars?_cons_isSome h with ⟨hblank, -⟩ | ⟨d', more', hrest, hc, hd, -⟩
      · exact absurd hblank hnoBlank
      · obtain ⟨rfl, rfl⟩ := List.cons.inj hrest
        obtain ⟨high, hhigh⟩ := Option.isSome_iff_exists.mp hc
        obtain ⟨low, hlow⟩ := Option.isSome_iff_exists.mp hd
        exact absurd hlow (hnone high low hhigh)
  · intro h
    induction h with
    | nil => rfl
    | blank hblank _ ih => rwa [bytesOfHexChars?_blank hblank]
    | @pair c d rest hhigh hlow _ ih =>
      obtain ⟨byte, hpair⟩ := exists_bytesOfHexChars?_pair hhigh hlow rest
      rwa [hpair, Option.isSome_map]

/-- Pairs without blanks are digits. -/
theorem IsPaired.digits (h : IsPaired chars)
    (hblank : ∀ c ∈ chars, isAsciiBlank c.toNat = false) : ∀ c ∈ chars, isHexDigit c = true :=
  fun c hc => (h.digit_or_blank c hc).resolve_right (ne_true_of_eq_false (hblank c hc))

/-! ## Counting -/

/-- How many blanks of ASCII there are. -/
def blankCount (chars : List Char) : Nat := (chars.map Char.toNat).countP isAsciiBlank

theorem blankCount_eq_zero_iff :
    blankCount chars = 0 ↔ ∀ c ∈ chars, isAsciiBlank c.toNat = false := by
  simp [blankCount]

theorem blankCount_of_isHexDigit {c : Char} (h : isHexDigit c = true) (rest : List Char) :
    blankCount (c :: rest) = blankCount rest :=
  List.countP_cons_of_neg (ne_true_of_eq_false (not_isAsciiBlank_of_isHexDigit h))

/-- Two characters for every byte, and one for every blank. -/
theorem length_of_bytesOfHexChars? {data : List UInt8} (h : bytesOfHexChars? chars = some data) :
    chars.length = 2 * data.length + blankCount chars := by
  have hpaired : IsPaired chars := isSome_bytesOfHexChars?_iff.mp (Option.isSome_of_eq_some h)
  induction hpaired generalizing data with
  | nil =>
    obtain rfl := Option.some.inj h
    rfl
  | @blank c rest hblank _ ih =>
    rw [bytesOfHexChars?_blank hblank] at h
    have hone : blankCount (c :: rest) = blankCount rest + 1 := List.countP_cons_of_pos hblank
    rw [List.length_cons, hone, ih h, Nat.add_assoc]
  | @pair c d rest hhigh hlow _ ih =>
    obtain ⟨byte, hpair⟩ := exists_bytesOfHexChars?_pair hhigh hlow rest
    rw [hpair] at h
    obtain ⟨more, hmore, rfl⟩ := Option.map_eq_some_iff.mp h
    rw [List.length_cons, List.length_cons, List.length_cons, blankCount_of_isHexDigit hhigh,
      blankCount_of_isHexDigit hlow, ih hmore]
    omega

/-- **Texts that are just long enough** for their bytes are the texts of digits. -/
theorem exists_bytesOfHexChars?_iff {count : Nat} (hlength : chars.length = 2 * count) :
    (∃ data, bytesOfHexChars? chars = some data ∧ data.length = count) ↔
      ∀ c ∈ chars, isHexDigit c = true := by
  constructor
  · rintro ⟨data, hread, hdata⟩
    have hpaired : IsPaired chars :=
      isSome_bytesOfHexChars?_iff.mp (Option.isSome_of_eq_some hread)
    have hcount := length_of_bytesOfHexChars? hread
    have hblank : blankCount chars = 0 := by omega
    exact hpaired.digits (blankCount_eq_zero_iff.mp hblank)
  · intro hdigits
    obtain ⟨data, hread⟩ := Option.isSome_iff_exists.mp
      (isSome_bytesOfHexChars?_iff.mpr (isPaired_of_digits count hlength hdigits))
    have hcount := length_of_bytesOfHexChars? hread
    have hblank : blankCount chars = 0 :=
      blankCount_eq_zero_iff.mpr fun c hc => not_isAsciiBlank_of_isHexDigit (hdigits c hc)
    exact ⟨data, hread, by omega⟩

end FieldSchema.Text
