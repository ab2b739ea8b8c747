/-!
# Binary floating point numbers

A number in double precision is a sign, a significand below `2 ^ 53` and a power of two, or an
infinity, or not a number.  Every operation here is exact arithmetic on natural numbers followed
by one rounding, so that statements about it can be proved and not only run.

* `Binary64.ofRatio`: the double nearest to a quotient, ties to the even significand.
* `Binary64.ofScaledDecimal`: the double nearest to a decimal number.
* `Binary64.add`, `Binary64.sub`: the rounded sum and difference.
* `Binary64.compare?`: the exact order, none when a side is not a number.
-/

namespace FieldSchema

/-- A number in double precision.  A finite one is `significand * 2 ^ exponent`, with the smallest
exponent at or above `-1074` for which the significand stays below `2 ^ 53`. -/
inductive Binary64 where
  | notANumber
  | infinite (negative : Bool)
  | finite (negative : Bool) (significand : Nat) (exponent : Int)
  deriving DecidableEq, Repr, Inhabited

namespace Binary64

/-- Zero with a positive sign. -/
def zero : Binary64 := .finite false 0 (-1074)

/-! ## Rounding -/

/-- The quotient rounded to the nearest natural number, a tie to the even one. -/
def roundHalfEven (num den : Nat) : Nat :=
  let q := num / den
  let r := num % den
  if 2 * r < den then q
  else if den < 2 * r then q + 1
  else if q % 2 == 0 then q else q + 1

/-- A quotient divided by a power of two, as a pair of numerator and denominator. -/
def scaleRatio (num den : Nat) (exponent : Int) : Nat × Nat :=
  match exponent with
  | .ofNat e => (num, den * Nat.pow 2 e)
  | .negSucc e => (num * Nat.pow 2 (e + 1), den)

/-- The exponent of the significand that represents a positive quotient. -/
def exponentFor (num den : Nat) : Int :=
  let guess : Int := Int.ofNat num.log2 - Int.ofNat den.log2 - 53
  let scaled := scaleRatio num den guess
  max (-1074) (if scaled.1 / scaled.2 < 0x20000000000000 then guess else guess + 1)

/-- The double nearest to `num / den`, with the given sign; the denominator is positive. -/
def ofRatio (negative : Bool) (num den : Nat) : Binary64 :=
  if num == 0 then .finite negative 0 (-1074)
  else
    let exponent := exponentFor num den
    let scaled := scaleRatio num den exponent
    let significand := roundHalfEven scaled.1 scaled.2
    let (significand, exponent) :=
      if significand == 0x20000000000000 then (0x10000000000000, exponent + 1)
      else (significand, exponent)
    if exponent > 971 then .infinite negative else .finite negative significand exponent

/-- The double nearest to `digits * 10 ^ exponent`.  Decimals far outside the range of doubles are
settled by their size alone. -/
def ofScaledDecimal (negative : Bool) (digits : Nat) (exponent : Int) : Binary64 :=
  if digits == 0 then .finite negative 0 (-1074)
  else
    let magnitude : Int := exponent + Int.ofNat (digits.log2 * 3 / 10)
    if magnitude > 400 then .infinite negative
    else if magnitude < -800 then .finite negative 0 (-1074)
    else match exponent with
      | .ofNat e => ofRatio negative (digits * Nat.pow 10 e) 1
      | .negSucc e => ofRatio negative digits (Nat.pow 10 (e + 1))

/-- The double nearest to an integer. -/
def ofInt (n : Int) : Binary64 := ofRatio (n < 0) n.natAbs 1

/-! ## Tests -/

/-- Whether this is not a number. -/
def isNaN : Binary64 → Bool
  | .notANumber => true
  | _ => false

/-- Whether this is an infinity of either sign. -/
def isInfinite : Binary64 → Bool
  | .infinite _ => true
  | _ => false

/-- Whether this is a zero of either sign. -/
def isZero : Binary64 → Bool
  | .finite _ 0 _ => true
  | _ => false

/-- Whether the sign is negative; a zero has one too. -/
def isNegative : Binary64 → Bool
  | .notANumber => false
  | .infinite negative => negative
  | .finite negative _ _ => negative

/-- The number with its sign turned. -/
def neg : Binary64 → Binary64
  | .notANumber => .notANumber
  | .infinite negative => .infinite (!negative)
  | .finite negative significand exponent => .finite (!negative) significand exponent

/-! ## Exact values -/

/-- A finite number as a signed numerator over a positive denominator. -/
def ratio : Binary64 → Option (Int × Nat)
  | .finite negative significand exponent =>
    let signed : Int := if negative then -Int.ofNat significand else Int.ofNat significand
    match exponent with
    | .ofNat e => some (signed * Int.ofNat (Nat.pow 2 e), 1)
    | .negSucc e => some (signed, Nat.pow 2 (e + 1))
  | _ => none

/-- The whole number a finite double stands for, when it has no fractional part. -/
def toInt? (x : Binary64) : Option Int :=
  match x.ratio with
  | some (num, den) => if num % den == 0 then some (num / den) else none
  | none => none

/-- The double cut off toward zero. -/
def truncate? (x : Binary64) : Option Int :=
  x.ratio.map fun (num, den) => Int.tdiv num den

/-- The exact order of two quotients with positive denominators. -/
def compareRatio (a b : Int × Nat) : Ordering :=
  compare (a.1 * b.2) (b.1 * a.2)

/-- The order of two doubles; zeros of both signs are equal. -/
def compare? : Binary64 → Binary64 → Option Ordering
  | .notANumber, _ => none
  | _, .notANumber => none
  | .infinite true, .infinite true => some .eq
  | .infinite false, .infinite false => some .eq
  | .infinite true, _ => some .lt
  | .infinite false, _ => some .gt
  | _, .infinite true => some .gt
  | _, .infinite false => some .lt
  | x, y =>
    match x.ratio, y.ratio with
    | some a, some b => some (compareRatio a b)
    | _, _ => none

/-- The order of a double and an integer, which is exact at every size. -/
def compareInt? (x : Binary64) (n : Int) : Option Ordering :=
  match x with
  | .notANumber => none
  | .infinite true => some .lt
  | .infinite false => some .gt
  | x => x.ratio.map fun a => compareRatio a (n, 1)

/-! ## Arithmetic -/

/-- The rounded sum.  A sum of finite numbers that cancels exactly is a positive zero, except
that two negative zeros add up to a negative one. -/
def add : Binary64 → Binary64 → Binary64
  | .notANumber, _ => .notANumber
  | _, .notANumber => .notANumber
  | .infinite a, .infinite b => if a == b then .infinite a else .notANumber
  | .infinite a, _ => .infinite a
  | _, .infinite b => .infinite b
  | x, y =>
    match x.ratio, y.ratio with
    | some (num, den), some (num', den') =>
      let total := num * den' + num' * den
      if total == 0 then .finite (x.isNegative && y.isNegative) 0 (-1074)
      else ofRatio (total < 0) total.natAbs (den * den')
    | _, _ => .notANumber

/-- The rounded difference. -/
def sub (x y : Binary64) : Binary64 := x.add y.neg

end Binary64

end FieldSchema
