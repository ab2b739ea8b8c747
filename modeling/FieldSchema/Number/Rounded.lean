import FieldSchema.Number.Shortest

/-!
# Decimal text with a stated number of digits

A finite double is written with as many digits as are asked for, after the point or altogether.
Its exact value is rounded once, a tie to the even digit.  The sign is not part of the text.

* `Binary64.fixedText`: digits before and after the point.
* `Binary64.exponentText`: one digit before the point, and an exponent.
* `Binary64.generalText`: the one of both that suits the size, without zeros at the end.
-/

namespace FieldSchema

namespace Binary64

/-! ## Digits -/

/-- The magnitude of a finite double as a quotient. -/
def magnitude? (x : Binary64) : Option (Nat × Nat) :=
  x.ratio.map fun (num, den) => (num.natAbs, den)

/-- A quotient with a number of digits after the point: the digits before it and after it. -/
def fixedDigits (precision num den : Nat) : List Char × List Char :=
  let digits := decimalDigits (roundHalfEven (num * Nat.pow 10 precision) den)
  let digits := List.replicate (precision + 1 - digits.length) '0' ++ digits
  (digits.take (digits.length - precision), digits.drop (digits.length - precision))

/-- A quotient with one digit more than a number, and the exponent of the first one.  When rounding
carries into a new digit, the last one is dropped. -/
def leadingDigits (more num den : Nat) : List Char × Int :=
  if num == 0 then (List.replicate (more + 1) '0', 0)
  else
    let exponent := decimalExponent num den
    let scaled := inUnitsOf num den (exponent - Int.ofNat more)
    let digits := decimalDigits (roundHalfEven scaled.1 scaled.2)
    if digits.length > more + 1 then (digits.take (more + 1), exponent + 1) else (digits, exponent)

/-! ## Texts -/

/-- Digits before and after a point, which is left out before no digits unless it is kept. -/
def pointed (keepsPoint : Bool) (whole fraction : List Char) : List Char :=
  whole ++ (if fraction.isEmpty && !keepsPoint then [] else ['.']) ++ fraction

/-- The mark of an exponent, its sign and at least two digits. -/
def exponentMark (exponent : Int) : List Char :=
  let digits := decimalDigits exponent.natAbs
  ['e', if exponent < 0 then '-' else '+'] ++ List.replicate (2 - digits.length) '0' ++ digits

/-- What stands for a double that is not finite. -/
def endlessText (x : Binary64) : List Char :=
  if x.isNaN then ['n', 'a', 'n'] else ['i', 'n', 'f']

/-- A double with a number of digits after the point. -/
def fixedText (x : Binary64) (precision : Nat) (keepsPoint : Bool) : List Char :=
  match x.magnitude? with
  | none => x.endlessText
  | some (num, den) =>
    let (whole, fraction) := fixedDigits precision num den
    pointed keepsPoint whole fraction

/-- A double with one digit before the point, a number of digits after it, and an exponent. -/
def exponentText (x : Binary64) (precision : Nat) (keepsPoint : Bool) : List Char :=
  match x.magnitude? with
  | none => x.endlessText
  | some (num, den) =>
    let (digits, exponent) := leadingDigits precision num den
    pointed keepsPoint (digits.take 1) (digits.drop 1) ++ exponentMark exponent

/-- A double with a number of digits altogether, at least one.  Very small and large ones have an
exponent.  Zeros at the end are left out unless the point is kept. -/
def generalText (x : Binary64) (precision : Nat) (keepsPoint : Bool) : List Char :=
  match x.magnitude? with
  | none => x.endlessText
  | some (num, den) =>
    let count := max precision 1
    let (digits, exponent) := leadingDigits (count - 1) num den
    let ending (fraction : List Char) : List Char :=
      if keepsPoint then fraction else dropTrailingZeros fraction
    if -4 ≤ exponent && exponent < Int.ofNat count then
      let (whole, fraction) := fixedDigits (Int.toNat (Int.ofNat count - 1 - exponent)) num den
      pointed keepsPoint whole (ending fraction)
    else pointed keepsPoint (digits.take 1) (ending (digits.drop 1)) ++ exponentMark exponent

end Binary64

end FieldSchema
