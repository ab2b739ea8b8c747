import FieldSchema.Number.Binary64

/-!
# Shortest decimal text

A double is written with the fewest decimal digits that read back as the same double, and of the
texts with that many digits the nearest one.  For each number of digits from one to seventeen the
two neighbours of the value on that decimal grid are tried; the first grid on which one of them
reads back decides.

* `Binary64.shortestDigits`: digits and decimal exponent of a positive double.
* `Binary64.toText`: positional text from `0.0001` up to `10 ^ 16`, and exponent text outside.
-/

namespace FieldSchema

namespace Binary64

/-! ## Digits -/

/-- The exponent of the leading decimal digit of a positive quotient. -/
def decimalExponent (num den : Nat) : Int :=
  let guess : Int := (Int.ofNat num.log2 - Int.ofNat den.log2) * 30103 / 100000
  let reaches (e : Int) : Bool :=
    match e with
    | .ofNat e => den * Nat.pow 10 e ≤ num
    | .negSucc e => den ≤ num * Nat.pow 10 (e + 1)
  if reaches (guess + 1) then guess + 1
  else if reaches guess then guess
  else guess - 1

/-- A positive quotient in units of `10 ^ exponent`, as numerator and denominator. -/
def inUnitsOf (num den : Nat) (exponent : Int) : Nat × Nat :=
  match exponent with
  | .ofNat e => (num, den * Nat.pow 10 e)
  | .negSucc e => (num * Nat.pow 10 (e + 1), den)

/-- The digits on one decimal grid that read back as `x`: of the two neighbours of the value, the
nearer that does, and of two equally near ones the even one. -/
def digitsOnGrid? (x : Binary64) (num den : Nat) (exponent : Int) : Option Nat :=
  let (n, d) := inUnitsOf num den exponent
  let low := n / d
  let rest := n % d
  let lowReads := low != 0 && ofScaledDecimal false low exponent == x
  let highReads := ofScaledDecimal false (low + 1) exponent == x
  match lowReads, highReads with
  | true, true =>
    if 2 * rest < d || (2 * rest == d && low % 2 == 0) then some low else some (low + 1)
  | true, false => some low
  | false, true => some (low + 1)
  | false, false => none

/-- The first grid, from the one of the given exponent on to finer ones, that holds a decimal
reading back as `x`.  Eighteen tries always suffice, since seventeen digits tell doubles apart. -/
def searchGrid (x : Binary64) (num den : Nat) : Nat → Int → Nat × Int
  | 0, exponent => (num / den, exponent)
  | tries + 1, exponent =>
    match digitsOnGrid? x num den exponent with
    | some digits => (digits, exponent)
    | none => searchGrid x num den tries (exponent - 1)

/-- The decimal digits of a natural number. -/
def decimalDigits (n : Nat) : List Char := (toString n).toList

/-- Drops the zeros at the end of a list of digits. -/
def dropTrailingZeros (digits : List Char) : List Char :=
  (digits.reverse.dropWhile (· == '0')).reverse

/-- The shortest digits of a positive double, without zeros at the end, and the exponent of the
first of them. -/
def shortestDigits (x : Binary64) : List Char × Int :=
  match x.ratio with
  | none => ([], 0)
  | some (num, den) =>
    let leading := decimalExponent num.natAbs den
    let (digits, exponent) := searchGrid x num.natAbs den 18 leading
    let chars := decimalDigits digits
    (dropTrailingZeros chars, exponent + Int.ofNat chars.length - 1)

/-! ## Layout -/

/-- Digits with a point, for a leading exponent that is written positionally. -/
def positional (digits : List Char) (leading : Int) : List Char :=
  match leading with
  | .ofNat e =>
    let whole := digits.take (e + 1)
    let fraction := digits.drop (e + 1)
    whole ++ List.replicate (e + 1 - whole.length) '0' ++ ['.'] ++
      (if fraction.isEmpty then ['0'] else fraction)
  | .negSucc e => '0' :: '.' :: (List.replicate e '0' ++ digits)

/-- Digits with an exponent of at least two digits and always with its sign. -/
def scientific (digits : List Char) (leading : Int) : List Char :=
  let mantissa := match digits with
    | [] => ['0']
    | [d] => [d]
    | d :: rest => d :: '.' :: rest
  let power := decimalDigits leading.natAbs
  mantissa ++ ['e', if leading < 0 then '-' else '+'] ++
    List.replicate (2 - power.length) '0' ++ power

/-- The text of a double: `nan`, `inf`, or the shortest digits, positional for values from
`0.0001` up to but not including `10 ^ 16`. -/
def toText (x : Binary64) : String :=
  let sign := if x.isNegative then "-" else ""
  match x with
  | .notANumber => "nan"
  | .infinite _ => sign ++ "inf"
  | .finite _ 0 _ => sign ++ "0.0"
  | .finite _ significand exponent =>
    let (digits, leading) := shortestDigits (.finite false significand exponent)
    sign ++ String.ofList
      (if -4 ≤ leading && leading < 16 then positional digits leading
       else scientific digits leading)

end Binary64

end FieldSchema
