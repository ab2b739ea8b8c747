import FieldSchema.Number.Reading

/-!
# Numerals

Values are made of numerals in any script: decimal digits of every numeral system stand for
themselves, and blanks of every kind may stand around a numeral.  An underscore may stand between
two digits and nowhere else.

* `Numeral.normal`: a numeral in ASCII.
* `Number.ofNumeral?`: whole numbers.
* `Number.ofNumeralInBase?`: whole numbers in other bases than ten.
* `Binary64.ofNumeral?`: doubles.
* `Binary64.pairOfNumeral?`: complex numbers, as their two parts.
-/

namespace FieldSchema

namespace Numeral

/-- A character in ASCII, if it is a digit or a blank of another script. -/
def normalChar (c : Char) : Char :=
  if c.toNat < 0x7F then c
  else if Text.isBlank c.toNat then ' '
  else
    match Text.digitValue? c.toNat with
    | some d => Char.ofNat (0x30 + d)
    | none => c

/-- A numeral in ASCII. -/
def normal (text : String) : List Char := text.toList.map normalChar

/-- A numeral in bytes. -/
def ofBytes (data : List UInt8) : List Char := data.map fun b => Char.ofNat b.toNat

/-- The characters without underscores, none when one does not stand between two digits. -/
def joinDigits? (afterDigit : Bool) (chars : List Char)
    (isDigit : Char → Bool := Number.isDigitChar) : Option (List Char) :=
  match chars with
  | [] => some []
  | c :: rest =>
    if c == '_' then
      if afterDigit && rest.head?.any isDigit then joinDigits? false rest isDigit else none
    else (joinDigits? (isDigit c) rest isDigit).map (c :: ·)

end Numeral

namespace Number

/-- The digits of a whole number, with its sign. -/
def numeralDigits? (chars : List Char) : Option (Bool × List Char) := do
  let (negative, body) := splitSign (trimBlanks chars)
  let digits ← Numeral.joinDigits? false body
  if digits.isEmpty || !digits.all isDigitChar then none else some (negative, digits)

/-- The whole number of a numeral. -/
def ofNumeral? (chars : List Char) : Option Int := do
  let (negative, digits) ← numeralDigits? chars
  let n := Int.ofNat (digitsValue digits)
  pure (if negative then -n else n)

/-- The number of digits of the numeral of a whole number. -/
def digitCount (chars : List Char) : Nat :=
  ((numeralDigits? chars).map fun parts => parts.2.length).getD 0

/-! ## Other bases -/

/-- The value of a digit or a letter. -/
def letterValue? (c : Char) : Option Nat :=
  if Text.isAsciiDigit c.toNat then some (c.toNat - 0x30)
  else if Text.isAsciiUpper c.toNat then some (c.toNat - 0x41 + 10)
  else if Text.isAsciiUpper (c.toNat - 0x20) then some (c.toNat - 0x61 + 10)
  else none

/-- Whether a character is a digit in a base. -/
def isDigitIn (base : Nat) (c : Char) : Bool := (letterValue? c).any (· < base)

/-- The base that the letter after a zero stands for. -/
def markedBase? (c : Char) : Option Nat :=
  if c == 'x' || c == 'X' then some 16
  else if c == 'o' || c == 'O' then some 8
  else if c == 'b' || c == 'B' then some 2
  else none

/-- A numeral in a base: the base, the digits, and whether a mark stood in front of them.  A mark
has to name the base, unless the base is left open. -/
def withoutMark (base : Nat) (chars : List Char) : Nat × List Char × Bool :=
  match chars with
  | '0' :: c :: rest =>
    match markedBase? c with
    | some marked =>
      if base = marked || base = 0 then (marked, rest, true)
      else (base, chars, false)
    | none => (base, chars, false)
  | chars => (base, chars, false)

/-- The whole number of a numeral in a base from two to thirty-six, and the number of its digits.
A base that is left open is ten unless a mark names it; then only zero starts with a zero. -/
def ofNumeralInBase? (base : Nat) (chars : List Char) : Option (Int × Nat) := do
  let (negative, body) := splitSign (trimBlanks chars)
  let (found, body, marked) := withoutMark base body
  let radix := if found = 0 then 10 else found
  let digits ← Numeral.joinDigits? marked body (isDigitIn radix)
  let values ← digits.mapM letterValue?
  let n := values.foldl (fun n d => n * radix + d) 0
  if values.isEmpty || values.any (radix ≤ ·) then none
  else if found = 0 && digits.head? = some '0' && n ≠ 0 then none
  else pure (if negative then -Int.ofNat n else Int.ofNat n, digits.length)

end Number

namespace Binary64

open Number

/-- The double of a numeral without blanks and underscores, or of a name. -/
def ofPlain? (chars : List Char) : Option Binary64 := do
  let (negative, body) := splitSign chars
  let name := String.ofList (body.map lowerAscii)
  if name == "inf" || name == "infinity" then some (.infinite negative)
  else if name == "nan" then some .notANumber
  else readDecimal? negative body

/-- The double of a numeral. -/
def ofNumeral? (chars : List Char) : Option Binary64 :=
  (Numeral.joinDigits? false (trimBlanks chars)).bind ofPlain?

/-! ## Complex numbers -/

/-- The characters without the parentheses around them, none when only one of them is there. -/
def withoutParentheses? (chars : List Char) : Option (List Char) :=
  match chars with
  | '(' :: rest =>
    match rest.reverse with
    | ')' :: inner => some (trimBlanks inner.reverse)
    | _ => none
  | chars => some chars

/-- The parts before and from the last sign on that is no sign of an exponent; the characters are
given backwards. -/
def splitLastSign : List Char → List Char → List Char × List Char
  | after, [] => ([], after)
  | after, c :: before =>
    let inExponent := before.head?.any fun e => e == 'e' || e == 'E'
    if (c == '+' || c == '-') && !inExponent then (before.reverse, c :: after)
    else splitLastSign (c :: after) before

/-- The second part of a complex number; a sign alone stands for one. -/
def imaginary? (chars : List Char) : Option Binary64 :=
  if chars = [] || chars = ['+'] then some (ofInt 1)
  else if chars = ['-'] then some (ofInt (-1))
  else ofPlain? chars

/-- Both parts of a complex number. -/
def pairOfNumeral? (chars : List Char) : Option (Binary64 × Binary64) := do
  let plain ← withoutParentheses? (trimBlanks (← Numeral.joinDigits? false chars))
  match plain.reverse with
  | 'j' :: front => split front
  | 'J' :: front => split front
  | _ => return (← ofPlain? plain, .zero)
where
  /-- Both parts, without the mark of the second one; the characters are given backwards. -/
  split (front : List Char) : Option (Binary64 × Binary64) := do
    let (re, im) := splitLastSign [] front
    let im ← imaginary? im
    if re.isEmpty then pure (.zero, im) else pure (← ofPlain? re, im)

end Binary64

end FieldSchema
