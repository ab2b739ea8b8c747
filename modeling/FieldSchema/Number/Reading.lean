import FieldSchema.Number.Basic
import FieldSchema.Text.CharClass

/-!
# Reading numbers from text

Settings give numbers as text.  Blanks around a number are ignored and an underscore may stand
between digits.

* `Number.readInt?`: an optional sign and digits; a fractional part of zeros is dropped.
* `Binary64.read?`: an optional sign, digits with an optional point and exponent, or a name of an
  infinity or of no number.
-/

namespace FieldSchema

namespace Number

/-! ## Parts -/

/-- The text without ASCII blanks at both ends. -/
def trimBlanks (chars : List Char) : List Char :=
  let front := chars.dropWhile fun c => Text.isAsciiBlank c.toNat
  (front.reverse.dropWhile fun c => Text.isAsciiBlank c.toNat).reverse

/-- An ASCII digit. -/
def isDigitChar (c : Char) : Bool := Text.isAsciiDigit c.toNat

/-- The number written by decimal digits; other characters are not expected. -/
def digitsValue (chars : List Char) : Nat :=
  chars.foldl (fun n c => n * 10 + (c.toNat - 0x30)) 0

/-- Whether no underscore stands at an end or beside another one. -/
def underscoresSeparate : List Char → Bool
  | [] => true
  | ['_'] => false
  | '_' :: '_' :: _ => false
  | _ :: rest => underscoresSeparate rest

/-- The text without underscores, none when one of them separates nothing. -/
def dropUnderscores? (chars : List Char) : Option (List Char) :=
  if chars.head? == some '_' || !underscoresSeparate chars then none
  else some (chars.filter (· != '_'))

/-- A sign and the rest; no sign is a plus. -/
def splitSign : List Char → Bool × List Char
  | '-' :: rest => (true, rest)
  | '+' :: rest => (false, rest)
  | chars => (false, chars)

/-! ## Whole numbers -/

/-- A whole number: digits after an optional sign, and at most a fractional part of zeros. -/
def readInt? (text : String) : Option Int := do
  let (negative, body) := splitSign (trimBlanks text.toList)
  let whole := body.takeWhile (· != '.')
  let fraction := (body.dropWhile (· != '.')).drop 1
  let digits ← dropUnderscores? whole
  if digits.isEmpty || !digits.all isDigitChar || !fraction.all (· == '0') then none
  else some (if negative then -Int.ofNat (digitsValue digits) else Int.ofNat (digitsValue digits))

end Number

namespace Binary64

open Number

/-! ## Doubles -/

/-- The exponent part of a decimal: nothing, or a mark followed by a signed number. -/
def readExponent? : List Char → Option Int
  | [] => some 0
  | mark :: rest =>
    if mark == 'e' || mark == 'E' then
      let (negative, digits) := splitSign rest
      if digits.isEmpty || !digits.all isDigitChar then none
      else
        let n := Int.ofNat (digitsValue digits)
        some (if negative then -n else n)
    else none

/-- A decimal: digits, a point with more digits, an exponent; at least one digit in all. -/
def readDecimal? (negative : Bool) (chars : List Char) : Option Binary64 := do
  let whole := chars.takeWhile isDigitChar
  let afterWhole := chars.dropWhile isDigitChar
  let (fraction, afterFraction) :=
    match afterWhole with
    | '.' :: rest => (rest.takeWhile isDigitChar, rest.dropWhile isDigitChar)
    | rest => ([], rest)
  if whole.isEmpty && fraction.isEmpty then none
  else
    let exponent ← readExponent? afterFraction
    some (ofScaledDecimal negative (digitsValue (whole ++ fraction))
      (exponent - Int.ofNat fraction.length))

/-- ASCII letters in lower case, for the names of infinity. -/
def lowerAscii (c : Char) : Char :=
  if Text.isAsciiUpper c.toNat then Char.ofNat (c.toNat + 32) else c

/-- A double in decimal notation, or one of the names `inf`, `infinity` and `nan` in any case. -/
def read? (text : String) : Option Binary64 := do
  let trimmed ← dropUnderscores? (trimBlanks text.toList)
  let (negative, body) := splitSign trimmed
  let name := String.ofList (body.map lowerAscii)
  if name == "inf" || name == "infinity" then some (.infinite negative)
  else if name == "nan" then some .notANumber
  else readDecimal? negative body

end Binary64

end FieldSchema
