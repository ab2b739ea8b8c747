import FieldSchema.Text.CharClass

/-!
# Hexadecimal digits

Bytes are written as two lowercase hexadecimal digits each.  They are read back from digits in
either case, and blanks of ASCII may stand before, between and after the pairs of digits.

* `hexText`: bytes as digits.
* `bytesOfHex?`: digits as bytes.
* `isHexDigit`: the digits.
-/

namespace FieldSchema.Text

/-- A digit from `0` to `f`. -/
def hexDigit (n : Nat) : Char :=
  if n < 10 then Char.ofNat (0x30 + n) else Char.ofNat (0x61 + n - 10)

/-- A number in exactly `width` hexadecimal digits; higher digits are dropped. -/
def hexFixed : Nat → Nat → List Char
  | 0, _ => []
  | width + 1, n => hexFixed width (n / 16) ++ [hexDigit (n % 16)]

/-- Bytes as two lowercase hexadecimal digits each. -/
def hexText (bytes : List UInt8) : String :=
  String.ofList (bytes.flatMap fun b => hexFixed 2 b.toNat)

/-- The bytes that hexadecimal digits stand for, pair by pair.  Blanks between the pairs are passed
over, and none may stand inside a pair. -/
def bytesOfHexChars? : List Char → Option (List UInt8)
  | [] => some []
  | c :: rest =>
    if isAsciiBlank c.toNat then bytesOfHexChars? rest
    else
      match rest with
      | [] => none
      | d :: rest =>
        match hexValue? c.toNat, hexValue? d.toNat with
        | some high, some low => (bytesOfHexChars? rest).map (UInt8.ofNat (16 * high + low) :: ·)
        | _, _ => none

/-- The bytes that a text of hexadecimal digits stands for. -/
def bytesOfHex? (text : String) : Option (List UInt8) := bytesOfHexChars? text.toList

/-- Whether a character is a hexadecimal digit. -/
def isHexDigit (c : Char) : Bool := (hexValue? c.toNat).isSome

end FieldSchema.Text
