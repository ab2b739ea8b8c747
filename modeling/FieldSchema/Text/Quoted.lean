import FieldSchema.Text.Hex
import FieldSchema.Text.Printable

/-!
# Quoted text and bytes

Diagnostics show texts in quotes.  The quote is the single one unless the text holds a single
quote and no double one.  The quote in use and the backslash are escaped, tab, line feed and
carriage return have short escapes, and every other unprintable character is written by its code
in two, four or eight hexadecimal digits.

* `quote`: a quoted text.
* `quoteBytes`: quoted bytes, marked by a leading `b`.
-/

namespace FieldSchema.Text

/-! ## Quotes -/

/-- The quote around a text: single unless only a single quote occurs in it. -/
def quoteFor (chars : List Nat) : Nat :=
  if chars.contains 0x27 && !chars.contains 0x22 then 0x22 else 0x27

/-- The escapes that texts and bytes share, for the quote, the backslash and the short ones. -/
def shortEscape? (mark code : Nat) : Option (List Char) :=
  if code == mark || code == 0x5C then some ['\\', Char.ofNat code]
  else if code == 0x09 then some ['\\', 't']
  else if code == 0x0A then some ['\\', 'n']
  else if code == 0x0D then some ['\\', 'r']
  else none

/-- One character of a quoted text. -/
def quoteChar (mark : Nat) (c : Char) : List Char :=
  match shortEscape? mark c.toNat with
  | some escape => escape
  | none =>
    if isPrintable c.toNat then [c]
    else if c.toNat < 0x100 then '\\' :: 'x' :: hexFixed 2 c.toNat
    else if c.toNat < 0x10000 then '\\' :: 'u' :: hexFixed 4 c.toNat
    else '\\' :: 'U' :: hexFixed 8 c.toNat

/-- A text in quotes. -/
def quote (text : String) : String :=
  let mark := quoteFor (text.toList.map Char.toNat)
  String.ofList (Char.ofNat mark :: text.toList.flatMap (quoteChar mark) ++ [Char.ofNat mark])

/-- One byte of quoted bytes: printable ASCII stands for itself. -/
def quoteByte (mark : Nat) (b : UInt8) : List Char :=
  match shortEscape? mark b.toNat with
  | some escape => escape
  | none =>
    if 0x20 ≤ b.toNat && b.toNat < 0x7F then [Char.ofNat b.toNat]
    else '\\' :: 'x' :: hexFixed 2 b.toNat

/-- Bytes in quotes, after the letter that marks them. -/
def quoteBytes (bytes : List UInt8) : String :=
  let mark := quoteFor (bytes.map UInt8.toNat)
  String.ofList ('b' :: Char.ofNat mark :: bytes.flatMap (quoteByte mark) ++ [Char.ofNat mark])

end FieldSchema.Text
