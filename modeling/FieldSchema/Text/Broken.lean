import FieldSchema.Text.Quoted

/-!
# Texts without an encoding

A text is a list of code points, and surrogates are code points without being characters.  A text
that holds one can be kept and compared, but no coding has it: whatever has to be encoded is
refused, and the refusal names the first surrogates.

Texts without surrogates are strings and have their own type.

* `CodePoint`, `BrokenText`: code points, and texts that hold a surrogate.
* `BrokenText.quoted`: the text in quotes, where surrogates are written by their codes.
* `BrokenText.refusal`: why the text is not encoded.
* `BrokenText.mended`: the text with marks in the place of surrogates.
-/

namespace FieldSchema

/-- A code point: a character, or a surrogate by its place among the surrogates. -/
inductive CodePoint where
  | char (c : Char)
  | surrogate (place : Fin 0x800)
  deriving DecidableEq, Repr, Inhabited

namespace CodePoint

/-- The number of a code point. -/
def code : CodePoint → Nat
  | .char c => c.toNat
  | .surrogate place => 0xD800 + place

/-- The character that a code point is. -/
def char? : CodePoint → Option Char
  | .char c => some c
  | .surrogate _ => none

/-- Whether a code point is a surrogate. -/
def isSurrogate : CodePoint → Bool
  | .char _ => false
  | .surrogate _ => true

/-- The escape of a code point by its number in four digits. -/
def escaped (point : CodePoint) : List Char := ['\\', 'u'] ++ Text.hexFixed 4 point.code

end CodePoint

/-- A text that holds a surrogate. -/
structure BrokenText where
  points : List CodePoint
  isBroken : points.any CodePoint.isSurrogate = true
  deriving DecidableEq, Repr

namespace BrokenText

/-- The text in quotes. -/
def quoted (text : BrokenText) : String :=
  let mark := Text.quoteFor (text.points.map CodePoint.code)
  String.ofList (Char.ofNat mark :: text.points.flatMap (quotePoint mark) ++ [Char.ofNat mark])
where
  /-- One code point of the quoted text. -/
  quotePoint (mark : Nat) : CodePoint → List Char
    | .char c => Text.quoteChar mark c
    | point => point.escaped

/-- How many characters stand before the first surrogate. -/
def start (text : BrokenText) : Nat := text.points.findIdx CodePoint.isSurrogate

/-- The first surrogates, up to the next character. -/
def firstRun (text : BrokenText) : List CodePoint :=
  (text.points.drop text.start).takeWhile CodePoint.isSurrogate

/-- Why the text is not encoded. -/
def refusal (text : BrokenText) : String :=
  let place :=
    match text.firstRun with
    | [point] => " '" ++ String.ofList point.escaped ++ "' in position " ++ toString text.start
    | run =>
      "s in position " ++ toString text.start ++ "-" ++ toString (text.start + run.length - 1)
  "'utf-8' codec can't encode character" ++ place ++ ": surrogates not allowed"

/-- The text with marks in the place of surrogates, one for each of the three bytes that a
surrogate would have. -/
def mended (text : BrokenText) : String :=
  String.ofList (text.points.flatMap mend)
where
  /-- One code point of the text. -/
  mend : CodePoint → List Char
    | .char c => [c]
    | .surrogate _ => List.replicate 3 '\uFFFD'

end BrokenText

end FieldSchema
