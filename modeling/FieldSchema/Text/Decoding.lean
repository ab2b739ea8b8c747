import FieldSchema.Text.Hex

/-!
# Text in bytes

Bytes are read as UTF-8 from left to right.  Where no character can be read, the longest start of
one, or else a single byte, is set apart, and reading goes on behind it.

* `BytePiece`: a character, or bytes that form none.
* `piecesOfBytes`: bytes as pieces.
* `textOfBytes?`, `shownBytes`: the text of bytes, if they form one, or with a mark for every piece
  that is no character.
-/

namespace FieldSchema.Text

/-- A part of bytes that are read as text. -/
inductive BytePiece where
  | char (c : Char)
  | broken (bytes : List UInt8)
  deriving DecidableEq, Repr, Inhabited

/-- The start of a character: its bytes, the value of its bits, the number of bytes that follow,
and the bounds of the next one. -/
structure CharStart where
  bytes : List UInt8
  bits : Nat
  missing : Nat
  low : Nat := 0x80
  high : Nat := 0xBF
  deriving DecidableEq, Repr, Inhabited

/-- The first byte of a character of several bytes.  Narrower bounds keep out longer forms than
necessary, halves of pairs, and what lies beyond the last character. -/
def charStart? (b : UInt8) : Option CharStart :=
  let n := b.toNat
  if 0xC2 ≤ n && n < 0xE0 then some ⟨[b], n - 0xC0, 1, 0x80, 0xBF⟩
  else if 0xE0 ≤ n && n < 0xF0 then
    some ⟨[b], n - 0xE0, 2, if n = 0xE0 then 0xA0 else 0x80, if n = 0xED then 0x9F else 0xBF⟩
  else if 0xF0 ≤ n && n < 0xF5 then
    some ⟨[b], n - 0xF0, 3, if n = 0xF0 then 0x90 else 0x80, if n = 0xF4 then 0x8F else 0xBF⟩
  else none

namespace CharStart

/-- Whether a byte goes on with a character. -/
def accepts (start : CharStart) (b : UInt8) : Bool :=
  start.low ≤ b.toNat && b.toNat ≤ start.high

/-- The start of a character with one byte more. -/
def extend (start : CharStart) (b : UInt8) : CharStart :=
  ⟨start.bytes ++ [b], start.bits * 0x40 + b.toNat % 0x40, start.missing - 1, 0x80, 0xBF⟩

end CharStart

/-- Bytes as pieces, after the start of a character if there is one. -/
def piecesAfter : Option CharStart → List UInt8 → List BytePiece
  | none, [] => []
  | some start, [] => [.broken start.bytes]
  | some start, b :: rest =>
    if start.accepts b then
      let longer := start.extend b
      if longer.missing = 0 then .char (Char.ofNat longer.bits) :: piecesAfter none rest
      else piecesAfter (some longer) rest
    else .broken start.bytes :: first b rest
  | none, b :: rest => first b rest
where
  /-- A byte that no character goes on with, and the pieces behind it. -/
  first (b : UInt8) (rest : List UInt8) : List BytePiece :=
    if b < 0x80 then .char (Char.ofNat b.toNat) :: piecesAfter none rest
    else
      match charStart? b with
      | some start => piecesAfter (some start) rest
      | none => .broken [b] :: piecesAfter none rest

/-- Bytes as pieces. -/
def piecesOfBytes (bytes : List UInt8) : List BytePiece := piecesAfter none bytes

/-- The characters of pieces, if there is nothing else. -/
def charsOfPieces? : List BytePiece → Option (List Char)
  | [] => some []
  | .char c :: rest => (charsOfPieces? rest).map (c :: ·)
  | .broken _ :: _ => none

/-- The text that bytes form. -/
def textOfBytes? (bytes : List UInt8) : Option String :=
  (charsOfPieces? (piecesOfBytes bytes)).map String.ofList

/-- The mark of what is no character. -/
def brokenMark : Char := Char.ofNat 0xFFFD

/-- The text that bytes form, with a mark for every piece that is no character. -/
def shownBytes (bytes : List UInt8) : String :=
  String.ofList ((piecesOfBytes bytes).map fun
    | .char c => c
    | .broken _ => brokenMark)

end FieldSchema.Text
