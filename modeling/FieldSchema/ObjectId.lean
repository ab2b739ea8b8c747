import FieldSchema.Text.Hex

/-!
# Object identifiers

Object identifiers come from bson, which is no part of the program.  What is assumed of it:

* An object identifier is twelve bytes, and it is written as twenty-four hexadecimal digits.
* It can be made of twelve bytes, or of a text of twenty-four characters from which twelve bytes can
  be read.  Everything else is refused.

Bytes are read as the language reads them, which passes over blanks between the pairs of digits
(`Text.bytesOfHex?`).  A text of twenty-four characters with blanks in it leaves fewer than twelve
bytes.  Releases of bson that do not count the bytes would take it; the one assumed here counts
them.  What the program makes of the answer is stated for any such function.

* `ObjectId.read?`: the bytes of the identifier that a text stands for.
* `ObjectId.isValid`: whether there is one.
-/

namespace FieldSchema.ObjectId

/-- The bytes of the identifier that a text stands for. -/
def read? (text : String) : Option (List UInt8) :=
  if text.length = 24 then (Text.bytesOfHex? text).filter fun data => data.length == 12 else none

/-- Whether a text stands for an identifier. -/
def isValid (text : String) : Bool := (read? text).isSome

end FieldSchema.ObjectId
