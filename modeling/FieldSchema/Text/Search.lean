import FieldSchema.Text.CharClass

/-!
# Finding and replacing parts of a text

* `Text.occursIn`: whether a text holds another one.
* `Text.replaceAll`: every occurrence of a text replaced, from left to right.
* `Text.trim`: a text without blanks at its ends.
-/

namespace FieldSchema.Text

/-- Whether the characters of `part` stand somewhere in those of a text, next to each other. -/
def charsOccurIn (part : List Char) : List Char → Bool
  | [] => part.isEmpty
  | c :: rest => part.isPrefixOf (c :: rest) || charsOccurIn part rest

/-- Whether a text holds another one. -/
def occursIn (part text : String) : Bool := charsOccurIn part.toList text.toList

/-- The characters of a text with every occurrence of `part` replaced; while `skip` is positive,
characters of an occurrence are passed over. -/
def replaceChars (part new : List Char) : Nat → List Char → List Char
  | _, [] => []
  | skip + 1, _ :: rest => replaceChars part new skip rest
  | 0, c :: rest =>
    if part.isPrefixOf (c :: rest) then new ++ replaceChars part new (part.length - 1) rest
    else c :: replaceChars part new 0 rest

/-- A text with every occurrence of a text that is not empty replaced. -/
def replaceAll (part new text : String) : String :=
  if part.isEmpty then text
  else String.ofList (replaceChars part.toList new.toList 0 text.toList)

/-- A text without blanks at its ends. -/
def trim (text : String) : String :=
  let front := text.toList.dropWhile fun c => isBlank c.toNat
  String.ofList (front.reverse.dropWhile fun c => isBlank c.toNat).reverse

end FieldSchema.Text
