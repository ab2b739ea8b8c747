import FieldSchema.Text.CharName.Aliases
import FieldSchema.Text.CharName.Alphabets
import FieldSchema.Text.CharName.Ancient
import FieldSchema.Text.CharName.Pictures
import FieldSchema.Text.CharName.Syllables
import FieldSchema.Text.CharName.Symbols
import FieldSchema.Text.CodeTable

/-!
# Names of characters

Every assigned character has a name in capital letters, and some have others beside it.  Most are
listed.  The names of ideographs are made from their numbers, and those of Korean syllables from
the sounds that they are made of.  Small letters count as capital ones in names that are listed,
but not in the names of unified ideographs and of syllables.

* `CharName.codeOf?`: the character of a name.
-/

namespace FieldSchema.Text.CharName

/-- The letters behind a start, if letters start so. -/
def after? (start : String) (letters : List Char) : Option (List Char) :=
  if start.toList.isPrefixOf letters then some (letters.drop start.length) else none

/-! ## Syllables -/

/-- The consonants that start a syllable; the empty one is a sign of its own. -/
def leads : List String :=
  ["G", "GG", "N", "D", "DD", "R", "M", "B", "BB", "S", "SS", "", "J", "JJ", "C", "K", "T", "P",
    "H"]

/-- The vowels of syllables. -/
def vowels : List String :=
  ["A", "AE", "YA", "YAE", "EO", "E", "YEO", "YE", "O", "WA", "WAE", "OE", "YO", "U", "WEO", "WE",
    "WI", "YU", "EU", "YI", "I"]

/-- The consonants that end a syllable, of which there may be none. -/
def tails : List String :=
  ["", "G", "GG", "GS", "N", "NJ", "NH", "D", "L", "LG", "LM", "LB", "LS", "LT", "LP", "LH", "M",
    "B", "BS", "S", "SS", "NG", "J", "C", "K", "T", "P", "H"]

/-- The place of the longest sound that letters start with, and the letters behind it. -/
def longestSound (sounds : List String) (letters : List Char) : Option (Nat × List Char) :=
  let better (best : Option (Nat × Nat)) (sound : String × Nat) : Option (Nat × Nat) :=
    if sound.1.toList.isPrefixOf letters && best.all fun found => found.2 < sound.1.length then
      some (sound.2, sound.1.length)
    else best
  (sounds.zipIdx.foldl better none).map fun found => (found.1, letters.drop found.2)

/-- The number of the syllable that letters spell. -/
def syllable? (letters : List Char) : Option Nat := do
  let (lead, rest) ← longestSound leads letters
  let (vowel, rest) ← longestSound vowels rest
  let (tail, rest) ← longestSound tails rest
  if rest.isEmpty then
    some (0xAC00 + (lead * vowels.length + vowel) * tails.length + tail)
  else none

example : syllable? "GGYEONG".toList = some 0xAF09 := by decide

/-! ## Names made from numbers -/

/-- The value of a hexadecimal digit with capital letters. -/
def capitalDigit? (c : Char) : Option Nat :=
  if '0' ≤ c && c ≤ '9' then some (c.toNat - '0'.toNat)
  else if 'A' ≤ c && c ≤ 'F' then some (c.toNat - 'A'.toNat + 10)
  else none

/-- The number of hexadecimal digits, of which there are four or five. -/
def numberOf? (digits : List Char) : Option Nat :=
  if digits.length == 4 || digits.length == 5 then
    (digits.mapM capitalDigit?).map fun values => values.foldl (fun n value => 16 * n + value) 0
  else none

/-- The unified ideographs. -/
def ideographs : RangeTable := #[
  (0x3400, 0x4DBF), (0x4E00, 0x9FFF), (0x20000, 0x2A6DF), (0x2A700, 0x2B738), (0x2B740, 0x2B81D),
  (0x2B820, 0x2CEA1), (0x2CEB0, 0x2EBE0), (0x30000, 0x3134A)]

/-- The unified ideograph of a number. -/
def ideograph? (digits : List Char) : Option Nat := (numberOf? digits).filter ideographs.contains

/-- The starts of other names that end in a number, with the characters of such names. -/
def numbered : List (String × RangeTable) := [
  ("CJK COMPATIBILITY IDEOGRAPH-", #[(0xF900, 0xFA6D), (0xFA70, 0xFAD9), (0x2F800, 0x2FA1D)]),
  ("KHITAN SMALL SCRIPT CHARACTER-", #[(0x18B00, 0x18CD5)]),
  ("NUSHU CHARACTER-", #[(0x1B170, 0x1B2FB)])]

/-- Whether a number has five digits only where it needs them. -/
def isShort (digits : List Char) : Bool := digits.length == 4 || digits.head? != some '0'

/-- The character of a name that ends in its number. -/
def numbered? (letters : List Char) : Option Nat :=
  numbered.findSome? fun (start, table) => do
    let digits ← after? start letters
    if isShort digits then (numberOf? digits).filter table.contains else none

/-! ## Listed names -/

/-- The selectors of variants have abbreviations with a number from one to 256. -/
def selector? (letters : List Char) : Option Nat := do
  let digits ← after? "VS" letters
  let index ← (List.range 256).find? fun index => (toString (index + 1)).toList == digits
  some (if index < 16 then 0xFE00 + index else 0xE0100 + (index - 16))

/-- The character of another name. -/
def alias? (letters : List Char) : Option Nat :=
  (aliases.find? fun entry => entry.2.any fun name => name.toList == letters).map (·.1)

/-- The character of a listed name. -/
def listed? (letters : List Char) : Option Nat :=
  let name := NameListing.wordsOf letters
  [alphabets, symbols, syllables, ancient, pictures].findSome? fun listings =>
    listings.findSome? fun listing => listing.codeOf? name

/-- An ASCII letter as a capital one. -/
def capital (c : Char) : Char :=
  if 'a' ≤ c && c ≤ 'z' then Char.ofNat (c.toNat - 0x20) else c

/-- The number of the character of a name. -/
def codeOf? (name : String) : Option Nat :=
  match after? "HANGUL SYLLABLE " name.toList with
  | some letters => syllable? letters
  | none =>
    match after? "CJK UNIFIED IDEOGRAPH-" name.toList with
    | some digits => ideograph? digits
    | none =>
      let letters := name.toList.map capital
      (numbered? letters).or ((selector? letters).or ((alias? letters).or (listed? letters)))

end FieldSchema.Text.CharName
