/-!
# Listings of names

The names of characters are many and alike, so they are listed in the order of the characters and
each is told by how it differs from the one before.  An entry starts with a mark: the characters
from `:` to `@` say how many words, from none to six, are kept from the name before.  Then come
the words that differ.  A full stop after them says that the words at the places behind are those
of the name before.  A tilde stands for a character that has no name.  Small letters abbreviate
what is frequent in names, which hold no small letters themselves.

* `NameListing`: the names of characters in a row.
* `NameListing.codeOf?`: the character of a name.
-/

namespace FieldSchema.Text

/-- The letters of a word. -/
abbrev Word := List Char

/-- The names of characters in a row, the first of which has the number `start`.  The entries go on
from line to line. -/
structure NameListing where
  start : Nat
  lines : List String
  deriving Inhabited

namespace NameListing

/-! ## Letters -/

/-- What a character of a listing stands for. -/
def expand (c : Char) : List Char :=
  match c with
  | 'a' => "COMPONENT-".toList
  | 'b' => "CAPITAL LETT".toList
  | 'c' => " WITH ".toList
  | 'd' => "SMALL".toList
  | 'e' => "ER".toList
  | 'f' => "LE".toList
  | 'g' => "IGHT".toList
  | 'h' => "AR".toList
  | 'i' => "IN".toList
  | 'j' => "AN".toList
  | 'k' => "ON".toList
  | 'l' => "AL".toList
  | 'm' => "SELECTOR-".toList
  | 'n' => "LETTER ".toList
  | 'o' => "ED ".toList
  | 'p' => "TH".toList
  | 'q' => " ABOVE".toList
  | 'r' => "EN".toList
  | 's' => "WARDS".toList
  | 't' => "SI".toList
  | 'u' => "TI".toList
  | 'v' => "HA".toList
  | 'w' => "E ".toList
  | 'x' => "DO".toList
  | 'y' => "RE".toList
  | 'z' => "CAPITAL LETTER ".toList
  | c => [c]

/-- The words of letters with single blanks between them. -/
def wordsOf : List Char → List Word
  | [] => [[]]
  | c :: rest =>
    if c == ' ' then [] :: wordsOf rest
    else
      match wordsOf rest with
      | [] => [[c]]
      | word :: others => (c :: word) :: others

/-! ## Entries -/

/-- The number of words that a mark keeps from the name before. -/
def keptBy? (mark : Char) : Option Nat :=
  if ':' ≤ mark && mark ≤ '@' then some (mark.toNat - ':'.toNat) else none

/-- Whether a character starts an entry. -/
def isMark (c : Char) : Bool := c == '~' || (keptBy? c).isSome

/-- A name from the one before: its first words, words of its own, and words at the same places. -/
def complete (before : List Word) (kept : Nat) (letters : List Char) : List Word :=
  let own := wordsOf (letters.filter (· != '.'))
  before.take kept ++ own ++
    if letters.contains '.' then before.drop (kept + own.length) else []

/-- The name of an entry, given the name before; the tilde has none. -/
def read? (before : List Word) : List Char → Option (List Word)
  | [] => none
  | mark :: letters =>
    (keptBy? mark).map fun kept => complete before kept (letters.flatMap expand)

/-- The number of the first character with a name, of entries from a number on. -/
def search (name : List Word) : Nat → List Word → List (List Char) → Option Nat
  | _, _, [] => none
  | code, before, entry :: rest =>
    match read? before entry with
    | none => search name (code + 1) before rest
    | some found => if found == name then some code else search name (code + 1) found rest

/-- The number of the character of a name. -/
def codeOf? (listing : NameListing) (name : List Word) : Option Nat :=
  search name listing.start []
    ((listing.lines.flatMap String.toList).splitBy fun _ c => !isMark c)

example : codeOf? ⟨65, [":nA;B~", ";D"]⟩ (wordsOf "LETTER D".toList) = some 68 := by decide

example : codeOf? ⟨1, [":BLACK BOX:WHITE."]⟩ (wordsOf "WHITE BOX".toList) = some 2 := by decide

end NameListing

end FieldSchema.Text
