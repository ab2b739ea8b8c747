import FieldSchema.Pattern.Basic
import FieldSchema.Text.Casing

/-!
# Matching one character

Whether a character satisfies a part of a pattern that stands for one character, under the flags
in force.

When case is ignored, a character matches by its variants: the characters with the same lower
case, and those whose lower case differs but whose upper case is the same.  Under the ASCII flag
only the letters `a` to `z` have variants.

* `caseVariants`: the characters that differ from a given one only in case.
* `literalMatches`, `setMatches`, `anyMatches`: the tests for the three kinds of parts.
-/

namespace FieldSchema.Pattern

/-! ## Case variants -/

/-- Lowercase characters that share their upper case with other lowercase characters. -/
def sharedUpperTable : Array (Nat × List Nat) := #[
  (0x69, [0x131]), (0x73, [0x17F]), (0xB5, [0x3BC]), (0x131, [0x69]), (0x17F, [0x73]),
   (0x345, [0x3B9, 0x1FBE]), (0x390, [0x1FD3]), (0x3B0, [0x1FE3]), (0x3B2, [0x3D0]),
   (0x3B5, [0x3F5]), (0x3B8, [0x3D1]), (0x3B9, [0x345, 0x1FBE]), (0x3BA, [0x3F0]),
   (0x3BC, [0xB5]), (0x3C0, [0x3D6]), (0x3C1, [0x3F1]), (0x3C2, [0x3C3]), (0x3C3, [0x3C2]),
   (0x3C6, [0x3D5]), (0x3D0, [0x3B2]), (0x3D1, [0x3B8]), (0x3D5, [0x3C6]), (0x3D6, [0x3C0]),
   (0x3F0, [0x3BA]), (0x3F1, [0x3C1]), (0x3F5, [0x3B5]), (0x432, [0x1C80]), (0x434, [0x1C81]),
   (0x43E, [0x1C82]), (0x441, [0x1C83]), (0x442, [0x1C84, 0x1C85]), (0x44A, [0x1C86]),
   (0x463, [0x1C87]), (0x1C80, [0x432]), (0x1C81, [0x434]), (0x1C82, [0x43E]), (0x1C83, [0x441]),
   (0x1C84, [0x442, 0x1C85]), (0x1C85, [0x442, 0x1C84]), (0x1C86, [0x44A]), (0x1C87, [0x463]),
   (0x1C88, [0xA64B]), (0x1E61, [0x1E9B]), (0x1E9B, [0x1E61]), (0x1FBE, [0x345, 0x3B9]),
   (0x1FD3, [0x390]), (0x1FE3, [0x3B0]), (0xA64B, [0x1C88]), (0xFB05, [0xFB06]),
   (0xFB06, [0xFB05])]

/-- The other lowercase characters with the same upper case. -/
def sharedUpper (code : Nat) : List Nat :=
  match sharedUpperTable.find? (·.1 == code) with
  | some entry => entry.2
  | none => []

/-- The characters whose lower case is a given code. -/
def lowerPreimages (code : Nat) : List Nat :=
  (if Text.toLower code == code then [code] else []) ++
    (if Text.isAsciiLower code then [code - 32] else []) ++
    Text.lowerTable.toList.filterMap fun run =>
      let source := (Int.ofNat code - run.shift).toNat
      if run.covers source && Text.toLower source == code then some source else none

/-- The lower case that counts when case is ignored. -/
def foldCase (flags : Flags) (code : Nat) : Nat :=
  if flags.ascii then (if Text.isAsciiUpper code then code + 32 else code) else Text.toLower code

/-- The characters that differ from a given one only in case, itself included. -/
def caseVariants (flags : Flags) (code : Nat) : List Nat :=
  let lower := foldCase flags code
  if flags.ascii then
    if Text.isAsciiLower lower then [lower, lower - 32] else [code]
  else (lower :: sharedUpper lower).flatMap lowerPreimages

/-! ## Classes -/

/-- A decimal digit, in ASCII or in any script. -/
def isDigitFor (flags : Flags) (code : Nat) : Bool :=
  if flags.ascii then Text.isAsciiDigit code else Text.isDecimalDigit code

/-- A blank, in ASCII or anywhere. -/
def isSpaceFor (flags : Flags) (code : Nat) : Bool :=
  if flags.ascii then Text.isAsciiBlank code else Text.isBlank code

/-- A word character, in ASCII or in any script. -/
def isWordFor (flags : Flags) (code : Nat) : Bool :=
  if flags.ascii then Text.isAsciiLetter code || Text.isAsciiDigit code || code == 0x5F
  else Text.isWordChar code

/-- Whether a character belongs to a class. -/
def categoryMatches (flags : Flags) (c : Category) (code : Nat) : Bool :=
  match c with
  | .digit => isDigitFor flags code
  | .notDigit => !isDigitFor flags code
  | .space => isSpaceFor flags code
  | .notSpace => !isSpaceFor flags code
  | .word => isWordFor flags code
  | .notWord => !isWordFor flags code

/-! ## Tests -/

/-- Whether a character matches a single character of the pattern. -/
def literalMatches (flags : Flags) (code : Nat) (c : Nat) : Bool :=
  if flags.ignoreCase then (caseVariants flags c).contains code else c == code

/-- Whether a code lies in a closed range. -/
def inRange (first last code : Nat) : Bool := first ≤ code && code ≤ last

/-- The largest code that takes part in case tables of sets. -/
def basicLimit : Nat := 0xFFFF

/-- Whether a character matches a member of a set.  When case is ignored, a member beyond the
basic plane is compared with the lower case of the character, a range that reaches beyond it also
with the upper case of that. -/
def memberMatches (flags : Flags) (c : Nat) : SetMember → Bool
  | .category category => categoryMatches flags category c
  | .single code =>
    if !flags.ignoreCase then c == code
    else if code > basicLimit then foldCase flags c == code
    else (caseVariants flags c).contains code
  | .range first last =>
    if !flags.ignoreCase then inRange first last c
    else
      (caseVariants flags c).any (fun v => inRange first (min last basicLimit) v) ||
        (last > basicLimit &&
          (inRange first last (foldCase flags c) ||
            inRange first last (Text.toUpper (foldCase flags c))))

/-- Whether a character matches a set. -/
def setMatches (flags : Flags) (negated : Bool) (members : List SetMember) (c : Nat) : Bool :=
  members.any (memberMatches flags c) != negated

/-- Whether a character matches the dot: a line break only under its flag. -/
def anyMatches (flags : Flags) (c : Nat) : Bool := flags.dotAll || c != 0x0A

end FieldSchema.Pattern
