/-!
# Pattern flags

Flags change how a pattern is read and matched.  They are given beside the pattern, set for the
whole pattern by a group of letters at its start, or switched on and off for a part of it.

* `Flags.toNat`, `Flags.ofInt`: flags as one number, each flag a power of two.
* `Flags.union`, `Flags.within`: the flags in force inside a group that sets some.
* `Flags.letters`: the letters of the flags that a pattern can state itself.
-/

namespace FieldSchema

/-- The flags of a pattern. -/
structure Flags where
  /-- Letters match whatever their case. -/
  ignoreCase : Bool := false
  /-- `^` and `$` match at line breaks too. -/
  multiline : Bool := false
  /-- `.` matches a line break too. -/
  dotAll : Bool := false
  /-- Blanks and comments in the pattern are skipped. -/
  verbose : Bool := false
  /-- Classes and case know ASCII only. -/
  ascii : Bool := false
  /-- Classes and case know all characters; this is so unless `ascii` is set. -/
  unicode : Bool := false
  /-- The pattern may not repeat anything. -/
  template : Bool := false
  /-- Classes and case follow the surroundings of the program; texts cannot be matched so. -/
  locale : Bool := false
  deriving DecidableEq, Repr, Inhabited

namespace Flags

/-- No flag. -/
def none : Flags := {}

/-- The number of a flag that may be set. -/
def bit (value : Nat) (isSet : Bool) : Nat := if isSet then value else 0

/-- The flags as one number. -/
def toNat (f : Flags) : Nat :=
  bit 1 f.template + bit 2 f.ignoreCase + bit 4 f.locale + bit 8 f.multiline + bit 16 f.dotAll +
    bit 32 f.unicode + bit 64 f.verbose + bit 256 f.ascii

/-- The flags that a number states; other bits are dropped. -/
def ofNat (n : Nat) : Flags where
  template := n.testBit 0
  ignoreCase := n.testBit 1
  locale := n.testBit 2
  multiline := n.testBit 3
  dotAll := n.testBit 4
  unicode := n.testBit 5
  verbose := n.testBit 6
  ascii := n.testBit 8

/-- The flags that an integer states; below zero its bits are those of the two's complement. -/
def ofInt (n : Int) : Flags := ofNat (n % 512).toNat

/-- All flags of either side. -/
def union (a b : Flags) : Flags where
  ignoreCase := a.ignoreCase || b.ignoreCase
  multiline := a.multiline || b.multiline
  dotAll := a.dotAll || b.dotAll
  verbose := a.verbose || b.verbose
  ascii := a.ascii || b.ascii
  unicode := a.unicode || b.unicode
  template := a.template || b.template
  locale := a.locale || b.locale

/-- Whether a flag is set on both sides. -/
def overlaps (a b : Flags) : Bool :=
  (a.ignoreCase && b.ignoreCase) || (a.multiline && b.multiline) || (a.dotAll && b.dotAll) ||
    (a.verbose && b.verbose) || (a.ascii && b.ascii) || (a.unicode && b.unicode) ||
    (a.template && b.template)

/-- The flags inside a group that switches some on and others off.  A group that names the
character set replaces the set in force. -/
def within (f added removed : Flags) : Flags where
  ignoreCase := (f.ignoreCase || added.ignoreCase) && !removed.ignoreCase
  multiline := (f.multiline || added.multiline) && !removed.multiline
  dotAll := (f.dotAll || added.dotAll) && !removed.dotAll
  verbose := (f.verbose || added.verbose) && !removed.verbose
  ascii := if added.ascii || added.unicode then added.ascii else f.ascii
  unicode := if added.ascii || added.unicode then added.unicode else f.unicode
  template := f.template
  locale := f.locale

/-- The flags without the mark of the full character set, which every text pattern carries. -/
def withoutUnicode (f : Flags) : Flags := { f with unicode := false }

/-- The letters of the flags for case, lines, dots and layout, in that order. -/
def letters (f : Flags) : List Char :=
  (if f.ignoreCase then ['i'] else []) ++ (if f.multiline then ['m'] else []) ++
    (if f.dotAll then ['s'] else []) ++ (if f.verbose then ['x'] else [])

/-- The flag of a letter that a pattern may use. -/
def ofLetter? (c : Char) : Option Flags :=
  if c == 'i' then some { ignoreCase := true }
  else if c == 'm' then some { multiline := true }
  else if c == 's' then some { dotAll := true }
  else if c == 'x' then some { verbose := true }
  else if c == 'a' then some { ascii := true }
  else if c == 't' then some { template := true }
  else if c == 'u' then some { unicode := true }
  else Option.none

/-- The flags of letters; other letters are passed over. -/
def ofLetters (letters : String) : Flags :=
  letters.toList.foldl (fun flags c => flags.union ((ofLetter? c).getD none)) none

/-- The letters of the flags that may be given beside a pattern. -/
def text (f : Flags) : String := String.ofList ((if f.ascii then ['a'] else []) ++ f.letters)

end Flags

end FieldSchema
