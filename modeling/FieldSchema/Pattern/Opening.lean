import FieldSchema.Pattern.CharTest

/-!
# How a pattern begins

What can be said about a match from the next character alone.  A pattern that begins with a
character or a set, and whose test does not depend on case, is skipped without a try where the
next character fails that test.

* `isCased`: whether a character has another case.
* `unitTest?`: the test of a pattern that stands for one character.
* `opening?`, `openingLiteral?`: the part that a pattern begins with, and the single character
  that has to come next.
* `opensUnmet`: whether a pattern is skipped at a text.
-/

namespace FieldSchema.Pattern

/-- Whether some character of a closed range has another case, in ASCII or anywhere. -/
def meetsCased (flags : Flags) (first last : Nat) : Bool :=
  let meets (low high : Nat) : Bool := max first low ≤ min last high
  meets 0x41 0x5A || meets 0x61 0x7A ||
    (!flags.ascii && (Text.lowerTable.meets first last || Text.upperTable.meets first last))

/-- Whether a character has another case. -/
def isCased (flags : Flags) (code : Nat) : Bool := meetsCased flags code code

/-- Whether case plays a part in a member of a set.  Members beyond the basic plane are never told
apart from cased ones. -/
def SetMember.isCased (flags : Flags) : SetMember → Bool
  | .category _ => false
  | .single code => code > basicLimit || Pattern.isCased flags code
  | .range first last => last > basicLimit || meetsCased flags first last

/-- Whether case plays a part in a set. -/
def setIsCased (flags : Flags) (members : List SetMember) : Bool :=
  flags.ignoreCase && members.any (SetMember.isCased flags)

/-- Whether a character is compared as it stands. -/
def isExact (flags : Flags) (code : Nat) : Bool := !flags.ignoreCase || !isCased flags code

/-- The test of a pattern that stands for one character. -/
def unitTest? (flags : Flags) : Pattern → Option (Nat → Bool)
  | .literal code => some (literalMatches flags code)
  | .notLiteral code => some fun c => !literalMatches flags code c
  | .any => some (anyMatches flags)
  | .set negated members => some (setMatches flags negated members)
  | .flagged added removed body => unitTest? (flags.within added removed) body
  | _ => none

/-- Whether a pattern for one character is counted by trying it: a set in which case plays a part,
and a character with several lower cases. -/
def isTriedUnit (flags : Flags) : Pattern → Bool
  | .literal code => hasSeveralLowers code
  | .notLiteral code => hasSeveralLowers code
  | .set _ members => setIsCased flags members
  | .flagged added removed body => isTriedUnit (flags.within added removed) body
  | _ => false
where
  /-- Whether a character has lower cases that are told apart from its own. -/
  hasSeveralLowers (code : Nat) : Bool :=
    flags.ignoreCase && !flags.ascii && !(sharedUpper (Text.toLower code)).isEmpty

/-- The part that a pattern begins with, with the flags in force there; a pattern that matches
nothing is passed over. -/
def opening? (flags : Flags) : Pattern → Option (Flags × Pattern)
  | .empty => none
  | .cat first second => (opening? flags first).or (opening? flags second)
  | .flagged added removed body => opening? (flags.within added removed) body
  | p => some (flags, p)

/-- The character that has to come next where a pattern and then `next` are matched, if there is
one and it is compared as it stands. -/
def openingLiteral? (flags : Flags) (next : Option Nat) (p : Pattern) : Option Nat :=
  match p.opening? flags with
  | some (inner, .literal code) => if isExact inner code then some code else none
  | some _ => none
  | none => next

/-- Whether the text after a place cannot be what a pattern begins with.  Only a character or a
set that does not depend on case is looked at. -/
def opensUnmet (flags : Flags) (p : Pattern) (after : List Char) : Bool :=
  let unmet (test : Nat → Bool) : Bool :=
    match after with
    | c :: _ => !test c.toNat
    | [] => true
  match p.opening? flags with
  | some (inner, .literal code) => isExact inner code && unmet (· == code)
  | some (inner, .set negated members) =>
    !setIsCased inner members && unmet (setMatches inner negated members)
  | _ => false

end FieldSchema.Pattern
