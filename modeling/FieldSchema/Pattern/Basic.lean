import FieldSchema.Pattern.Flags

/-!
# Patterns

The tree of a pattern as its text states it, before any flag is applied: single characters and
sets, positions, sequences and alternatives, groups, repetitions, references to groups, and
conditions on what stands before or after.

Every pattern has a width, the least and the largest number of characters that it can match.  A
condition on what stands before needs one fixed width, because the matcher has to know where to
start; that width is part of the tree.
-/

namespace FieldSchema

/-! ## Widths -/

/-- The least and the largest number of characters. -/
structure Width where
  least : Nat
  most : Nat
  deriving DecidableEq, Repr, Inhabited

namespace Width

/-- Widths are not told apart above this number. -/
def limit : Nat := 0x10000000000000000

/-- Both bounds, cut off at the limit. -/
def clamp (w : Width) : Width := ⟨min w.least limit, min w.most limit⟩

/-- The width of nothing. -/
def zero : Width := ⟨0, 0⟩

/-- The width of one character. -/
def one : Width := ⟨1, 1⟩

/-- The width of one part after another. -/
def add (a b : Width) : Width := ⟨a.least + b.least, a.most + b.most⟩

/-- The width of one of two parts. -/
def either (a b : Width) : Width := ⟨min a.least b.least, max a.most b.most⟩

/-- The width of a repetition; without an upper bound a part of positive width has no bound. -/
def repeated (least : Nat) (most : Option Nat) (w : Width) : Width :=
  ⟨w.least * least,
    match most with
    | some m => w.most * m
    | none => if w.most == 0 then 0 else limit⟩

/-- Whether all matches have the same number of characters. -/
def isFixed (w : Width) : Bool := w.least == w.most

end Width

/-! ## Parts -/

/-- The character classes that a letter after a backslash names. -/
inductive Category where
  | digit | notDigit | space | notSpace | word | notWord
  deriving DecidableEq, Repr

/-- A member of a character set; characters are given by their codes, surrogates included. -/
inductive SetMember where
  | single (code : Nat)
  | range (first last : Nat)
  | category (c : Category)
  deriving DecidableEq, Repr

/-- A position that matches no character. -/
inductive Anchor where
  /-- `^` -/
  | start
  /-- `$` -/
  | stop
  /-- `\A` -/
  | textStart
  /-- `\Z` -/
  | textStop
  /-- `\b` -/
  | wordBoundary
  /-- `\B` -/
  | notWordBoundary
  deriving DecidableEq, Repr

/-- How a repetition chooses the number of its rounds. -/
inductive RepeatMode where
  /-- As many as possible, fewer if the rest then fails. -/
  | greedy
  /-- As few as possible, more if the rest then fails. -/
  | lazy
  /-- As many as possible, and nothing is given back. -/
  | possessive
  deriving DecidableEq, Repr

/-! ## The tree -/

/-- A pattern. -/
inductive Pattern where
  | empty
  | literal (code : Nat)
  | notLiteral (code : Nat)
  | any
  | set (negated : Bool) (members : List SetMember)
  | anchor (a : Anchor)
  /-- The text that a group has matched. -/
  | reference (group : Nat)
  | cat (first second : Pattern)
  | alt (first second : Pattern)
  | capture (group : Nat) (body : Pattern)
  /-- A part with flags of its own. -/
  | flagged (added removed : Flags) (body : Pattern)
  /-- A part of which only the first match counts. -/
  | atomic (body : Pattern)
  | repeated (mode : RepeatMode) (least : Nat) (most : Option Nat) (body : Pattern)
  /-- What stands after must match, or must not. -/
  | ahead (negated : Bool) (body : Pattern)
  /-- What stands before must match, or must not. -/
  | behind (negated : Bool) (width : Width) (body : Pattern)
  /-- One of two parts, by whether a group has matched. -/
  | conditional (group : Nat) (yes no : Pattern)
  deriving DecidableEq, Repr, Inhabited

namespace Pattern

/-- A sequence of patterns as one. -/
def ofItems : List Pattern → Pattern
  | [] => .empty
  | [p] => p
  | p :: rest => .cat p (ofItems rest)

/-- A choice. -/
def isAlt : Pattern → Bool
  | .alt _ _ => true
  | _ => false

/-- Alternatives as one pattern; the first that leads to a match is taken.  The second part of a
choice holds the alternatives that are left, so a choice that is itself the last alternative is
set off by an empty part. -/
def ofAlternatives : List Pattern → Pattern
  | [] => .empty
  | [p] => if p.isAlt then .cat .empty p else p
  | p :: rest => .alt p (ofAlternatives rest)

/-- The width of a pattern, given the widths of the groups before it. -/
def width (groups : Nat → Width) : Pattern → Width
  | .empty => .zero
  | .literal _ => .one
  | .notLiteral _ => .one
  | .any => .one
  | .set _ _ => .one
  | .anchor _ => .zero
  | .reference group => groups group
  | .cat p q => (p.width groups).add (q.width groups)
  | .alt p q => (p.width groups).either (q.width groups)
  | .capture _ p => (p.width groups).clamp
  | .flagged _ _ p => (p.width groups).clamp
  | .atomic p => (p.width groups).clamp
  | .repeated _ least most p => ((p.width groups).clamp).repeated least most
  | .ahead _ _ => .zero
  | .behind _ _ _ => .zero
  | .conditional _ yes no => ((yes.width groups).clamp).either ((no.width groups).clamp)

/-- A pattern that matches a position rather than characters. -/
def isAnchor : Pattern → Bool
  | .anchor _ => true
  | _ => false

/-- A repetition. -/
def isRepeated : Pattern → Bool
  | .repeated _ _ _ _ => true
  | _ => false

/-- A pattern without parts, of which two equal ones match the same at every place. -/
def isAtom : Pattern → Bool
  | .literal _ => true
  | .notLiteral _ => true
  | .any => true
  | .set _ _ => true
  | .anchor _ => true
  | .reference _ => true
  | _ => false

/-- The members of a character or a set that is not negated. -/
def setMembers? : Pattern → Option (List SetMember)
  | .literal code => some [.single code]
  | .set false members => some members
  | _ => none

end Pattern

end FieldSchema
