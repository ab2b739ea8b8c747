/-!
# Places, trails and attempts

A pattern is matched by trying.  What a try has done to the state of the matcher stays visible to
the tries after it, also when it fails: the marks of the groups are taken back only as far as a
choice has saved them, and the cursor stays wherever the try has put it last.

* `Place`: a place in a text.
* `Trail`: the cursor and the marks, with `Trail.moveTo`, `Trail.mark` and `Trail.restore`.
* `Attempt`: how a try has ended, with the trail that it leaves in either case.
-/

namespace FieldSchema

/-! ## Places -/

/-- A place in a text. -/
structure Place where
  /-- The text before the place, read backwards. -/
  before : List Char
  /-- The text after the place. -/
  after : List Char
  deriving DecidableEq, Repr

namespace Place

/-- The start of a text. -/
def start (chars : List Char) : Place := ⟨[], chars⟩

/-- The next character, with the place after it. -/
def next? (p : Place) : Option (Char × Place) :=
  match p.after with
  | [] => none
  | c :: rest => some (c, ⟨c :: p.before, rest⟩)

/-- The place a number of characters on, at most at the end of the text. -/
def forward (count : Nat) (p : Place) : Place :=
  ⟨(p.after.take count).reverse ++ p.before, p.after.drop count⟩

/-- The place a number of characters back, none if the text starts later. -/
def back? (count : Nat) (p : Place) : Option Place :=
  if count ≤ p.before.length then
    some ⟨p.before.drop count, (p.before.take count).reverse ++ p.after⟩
  else none

/-- Whether two places of one text are the same. -/
def isAt (p q : Place) : Bool := p.after.length == q.after.length

/-- The text between a place and another of the same text, none if the other lies before it. -/
def textTo? (p q : Place) : Option (List Char) :=
  if q.after.length ≤ p.after.length then
    some (p.after.take (p.after.length - q.after.length))
  else none

end Place

/-! ## Trails -/

/-- What the tries so far have left behind. -/
structure Trail where
  /-- The place that was noted last. -/
  cursor : Place
  /-- Where the groups start and end, in this order for every group; a mark may be missing. -/
  marks : List (Option Place)
  deriving DecidableEq, Repr

namespace Trail

/-- Nothing has been tried. -/
def start (p : Place) : Trail := ⟨p, []⟩

/-- The trail with the cursor elsewhere. -/
def moveTo (p : Place) (t : Trail) : Trail := { t with cursor := p }

/-- The trail with a mark set; marks that are passed over are missing. -/
def mark (index : Nat) (p : Place) (t : Trail) : Trail :=
  { t with
    marks := (t.marks ++ List.replicate (index + 1 - t.marks.length) none).set index (some p) }

/-- The trail with its marks taken back to saved ones: all of them inside a loop, and elsewhere
only those that were added. -/
def restore (looped : Bool) (saved : List (Option Place)) (t : Trail) : Trail :=
  { t with marks := if looped then saved else t.marks.take saved.length }

/-- The places of the two marks of a group, if both are set. -/
def group? (group : Nat) (t : Trail) : Option (Place × Place) := do
  let opened ← (t.marks[2 * group - 2]?).join
  let closed ← (t.marks[2 * group - 1]?).join
  pure (opened, closed)

/-- The text of a group, if its marks are set and in order. -/
def groupText? (group : Nat) (t : Trail) : Option (List Char) := do
  let (opened, closed) ← t.group? group
  opened.textTo? closed

/-- Whether some of the given number of groups has its end before its start. -/
def hasReversedGroup (groups : Nat) (t : Trail) : Bool :=
  (List.range groups).any fun i =>
    match t.group? (i + 1) with
    | some (opened, closed) => (opened.textTo? closed).isNone
    | none => false

end Trail

/-! ## Attempts -/

/-- How a try has ended. -/
inductive Attempt where
  | found (t : Trail)
  | failed (t : Trail)
  deriving DecidableEq, Repr

namespace Attempt

/-- Goes on after a failure from the trail that it has left. -/
def orElse (a : Attempt) (next : Trail → Attempt) : Attempt :=
  match a with
  | .found t => .found t
  | .failed t => next t

/-- A failure with its trail changed. -/
def onFailure (change : Trail → Trail) (a : Attempt) : Attempt :=
  match a with
  | .found t => .found t
  | .failed t => .failed (change t)

end Attempt

/-- How matching goes on from a place and a trail. -/
abbrev Continuation := Place → Trail → Attempt

/-- What is matched from a place and a trail on before a continuation. -/
abbrev Matching := Place → Trail → Continuation → Attempt

namespace Continuation

/-- Nothing is left to match: the cursor notes where that was. -/
def accept : Continuation := fun p t => .found (t.moveTo p)

end Continuation

end FieldSchema
