import FieldSchema.Number.Shortest

/-!
# Numbers

Field bounds and field values are whole numbers of any size or doubles.  The two kinds are
compared by their exact values: no side is rounded to the other's kind first.
-/

namespace FieldSchema

/-- A whole number of any size, or a double. -/
inductive Number where
  | int (n : Int)
  | float (x : Binary64)
  deriving DecidableEq, Repr, Inhabited

namespace Number

/-- The exact order of two numbers, none when a side is not a number. -/
def compare? : Number → Number → Option Ordering
  | .int a, .int b => some (compare a b)
  | .int a, .float y => (y.compareInt? a).map Ordering.swap
  | .float x, .int b => x.compareInt? b
  | .float x, .float y => x.compare? y

/-- Strictly below. -/
def lt (a b : Number) : Bool := a.compare? b == some .lt

/-- Below or equal. -/
def le (a b : Number) : Bool :=
  match a.compare? b with
  | some .gt => false
  | some _ => true
  | none => false

/-- Equal in value, whatever the kinds. -/
def valueEq (a b : Number) : Bool := a.compare? b == some .eq

/-- Whether the value is zero. -/
def isZero : Number → Bool
  | .int n => n == 0
  | .float x => x.isZero

/-- The double nearest to a number, none when a whole number lies outside their range. -/
def toBinary64? : Number → Option Binary64
  | .int n =>
    let x := Binary64.ofInt n
    if x.isInfinite then none else some x
  | .float x => some x

/-- The text of a number: all digits of a whole number, the shortest text of a double. -/
def toText : Number → String
  | .int n => toString n
  | .float x => x.toText

end Number

end FieldSchema
