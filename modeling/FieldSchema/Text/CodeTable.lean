/-!
# Tables over code points

Character properties are read from sorted tables of closed ranges, and case maps from runs of
code points that all move by the same distance.  Both kinds of table are plain data, so that a
property of characters can be evaluated on any code point, surrogates included.

* `RangeTable.contains`: membership in a union of closed ranges.
* `ShiftTable.apply`: the image of a code point under a case map, itself where no run applies.
* `ShiftTable.meets`: whether a case map moves some code point of a range.
-/

namespace FieldSchema.Text

/-- Closed ranges of code points, in increasing order. -/
abbrev RangeTable := Array (Nat × Nat)

/-- Whether a code point lies in one of the ranges. -/
def RangeTable.contains (table : RangeTable) (code : Nat) : Bool :=
  table.any fun range => range.1 ≤ code && code ≤ range.2

/-- Every `step`-th code point from `first` to `last` moves by `shift`. -/
structure ShiftRun where
  first : Nat
  last : Nat
  step : Nat
  shift : Int
  deriving Repr

/-- Whether a run moves a code point. -/
def ShiftRun.covers (run : ShiftRun) (code : Nat) : Bool :=
  run.first ≤ code && code ≤ run.last && (code - run.first) % run.step == 0

/-- Whether a run moves some code point of a closed range. -/
def ShiftRun.meets (run : ShiftRun) (first last : Nat) : Bool :=
  let low := max run.first first
  let covered := low + (run.step - (low - run.first) % run.step) % run.step
  covered ≤ min run.last last

/-- A case map as runs of equal shifts. -/
abbrev ShiftTable := Array ShiftRun

/-- The image of a code point; one that no run covers stays where it is. -/
def ShiftTable.apply (table : ShiftTable) (code : Nat) : Nat :=
  match table.find? (·.covers code) with
  | some run => (code + run.shift).toNat
  | none => code

/-- Whether a case map moves some code point of a closed range. -/
def ShiftTable.meets (table : ShiftTable) (first last : Nat) : Bool :=
  table.any (·.meets first last)

end FieldSchema.Text
