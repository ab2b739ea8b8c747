import FieldSchema.Text.Quoted

/-!
# Raised failures

Functions, conversions and libraries fail with the name of the kind of failure and a text.

A failure is shown by its text.  Some cannot be shown, as putting them into words or writing these
words down fails in turn, and some are not caught where others are, because they ask the whole
program to stop.

* `Raised`: a failure.
* `Raised.displayed`: how a failure shows in a diagnostic.
* `Raised.caught`: the words that are left of a failure that is caught.
-/

namespace FieldSchema

/-- A failure that a function raised, by the name of its kind. -/
structure Raised where
  kind : String
  text : String := ""
  /-- The kind of failure that comes of showing this one, if it cannot be shown. -/
  unshown? : Option String := none
  deriving DecidableEq, Repr, Inhabited

namespace Raised

/-- Something is of a kind that does not fit. -/
def wrongType : Raised := { kind := "TypeError" }

/-- A part was asked for that a value does not have. -/
def noSuchPart : Raised := { kind := "AttributeError" }

/-- Something is of a kind that fits and still not usable, in words. -/
def badValue (text : String) : Raised := { kind := "ValueError", text }

/-- A number lies outside of what can be represented. -/
def outOfRange : Raised := { kind := "OverflowError" }

/-- Digits that form no object identifier. -/
def badIdentifier : Raised := { kind := "InvalidId" }

/-- A description that never comes to an end, because it is a part of itself. -/
def endless : Raised := { kind := "RecursionError" }

/-- How a failure shows in a diagnostic: a missing key is shown written. -/
def displayed (r : Raised) : String :=
  if r.kind == "KeyError" then Text.quote r.text else r.text

/-- Whether a failure asks the whole program to stop. -/
def stopsAll (r : Raised) : Bool :=
  r.kind ∈ ["BaseException", "CancelledError", "GeneratorExit", "KeyboardInterrupt", "SystemExit"]

/-- How a failure shows, or the failure that comes of showing it. -/
def shown (r : Raised) : Except Raised String :=
  match r.unshown? with
  | some kind => .error { kind }
  | none => .ok r.displayed

/-- The words of a failure that is caught, or what is raised instead. -/
def caught (r : Raised) : Except Raised String :=
  if r.stopsAll then .error r else r.shown

/-- A failure that is caught, with words left of it. -/
def IsCaught (r : Raised) : Prop := ∃ words, r.caught = .ok words

/-- A failure is caught when it can be shown and does not ask the whole program to stop. -/
theorem isCaught_iff {r : Raised} : r.IsCaught ↔ r.stopsAll = false ∧ r.unshown? = none := by
  rw [IsCaught, caught, shown]
  cases r.stopsAll <;> cases r.unshown? <;> simp

end Raised

end FieldSchema
