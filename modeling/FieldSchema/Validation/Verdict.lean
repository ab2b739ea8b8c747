import FieldSchema.Validation.Issue
import FieldSchema.Value.Call

/-!
# Verdicts

A check of a value ends in a verdict: the accepted value, or findings.  Verdicts on the parts of
a value are put together so that no finding is lost.  A check may also stop without a verdict: a
function that makes a default may raise a failure, and a refinement may have no answer.

* `Verdict.both`: two verdicts in one, with the findings of both.
* `Checking`: a check that may call functions and may stop.
* `Checking.each`: one check for every item of a list.
-/

namespace FieldSchema

/-! ## Verdicts -/

/-- The end of a check: an accepted value, or what is wrong. -/
inductive Verdict (α : Type) where
  | accepted (a : α)
  | rejected (findings : List Finding)
  deriving Inhabited

namespace Verdict

variable {α β γ : Type}

/-- The findings of a verdict. -/
def findings : Verdict α → List Finding
  | .accepted _ => []
  | .rejected list => list

/-- The accepted value of a verdict. -/
def value? : Verdict α → Option α
  | .accepted a => some a
  | .rejected _ => none

/-- The verdict with the accepted value changed. -/
def map (f : α → β) : Verdict α → Verdict β
  | .accepted a => .accepted (f a)
  | .rejected list => .rejected list

/-- Two verdicts in one: accepted when both are, with the findings of both otherwise. -/
def both (f : α → β → γ) : Verdict α → Verdict β → Verdict γ
  | .accepted a, .accepted b => .accepted (f a b)
  | .accepted _, .rejected more => .rejected more
  | .rejected list, .accepted _ => .rejected list
  | .rejected list, .rejected more => .rejected (list ++ more)

/-- The verdict with a step in front of the path of every finding. -/
def under (segment : PathSegment) : Verdict α → Verdict α
  | .accepted a => .accepted a
  | .rejected list => .rejected (list.map (Finding.under segment))

/-- The verdict with findings after its own. -/
def withFindings (more : List Finding) (verdict : Verdict α) : Verdict α :=
  match more with
  | [] => verdict
  | more => .rejected (verdict.findings ++ more)

@[simp] theorem findings_both (f : α → β → γ) (a : Verdict α) (b : Verdict β) :
    (both f a b).findings = a.findings ++ b.findings := by
  cases a <;> cases b <;> simp [both, findings]

@[simp] theorem findings_map (f : α → β) (a : Verdict α) :
    (a.map f).findings = a.findings := by
  cases a <;> rfl

@[simp] theorem findings_under (segment : PathSegment) (a : Verdict α) :
    (a.under segment).findings = a.findings.map (Finding.under segment) := by
  cases a <;> rfl

@[simp] theorem findings_withFindings (more : List Finding) (a : Verdict α) :
    (a.withFindings more).findings = a.findings ++ more := by
  cases more <;> simp [withFindings, findings]

end Verdict

/-! ## Checks -/

/-- A check, on the history of calls so far. -/
abbrev Checking (α : Type) := CallHistory → Except Raised α × CallHistory

namespace Checking

variable {α β : Type}

/-- Ends a check. -/
def value (a : α) : Checking α := fun history => (.ok a, history)

/-- Ends a check that calls nothing. -/
def ofExcept (result : Except Raised α) : Checking α := fun history => (result, history)

/-- Goes on after a check. -/
def andThen (first : Checking α) (next : α → Checking β) : Checking β := fun history =>
  match first history with
  | (.ok a, history) => next a history
  | (.error stop, history) => (.error stop, history)

/-- One check for every item, with the index of the item in front of its findings. -/
def each (check : Value → Checking (Verdict Value)) :
    Nat → List Value → Checking (Verdict (List Value))
  | _, [] => value (.accepted [])
  | index, v :: rest =>
    andThen (check v) fun first =>
      andThen (each check (index + 1) rest) fun others =>
        value ((first.under (.index index)).both List.cons others)

@[simp] theorem value_andThen (a : α) (next : α → Checking β) :
    (value a).andThen next = next a := rfl

@[simp] theorem ofExcept_ok (a : α) : ofExcept (.ok a) = value a := rfl

end Checking

end FieldSchema
