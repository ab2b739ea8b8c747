import FieldSchema.Path
import FieldSchema.Rule.Refinement

/-!
# Rules

A rule says which values a field accepts: values of one kind, with refinements in order, and for
arrays and objects with rules for what they hold.  A rule also says what happens when the field is
left out: it may be optional, or have a default.

* `Rule`: the tree of rules.
* `Rule.refine`, `Rule.markOptional`, `Rule.withDefault`: rules with one fact more.
* `Rule.at?`, `Rule.find`: the rule for a part of a value.
-/

namespace FieldSchema

/-- The kinds of values that rules tell apart. -/
inductive RuleKind where
  | string | number | boolean | date | array | object | any | map
  deriving DecidableEq, Repr, Inhabited

namespace RuleKind

/-- All kinds. -/
def all : List RuleKind := [.string, .number, .boolean, .date, .array, .object, .any, .map]

/-- The name of a kind. -/
def name : RuleKind → String
  | .string => "string"
  | .number => "number"
  | .boolean => "boolean"
  | .date => "date"
  | .array => "array"
  | .object => "object"
  | .any => "any"
  | .map => "map"

/-- The kind with a given name. -/
def ofName? (name : String) : Option RuleKind := all.find? (·.name == name)

theorem ofName?_name (kind : RuleKind) : ofName? kind.name = some kind := by
  cases kind <;> decide

end RuleKind

/-- What a rule says about a value whatever its kind, and about its absence. -/
structure RuleFacts where
  refinements : List Refinement := []
  isOptional : Bool := false
  default? : Option Value := none
  deriving Inhabited

/-- A rule for a value. -/
inductive Rule where
  /-- Values of a kind.  Arrays may hold any items and objects any entries. -/
  | leaf (facts : RuleFacts) (kind : RuleKind)
  /-- Arrays of items that follow a rule. -/
  | array (facts : RuleFacts) (item : Rule)
  /-- Objects with fields that follow rules. -/
  | object (facts : RuleFacts) (fields : List (TextValue × Rule))
  deriving Inhabited

namespace Rule

/-! ## Parts -/

/-- The kind of values that a rule is for. -/
def kind : Rule → RuleKind
  | .leaf _ kind => kind
  | .array _ _ => .array
  | .object _ _ => .object

/-- What a rule says whatever its kind. -/
def facts : Rule → RuleFacts
  | .leaf facts _ => facts
  | .array facts _ => facts
  | .object facts _ => facts

/-- The rule with other facts. -/
def withFacts : Rule → RuleFacts → Rule
  | .leaf _ kind, facts => .leaf facts kind
  | .array _ item, facts => .array facts item
  | .object _ fields, facts => .object facts fields

/-- The rule for the items of an array. -/
def item? : Rule → Option Rule
  | .array _ item => some item
  | _ => none

/-- The rules for the fields of an object. -/
def fields? : Rule → Option (List (TextValue × Rule))
  | .object _ fields => some fields
  | _ => none

/-- The names of the fields of an object. -/
def fieldNames (rule : Rule) : List TextValue := (rule.fields?.getD []).map (·.1)

@[simp] theorem kind_withFacts (rule : Rule) (facts : RuleFacts) :
    (rule.withFacts facts).kind = rule.kind := by
  cases rule <;> rfl

@[simp] theorem facts_withFacts (rule : Rule) (facts : RuleFacts) :
    (rule.withFacts facts).facts = facts := by
  cases rule <;> rfl

@[simp] theorem item?_withFacts (rule : Rule) (facts : RuleFacts) :
    (rule.withFacts facts).item? = rule.item? := by
  cases rule <;> rfl

@[simp] theorem fields?_withFacts (rule : Rule) (facts : RuleFacts) :
    (rule.withFacts facts).fields? = rule.fields? := by
  cases rule <;> rfl

/-! ## Building rules -/

/-- The rule for values of a kind, with refinements. -/
def ofKind (kind : RuleKind) (refinements : List Refinement) : Rule :=
  .leaf { refinements } kind

/-- The rule for arrays whose items follow a rule, or any items. -/
def ofItem : Option Rule → Rule
  | some item => .array {} item
  | none => ofKind .array []

/-- The rule for objects whose fields follow rules. -/
def ofFields (fields : List (TextValue × Rule)) : Rule := .object {} fields

/-- The rule with refinements after those it has. -/
def refine (rule : Rule) (more : List Refinement) : Rule :=
  rule.withFacts { rule.facts with refinements := rule.facts.refinements ++ more }

/-- The rule for a field that may be left out. -/
def markOptional (rule : Rule) : Rule := rule.withFacts { rule.facts with isOptional := true }

/-- The rule for a field with a default. -/
def withDefault (rule : Rule) (value : Value) : Rule :=
  rule.withFacts { rule.facts with default? := some value }

/-- Whether a rule has a refinement of a kind. -/
def hasRefinement (rule : Rule) (kind : RefinementKind) : Bool :=
  rule.facts.refinements.any fun r => r.kind == kind

/-! ## Rules of parts -/

/-- The rule for what one step leads to. -/
def step? (rule : Rule) (segment : PathSegment) : Option Rule :=
  if segment.isIndex then rule.item?
  else
    match segment.text? with
    | some name => TextValue.lookup name (rule.fields?.getD [])
    | none => none

/-- The rule for a part of a value. -/
def at? (rule : Rule) : Path → Option Rule
  | [] => some rule
  | segment :: rest => (rule.step? segment).bind fun part => part.at? rest

/-- The rule for a part of a value; a step that cannot be looked up is refused. -/
def find (rule : Rule) : Path → Except Raised (Option Rule)
  | [] => .ok (some rule)
  | segment :: rest =>
    if segment.isHashable then
      match rule.step? segment with
      | some part => part.find rest
      | none => .ok none
    else .error .wrongType

@[simp] theorem at?_nil (rule : Rule) : rule.at? [] = some rule := rfl

theorem at?_append (rule : Rule) (p q : Path) :
    rule.at? (p ++ q) = (rule.at? p).bind fun part => part.at? q := by
  induction p generalizing rule with
  | nil => rfl
  | cons segment rest ih =>
    simp only [List.cons_append, at?, Option.bind_assoc]
    congr 1
    funext part
    exact ih part

/-- A rule that is found is the one at the path. -/
theorem at?_of_find {rule : Rule} {path : Path} {found : Option Rule}
    (h : rule.find path = .ok found) : rule.at? path = found := by
  induction path generalizing rule with
  | nil => simpa [find] using h
  | cons segment rest ih =>
    rw [find] at h
    split at h
    · rw [at?]
      cases hstep : rule.step? segment with
      | none => simpa [hstep] using h
      | some part => exact ih (by simpa [hstep] using h)
    · cases h

end Rule

end FieldSchema
