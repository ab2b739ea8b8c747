import FieldSchema.Value.Display

/-!
# Paths

A path leads from a value to a part of it, by names of fields and indexes of items.

* `PathSegment`: one step.
* `Path.dotted`: a path in words.
* `Path.leafName`: the innermost name on a path.
-/

namespace FieldSchema

/-- One step into a value. -/
inductive PathSegment where
  | field (name : String)
  | index (n : Int)
  /-- A step by anything else. -/
  | other (key : Value)
  deriving Inhabited

/-- The steps from a value to a part of it. -/
abbrev Path := List PathSegment

namespace PathSegment

/-- The step that a value stands for. -/
def ofValue : Value → PathSegment
  | .text name => .field name
  | .int n => .index n
  | key => .other key

/-- A step as a value. -/
def toValue : PathSegment → Value
  | .field name => .text name
  | .index n => .int n
  | .other key => key

/-- A step in words. -/
def displayed : PathSegment → String
  | .field name => name
  | .index n => toString n
  | .other key => key.displayed

/-- The name of a step as it is shown, when it is one by name. -/
def name? : PathSegment → Option String
  | .field name => some name
  | .other key => key.asTextValue?.map TextValue.displayed
  | .index _ => none

/-- The text of a step, when it is one by name. -/
def text? : PathSegment → Option String
  | .field name => some name
  | .other key => key.asText?
  | .index _ => none

/-- Whether a step can be looked up among the keys of a mapping. -/
def isHashable : PathSegment → Bool
  | .other key => key.isHashable
  | _ => true

/-- Whether a step goes to an item of an array; truth values count as numbers. -/
def isIndex : PathSegment → Bool
  | .index _ => true
  | .other (.bool _) => true
  | _ => false

@[simp] theorem toValue_ofValue (v : Value) : (ofValue v).toValue = v := by
  cases v <;> rfl

end PathSegment

namespace Path

/-- What stands for a name that is not known. -/
def unknown : String := "unknown"

/-- A path in words: its steps with dots between them. -/
def dotted (path : Path) : String :=
  if path.isEmpty then unknown else ".".intercalate (path.map PathSegment.displayed)

/-- The innermost name on a path. -/
def leafName (path : Path) : String := (path.reverse.findSome? PathSegment.name?).getD unknown

/-- A path as a list of values. -/
def toValue (path : Path) : Value := .list (path.map PathSegment.toValue)

end Path

end FieldSchema
