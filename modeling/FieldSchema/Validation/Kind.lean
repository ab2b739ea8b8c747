import FieldSchema.Calendar.IsoText
import FieldSchema.Validation.Library

/-!
# Kinds of values

The check of the kind of a value comes first.  It may change the value: a day becomes midnight of
that day, a text that states a point in time becomes that point, and tuples and sets become
lists.

* `RuleKind.check`: the check of a kind without regard to parts that have rules of their own.
-/

namespace FieldSchema

namespace Value

/-- The point in time that a text states; the letter Z stands for universal time. -/
def dateTimeOfText? (text : String) : Option DateTime :=
  DateTime.read? (Text.replaceAll "Z" "+00:00" text)

end Value

namespace RuleKind

/-- Points in time. -/
def checkDate (v : Value) : Verdict Value :=
  match v with
  | .dateTime t => .accepted (.dateTime t)
  | .date d => .accepted (.dateTime ⟨d, ⟨0, 0, 0, 0, none⟩⟩)
  | v =>
    match v.asText? with
    | some text =>
      match Value.dateTimeOfText? text with
      | some t => .accepted (.dateTime t)
      | none => .rejected [
          { Finding.wrongType "invalid_date" "Invalid date" v with expected := .text "date" }]
    | none => .rejected [.unexpected ("Expected date, received " ++ v.typeLabel) "date" v]

/-- The check of a kind. -/
def check (kind : RuleKind) (v : Value) : Verdict Value :=
  match kind with
  | .any => .accepted v
  | .string => checkText v
  | .number =>
    match v.asNumber? with
    | some _ => .accepted v
    | none => .rejected [.unexpected "Expected number" "number" v]
  | .boolean =>
    match v with
    | .bool b => .accepted (.bool b)
    | v => .rejected [.wrongType "bool_type" "Input should be a valid boolean" v]
  | .date => checkDate v
  | .array =>
    match v.listItems? with
    | some items => .accepted (.list items)
    | none => .rejected [.wrongType "list_type" "Input should be a valid list" v]
  | .object => checkMapping .accepted v
  | .map => checkMapping checkText v

end RuleKind

end FieldSchema
