import FieldSchema.Pattern.Regex

/-!
# Built-in patterns

The patterns that rules and storage checks bring along.

* `emailPattern`, `objectIdPattern`, `passwordPattern`: their texts.
* `Regex.hasMatch`: whether a text has a match of a pattern that is given by its text.
-/

namespace FieldSchema

/-- The pattern of mail addresses. -/
def emailPattern : String := "^[a-zA-Z0-9._%+-]+@[a-zA-Z0-9.-]+\\.[a-zA-Z]\x7b2,\x7d$"

/-- The pattern of object identifiers. -/
def objectIdPattern : String := "^[0-9a-fA-F]\x7b24\x7d$"

/-- The pattern of strong passwords. -/
def passwordPattern : String :=
  "^(?=.*[a-z])(?=.*[A-Z])(?=.*\\d)(?=.*[@$!%*?&#])[A-Za-z\\d@$!%*?&#]\x7b8,\x7d$"

namespace Regex

/-- Whether a text holds a match of a pattern that is given by its text and flags. -/
def hasMatch (source : String) (flags : Flags) (text : String) : Except PatternFailure Bool := do
  (← compile source flags).search text

/-- Whether a text starts with a match of a pattern that is given by its text. -/
def startsWithMatch (source : String) (text : String) : Except PatternFailure Bool := do
  (← compile source .none).matchStart text

end Regex

end FieldSchema
