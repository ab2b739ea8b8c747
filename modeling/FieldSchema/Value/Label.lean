import FieldSchema.Number.Numeral
import FieldSchema.Value.Display

/-!
# Short names

Types, kinds of functions and patterns by the short names and texts with which they are written
down.

* `TypeName.label`, `TypeName.ofLabel?`: types.
* `FunctionKind.ofName?`: kinds of functions.
* `Value.ofPattern`, `Value.ofBytesPattern`: patterns by their texts, with all flags in force.
-/

namespace FieldSchema

namespace TypeName

/-- All types. -/
def all : List TypeName :=
  [.text, .int, .float, .bool, .dateTime, .date, .list, .dict, .objectId, .any, .object, .mapping,
    .bytes, .set, .tuple, .complex, .time, .null, .listOfText, .typingMapping, .pattern,
    .canonicalType]

/-- The short name of a type. -/
def label : TypeName → String
  | .text => "str"
  | .int => "int"
  | .float => "float"
  | .bool => "bool"
  | .dateTime => "datetime"
  | .date => "date"
  | .list => "list"
  | .dict => "dict"
  | .objectId => "ObjectId"
  | .any => "Any"
  | .object => "object"
  | .mapping => "Mapping"
  | .bytes => "bytes"
  | .set => "set"
  | .tuple => "tuple"
  | .complex => "complex"
  | .time => "time"
  | .null => "NoneType"
  | .listOfText => "list[str]"
  | .typingMapping => "typing.Mapping"
  | .pattern => "re.Pattern"
  | .canonicalType => "CanonicalType"

/-- The type of a short name. -/
def ofLabel? (label : String) : Option TypeName := all.find? fun t => t.label == label

theorem ofLabel?_label (t : TypeName) : ofLabel? t.label = some t := by
  cases t <;> decide

end TypeName

namespace FunctionKind

/-- The kinds of functions that are told by their names. -/
def all : List FunctionKind :=
  [.constant, .counter, .raising, .hook, .getter, .setter, .describe, .wrap]

/-- The kind of functions of a name. -/
def ofName? (name : String) : Option FunctionKind :=
  all.find? fun kind => Value.functionName kind == name

theorem ofName?_functionName :
    ∀ kind ∈ all, ofName? (Value.functionName kind) = some kind := by
  decide

end FunctionKind

namespace Value

/-- A pattern by its text, with the flags that the text states among its flags. -/
def ofPattern (source : String) (flags : Flags) : Except PatternFailure Value :=
  (Regex.compile source flags).map fun regex => .pattern source regex.flags

/-- A pattern on bytes, with the flags that it states among its flags. -/
def ofBytesPattern (source : List UInt8) (flags : Flags) : Except PatternFailure Value :=
  let letters := String.ofList (Numeral.ofBytes source)
  (Regex.compile letters flags .bytes).map fun regex => .bytesPattern source regex.flags

end Value

end FieldSchema
