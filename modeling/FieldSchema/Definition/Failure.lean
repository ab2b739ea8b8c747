import FieldSchema.AppError
import FieldSchema.Pattern.Fault
import FieldSchema.Value.Raised

/-!
# Failures of definitions

What makes a definition unusable: a type token that names no category, a part that has the wrong
shape, a pattern that is none.  Every failure has a message, a code and, where it belongs to one
field, the name of the field.

* `DefinitionError`: the causes.
* `DefinitionError.message`, `DefinitionError.field?`, `DefinitionError.toAppError`: what is said
  about a cause.
* `CompileFailure`: a cause, a pattern that is refused although its text is well formed, or
  something that cannot be looked up.
-/

namespace FieldSchema

/-- Why a definition cannot be used. -/
inductive DefinitionError where
  /-- A type token that names no category. -/
  | unsupportedType (token : Value) (field : Option TextValue)
  /-- A field that is described by neither a mapping nor a sequence. -/
  | undescribedField (found : Value) (field : Option TextValue)
  /-- Something that has to be a mapping and is none, by what it is. -/
  | notMapping (what : String) (found : Value)
  /-- A field name that is no text. -/
  | nameNotText (name : Value)
  /-- An allowed value that is no text. -/
  | optionNotText (field : TextValue)
  /-- A pattern on bytes. -/
  | bytesPattern (field : TextValue)
  /-- A pattern text that is no pattern, with the diagnostic. -/
  | badPattern (diagnostic : String) (field : TextValue)
  /-- A container that holds itself. -/
  | referenceCycle
  /-- Any other cause, in words. -/
  | stated (message : String) (field : Option TextValue)
  deriving Inhabited

namespace DefinitionError

/-- Whether the cause is a type token. -/
def isUnsupportedType : DefinitionError → Bool
  | .unsupportedType _ _ => true
  | _ => false

/-- The field that a cause belongs to. -/
def field? : DefinitionError → Option TextValue
  | .unsupportedType _ field => field
  | .undescribedField _ field => field
  | .optionNotText field => some field
  | .bytesPattern field => some field
  | .badPattern _ field => some field
  | .stated _ field => field
  | _ => none

/-- The words that name a field, left out when it has no name or an empty one. -/
def whichField : Option TextValue → String
  | some name => if name.text.isEmpty then "" else " for field '" ++ name.displayed ++ "'"
  | none => ""

/-- What is wrong. -/
def message : DefinitionError → String
  | .unsupportedType token field => "Invalid type" ++ whichField field ++ ": " ++ token.written
  | .undescribedField found field =>
    "Field '" ++ (field.map TextValue.displayed).getD "None" ++
      "' must be defined by a mapping or a sequence, got " ++ found.typeLabel
  | .notMapping what found => what ++ " must be a mapping, got " ++ found.typeLabel
  | .nameNotText name => "Field names must be strings, got " ++ name.written
  | .optionNotText field => "Enum values for field '" ++ field.displayed ++ "' must be strings"
  | .bytesPattern field =>
    "Pattern for field '" ++ field.displayed ++ "' must be a text pattern, not bytes"
  | .badPattern diagnostic field =>
    "Invalid pattern for field '" ++ field.displayed ++ "': " ++ diagnostic
  | .referenceCycle => "Schema definition contains a reference cycle"
  | .stated message _ => message

/-- The code of a cause. -/
def code (e : DefinitionError) : ErrorCode :=
  if e.isUnsupportedType then .unsupportedType else .invalidDefinition

/-- What is known beside the message.  A type token is always told with its field; other causes
tell the field only when it has a name that is not empty. -/
def metadata (e : DefinitionError) : Entries :=
  match e with
  | .unsupportedType token field =>
    Entries.ofFields [("field", .ofTextValue? field), ("type", .text token.written)]
  | e =>
    match e.field? with
    | some name =>
      if name.text.isEmpty then [] else Entries.ofFields [("field", .ofTextValue name)]
    | none => []

/-- A cause as a record. -/
def toAppError (e : DefinitionError) : AppError := ⟨e.code, e.message, e.metadata⟩

end DefinitionError

/-- Why nothing can be made of a definition. -/
inductive CompileFailure where
  | definition (cause : DefinitionError)
  /-- A pattern that is refused although its text is well formed. -/
  | pattern (cause : PatternFailure)
  /-- Something was used that cannot be looked up or used so. -/
  | raised (failure : Raised)
  deriving Inhabited

end FieldSchema
