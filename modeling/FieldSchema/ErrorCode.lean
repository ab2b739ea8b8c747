/-!
# Error codes

Every failure carries a code of the form `E2xxx`.  Codes from 2030 on tell that a definition is
wrong, the others that a value was rejected.
-/

namespace FieldSchema

/-- The codes of failures. -/
inductive ErrorCode where
  | validationGeneric
  | invalidFormat
  | outOfRange
  | invalidType
  | constraintViolation
  | invalidEmail
  | invalidObjectId
  | unsupportedType
  | invalidDefinition
  deriving DecidableEq, Repr, Inhabited

namespace ErrorCode

/-- All codes. -/
def all : List ErrorCode :=
  [.validationGeneric, .invalidFormat, .outOfRange, .invalidType, .constraintViolation,
    .invalidEmail, .invalidObjectId, .unsupportedType, .invalidDefinition]

/-- The number of a code. -/
def number : ErrorCode → Nat
  | .validationGeneric => 2000
  | .invalidFormat => 2002
  | .outOfRange => 2003
  | .invalidType => 2004
  | .constraintViolation => 2005
  | .invalidEmail => 2010
  | .invalidObjectId => 2013
  | .unsupportedType => 2030
  | .invalidDefinition => 2031

/-- The name of a code, which starts with its number. -/
def name : ErrorCode → String
  | .validationGeneric => "E2000_VALIDATION_GENERIC"
  | .invalidFormat => "E2002_INVALID_FORMAT"
  | .outOfRange => "E2003_OUT_OF_RANGE"
  | .invalidType => "E2004_INVALID_TYPE"
  | .constraintViolation => "E2005_CONSTRAINT_VIOLATION"
  | .invalidEmail => "E2010_INVALID_EMAIL"
  | .invalidObjectId => "E2013_INVALID_OBJECT_ID"
  | .unsupportedType => "E2030_UNSUPPORTED_TYPE"
  | .invalidDefinition => "E2031_INVALID_DEFINITION"

/-- What a failure with a code is about. -/
def category (code : ErrorCode) : String :=
  if 2030 ≤ code.number && code.number < 2040 then "definition" else "validation"

/-- The code with a given name. -/
def ofName? (name : String) : Option ErrorCode := all.find? (·.name == name)

theorem ofName?_name (code : ErrorCode) : ofName? code.name = some code := by
  cases code <;> decide

end ErrorCode

end FieldSchema
