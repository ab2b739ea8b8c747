import FieldSchema.Value.Display
import FieldSchema.Value.Raised

/-!
# Errors as records

Failures of every kind end up as one record: a code, a message and metadata.  Records are values,
so that callers can send them on.

* `AppError.toValue`: the record as a mapping.
* `AppError.displayed`: the line that shows code and message.
* `AppError.withMetadata`, `AppError.grow`: the record with more metadata.
-/

namespace FieldSchema

/-- A failure as a record. -/
structure AppError where
  code : ErrorCode
  message : String
  metadata : Entries := []
  deriving Inhabited

namespace AppError

/-- The record with more metadata; new values replace old ones in place. -/
def withMetadata (e : AppError) (more : Entries) : AppError :=
  { e with metadata := e.metadata.append more }

/-- Whether a key can name a piece of metadata that is added. -/
def isMetadataName (key : Value) : Bool := key.asText?.any fun name => name != "self"

/-- The record with more metadata, which have to be a mapping with usable names. -/
def addMetadata (e : AppError) (more : Value) : Except Raised AppError :=
  match more.asEntries? with
  | some entries =>
    if entries.all fun entry => isMetadataName entry.1 then .ok (e.withMetadata entries)
    else .error .wrongType
  | none => .error .wrongType

/-- A record followed by what it becomes when metadata are added piece by piece. -/
def grow (e : AppError) : List Value → Except Raised (List AppError)
  | [] => .ok [e]
  | more :: rest => do return e :: (← (← e.addMetadata more).grow rest)

/-- The record as a mapping. -/
def toValue (e : AppError) : Value :=
  .ofFields [("error", .ofFields [
    ("code", .text e.code.name),
    ("code_num", .int e.code.number),
    ("message", .text e.message),
    ("category", .text e.code.category),
    ("metadata", .map e.metadata)])]

/-- The line that shows a failure. -/
def displayed (e : AppError) : String := "[" ++ e.code.name ++ "] " ++ e.message

@[simp] theorem code_withMetadata (e : AppError) (more : Entries) :
    (e.withMetadata more).code = e.code := rfl

@[simp] theorem message_withMetadata (e : AppError) (more : Entries) :
    (e.withMetadata more).message = e.message := rfl

end AppError

end FieldSchema
