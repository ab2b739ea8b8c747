import FieldSchema.LogEvent
import FieldSchema.Validation.Issue
import FieldSchema.Value.Call

/-!
# Flat records of failures

Failures come in many shapes: rejected inputs, mappings with a collection of issues or errors,
objects that offer one as an attribute or through a function.  All are read into flat records of
the same form.  A failure that cannot be read yields no records, and an entry that cannot be read
yields a record that says nothing.  What was raised is noted in words, so reading itself fails when
these words cannot be had, or when what was raised is not caught at all.

* `ErrorRecord.ofEntry`: the record of an entry.
* `ErrorRecord.ofFailure`: the records of a failure, with what could not be read.
* `ErrorRecord.attributesWith`: a record with some of its attributes replaced.
-/

namespace FieldSchema

/-- What is known about one failed rule. -/
structure ErrorRecord where
  field : String := Path.unknown
  message : String := validationFailed
  code : String := Path.unknown
  value : Value := .null
  type : String := Path.unknown
  deriving Inhabited

/-! ## Reading parts -/

namespace Value

/-- A named part of a value: an entry of a mapping or an attribute of an object, null when there
is none.  An attribute may fail to be read; one that says that it is not there counts as none. -/
def part (source : Value) (name : String) : Except Raised Value :=
  match source with
  | .map entries => .ok (Entries.getText entries name)
  | .record _ attributes =>
    match attributes.lookup name with
    | some (.unreadable cause) => if cause.kind == "AttributeError" then .ok .null else .error cause
    | some v => .ok v
    | none => .ok .null
  | .rejection _ issues => .ok (if name == "issues" then .list issues else .null)
  | .spec type _ => .ok (if name == "type" then type else .null)
  | .formatCheck check => .ok (if name == "message" then .text check.message else .null)
  | .typeName t => .ok (if name == "format" then formatPart t else .null)
  | _ => .ok .null
where
  /-- The types of texts have a function that formats. -/
  formatPart : TypeName → Value
    | .text => .text "<method 'format' of 'str' objects>"
    | .canonicalType => .text "<method 'format' of 'str' objects>"
    | _ => .null

/-- The first of some named parts that is there, null when none is. -/
def firstPart (source : Value) : List String → Except Raised Value
  | [] => .ok .null
  | name :: rest =>
    match source.part name with
    | .ok .null => source.firstPart rest
    | found => found

/-- The items of a value that is a sequence but no text; bytes are numbers. -/
def sequenceItems? : Value → Option (List Value)
  | .list items => some items
  | .tuple items => some items
  | .deque items => some items
  | .bytes data => some (data.map fun b => .int b.toNat)
  | _ => none

end Value

namespace ErrorRecord

/-- A record as named values. -/
def attributes (record : ErrorRecord) : List (String × Value) :=
  [("field", .text record.field), ("message", .text record.message), ("code", .text record.code),
    ("value", record.value), ("type", .text record.type)]

/-- The attributes of a record of which nothing is known, with those that are given; names that
records do not have are refused. -/
def attributesWith (given : List (String × Value)) : Except Raised (List (String × Value)) :=
  let usual := attributes {}
  if given.all fun entry => (usual.lookup entry.1).isSome then
    .ok (usual.map fun (name, v) => (name, (given.lookup name).getD v))
  else .error .wrongType

/-! ## Entries -/

/-- The field that a path names. -/
def fieldOf (path : Value) : String :=
  match path.asText? with
  | some name => if name.isEmpty then Path.unknown else name
  | none =>
    match path.sequenceItems? with
    | none => Path.unknown
    | some [] => Path.unknown
    | some steps => ".".intercalate (steps.map Value.displayed)

/-- A part in words, or what is said instead when it is empty. -/
def wordsOr (instead : String) (v : Value) : String :=
  if v.truthy then v.displayed else instead

/-- What an entry expected; its context is asked when it does not say so itself. -/
def expectationOf (entry context : Value) : Except Raised Value := do
  let own ← entry.firstPart ["expected", "format"]
  match own with
  | .null => context.firstPart ["expected", "format"]
  | own => pure own

/-- The value that an entry is about. -/
def valueOf (entry : Value) : Except Raised Value := entry.firstPart ["input", "received"]

/-- The record of an entry. -/
def ofEntry (entry : Value) : Except Raised ErrorRecord := do
  let context ← entry.part "ctx"
  let value ← valueOf entry
  let expected ← expectationOf entry context
  let path ← entry.firstPart ["path", "loc"]
  let message ← entry.firstPart ["message", "msg"]
  let code ← entry.firstPart ["code", "type"]
  pure {
    field := fieldOf path
    message := wordsOr validationFailed message
    code := wordsOr Path.unknown code
    value
    type := if expected.isNull then Path.unknown else expected.displayed }

/-! ## Failures -/

/-- The items of a collection, null standing for a collection that is not there. -/
def itemsOf (collection : Value) : List Value := collection.asSequence?.getD []

/-- A part of a failure, or what it returns when it is a function. -/
def collectionOf (failure : Value) (name : String) : Calling Value :=
  Calling.andThen (fun history => (failure.part name, history)) fun collection =>
    if collection.isCallable then collection.call [] else Calling.value collection

/-- The entries of a failure: its issues, or its errors when it has no issues. -/
def entriesOf (failure : Value) : Calling (List Value) :=
  Calling.andThen (collectionOf failure "issues") fun issues =>
    if issues.isNull then
      Calling.andThen (collectionOf failure "errors") fun errors => Calling.value (itemsOf errors)
    else Calling.value (itemsOf issues)

/-- Notes that an entry could not be read, in words. -/
def entryNote (index : Nat) (words : String) : LogEvent :=
  ⟨.warning, "validation_issue_unreadable", [("index", .int index), ("error", .text words)]⟩

/-- Notes that a failure could not be read, in words. -/
def failureNote (failure : Value) (words : String) : LogEvent :=
  ⟨.warning, "validation_failure_unreadable",
    [("error", .text words), ("failure_type", .text failure.typeLabel)]⟩

/-- What stands for something that cannot be read for a cause, with a note on it. -/
def excusing {α : Type} (instead : α) (note : String → LogEvent) (cause : Raised) :
    Logged Raised α :=
  (Logged.ofExcept cause.caught).andThen fun words =>
    (Logged.note (note words)).andThen fun _ => .ok instead

/-- The record of an entry, the usual one when it cannot be read. -/
def recordAt (index : Nat) (entry : Value) : Logged Raised ErrorRecord :=
  match ofEntry entry with
  | .ok record => .ok record
  | .error cause => excusing {} (entryNote index) cause

/-- The records of entries, one for each. -/
def ofEntries : Nat → List Value → Logged Raised (List ErrorRecord)
  | _, [] => .ok []
  | index, entry :: rest =>
    (recordAt index entry).andThen fun record =>
      (ofEntries (index + 1) rest).andThen fun others => .ok (record :: others)

/-- The records of a failure, none when it cannot be read. -/
def ofFailure (failure : Value) (history : CallHistory) :
    Logged Raised (List ErrorRecord) × CallHistory :=
  match entriesOf failure history with
  | (.ok entries, history) => (ofEntries 0 entries, history)
  | (.error cause, history) => (excusing [] (failureNote failure) cause, history)

end ErrorRecord

/-! ## Rejected inputs -/

/-- The records of a rejected input. -/
def Rejected.records (r : Rejected) : List ErrorRecord :=
  (ErrorRecord.ofFailure r.asFailure .empty).1.result.toOption.getD []

end FieldSchema
