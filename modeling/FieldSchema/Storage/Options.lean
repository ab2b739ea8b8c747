import FieldSchema.Definition.Failure
import FieldSchema.Value.Conversion

/-!
# Storage options

Beside the fields, a definition may come with options for storage: options of the collection,
hooks before and after lifecycle events, virtual fields, and indexes.  A mapping states them part
by part; a part that is left out or null is empty, and one that is no mapping is refused.  Options
that are given ready are taken as they are, and whether their parts can be used shows only when
they are needed.

* `StorageOptions.read`: the options that a value states.
* `StorageOptions.toValue`: options as a record.
* `StorageOptions.parts`: the entries of all parts.
-/

namespace FieldSchema

/-- Options for storage, each part as it is given. -/
structure StorageOptions where
  schemaOptions : Value := .map []
  /-- Hooks before and after events. -/
  hooks : Value := .middleware (.map []) (.map [])
  virtuals : Value := .map []
  indexes : Value := .map []
  deriving Inhabited

/-- The entries of all parts of options. -/
structure StorageParts where
  schemaOptions : Entries := []
  /-- Hooks before an event, by the event. -/
  pre : Entries := []
  /-- Hooks after an event, by the event. -/
  post : Entries := []
  virtuals : Entries := []
  indexes : Entries := []
  deriving Inhabited

namespace StorageOptions

/-! ## Reading -/

/-- A part that has to be a mapping or null. -/
def readPart (what : String) : Value → Except DefinitionError Value
  | .null => .ok (.map [])
  | .map entries => .ok (.map entries)
  | found => .error (.notMapping what found)

/-- The hooks before and after events. -/
def readHooks : Value → Except DefinitionError Value
  | .null => .ok (.middleware (.map []) (.map []))
  | .middleware pre post => .ok (.middleware pre post)
  | .map entries => do
    let pre ← readPart "middleware.pre" (Entries.getText entries "pre")
    let post ← readPart "middleware.post" (Entries.getText entries "post")
    pure (.middleware pre post)
  | found => .error (.notMapping "middleware" found)

/-- The options that entries state. -/
def ofEntries (entries : Entries) : Except DefinitionError StorageOptions := do
  let schemaOptions ← readPart "schema_options" (entries.getText "schema_options")
  let hooks ← readHooks (entries.getText "middleware")
  let virtuals ← readPart "virtuals" (entries.getText "virtuals")
  let indexes ← readPart "indexes" (entries.getText "indexes")
  pure { schemaOptions, hooks, virtuals, indexes }

/-- The options that a value states. -/
def read : Value → Except DefinitionError StorageOptions
  | .null => .ok {}
  | .storageOptions schemaOptions hooks virtuals indexes =>
    .ok { schemaOptions, hooks, virtuals, indexes }
  | .map entries => ofEntries entries
  | found => .error (.notMapping "persistence_options" found)

/-- The names of the parts. -/
def partNames : List String := ["schema_options", "middleware", "virtuals", "indexes"]

/-- Ready options of which some parts are given; names that options do not have are refused. -/
def ofParts (given : List (String × Value)) : Except Raised StorageOptions :=
  let usual : StorageOptions := {}
  if given.all fun entry => partNames.contains entry.1 then
    .ok {
      schemaOptions := (given.lookup "schema_options").getD usual.schemaOptions
      hooks := (given.lookup "middleware").getD usual.hooks
      virtuals := (given.lookup "virtuals").getD usual.virtuals
      indexes := (given.lookup "indexes").getD usual.indexes }
  else .error .wrongType

/-- Options as a value that is ready. -/
def ready (options : StorageOptions) : Value :=
  .storageOptions options.schemaOptions options.hooks options.virtuals options.indexes

@[simp] theorem read_null : read .null = .ok {} := rfl

@[simp] theorem read_ready (options : StorageOptions) : read options.ready = .ok options := rfl

/-! ## Using -/

/-- The hooks on both sides of events: parts of their own, or attributes of an object. -/
def hookSides : Value → Except Raised (Value × Value)
  | .middleware pre post => .ok (pre, post)
  | .record _ attributes => do return (← side attributes "pre", ← side attributes "post")
  | _ => .error .noSuchPart
where
  /-- An attribute that can be read. -/
  side (attributes : List (String × Value)) (name : String) : Except Raised Value :=
    match attributes.lookup name with
    | some (.unreadable cause) => .error cause
    | some v => .ok v
    | none => .error .noSuchPart

/-- Options as a record: every part as the mapping that it stands for. -/
def toValue (options : StorageOptions) : Except Raised Value := do
  let schemaOptions ← options.schemaOptions.toEntries
  let (pre, post) ← hookSides options.hooks
  let pre ← pre.toEntries
  let post ← post.toEntries
  let virtuals ← options.virtuals.toEntries
  let indexes ← options.indexes.toEntries
  pure (.ofFields [("schema_options", .map schemaOptions),
    ("middleware", .ofFields [("pre", .map pre), ("post", .map post)]),
    ("virtuals", .map virtuals), ("indexes", .map indexes)])

/-- The entries of a part that is walked through; only mappings have entries.  A field
specification and a type of mappings have something under that name which cannot be asked. -/
def entriesOf : Value → Except Raised Entries
  | .map entries => .ok entries
  | .spec _ _ => .error .wrongType
  | .typeName .dict => .error .wrongType
  | .typeName .mapping => .error .wrongType
  | .typeName .typingMapping => .error .wrongType
  | _ => .error .noSuchPart

/-- The entries of all parts. -/
def parts (options : StorageOptions) : Except Raised StorageParts := do
  let schemaOptions ←
    match options.schemaOptions with
    | .map entries => pure entries
    | _ => .error .wrongType
  let (pre, post) ← hookSides options.hooks
  let pre ← entriesOf pre
  let post ← entriesOf post
  let virtuals ← entriesOf options.virtuals
  let indexes ← entriesOf options.indexes
  pure { schemaOptions, pre, post, virtuals, indexes }

@[simp] theorem parts_default : parts {} = .ok {} := rfl

end StorageOptions

end FieldSchema
