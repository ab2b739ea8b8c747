import FieldSchema.Storage.OfField
import FieldSchema.Storage.Options
import FieldSchema.Value.Call

/-!
# Storage schemas

A storage schema holds the stored fields of a definition, the options of the collection, hooks
before and after lifecycle events, virtual fields and declared indexes.  Hooks and accessors are
functions; they are called in the order in which they were added.

* `StorageSchema.ofDefinition`: the schema of a definition with options.
* `StorageSchema.addHook`, `StorageSchema.runHooks`: hooks.
* `StorageSchema.withVirtual`, `VirtualField.resolve`, `VirtualField.assign`: virtual fields.
* `StorageSchema.timestampFields`: the names of the fields that hold times of writing.
-/

namespace FieldSchema

/-! ## Hooks and virtual fields -/

/-- On which side of an event a hook runs. -/
inductive HookPhase where
  | before | after
  deriving DecidableEq, Repr, Inhabited

namespace HookPhase

/-- The name of a phase. -/
def name : HookPhase → String
  | .before => "pre"
  | .after => "post"

/-- The phase of a name. -/
def ofName? (name : String) : Option HookPhase :=
  if name == "pre" then some .before else if name == "post" then some .after else none

@[simp] theorem ofName?_name (phase : HookPhase) : ofName? phase.name = some phase := by
  cases phase <;> decide

end HookPhase

/-- A field that is computed and not stored. -/
structure VirtualField where
  getters : List Value := []
  setters : List Value := []
  deriving Inhabited

namespace VirtualField

/-- The field with one more getter. -/
def withGetter (field : VirtualField) (getter : Value) : VirtualField :=
  { field with getters := field.getters ++ [getter] }

/-- The field with one more setter. -/
def withSetter (field : VirtualField) (setter : Value) : VirtualField :=
  { field with setters := field.setters ++ [setter] }

/-- The value of a document: what the last getter returns, after all others were called. -/
def resolve (field : VirtualField) (document : Value) : Calling Value :=
  (Calling.mapList (fun getter : Value => getter.call [document]) field.getters).andThen
    fun values => .value (values.getLast?.getD .null)

/-- The document after every setter in turn. -/
def assignAll (newValue : Value) : List Value → Value → Calling Value
  | [], document => .value document
  | setter :: rest, document =>
    (setter.assignWith document newValue).andThen (assignAll newValue rest)

/-- The document after an assignment to the field. -/
def assign (field : VirtualField) (document newValue : Value) : Calling Value :=
  assignAll newValue field.setters document

end VirtualField

/-! ## Values by key -/

/-- What is kept under keys, in the order of their first use. -/
abbrev Keyed (α : Type) := List (Value × α)

namespace Keyed

variable {α : Type}

/-- What is kept under a key. -/
def get? (entries : Keyed α) (key : Value) : Option α :=
  (entries.find? fun entry => entry.1.equals key).map (·.2)

/-- Changes what is kept under a key; a new key starts from a given value. -/
def update (start : α) (key : Value) (change : α → α) : Keyed α → Keyed α
  | [] => [(key, change start)]
  | (k, a) :: rest =>
    if k.equals key then (k, change a) :: rest else (k, a) :: update start key change rest

end Keyed

/-! ## Schemas -/

/-- What a collection is told about its documents. -/
structure StorageSchema where
  fields : List (TextValue × StoredField) := []
  options : Entries := []
  /-- Hooks before events. -/
  pre : Keyed (List Value) := []
  /-- Hooks after events. -/
  post : Keyed (List Value) := []
  virtuals : Keyed VirtualField := []
  /-- Declared indexes: what is indexed, and the options. -/
  indexes : List (Value × Value) := []
  deriving Inhabited

namespace StorageSchema

/-- The names of the fields in order. -/
def fieldNames (schema : StorageSchema) : List TextValue := schema.fields.map (·.1)

/-- The field of a name. -/
def field? (schema : StorageSchema) (name : String) : Option StoredField :=
  TextValue.lookup name schema.fields

/-- All hooks of a phase. -/
def hooks (schema : StorageSchema) : HookPhase → Keyed (List Value)
  | .before => schema.pre
  | .after => schema.post

/-- The hooks of a phase of an event, in the order in which they were added. -/
def hooksFor (schema : StorageSchema) (phase : HookPhase) (event : Value) : List Value :=
  ((schema.hooks phase).get? event).getD []

/-- The schema with one more hook. -/
def addHook (phase : HookPhase) (event hook : Value) (schema : StorageSchema) : StorageSchema :=
  let add := Keyed.update [] event fun (hooks : List Value) => hooks ++ [hook]
  match phase with
  | .before => { schema with pre := add schema.pre }
  | .after => { schema with post := add schema.post }

/-- Calls the hooks of a phase of an event. -/
def runHooks (schema : StorageSchema) (phase : HookPhase) (event : Value)
    (arguments : List Value) : Calling (List Value) :=
  Calling.mapList (fun hook : Value => hook.call arguments) (schema.hooksFor phase event)

/-- The virtual field of a name; one that was never mentioned has no accessors. -/
def virtual (schema : StorageSchema) (name : Value) : VirtualField :=
  (Keyed.get? schema.virtuals name).getD {}

/-- The schema with a changed virtual field, which is made if it is not there. -/
def withVirtual (name : Value) (change : VirtualField → VirtualField) (schema : StorageSchema) :
    StorageSchema :=
  { schema with virtuals := Keyed.update {} name change schema.virtuals }

/-- The schema with one more declared index. -/
def addIndex (keys options : Value) (schema : StorageSchema) : StorageSchema :=
  { schema with indexes := schema.indexes ++ [(keys, options)] }

/-! ### Options applied to a schema -/

/-- The hooks that a value lists: the items of a sequence, of which a text is one of letters, or
the value itself. -/
def listedHooks : Value → List Value
  | .list items => items
  | .tuple items => items
  | .deque items => items
  | .text s => s.toList.map fun c => .text c.toString
  | .canonical t => t.label.toList.map fun c => .text c.toString
  | .bytes data => data.map fun b => .int b.toNat
  | v => [v]

/-- The schema with the hooks of a phase that options list. -/
def addHooks (phase : HookPhase) (listed : Entries) (schema : StorageSchema) : StorageSchema :=
  listed.foldl (fun schema entry =>
    (listedHooks entry.2).foldl (fun schema hook => schema.addHook phase entry.1 hook) schema)
    schema

/-- The change that options describe for a virtual field: a function is a getter, and a mapping
names both accessors. -/
def virtualChange? (description : Value) : Option (VirtualField → VirtualField) :=
  if description.isCallable then some fun field => field.withGetter description
  else
    match description with
    | .map entries => some fun field =>
      let getter := Entries.getText entries "get"
      let setter := Entries.getText entries "set"
      let field := if getter.truthy then field.withGetter getter else field
      if setter.truthy then field.withSetter setter else field
    | _ => none

/-- The schema with a virtual field that options describe. -/
def addVirtual (schema : StorageSchema) (name description : Value) : StorageSchema :=
  match virtualChange? description with
  | some change => schema.withVirtual name change
  | none => schema

/-- The schema with everything that options state beside the options of the collection. -/
def apply (parts : StorageParts) (schema : StorageSchema) : StorageSchema :=
  let schema := schema.addHooks .before parts.pre
  let schema := schema.addHooks .after parts.post
  let schema := parts.virtuals.foldl (fun schema entry => schema.addVirtual entry.1 entry.2) schema
  parts.indexes.foldl (fun schema entry => schema.addIndex entry.1 entry.2) schema

/-! ### Schemas of definitions -/

/-- The stored fields of described fields, in order. -/
def storeFields : List (TextValue × FieldForm) → Storing (List (TextValue × StoredField))
  | [] => .ok []
  | (name, form) :: rest =>
    (StoredField.ofForm name form).andThen fun stored =>
      (storeFields rest).andThen fun others => .ok ((name, stored) :: others)

/-- The event that a schema was made. -/
def compiledEvent (schema : StorageSchema) : LogEvent :=
  ⟨.debug, "persistence_schema_compiled", [("fields", .int schema.fields.length),
    ("virtuals", .int schema.virtuals.length), ("indexes", .int schema.indexes.length)]⟩

/-- The schema of a definition.  Collections keep the times of writing unless their options say
otherwise. -/
def ofDefinition (options : StorageOptions) (definition : Value) : Storing StorageSchema :=
  match Definition.read definition with
  | .error cause => .fail (.definition cause)
  | .ok forms =>
    (storeFields forms).andThen fun fields =>
      match options.parts with
      | .error cause => .fail (.raised cause)
      | .ok parts =>
        let start := Entries.ofFields [("timestamps", .bool true)]
        let schema := apply parts { fields, options := Entries.append start parts.schemaOptions }
        (Logged.note schema.compiledEvent).andThen fun _ => .ok schema

/-- The schema of no fields with options of the collection; what counts as false states none. -/
def ofOptions (options : Value) : Except Raised StorageSchema :=
  if options.truthy then options.toEntries.map fun entries => { options := entries } else .ok {}

/-! ### Times of writing -/

/-- The fields that hold times of writing, under their usual names. -/
def usualTimestamps : List String := ["createdAt", "updatedAt"]

/-- The name that a setting gives to a time of writing, none when it is not kept. -/
def timestampName? (usual : String) : Option Value → Option TextValue
  | none => some usual
  | some (.bool true) => some usual
  | some v => v.asTextValue?.filter fun name => !name.text.isEmpty

/-- The names of the fields that hold times of writing. -/
def timestampFields (schema : StorageSchema) : List TextValue :=
  match Entries.getText schema.options "timestamps" with
  | .bool true => usualTimestamps.map .plain
  | .map entries =>
    if entries.isEmpty then []
    else usualTimestamps.filterMap fun usual =>
      timestampName? usual (Entries.getText? entries usual)
  | _ => []

/-! ### Display -/

/-- The written form of a schema. -/
def written (schema : StorageSchema) : String :=
  "PersistenceSchema(fields=" ++ (Value.list (schema.fieldNames.map .ofTextValue)).written ++
    ", options=" ++ (Value.map schema.options).written ++
    ", virtuals=" ++ (Value.list (schema.virtuals.map (·.1))).written ++
    ", indexes=" ++ toString schema.indexes.length ++ ")"

end StorageSchema

end FieldSchema
