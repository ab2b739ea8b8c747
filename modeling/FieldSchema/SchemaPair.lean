import FieldSchema.Cache.Basic
import FieldSchema.Signature.Content
import FieldSchema.Storage.Schema
import FieldSchema.Validation.Schema

/-!
# Pairs of schemas

One definition makes two schemas, one for the storage of documents and one for the validation of
inputs.  Each is made on its own; the pair is kept in a cache under the signature of the
definition and of everything else that it depends on.

Parts of a request that are known by nothing but where they stand have the site of the request as
the start of their identity.  Two requests may have the same site: one that is given the same things
again, and one whose things were put where those of an earlier request had been.

* `CompileRequest`, `CompilePlan`: a definition with the options of its compilation, before and
  after they are read.
* `SchemaPair.make`: the pair of a plan.
* `SchemaPair.compile`: the pair of a request by way of a cache.
-/

namespace FieldSchema

/-- Both schemas of a definition. -/
structure SchemaPair where
  storage : StorageSchema
  validation : ValidationSchema
  deriving Inhabited

/-- A definition with the options of its compilation, as they are given. -/
structure CompileRequest where
  definition : Value
  storageOptions : Value := .null
  /-- Whether objects may hold nothing but their fields. -/
  strict : Bool := false
  /-- Messages that replace those of rules. -/
  messages : Value := .null
  /-- Whether the pair may come from the cache. -/
  useCache : Bool := true
  /-- Where the parts stand that have no identity of their own. -/
  site : Nat := 0
  deriving Inhabited

/-- A definition with options that were read. -/
structure CompilePlan where
  definition : Value
  storage : StorageOptions := {}
  strict : Bool := false
  messages : Entries := []
  site : Nat := 0
  deriving Inhabited

/-- A pair with the number of the call that made it. -/
structure MadePair where
  call : Nat
  pair : SchemaPair
  deriving Inhabited

/-- The plan of a request; the storage options are read first. -/
def CompileRequest.plan (request : CompileRequest) : Except CompileFailure CompilePlan :=
  match StorageOptions.read request.storageOptions, Overrides.entriesOf request.messages with
  | .error cause, _ => .error (.definition cause)
  | .ok _, .error cause => .error (.raised cause)
  | .ok storage, .ok messages =>
    .ok ⟨request.definition, storage, request.strict, messages, request.site⟩

namespace CompilePlan

/-- How inputs are validated. -/
def validationOptions (plan : CompilePlan) : ValidationOptions :=
  ⟨plan.strict, .ofEntries plan.messages⟩

/-- Everything beside the definition that the pair depends on. -/
def keyOptions (plan : CompilePlan) : Except Raised Value := do
  return .ofFields [("persistence_options", ← plan.storage.toValue),
    ("strict_mode", .bool plan.strict), ("custom_messages", .map plan.messages)]

/-- The key of a plan in a cache. -/
def key (plan : CompilePlan) : Except CompileFailure String :=
  match plan.keyOptions with
  | .error cause => .error (.raised cause)
  | .ok options =>
    match Signature.ofContent plan.site plan.definition options with
    | .error cause => .error (.definition cause)
    | .ok none => .error (.raised TextCoding.notExpressed)
    | .ok (some digest) => .ok digest

end CompilePlan

namespace SchemaPair

/-- The event that a definition made no pair. -/
def failedEvent (cause : DefinitionError) : LogEvent :=
  ⟨.warning, "schema_compilation_failed",
    [("code", .text cause.code.name), ("error", .text cause.message)]⟩

/-- The event that a pair was made. -/
def compiledEvent (pair : SchemaPair) : LogEvent :=
  ⟨.info, "schema_compiled", [("fields", .int pair.validation.fieldNames.length),
    ("strict", .bool pair.validation.options.strict)]⟩

/-- A result, with an event when a definition is the cause that there is none. -/
def notingFailure {α : Type} (made : Compiling α) : Compiling α :=
  match made.result with
  | .error (.definition cause) => ⟨made.events ++ [failedEvent cause], made.result⟩
  | _ => made

/-- Both schemas of a plan; the one for validation is made first. -/
def both (plan : CompilePlan) : Compiling SchemaPair :=
  (ValidationSchema.ofDefinition plan.validationOptions plan.definition).andThen
    fun validation =>
      (StorageSchema.ofDefinition plan.storage plan.definition).andThen fun storage =>
        .ok { storage, validation }

/-- The pair of a plan. -/
def make (plan : CompilePlan) : Compiling SchemaPair :=
  (notingFailure (both plan)).andThen fun pair =>
    (Logged.note pair.compiledEvent).andThen fun _ => .ok pair

/-- The pair of a plan by way of a cache. -/
def makeCached (now : Binary64) (call : Nat) (plan : CompilePlan) (cache : Cache MadePair) :
    CacheStep MadePair (Except CompileFailure MadePair) :=
  match plan.key with
  | .error failure => ⟨.error failure, cache, []⟩
  | .ok key =>
    let made : Compiling MadePair := (make plan).andThen fun pair => .ok ⟨call, pair⟩
    let factory := fun (_ : Unit) => (made.andThen fun pair => .ok (some pair), ())
    let step := (cache.getOrCompile now key factory ()).1
    match step.result with
    | .ok (some pair) => ⟨.ok pair, step.cache, step.events⟩
    | .ok none => ⟨made.result, step.cache, step.events⟩
    | .error failure => ⟨.error failure, step.cache, step.events⟩

/-- The pair of a request by way of a cache, unless the request does without.  The number of the
call tells the pairs of different calls apart. -/
def compile (now : Binary64) (call : Nat) (request : CompileRequest) (cache : Cache MadePair) :
    CacheStep MadePair (Except CompileFailure MadePair) :=
  match request.plan with
  | .error failure => ⟨.error failure, cache, []⟩
  | .ok plan =>
    if request.useCache then makeCached now call plan cache
    else
      let made := (make plan).andThen fun pair => .ok ⟨call, pair⟩
      ⟨made.result, cache, made.events⟩

/-- Failures are noted without a change of the result. -/
@[simp] theorem result_notingFailure {α : Type} (made : Compiling α) :
    (notingFailure made).result = made.result := by
  unfold notingFailure
  split <;> simp_all

end SchemaPair

end FieldSchema
