import FieldSchema.Calendar.IsoText
import FieldSchema.Definition.Failure
import FieldSchema.Signature.Payload
import FieldSchema.Text.Hex

/-!
# Canonical payloads of values

Every value that definitions and options are made of has a payload.  Payloads keep the order of
entries and items and tell kinds of values apart: a list is no tuple, a whole number is no double,
and a mapping cannot imitate the payload of something else.  Members of enumerations are known by
their full names.  Functions, records and types equal only themselves and are known by their
identities; other things that have no contents to speak of are known by the place where they stand.
A container that holds itself has no payload.

* `Value.payload`: the payload of a value at a place.
-/

namespace FieldSchema

/-! ## Scalars -/

/-- The full name of a category. -/
def CanonicalType.fullName (t : CanonicalType) : String :=
  "dualschema.resolver.CanonicalType." ++ t.constantName

/-- The full name of an error code. -/
def ErrorCode.fullName (code : ErrorCode) : String :=
  "dualschema.errors.types.ErrorCode." ++ code.name

namespace Payload

/-- A member of an enumeration, by its full name. -/
def member (fullName : String) : Payload := .tagged "__enum__" (.text fullName)

/-- Something that has a text and flags. -/
def patternOf (tag source : String) (flags : Flags) : Payload :=
  .tagged tag (.array [.text source, .int flags.toNat])

/-- A point in time, a day or a time of day. -/
def timeOf (kind text : String) : Payload := .tagged "__dt__" (.array [.text kind, .text text])

/-- A container, by its tag. -/
def container (tag : String) (items : List Payload) : Payload := .tagged tag (.array items)

/-- A field specification: its type and its modifiers, which are pairs. -/
def field (type : Payload) (modifiers : List (Payload × Payload)) : Payload :=
  .tagged "__field__" (.array [type, container "__tuple__"
    (modifiers.map fun pair => container "__tuple__" [pair.1, pair.2])])

/-- Something that is known by its kind and an identity. -/
def referenceTo (v : Value) (identity : List Nat) : Payload :=
  .identified "__ref__" v.typeLabel identity

end Payload

namespace Value

/-- Where something without an identity of its own stands, as an identity.  Bytes of at most one
byte are the same everywhere. -/
def identityAt (place : List Nat) : Value → List Nat
  | .bytes [] => [4]
  | .bytes [b] => [4, b.toNat]
  | _ => 3 :: place.reverse

/-- The identity of a type. -/
def typeIdentity (t : TypeName) : List Nat := [2, t.ctorIdx]

/-! ## Payloads -/

mutual

/-- The payload of a value that stands at a place. -/
def payload (place : List Nat) : Value → Except DefinitionError Payload
  | .canonical t => .ok (.member t.fullName)
  | .errorCode code => .ok (.member code.fullName)
  | .member m => .ok (.member m.fullName)
  | .null => .ok .null
  | .bool b => .ok (.bool b)
  | .int n => .ok (.int n)
  | .float x => .ok (.float x)
  | .text s => .ok (.text s)
  | .brokenText broken => .ok (.brokenText broken)
  | .pattern source flags => .ok (.patternOf "__re__" source flags)
  | .bytesPattern source flags => .ok (.patternOf "__reb__" (Text.hexText source) flags)
  | .objectId digits => .ok (.tagged "__oid__" (.text digits))
  | .dateTime t => .ok (.timeOf "datetime" t.toText)
  | .date d => .ok (.timeOf "date" d.toText)
  | .time t => .ok (.timeOf "time" t.toText)
  | .spec type modifiers =>
    match payload (0 :: place) type, payloadsOfEntries (1 :: place) 0 modifiers with
    | .ok type, .ok modifiers => .ok (.field type modifiers)
    | .error e, _ => .error e
    | _, .error e => .error e
  | .shorthand type modifiers =>
    match payload (0 :: place) type, payloadsOfEntries (1 :: place) 0 modifiers with
    | .ok type, .ok modifiers => .ok (.tagged "__array__" (.field type modifiers))
    | .error e, _ => .error e
    | _, .error e => .error e
  | .typeName t => .ok (.identified "__type__" t.written (typeIdentity t))
  | .map entries =>
    match payloadsOfEntries place 0 entries with
    | .ok pairs => .ok (.container "__map__" (pairs.map fun pair => .array [pair.1, pair.2]))
    | .error e => .error e
  | .list items =>
    match payloadsOfItems place 0 items with
    | .ok items => .ok (.container "__seq__" items)
    | .error e => .error e
  | .tuple items =>
    match payloadsOfItems place 0 items with
    | .ok items => .ok (.container "__tuple__" items)
    | .error e => .error e
  | .enclosing _ _ => .error .referenceCycle
  | .function identity isShared kind parameters =>
    .ok (.referenceTo (.function identity isShared kind parameters) [0, identity])
  | .record identity attributes => .ok (.referenceTo (.record identity attributes) [1, identity])
  | v => .ok (.referenceTo v (identityAt place v))

/-- The payloads of items, each at its place. -/
def payloadsOfItems (place : List Nat) (index : Nat) :
    List Value → Except DefinitionError (List Payload)
  | [] => .ok []
  | v :: rest =>
    match payload (index :: place) v, payloadsOfItems place (index + 1) rest with
    | .ok p, .ok ps => .ok (p :: ps)
    | .error e, _ => .error e
    | _, .error e => .error e

/-- The payloads of the keys and values of entries, each at its place. -/
def payloadsOfEntries (place : List Nat) (index : Nat) :
    List (Value × Value) → Except DefinitionError (List (Payload × Payload))
  | [] => .ok []
  | (k, v) :: rest =>
    match payload (0 :: index :: place) k, payload (1 :: index :: place) v,
        payloadsOfEntries place (index + 1) rest with
    | .ok key, .ok value, .ok pairs => .ok ((key, value) :: pairs)
    | .error e, _, _ => .error e
    | _, .error e, _ => .error e
    | _, _, .error e => .error e

end

end Value

end FieldSchema
