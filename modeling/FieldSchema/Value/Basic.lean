import FieldSchema.Calendar.Basic
import FieldSchema.EnumMember
import FieldSchema.ErrorCode
import FieldSchema.Number.Basic
import FieldSchema.Pattern.Regex
import FieldSchema.Text.Broken
import FieldSchema.TextValue
import FieldSchema.Value.Raised

/-!
# Values

Definitions, options and the data to be validated are values of one dynamic kind: scalars, lists,
tuples, sets, mappings in insertion order, points in time, object identifiers, patterns, type
tokens, field specifications and functions.

A text is a string, or a `BrokenText` if it holds a surrogate.  Broken texts are there for what has
to be encoded, the messages of findings and what signatures are taken of; no check accepts them.

A mapping is a list of entries; the first entry of a key counts, and `Value.ofEntries` builds one
in which every key occurs once.  Functions and records are told apart by an identity, so that two
of them with the same contents are not the same value.  A value that refers back to a container
around it is written with `enclosing`.

* `Value`: the type; `Value.asText?`, `Value.asNumber?` and others: views of a value.
* `Value.equals`: equality of contents, numbers of different kinds by their values.
* `Value.isHashable`: whether a value may be a key of a mapping.
* `Value.truthy`: whether a value counts as true.
-/

namespace FieldSchema

/-! ## Parts -/

/-- The names of types that may stand for a category of values, and some that do not. -/
inductive TypeName where
  | text | int | float | bool | dateTime | date | list | dict | objectId | any | object | mapping
  | bytes | set | tuple | complex | time | null | listOfText | typingMapping | pattern
  | canonicalType
  deriving DecidableEq, Repr, Inhabited

/-- The kinds of functions that values may hold. -/
inductive FunctionKind where
  /-- Returns a constant. -/
  | constant
  /-- Returns one number more at each call. -/
  | counter
  /-- Raises an error. -/
  | raising
  /-- Returns its tag and its arguments as a list. -/
  | hook
  /-- Reads an entry of a document. -/
  | getter
  /-- Writes an entry of a document. -/
  | setter
  /-- Returns the written form of its argument. -/
  | describe
  /-- Returns its tag and its argument as a list. -/
  | wrap
  /-- Any other function, by its name and whether it asks for one argument. -/
  | outside (name : String) (asksForArgument : Bool)
  deriving DecidableEq, Repr, Inhabited

/-- A check that a stored text contains a match of a pattern. -/
structure FormatCheck where
  pattern : TextValue
  flags : Flags
  message : String
  deriving DecidableEq, Repr, Inhabited

/-- A dynamic value. -/
inductive Value where
  | null
  | bool (b : Bool)
  | int (n : Int)
  | float (x : Binary64)
  /-- A complex number by its two parts. -/
  | complex (re im : Binary64)
  | text (s : String)
  /-- A text that no coding has. -/
  | brokenText (text : BrokenText)
  | bytes (data : List UInt8)
  | list (items : List Value)
  | tuple (items : List Value)
  /-- A sequence that is neither a list nor a tuple. -/
  | deque (items : List Value)
  | set (items : List Value)
  | map (entries : List (Value × Value))
  | dateTime (t : DateTime)
  | date (d : Date)
  | time (t : TimeOfDay)
  /-- An object identifier, by its twenty-four hexadecimal digits. -/
  | objectId (digits : String)
  | pattern (source : String) (flags : Flags)
  | bytesPattern (source : List UInt8) (flags : Flags)
  | typeName (t : TypeName)
  | canonical (t : CanonicalType)
  | errorCode (code : ErrorCode)
  /-- A member of any other enumeration. -/
  | member (member : EnumMember)
  /-- A field specification: a type token and its modifiers in order. -/
  | spec (type : Value) (modifiers : List (Value × Value))
  /-- An array of items, by the type token and the modifiers of the items. -/
  | shorthand (type : Value) (modifiers : List (Value × Value))
  /-- A function with its identity, whether it may occur more than once, and its parameters. -/
  | function (identity : Nat) (isShared : Bool) (kind : FunctionKind) (parameters : List Value)
  /-- An object with attributes that is no mapping. -/
  | record (identity : Nat) (attributes : List (String × Value))
  /-- An attribute that cannot be read, for a cause. -/
  | unreadable (cause : Raised)
  /-- An input that was rejected, in words and with its issues, each an object with attributes. -/
  | rejection (summary : String) (issues : List Value)
  /-- Storage options that are given as they are. -/
  | storageOptions (schemaOptions hooks virtuals indexes : Value)
  /-- Hooks before and after lifecycle events. -/
  | middleware (pre post : Value)
  | formatCheck (check : FormatCheck)
  /-- A reference back to a container around this place, zero being the innermost. -/
  | enclosing (depth : Nat) (isMapping : Bool)
  /-- Anything else, by the name of its type. -/
  | other (typeName : String)
  deriving Inhabited

/-- The entries of a mapping in order. -/
abbrev Entries := List (Value × Value)

namespace Value

/-! ## Views -/

/-- The text of a value that is a text; the label of a category is one too. -/
def asText? : Value → Option String
  | .text s => some s
  | .canonical t => some t.label
  | _ => none

/-- The text or category that a value is. -/
def asTextValue? : Value → Option TextValue
  | .text s => some (.plain s)
  | .canonical t => some (.category t)
  | _ => none

/-- A text or a category as a value. -/
def ofTextValue : TextValue → Value
  | .plain s => .text s
  | .category t => .canonical t

/-- A text, a category or nothing. -/
def ofTextValue? : Option TextValue → Value
  | some t => ofTextValue t
  | none => .null

@[simp] theorem asTextValue?_ofTextValue (t : TextValue) :
    (ofTextValue t).asTextValue? = some t := by
  cases t <;> rfl

@[simp] theorem asText?_ofTextValue (t : TextValue) : (ofTextValue t).asText? = some t.text := by
  cases t <;> rfl

/-- A text by its code points. -/
def ofPoints (points : List CodePoint) : Value :=
  if h : points.any CodePoint.isSurrogate = true then .brokenText ⟨points, h⟩
  else .text (String.ofList (points.filterMap CodePoint.char?))

/-- Whether a value is a text. -/
def isText (v : Value) : Bool := v.asText?.isSome

/-- The number of a value; truth values are no numbers. -/
def asNumber? : Value → Option Number
  | .int n => some (.int n)
  | .float x => some (.float x)
  | _ => none

/-- The value of a number. -/
def ofNumber : Number → Value
  | .int n => .int n
  | .float x => .float x

@[simp] theorem asNumber?_ofNumber (n : Number) : (ofNumber n).asNumber? = some n := by
  cases n <;> rfl

/-- A number or nothing. -/
def ofNumber? : Option Number → Value
  | some n => ofNumber n
  | none => .null

/-- A text or nothing. -/
def ofText? : Option String → Value
  | some s => .text s
  | none => .null

/-- The entries of a mapping. -/
def asEntries? : Value → Option Entries
  | .map entries => some entries
  | _ => none

/-- Whether a value is exactly true. -/
def isTrue : Value → Bool
  | .bool b => b
  | _ => false

/-- Whether a value is exactly false. -/
def isFalse : Value → Bool
  | .bool b => !b
  | _ => false

/-- Whether a value is null. -/
def isNull : Value → Bool
  | .null => true
  | _ => false

theorem isNull_iff {v : Value} : v.isNull = true ↔ v = .null := by
  cases v <;> simp [isNull]

/-- A text is not null. -/
theorem isNull_of_asText? {v : Value} {text : String} (htext : v.asText? = some text) :
    v.isNull = false := by
  cases v <;> first | rfl | contradiction

/-- The items of a sequence of any values. -/
def asSequence? : Value → Option (List Value)
  | .list items => some items
  | .tuple items => some items
  | .deque items => some items
  | _ => none

/-- Whether a value can be called: functions and types can. -/
def isCallable : Value → Bool
  | .function _ _ _ _ => true
  | .typeName _ => true
  | .formatCheck _ => true
  | _ => false

/-- Whether a value counts as true: it is not null, false, zero or empty. -/
def truthy : Value → Bool
  | .null => false
  | .bool b => b
  | .int n => n != 0
  | .float x => !x.isZero
  | .complex re im => !re.isZero || !im.isZero
  | .text s => !s.isEmpty
  | .bytes data => !data.isEmpty
  | .list items => !items.isEmpty
  | .tuple items => !items.isEmpty
  | .deque items => !items.isEmpty
  | .set items => !items.isEmpty
  | .map entries => !entries.isEmpty
  | _ => true

/-! ## Equality -/

/-- A truth value or a number as a number. -/
def numeric? : Value → Option Number
  | .bool b => some (.int (if b then 1 else 0))
  | .int n => some (.int n)
  | .float x => some (.float x)
  | _ => none

/-- Equality of points in time: by universal time when both offsets are known. -/
def sameMoment (a b : DateTime) : Bool :=
  match a.instant?, b.instant? with
  | some x, some y => x == y
  | none, none => a == b
  | _, _ => false

/-- Equality of times of day: by universal time when both offsets are known. -/
def sameTime (a b : TimeOfDay) : Bool :=
  match a.offset, b.offset with
  | some x, some y => a.sinceMidnight - x.micros == b.sinceMidnight - y.micros
  | none, none => a == b
  | _, _ => false

mutual

/-- Equality of contents.  Truth values and numbers are equal by value, lists and tuples item by
item, mappings and sets whatever their order; functions and records are equal to themselves. -/
def equals : Value → Value → Bool
  | .null, .null => true
  | .bool a, b => numericEquals (.bool a) b
  | .int a, b => numericEquals (.int a) b
  | .float a, b => numericEquals (.float a) b
  | .complex re im, b => complexEquals re im b
  | .text a, b => b.asText? == some a
  | .canonical a, b => b.asText? == some a.label
  | .bytes a, .bytes b => a == b
  | .list a, .list b => listEquals a b
  | .tuple a, .tuple b => listEquals a b
  | .deque a, .deque b => listEquals a b
  | .set a, .set b => a.length == b.length && allWithin a b
  | .map a, .map b => a.length == b.length && entriesWithin a b
  | .dateTime a, .dateTime b => sameMoment a b
  | .date a, .date b => a == b
  | .time a, .time b => sameTime a b
  | .objectId a, .objectId b => a == b
  | .pattern a f, .pattern b g => a == b && f == g
  | .bytesPattern a f, .bytesPattern b g => a == b && f == g
  | .typeName a, .typeName b => a == b
  | .errorCode a, .errorCode b => a == b
  | .brokenText a, .brokenText b => a == b
  | .member a, .member b => a.identity == b.identity
  | .spec a m, .spec b n => equals a b && pairsEqual m n
  | .shorthand a m, .shorthand b n => equals a b && pairsEqual m n
  | .function a _ _ _, .function b _ _ _ => a == b
  | .record a _, .record b _ => a == b
  | .formatCheck a, .formatCheck b => a == b
  | .middleware a b, .middleware c d => equals a c && equals b d
  | .storageOptions a b c d, .storageOptions a' b' c' d' =>
    equals a a' && equals b b' && equals c c' && equals d d'
  | _, _ => false
where
  /-- Equality by value of what has one. -/
  numericEquals (a b : Value) : Bool :=
    match a.numeric?, b with
    | some x, .complex re im => im.isZero && x.valueEq (.float re)
    | some x, b => b.numeric?.any x.valueEq
    | none, _ => false
  /-- Equality of a complex number to what has a value. -/
  complexEquals (re im : Binary64) (b : Value) : Bool :=
    match b with
    | .complex re' im' => (Number.float re).valueEq (.float re') &&
        (Number.float im).valueEq (.float im')
    | b => im.isZero && b.numeric?.any (Number.float re).valueEq

/-- Equality item by item. -/
def listEquals : List Value → List Value → Bool
  | [], [] => true
  | a :: as, b :: bs => equals a b && listEquals as bs
  | _, _ => false

/-- Whether every item of the first list equals one of the second. -/
def allWithin : List Value → List Value → Bool
  | [], _ => true
  | a :: as, bs => bs.any (fun b => equals a b) && allWithin as bs

/-- Equality entry by entry, in order. -/
def pairsEqual : List (Value × Value) → List (Value × Value) → Bool
  | [], [] => true
  | (k, v) :: as, (k', v') :: bs => equals k k' && equals v v' && pairsEqual as bs
  | _, _ => false

/-- Whether every entry of the first mapping has an equal one in the second. -/
def entriesWithin : List (Value × Value) → List (Value × Value) → Bool
  | [], _ => true
  | (k, v) :: as, bs =>
    bs.any (fun entry => equals k entry.1 && equals v entry.2) && entriesWithin as bs

end

/-! ## Keys -/

mutual

/-- Whether a value may be a key of a mapping: it cannot change, and neither can its parts. -/
def isHashable : Value → Bool
  | .list _ => false
  | .deque _ => false
  | .set _ => false
  | .map _ => false
  | .tuple items => areHashable items
  | .spec type modifiers => isHashable type && pairsHashable modifiers
  | .shorthand type modifiers => isHashable type && pairsHashable modifiers
  | .storageOptions a b c d => isHashable a && isHashable b && isHashable c && isHashable d
  | .middleware pre post => isHashable pre && isHashable post
  | .enclosing _ _ => false
  | _ => true

/-- Whether all items may be keys. -/
def areHashable : List Value → Bool
  | [] => true
  | v :: rest => isHashable v && areHashable rest

/-- Whether both parts of all pairs may be keys. -/
def pairsHashable : List (Value × Value) → Bool
  | [] => true
  | (k, v) :: rest => isHashable k && isHashable v && pairsHashable rest

end

end Value

/-! ## Mappings -/

namespace Entries

/-- The value of a key that is a text. -/
def getText? (entries : Entries) (key : String) : Option Value :=
  match entries with
  | [] => none
  | (k, v) :: rest => if k.asText? = some key then some v else getText? rest key

/-- The value of a key that is a text, null when there is none. -/
def getText (entries : Entries) (key : String) : Value := (entries.getText? key).getD .null

/-- The value of a key. -/
def get? (entries : Entries) (key : Value) : Option Value :=
  (entries.find? fun entry => entry.1.equals key).map (·.2)

/-- Sets the value of a key, which keeps its place if it is there and else comes last. -/
def insert (entries : Entries) (key value : Value) : Entries :=
  match entries with
  | [] => [(key, value)]
  | (k, v) :: rest =>
    if k.equals key then (k, value) :: rest else (k, v) :: insert rest key value

/-- The entries without a key that is a text. -/
def eraseText (entries : Entries) (key : String) : Entries :=
  entries.filter fun entry => entry.1.asText? != some key

/-- Both mappings in one; the second one's values count. -/
def append (first second : Entries) : Entries :=
  second.foldl (fun entries entry => entries.insert entry.1 entry.2) first

/-- Pairs as a mapping in which every key occurs once. -/
def ofPairs (pairs : List (Value × Value)) : Entries := append [] pairs

/-- A mapping with texts as keys. -/
def ofFields (fields : List (String × Value)) : Entries :=
  fields.map fun field => (.text field.1, field.2)

end Entries

namespace Value

/-- A mapping with texts as keys, which are all different. -/
def ofFields (fields : List (String × Value)) : Value := .map (Entries.ofFields fields)

end Value

end FieldSchema
