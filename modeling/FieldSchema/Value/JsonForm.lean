import FieldSchema.Calendar.IsoText
import FieldSchema.Text.Order
import FieldSchema.Value.Display

/-!
# JSON forms

Documented schemas show values in JSON.  Sequences and sets become lists, bytes become the text
that they encode, points in time their text with the letter Z for universal time.  Values such as
functions, types and object identifiers have no JSON form, and neither has what contains one.

* `Value.jsonForm?`: the JSON form of a value.
* `Value.sortKeys`: the form with the keys of every object in order, but for objects whose own key
  says that their order matters.
-/

namespace FieldSchema

namespace Value

/-! ## Forms -/

/-- The offset of a time in JSON. -/
def jsonOffset : Option Offset → String
  | none => ""
  | some o =>
    if o.micros == 0 then "Z"
    else
      let minutes := (o.micros.natAbs / 60000000)
      (if o.micros < 0 then "-" else "+") ++ twoDigits (minutes / 60) ++ ":" ++
        twoDigits (minutes % 60)
where
  /-- A number in two digits. -/
  twoDigits (n : Nat) : String := (if n < 10 then "0" else "") ++ toString n

/-- A time of day in JSON. -/
def jsonTime (t : TimeOfDay) : String :=
  TimeOfDay.toText { t with offset := none } ++ jsonOffset t.offset

/-- A point in time in JSON. -/
def jsonDateTime (t : DateTime) : String := t.date.toText ++ "T" ++ jsonTime t.time

/-- Bytes in JSON. -/
def jsonBytes? (data : List UInt8) : Option String := String.fromUTF8? ⟨data.toArray⟩

mutual

/-- The key of an entry in JSON; the keys of the parts of a tuple stand with commas between them. -/
def jsonKey? : Value → Option String
  | .null => some "None"
  | .bool b => some (if b then "true" else "false")
  | .int n => some (toString n)
  | .float x => some x.toText
  | .text s => some s
  | .canonical t => some t.label
  | .errorCode code => some (toString code.number)
  | .bytes data => jsonBytes? data
  | .dateTime t => some (jsonDateTime t)
  | .date d => some d.toText
  | .time t => some (jsonTime t)
  | .pattern source _ => some source
  | .tuple items => (jsonKeys? items).map fun keys => ",".intercalate keys
  | _ => none

/-- The keys of items in JSON. -/
def jsonKeys? : List Value → Option (List String)
  | [] => some []
  | v :: rest =>
    match jsonKey? v, jsonKeys? rest with
    | some key, some keys => some (key :: keys)
    | _, _ => none

end

mutual

/-- The JSON form of a value. -/
def jsonForm? : Value → Option Value
  | .null => some .null
  | .bool b => some (.bool b)
  | .int n => some (.int n)
  | .float x => some (.float x)
  | .text s => some (.text s)
  | .canonical t => some (.text t.label)
  | .errorCode code => some (.int code.number)
  | .bytes data => (jsonBytes? data).map .text
  | .list items => (jsonFormOfList? items).map .list
  | .tuple items => (jsonFormOfList? items).map .list
  | .set items => (jsonFormOfList? items).map .list
  | .map entries => (jsonFormOfEntries? entries).map fun entries => .map (Entries.ofPairs entries)
  | .dateTime t => some (.text (jsonDateTime t))
  | .date d => some (.text d.toText)
  | .time t => some (.text (jsonTime t))
  | .pattern source _ => some (.text source)
  | .spec type modifiers =>
    match jsonForm? type, jsonFormOfPairs? modifiers with
    | some type, some modifiers => some (specForm type modifiers)
    | _, _ => none
  | .shorthand type modifiers =>
    match jsonForm? type, jsonFormOfPairs? modifiers with
    | some type, some modifiers => some (.ofFields [("item", specForm type modifiers)])
    | _, _ => none
  | _ => none
where
  /-- The JSON form of a field specification by those of its parts. -/
  specForm (type : Value) (modifiers : List Value) : Value :=
    .ofFields [("type", type), ("modifiers", .list modifiers)]

/-- The JSON forms of items. -/
def jsonFormOfList? : List Value → Option (List Value)
  | [] => some []
  | v :: rest =>
    match jsonForm? v, jsonFormOfList? rest with
    | some form, some forms => some (form :: forms)
    | _, _ => none

/-- The JSON forms of pairs, each a list of two. -/
def jsonFormOfPairs? : List (Value × Value) → Option (List Value)
  | [] => some []
  | (k, v) :: rest =>
    match jsonForm? k, jsonForm? v, jsonFormOfPairs? rest with
    | some key, some form, some forms => some (.list [key, form] :: forms)
    | _, _, _ => none

/-- The JSON forms of entries. -/
def jsonFormOfEntries? : List (Value × Value) → Option (List (Value × Value))
  | [] => some []
  | (k, v) :: rest =>
    match jsonKey? k, jsonForm? v, jsonFormOfEntries? rest with
    | some name, some form, some forms => some ((.text name, form) :: forms)
    | _, _, _ => none

end

/-! ## Order of keys -/

/-- Entries in the order of their keys. -/
def inKeyOrder (entries : Entries) : Entries :=
  entries.mergeSort fun a b => Text.precedes a.1.displayed b.1.displayed

/-- Whether the entries under a key keep their order. -/
def keepsOrder (key : String) : Bool := key == "properties" || key == "default"

mutual

/-- A value that stands under a key, with the keys of all objects in order. -/
def sortKeys (parent : String) : Value → Value
  | .map entries =>
    let sorted := sortKeysOfEntries entries
    .map (if keepsOrder parent then sorted else inKeyOrder sorted)
  | .list items => .list (sortKeysOfList parent items)
  | v => v

/-- The items of a list under a key. -/
def sortKeysOfList (parent : String) : List Value → List Value
  | [] => []
  | v :: rest => sortKeys parent v :: sortKeysOfList parent rest

/-- Entries, each value under its key. -/
def sortKeysOfEntries : List (Value × Value) → List (Value × Value)
  | [] => []
  | (k, v) :: rest => (k, sortKeys k.displayed v) :: sortKeysOfEntries rest

end

end Value

end FieldSchema
