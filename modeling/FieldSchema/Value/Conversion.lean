import FieldSchema.Number.Numeral
import FieldSchema.ObjectId
import FieldSchema.Value.Display
import FieldSchema.Value.Raised

/-!
# Conversions

A type makes values of its own out of other values: numbers out of numerals, sequences out of
whatever has items, mappings out of pairs.  A value that does not fit is refused, with the kind of
the failure and, where it is known what is wrong, in words.

* `Value.items?`: the items of a value, one after the other.
* `Value.toEntries`: the mapping that a value stands for.
* `TypeName.convert`: what a type makes of a value.
-/

namespace FieldSchema

namespace Value

/-! ## Items and entries -/

/-- The name of the type of a parametrised type. -/
def unpackedTypeLabel : String := TypeName.typeLabel .listOfText

/-- A parametrised type in the place of the types that it stands for: its only item, and that of
itself. -/
def unpackedType : Value := .other unpackedTypeLabel

/-- The items of a value, one after the other: letters of texts, numbers of bytes, keys of
mappings, modifiers of field specifications. -/
def items? : Value → Option (List Value)
  | .text s => some (s.toList.map fun c => .text c.toString)
  | .canonical t => some (t.label.toList.map fun c => .text c.toString)
  | .bytes data => some (data.map fun b => .int b.toNat)
  | .list items => some items
  | .tuple items => some items
  | .deque items => some items
  | .set items => some items
  | .map entries => some (entries.map (·.1))
  | .spec _ modifiers => some (modifiers.map fun pair => .tuple [pair.1, pair.2])
  | .typeName .canonicalType => some (CanonicalType.all.map .canonical)
  | .typeName .listOfText => some [unpackedType]
  | .other label => if label == unpackedTypeLabel then some [unpackedType] else none
  | _ => none

/-- The items of a value, or the failure that it has none. -/
def items (v : Value) : Except Raised (List Value) :=
  match v.items? with
  | some items => .ok items
  | none => .error .wrongType

/-- A list in which every item occurs once; all items have to be possible keys. -/
def distinct (items : List Value) : Except Raised (List Value) :=
  if items.all isHashable then
    .ok (items.foldl (fun found v => if found.any (·.equals v) then found else found ++ [v]) [])
  else .error .wrongType

/-- A set of items; all of them have to be possible keys. -/
def ofItems (items : List Value) : Except Raised Value := (distinct items).map .set

/-- A mapping of pairs, of which later values of a key count; all keys have to be possible. -/
def ofPairs (pairs : List (Value × Value)) : Except Raised Value :=
  if pairs.all fun pair => pair.1.isHashable then .ok (.map (Entries.ofPairs pairs))
  else .error .wrongType

/-- What is wrong with an item of a list of pairs that does not have two parts. -/
def pairLengthText (index length : Nat) : String :=
  "dictionary update sequence element #" ++ toString index ++ " has length " ++ toString length ++
    "; 2 is required"

/-- The mapping that pairs form after the entries before them; later values of a key count. -/
def entriesOfPairs (found : Entries) : Nat → List Value → Except Raised Entries
  | _, [] => .ok found
  | index, pair :: rest =>
    match pair.items? with
    | none => .error .wrongType
    | some [key, v] =>
      if key.isHashable then entriesOfPairs (Entries.insert found key v) (index + 1) rest
      else .error .wrongType
    | some parts => .error (.badValue (pairLengthText index parts.length))

/-- The mapping that a value stands for: a mapping itself, or pairs. -/
def toEntries : Value → Except Raised Entries
  | .map entries => .ok entries
  | v => do entriesOfPairs [] 0 (← v.items)

/-! ## Scalars -/

/-- The number of a truth value or a whole number. -/
def asIndex? : Value → Option Int
  | .bool b => some (if b then 1 else 0)
  | .int n => some n
  | _ => none

/-- The most digits of a numeral that is read. -/
def digitLimit : Nat := 4300

/-- What is wrong with a numeral that has too many digits. -/
def tooManyDigits (count : Nat) : Raised :=
  .badValue ("Exceeds the limit (" ++ toString digitLimit ++
    " digits) for integer string conversion: value has " ++ toString count ++
    " digits; use sys.set_int_max_str_digits() to increase the limit")

/-- The whole number of a numeral; diagnostics show at most two hundred characters of it. -/
def intOfNumeral (shown : String) (chars : List Char) : Except Raised Int :=
  match Number.ofNumeral? chars with
  | some n =>
    let count := Number.digitCount chars
    if count > digitLimit then .error (tooManyDigits count) else .ok n
  | none => .error (.badValue ("invalid literal for int() with base 10: " ++
      String.ofList (shown.toList.take 200)))

/-- A value as a whole number: doubles are cut off toward zero, numerals are read. -/
def toInt (v : Value) : Except Raised Int :=
  match v with
  | .bool b => .ok (if b then 1 else 0)
  | .int n => .ok n
  | .float .notANumber => .error (.badValue "cannot convert float NaN to integer")
  | .float x =>
    match x.truncate? with
    | some n => .ok n
    | none => .error .outOfRange
  | .bytes data => intOfNumeral v.written (Numeral.ofBytes data)
  | v =>
    match v.asText? with
    | some s => intOfNumeral v.written (Numeral.normal s)
    | none => .error .wrongType

/-- The base of numerals that a value states. -/
def toBase (v : Value) : Except Raised Nat :=
  match v.asIndex? with
  | none => .error .wrongType
  | some n =>
    if n = 0 || (2 ≤ n && n ≤ 36) then .ok n.toNat
    else .error (.badValue "int() base must be >= 2 and <= 36, or 0")

/-- The whole number of a numeral in a base.  Bases that are powers of two have no limit. -/
def toIntInBase (v base : Value) : Except Raised Int := do
  let base ← base.toBase
  let chars ←
    match v, v.asText? with
    | .bytes data, _ => pure (Numeral.ofBytes data)
    | _, some s => pure (Numeral.normal s)
    | _, none => throw .wrongType
  match Number.ofNumeralInBase? base chars with
  | none => .error (.badValue ("invalid literal for int() with base " ++ toString base ++ ": " ++
      String.ofList (v.written.toList.take 200)))
  | some (n, count) =>
    if count > digitLimit && !(base ∈ [2, 4, 8, 16, 32]) then .error (tooManyDigits count)
    else pure n

/-- A truth value or a number as a double, if it is one of those. -/
def double? (v : Value) : Option (Except Raised Binary64) :=
  v.numeric?.map fun n =>
    match n.toBinary64? with
    | some x => .ok x
    | none => .error .outOfRange

/-- A value as a double: numerals are read. -/
def toDouble (v : Value) : Except Raised Binary64 :=
  let read (chars : List Char) : Except Raised Binary64 :=
    match Binary64.ofNumeral? chars with
    | some x => .ok x
    | none => .error (.badValue ("could not convert string to float: " ++ v.written))
  match v.double?, v with
  | some made, _ => made
  | none, .bytes data => read (Numeral.ofBytes data)
  | none, v =>
    match v.asText? with
    | some s => read (Numeral.normal s)
    | none => .error .wrongType

/-- A value as a complex number: numerals are read. -/
def toComplex (v : Value) : Except Raised Value :=
  match v with
  | .complex re im => .ok (.complex re im)
  | v =>
    match v.double?, v.asText? with
    | some made, _ => made.map fun x => .complex x .zero
    | none, some s =>
      let chars := Numeral.normal s
      match Binary64.pairOfNumeral? chars with
      | some (re, im) => .ok (.complex re im)
      | none =>
        if (Numeral.joinDigits? false chars).isSome then
          .error (.badValue "complex() arg is a malformed string")
        else .error (.badValue ("could not convert string to complex: " ++ v.written))
    | none, none => .error .wrongType

/-- The complex number of a first part and a second one, each of which may be complex too. -/
def toComplexWith (re im : Value) : Except Raised Value := do
  let isComplex (v : Value) : Bool :=
    match v with
    | .complex _ _ => true
    | _ => false
  let isPart (v : Value) : Bool := isComplex v || v.numeric?.isSome
  if !(isPart re && isPart im) then throw .wrongType
  let (a, b) ← parts re
  let (c, d) ← parts im
  pure (.complex (if isComplex im then a.sub d else a) (if isComplex re then b.add c else c))
where
  /-- Both parts of a number. -/
  parts (v : Value) : Except Raised (Binary64 × Binary64) :=
    match v with
    | .complex re im => .ok (re, im)
    | v => (v.double?.getD (.error .wrongType)).map fun x => (x, .zero)

/-- A byte by its number. -/
def toByte (v : Value) : Except Raised UInt8 :=
  match v.asIndex? with
  | none => .error .wrongType
  | some n =>
    if 0 ≤ n && n < 256 then .ok (UInt8.ofNat n.toNat)
    else .error (.badValue "bytes must be in range(0, 256)")

/-- A value as bytes: a number is the count of zeros, and items are numbers of bytes. -/
def toBytes (v : Value) : Except Raised (List UInt8) :=
  match v with
  | .bytes data => .ok data
  | v =>
    match v.asIndex?, v.asText?, v.items? with
    | some n, _, _ =>
      if n ≥ 0x8000000000000000 || n < -0x8000000000000000 then .error .outOfRange
      else if n < 0 then .error (.badValue "negative count")
      else .ok (List.replicate n.toNat 0)
    | none, none, some items => items.mapM toByte
    | _, _, _ => .error .wrongType

/-- A number among the parts of a date or a time, which fits a machine word. -/
def toPart (v : Value) : Except Raised Int :=
  match v.asIndex? with
  | none => .error .wrongType
  | some n => if n < -0x80000000 || n ≥ 0x80000000 then .error .outOfRange else .ok n

/-- A number in a closed range, or the failure that it lies outside. -/
def partWithin (n : Int) (most : Nat) (text : String) : Except Raised Nat :=
  if 0 ≤ n && n ≤ Int.ofNat most then .ok n.toNat else .error (.badValue text)

/-- The time of day of an hour, a minute, a second and microseconds; what is left out is zero.  A
fifth part may say that there is no zone. -/
def toTime (parts : List Value) : Except Raised TimeOfDay := do
  let numbers ← (parts.take 4).mapM toPart
  let part (index : Nat) : Int := numbers[index]?.getD 0
  if parts.length > 5 || (parts.drop 4).any (!·.isNull) then .error .wrongType
  else
    let hour ← partWithin (part 0) 23 "hour must be in 0..23"
    let minute ← partWithin (part 1) 59 "minute must be in 0..59"
    let second ← partWithin (part 2) 59 "second must be in 0..59"
    let micros ← partWithin (part 3) 999999 "microsecond must be in 0..999999"
    pure ⟨hour, minute, second, micros, none⟩

/-- The day of a year, a month and a day of the month. -/
def toDate (parts : List Value) : Except Raised Date := do
  let numbers ← parts.mapM toPart
  match numbers with
  | [year, month, day] =>
    if year < 1 || year > 9999 then
      .error (.badValue ("year " ++ toString year ++ " is out of range"))
    else if month < 1 || month > 12 then .error (.badValue "month must be in 1..12")
    else
      let d : Date := ⟨year.toNat, month.toNat, day.toNat⟩
      if day < 1 || !d.isValid then .error (.badValue "day is out of range for month") else pure d
  | _ => .error .wrongType

/-- The point in time of the parts of a day and of a time of day. -/
def toDateTime (parts : List Value) : Except Raised DateTime := do
  let _ ← (parts.take 7).mapM toPart
  let date ← toDate (parts.take 3)
  let time ← toTime (parts.drop 3)
  pure ⟨date, time⟩

/-- The object identifier of twelve bytes or of a text. -/
def toIdentifier (v : Value) : Except Raised String :=
  match v with
  | .objectId digits => .ok digits
  | .bytes data => if data.length = 12 then .ok (Text.hexText data) else .error .wrongType
  | v =>
    match v.asText? with
    | none => .error .wrongType
    | some s =>
      match ObjectId.read? s with
      | some data => .ok (Text.hexText data)
      | none => .error .badIdentifier

/-- The category of a label. -/
def toCategory (v : Value) : Except Raised CanonicalType :=
  match v.asText?.bind CanonicalType.ofLabel? with
  | some t => .ok t
  | none => .error (.badValue (v.written ++ " is not a valid CanonicalType"))

end Value

/-! ## Types -/

namespace TypeName

/-- What a type makes of no argument, for types that make something. -/
def emptyValue? : TypeName → Option Value
  | .text => some (.text "")
  | .int => some (.int 0)
  | .float => some (.float .zero)
  | .bool => some (.bool false)
  | .list => some (.list [])
  | .listOfText => some (.list [])
  | .dict => some (.map [])
  | .bytes => some (.bytes [])
  | .set => some (.set [])
  | .tuple => some (.tuple [])
  | .null => some .null
  | .complex => some (.complex .zero .zero)
  | .object => some (.other "object")
  | .time => some (.time .midnight)
  | _ => none

/-- What a type makes of a value. -/
def convert (t : TypeName) (v : Value) : Except Raised Value :=
  match t with
  | .text => .ok (.text v.displayed)
  | .int => v.toInt.map .int
  | .float => v.toDouble.map .float
  | .bool => .ok (.bool v.truthy)
  | .list => v.items.map .list
  | .listOfText => v.items.map .list
  | .tuple => v.items.map .tuple
  | .set => do Value.ofItems (← v.items)
  | .dict => v.toEntries.map .map
  | .bytes => v.toBytes.map .bytes
  | .complex => v.toComplex
  | .time => (Value.toTime [v]).map .time
  | .objectId => v.toIdentifier.map .objectId
  | .canonicalType => v.toCategory.map .canonical
  | .date => do
    let _ ← v.toPart
    .error .wrongType
  | .dateTime => do
    let _ ← v.toPart
    .error .wrongType
  | _ => .error .wrongType

end TypeName

end FieldSchema
