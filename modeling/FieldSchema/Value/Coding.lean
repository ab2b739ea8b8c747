import FieldSchema.Text.Decoding
import FieldSchema.Value.Conversion

/-!
# Codings

Texts become bytes, and bytes texts, under a coding that is named.  A policy, which is named too,
says what happens to what the coding cannot express: it is refused, left out, or replaced.

* `TextCoding.read`: the text of bytes.
* `TextCoding.write`: the bytes of a text.
* `TypeName.convertWith`: what a type makes of a value with more arguments.
-/

namespace FieldSchema

/-- How characters are written as bytes. -/
inductive TextCoding where
  | utf8
  /-- One byte for each of the first characters, whose number is this. -/
  | single (count : Nat)
  deriving DecidableEq, Repr, Inhabited

namespace TextCoding

/-- A name of a coding: small letters, and one line for everything between letters and digits. -/
def plainName (name : String) : List Char :=
  (join false name.toList).map Binary64.lowerAscii
where
  /-- Letters and digits with lines between groups of them. -/
  join (pending : Bool) : List Char → List Char
    | [] => []
    | c :: rest =>
      if c.isAlphanum || c == '.' then (if pending then ['_', c] else [c]) ++ join false rest
      else join true rest

/-- The coding of a name. -/
def ofName? (name : String) : Option TextCoding :=
  let name := String.ofList (plainName name)
  if ["utf_8", "utf8", "u8", "utf", "cp65001"].contains name then some .utf8
  else if ["ascii", "us_ascii", "646"].contains name then some (.single 0x80)
  else if ["latin_1", "latin1", "latin", "l1", "iso_8859_1", "iso8859_1", "8859", "cp819"].contains
      name then some (.single 0x100)
  else none

/-- Bytes as pieces. -/
def pieces (coding : TextCoding) (data : List UInt8) : List Text.BytePiece :=
  match coding with
  | .utf8 => Text.piecesOfBytes data
  | .single count =>
    data.map fun b => if b.toNat < count then .char (Char.ofNat b.toNat) else .broken [b]

/-- The bytes of a character, if the coding has it. -/
def bytesOf? (coding : TextCoding) (c : Char) : Option (List UInt8) :=
  match coding with
  | .utf8 => some c.toString.toUTF8.toList
  | .single count => if c.toNat < count then some [UInt8.ofNat c.toNat] else none

/-! ## Policies -/

/-- A text that a coding cannot express. -/
def notExpressed : Raised := { kind := "UnicodeEncodeError" }

/-- Bytes that are no text. -/
def notText : Raised := { kind := "UnicodeDecodeError" }

/-- A name that is not known. -/
def unknownName : Raised := { kind := "LookupError" }

/-- What a policy makes of bytes that form no character. -/
def mendBytes (policy : String) (data : List UInt8) : Except Raised (List Char) :=
  if policy == "strict" then .error notText
  else if policy == "ignore" then .ok []
  else if policy == "replace" then .ok [Text.brokenMark]
  else if policy == "backslashreplace" then
    .ok (data.flatMap fun b => ['\\', 'x'] ++ Text.hexFixed 2 b.toNat)
  else if policy == "xmlcharrefreplace" || policy == "namereplace" then .error .wrongType
  else .error unknownName

/-- What a policy makes of a character that a coding does not have. -/
def mendChar (policy : String) (c : Char) : Except Raised (List Char) :=
  let n := c.toNat
  if policy == "strict" then .error notExpressed
  else if policy == "ignore" then .ok []
  else if policy == "replace" then .ok ['?']
  else if policy == "backslashreplace" then
    .ok (if n < 0x100 then ['\\', 'x'] ++ Text.hexFixed 2 n
      else if n < 0x10000 then ['\\', 'u'] ++ Text.hexFixed 4 n
      else ['\\', 'U'] ++ Text.hexFixed 8 n)
  else if policy == "xmlcharrefreplace" then .ok (['&', '#'] ++ (toString n).toList ++ [';'])
  else .error unknownName

/-! ## Reading and writing -/

/-- The text of bytes. -/
def read (coding : TextCoding) (policy : String) (data : List UInt8) : Except Raised String := do
  let parts ← (coding.pieces data).mapM fun
    | .char c => pure [c]
    | .broken bytes => mendBytes policy bytes
  pure (String.ofList parts.flatten)

/-- The bytes of a text. -/
def write (coding : TextCoding) (policy : String) (text : String) : Except Raised (List UInt8) := do
  let parts ← text.toList.mapM fun c =>
    match coding.bytesOf? c with
    | some bytes => pure bytes
    | none => return (← mendChar policy c).map fun c => UInt8.ofNat c.toNat
  pure parts.flatten

/-- The names of a coding and of a policy among arguments; usually everything is refused. -/
def ofArguments (arguments : List Value) : Except Raised (String × String) := do
  match ← arguments.mapM nameOf with
  | [name] => pure (name, "strict")
  | [name, policy] => pure (name, policy)
  | _ => throw .wrongType
where
  /-- The name that an argument is. -/
  nameOf (v : Value) : Except Raised String :=
    match v.asText? with
    | none => .error .wrongType
    | some name =>
      if name.contains (Char.ofNat 0) then .error (.badValue "embedded null character")
      else .ok name

/-- The coding of a name, which has to be known. -/
def named (name : String) : Except Raised TextCoding :=
  match ofName? name with
  | some coding => .ok coding
  | none => .error unknownName

end TextCoding

/-! ## Types with more arguments -/

namespace TypeName

/-- What a type makes of a value and at least one more argument.  Dates and times take their parts,
texts and bytes a coding, and whole numbers a base. -/
def convertWith (t : TypeName) (v : Value) (more : List Value) : Except Raised Value :=
  match t, v, more with
  | .int, v, [base] => (v.toIntInBase base).map .int
  | .complex, v, [other] => v.toComplexWith other
  | .date, v, more => (Value.toDate (v :: more)).map .date
  | .dateTime, v, more => (Value.toDateTime (v :: more)).map .dateTime
  | .time, v, more => (Value.toTime (v :: more)).map .time
  | .text, .bytes data, more => do
    let (name, policy) ← TextCoding.ofArguments more
    if data.isEmpty then pure (.text "")
    else return .text (← (← TextCoding.named name).read policy data)
  | .bytes, v, more => do
    let (name, policy) ← TextCoding.ofArguments more
    match v.asText? with
    | some s => return .bytes (← (← TextCoding.named name).write policy s)
    | none => throw .wrongType
  | .canonicalType, v, [.null] => v.toCategory.map .canonical
  | _, _, _ => .error .wrongType

/-- What a type makes of arguments. -/
def make (t : TypeName) : List Value → Except Raised Value
  | [] => t.emptyValue?.elim (.error .wrongType) .ok
  | [v] => t.convert v
  | v :: more => t.convertWith v more

end TypeName

end FieldSchema
