import FieldSchema.Calendar.IsoText
import FieldSchema.Text.Quoted
import FieldSchema.Value.Basic

/-!
# Values as text

Diagnostics show values in two ways: displayed, where a text is itself and a point in time has a
blank between day and time, and written, where texts are quoted and everything names its parts.

* `Value.written`: the written form.
* `Value.displayed`: the displayed form, which differs from the written one for few kinds.
* `Value.typeLabel`: the name of the type of a value.
-/

namespace FieldSchema

/-- The written form of a type. -/
def TypeName.written : TypeName → String
  | .text => "<class 'str'>"
  | .int => "<class 'int'>"
  | .float => "<class 'float'>"
  | .bool => "<class 'bool'>"
  | .dateTime => "<class 'datetime.datetime'>"
  | .date => "<class 'datetime.date'>"
  | .list => "<class 'list'>"
  | .dict => "<class 'dict'>"
  | .objectId => "<class 'bson.objectid.ObjectId'>"
  | .any => "typing.Any"
  | .object => "<class 'object'>"
  | .mapping => "<class 'collections.abc.Mapping'>"
  | .bytes => "<class 'bytes'>"
  | .set => "<class 'set'>"
  | .tuple => "<class 'tuple'>"
  | .complex => "<class 'complex'>"
  | .time => "<class 'datetime.time'>"
  | .null => "<class 'NoneType'>"
  | .listOfText => "list[str]"
  | .typingMapping => "typing.Mapping"
  | .pattern => "<class 're.Pattern'>"
  | .canonicalType => "<enum 'CanonicalType'>"

/-- The name of the type of a type. -/
def TypeName.typeLabel : TypeName → String
  | .any => "_AnyMeta"
  | .mapping => "ABCMeta"
  | .listOfText => "GenericAlias"
  | .typingMapping => "_SpecialGenericAlias"
  | .canonicalType => "EnumType"
  | _ => "type"

namespace Value

/-- The type of the mark of a field without a value. -/
def absentLabel : String := "_Absent"

/-- The type of the mark of an input that does not exist. -/
def undefinedLabel : String := "PydanticUndefinedType"

/-- How something that is known by its type alone is written: marks by a name, and what unpacking
a type of items gives as that type with a star. -/
def writtenObject (label : String) : String :=
  if label == absentLabel then "ABSENT"
  else if label == undefinedLabel then "PydanticUndefined"
  else if label == TypeName.typeLabel .listOfText then "*" ++ TypeName.written .listOfText
  else "<" ++ label ++ " object>"

/-- A value, unless it is the mark of a field without one. -/
def unlessAbsent : Value → Option Value
  | .other label => if label == absentLabel then none else some (.other label)
  | v => some v

/-- The name of the type of a value. -/
def typeLabel : Value → String
  | .null => "NoneType"
  | .bool _ => "bool"
  | .int _ => "int"
  | .float _ => "float"
  | .complex _ _ => "complex"
  | .text _ => "str"
  | .brokenText _ => "str"
  | .bytes _ => "bytes"
  | .list _ => "list"
  | .tuple _ => "tuple"
  | .deque _ => "deque"
  | .set _ => "set"
  | .map _ => "dict"
  | .dateTime _ => "datetime"
  | .date _ => "date"
  | .time _ => "time"
  | .objectId _ => "ObjectId"
  | .pattern _ _ => "Pattern"
  | .bytesPattern _ _ => "Pattern"
  | .typeName t => t.typeLabel
  | .canonical _ => "CanonicalType"
  | .errorCode _ => "ErrorCode"
  | .member m => m.className
  | .spec _ _ => "FieldSpec"
  | .shorthand _ _ => "ArrayShorthand"
  | .function _ _ _ _ => "function"
  | .record _ _ => "Bag"
  | .unreadable _ => "object"
  | .rejection _ _ => "ValidationError"
  | .storageOptions _ _ _ _ => "PersistenceOptions"
  | .middleware _ _ => "Middleware"
  | .formatCheck _ => "FormatCheck"
  | .enclosing _ isMapping => if isMapping then "dict" else "list"
  | .other label => label

/-! ## Parts of written forms -/

/-- A truth value. -/
def boolText (b : Bool) : String := if b then "True" else "False"

/-- A part of a complex number: without a fraction that is zero, and with a sign if asked for. -/
def writtenPart (x : Binary64) (signed : Bool) : String :=
  let chars := x.toText.toList
  let short := if ['0', '.'].isPrefixOf chars.reverse then chars.take (chars.length - 2) else chars
  String.ofList (if signed && short.head? != some '-' then '+' :: short else short)

/-- A complex number; the first part is left out while it is zero without a sign. -/
def writtenComplex (re im : Binary64) : String :=
  if re.isZero && re.toText.toList.head? != some '-' then writtenPart im false ++ "j"
  else "(" ++ writtenPart re false ++ writtenPart im true ++ "j)"

/-- The seconds and microseconds of a time of day, left out from the end while they are zero. -/
def writtenSeconds (t : TimeOfDay) : String :=
  if t.micros != 0 then ", " ++ toString t.second ++ ", " ++ toString t.micros
  else if t.second != 0 then ", " ++ toString t.second
  else ""

/-- An offset as days, seconds and microseconds of a duration. -/
def writtenOffset (o : Offset) : String :=
  if o.micros == 0 then "datetime.timezone.utc"
  else
    let days := o.micros.fdiv microsPerDay
    let rest := o.micros.fmod microsPerDay
    let parts :=
      (if days == 0 then [] else ["days=" ++ toString days]) ++
        (if rest / 1000000 == 0 then [] else ["seconds=" ++ toString (rest / 1000000)]) ++
        (if rest % 1000000 == 0 then [] else ["microseconds=" ++ toString (rest % 1000000)])
    "datetime.timezone(datetime.timedelta(" ++ ", ".intercalate parts ++ "))"

/-- The offset of a time, named, or nothing. -/
def writtenZone (t : TimeOfDay) : String :=
  match t.offset with
  | some o => ", tzinfo=" ++ writtenOffset o
  | none => ""

/-- The names of flags in a written pattern. -/
def writtenFlags (f : Flags) (isText : Bool) : List String :=
  (if f.template then ["re.TEMPLATE"] else []) ++
    (if f.ignoreCase then ["re.IGNORECASE"] else []) ++
    (if f.multiline then ["re.MULTILINE"] else []) ++
    (if f.dotAll then ["re.DOTALL"] else []) ++
    (if f.unicode && !isText then ["re.UNICODE"] else []) ++
    (if f.verbose then ["re.VERBOSE"] else []) ++
    (if f.ascii then ["re.ASCII"] else [])

/-- A written pattern; of the source at most two hundred characters are shown. -/
def writtenPattern (quoted : String) (flags : List String) : String :=
  "re.compile(" ++ String.ofList (quoted.toList.take 200) ++
    (if flags.isEmpty then "" else ", " ++ "|".intercalate flags) ++ ")"

/-- Parts between brackets, with commas between them. -/
def bracketed (left right : String) (parts : List String) : String :=
  left ++ ", ".intercalate parts ++ right

/-- The parts of a tuple, which has a comma even when it has one part. -/
def writtenTuple : List String → String
  | [part] => "(" ++ part ++ ",)"
  | parts => bracketed "(" ")" parts

/-- The name of a kind of function. -/
def functionName : FunctionKind → String
  | .constant => "const"
  | .counter => "counter"
  | .raising => "raise"
  | .hook => "hook"
  | .getter => "get"
  | .setter => "set"
  | .describe => "repr"
  | .wrap => "wrap"
  | .outside name _ => name

/-! ## Written and displayed forms -/

mutual

/-- The written form of a value. -/
def written : Value → String
  | .null => "None"
  | .bool b => boolText b
  | .int n => toString n
  | .float x => x.toText
  | .complex re im => writtenComplex re im
  | .text s => Text.quote s
  | .brokenText broken => broken.quoted
  | .bytes data => Text.quoteBytes data
  | .list items => bracketed "[" "]" (writtenList items)
  | .tuple items => writtenTuple (writtenList items)
  | .deque items => bracketed "deque([" "])" (writtenList items)
  | .set items => if items.isEmpty then "set()" else bracketed "\x7b" "\x7d" (writtenList items)
  | .map entries => bracketed "\x7b" "\x7d" (writtenEntries entries)
  | .dateTime t =>
    "datetime.datetime(" ++ ", ".intercalate
        ([t.date.year, t.date.month, t.date.day, t.time.hour, t.time.minute].map toString) ++
      writtenSeconds t.time ++ writtenZone t.time ++ ")"
  | .date d =>
    "datetime.date(" ++ ", ".intercalate ([d.year, d.month, d.day].map toString) ++ ")"
  | .time t =>
    "datetime.time(" ++ ", ".intercalate ([t.hour, t.minute].map toString) ++
      writtenSeconds t ++ writtenZone t ++ ")"
  | .objectId digits => "ObjectId('" ++ digits ++ "')"
  | .pattern source flags => writtenPattern (Text.quote source) (writtenFlags flags true)
  | .bytesPattern source flags => writtenPattern (Text.quoteBytes source) (writtenFlags flags false)
  | .typeName t => t.written
  | .canonical t => t.written
  | .errorCode code => "<ErrorCode." ++ code.name ++ ": " ++ toString code.number ++ ">"
  | .member m => m.written
  | .spec type modifiers => writtenSpec (written type) (writtenPairs modifiers)
  | .shorthand type modifiers =>
    "ArrayShorthand(item=" ++ writtenSpec (written type) (writtenPairs modifiers) ++ ")"
  | .function _ _ kind _ => "<function " ++ functionName kind ++ ">"
  | .record _ _ => "<Bag object>"
  | .unreadable _ => "<object>"
  | .rejection summary _ => "ValidationError(" ++ Text.quote summary ++ ")"
  | .storageOptions schemaOptions hooks virtuals indexes =>
    "PersistenceOptions(schema_options=" ++ written schemaOptions ++ ", middleware=" ++
      written hooks ++ ", virtuals=" ++ written virtuals ++ ", indexes=" ++
      written indexes ++ ")"
  | .middleware pre post => "Middleware(pre=" ++ written pre ++ ", post=" ++ written post ++ ")"
  | .formatCheck check =>
    "FormatCheck(pattern=" ++ check.pattern.written ++ ", flags=" ++
      toString check.flags.toNat ++ ", message=" ++ Text.quote check.message ++ ")"
  | .enclosing _ isMapping => if isMapping then "\x7b...\x7d" else "[...]"
  | .other label => writtenObject label
where
  /-- A field specification by its written parts. -/
  writtenSpec (type : String) (modifiers : List String) : String :=
    "FieldSpec(type=" ++ type ++ ", modifiers=" ++ writtenTuple modifiers ++ ")"

/-- The written forms of items. -/
def writtenList : List Value → List String
  | [] => []
  | v :: rest => written v :: writtenList rest

/-- The written forms of entries of a mapping. -/
def writtenEntries : List (Value × Value) → List String
  | [] => []
  | (k, v) :: rest => (written k ++ ": " ++ written v) :: writtenEntries rest

/-- The written forms of pairs. -/
def writtenPairs : List (Value × Value) → List String
  | [] => []
  | (k, v) :: rest => ("(" ++ written k ++ ", " ++ written v ++ ")") :: writtenPairs rest

end

/-- The displayed form of a value. -/
def displayed : Value → String
  | .text s => s
  | .dateTime t => t.date.toText ++ " " ++ t.time.toText
  | .date d => d.toText
  | .time t => t.toText
  | .objectId digits => digits
  | .canonical t => t.displayed
  | .rejection summary _ => summary
  | .errorCode code => "ErrorCode." ++ code.name
  | .brokenText broken => broken.mended
  | .member m => m.displayed
  | v => v.written

end Value

end FieldSchema
