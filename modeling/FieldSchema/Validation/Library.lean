import FieldSchema.Rule.Basic
import FieldSchema.Text.Search
import FieldSchema.Validation.Verdict

/-!
# What is assumed of pydantic

Values are checked by models of pydantic, which is no part of the program.  What is assumed of its
checks of single values:

* A strict text is a text or a member of an enumeration of texts, and is handed on as a text
  (`RuleKind.checkText`).  A strict truth value is a truth value.
* A list may be given as anything that has items but a text, bytes or a mapping
  (`Value.listItems?`).  All items are checked, and paths of findings start with the index.
* A mapping is a mapping and nothing else.  Its keys have to be texts, where bytes count as the text
  that they encode, and its values are checked one by one (`RuleKind.checkMapping`).
* A function that stands after a check is called with what was accepted.  If it raises a failure
  that was made for pydantic, the finding is of its kind and in its words, with the parts filled in
  that the words name in braces (`Rule.fillMessage`).  Another failure that says that a value cannot
  be used is reported in words (`Rule.refusalOf`).  Any other failure stops the check.

What is assumed of its models:

* A model takes a mapping (`Rule.notAnObject`).  It looks at its fields in their order, each under
  the name by which it is given, and reports every field that is rejected.
* A field that is left out and has no default is reported (`Rule.missingField`).  A default is
  checked like a value, and findings on it stand at the place of the field.
* A function is called once to make a default.  If it has to be given an argument, it is given the
  fields that were accepted before, and it is not called after a value was rejected
  (`Rule.defaultNotMade`).
* Keys that no field has are passed over, or else reported after the fields (`Rule.strangeKey?`).

Three things that pydantic also takes are left out: texts that no coding has, members of
enumerations as keys of mappings, and numbers in decimal notation of any length, of which there are
no values here.

Kinds and words of the findings are those of pydantic.  Dates, numbers and refinements are checked
by the program; they are defined in the modules that import this one.
-/

namespace FieldSchema

namespace Finding

/-- A value of the wrong type. -/
def wrongType (kind message : String) (v : Value) : Finding :=
  { path := [], kind, message := some (.text message), input := v }

/-- A value of the wrong type, with what was expected. -/
def unexpected (message expected : String) (v : Value) : Finding :=
  { wrongType "invalid_type" message v with expected := .text expected }

end Finding

namespace Value

/-- The items of a value that may stand for a list: of anything that has items but texts, bytes and
mappings. -/
def listItems? : Value → Option (List Value)
  | .text _ => none
  | .canonical _ => none
  | .bytes _ => none
  | .map _ => none
  | v => v.items?

@[simp] theorem listItems?_list (items : List Value) : (list items).listItems? = some items := rfl

/-- The text that a key of a mapping stands for. -/
def keyText (key : Value) : Verdict String :=
  match key with
  | .bytes data =>
    match String.fromUTF8? ⟨data.toArray⟩ with
    | some decoded => .accepted decoded
    | none => .rejected [.wrongType "string_unicode"
        "Input should be a valid string, unable to parse raw data as a unicode string" key]
  | key =>
    match key.asText? with
    | some name => .accepted name
    | none => .rejected [.wrongType "string_type" "Input should be a valid string" key]

/-- The step to the value of a key.  A key that is neither a text nor a number that fits a word
is shown as it is written. -/
def keySegment (key : Value) : PathSegment :=
  match key with
  | .bool b => .index (if b then 1 else 0)
  | .int n =>
    if -0x8000000000000000 ≤ n && n < 0x8000000000000000 then .index n else .field (toString n)
  | key => .field (key.asText?.getD key.written)

end Value

namespace RuleKind

/-- Texts. -/
def checkText (v : Value) : Verdict Value :=
  match v.asText? with
  | some text => .accepted (.text text)
  | none => .rejected [.wrongType "string_type" "Input should be a valid string" v]

/-- Entries of a mapping, one check for all values. -/
def checkEntries (checkValue : Value → Verdict Value) : Entries → Verdict Entries
  | [] => .accepted []
  | (key, v) :: rest =>
    let segment := key.keySegment
    let name := ((Value.keyText key).under (.field "[key]")).under segment
    let entry := name.both (fun text v => (Value.text text, v)) ((checkValue v).under segment)
    entry.both List.cons (checkEntries checkValue rest)

/-- Mappings, one check for all values. -/
def checkMapping (checkValue : Value → Verdict Value) (v : Value) : Verdict Value :=
  match v with
  | .map entries =>
    (checkEntries checkValue entries).map fun entries => .map (Entries.ofPairs entries)
  | v => .rejected [.wrongType "dict_type" "Input should be a valid dictionary" v]

end RuleKind

namespace Rule

/-! ## Functions after a check -/

/-- Words with the parts of a rejection filled in where the words ask for them. -/
def fillMessage (r : Rejection) (words : String) : String :=
  let filled := Text.replaceAll "\x7berror_code\x7d" r.code.name words
  let filled := r.expected.elim filled fun part => Text.replaceAll "\x7bexpected\x7d" part filled
  r.format.elim filled fun part => Text.replaceAll "\x7bformat\x7d" part filled

/-- The finding of a refinement that refuses its own parts, in words. -/
def refusalOf (input : Value) (words : String) : Finding :=
  .wrongType "value_error" ("Value error, " ++ words) input

/-! ## Models -/

/-- An object that is none. -/
def notAnObject (modelName : String) (v : Value) : Finding :=
  .wrongType "model_type"
    ("Input should be a valid dictionary or instance of " ++ modelName) v

/-- A field that is left out and must not be. -/
def missingField (name : String) : Finding := { path := [.field name], kind := "missing" }

/-- A key that no field has. -/
def strangeKey? (names : List String) (entries : Entries) (entry : Value × Value) :
    Option Finding :=
  match entry.1.asText? with
  | some name =>
    if names.contains name && (entries.getText? name).isSome then none
    else some { path := [.field name], kind := "extra_forbidden", input := entry.2 }
  | none => some
      { path := [entry.1.keySegment], kind := "invalid_key",
        message := some (.text "Keys should be strings"), input := entry.1 }

/-- A default that is not made because an earlier field was rejected. -/
def defaultNotMade : Finding :=
  .wrongType "default_factory_not_called"
    "The default factory uses validated data, but at least one validation error occurred"
    (.other Value.undefinedLabel)

end Rule

end FieldSchema
