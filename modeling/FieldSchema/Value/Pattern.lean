import FieldSchema.Text.Search
import FieldSchema.Value.Conversion

/-!
# Patterns among values

A pattern may be given by its text or as one that is ready to use, and flags may be given beside
it as a number.  Texts are matched with text patterns only; a pattern on bytes is read, so that
what is wrong with it is told first, and refused then.

* `Regex.ofValues`: the usable pattern of two values.
* `Value.mentions`: whether a text occurs in a value.
-/

namespace FieldSchema

/-- A failure of a pattern as one that is raised. -/
def PatternFailure.toRaised : PatternFailure → Raised
  | .fault cause _ => { kind := "error", text := cause.message }
  | .countTooLarge => .outOfRange
  | .flagsTooLarge => .outOfRange
  | .conflict cause => .badValue cause.message
  | .wrongKind => .wrongType
  | .reversedGroup => { kind := "SystemError" }

namespace Regex

/-- Whether the number of flags fits a machine word. -/
def flagsFit (n : Int) : Bool := -0x80000000 ≤ n && n < 0x80000000

/-- The usable pattern of a text on an alphabet under the flags of a value. -/
def ofSource (source : String) (flags : Value) (alphabet : Alphabet) :
    Except PatternFailure Regex :=
  match flags.asIndex? with
  | none => .error .wrongKind
  | some n => do
    let regex ← compile source (.ofInt n) alphabet
    if flagsFit n then pure regex else .error .flagsTooLarge

/-- The usable pattern of a value under the flags of another one. -/
def ofValues (pattern flags : Value) : Except PatternFailure Regex :=
  let ready (made : Except PatternFailure Regex) : Except PatternFailure Regex :=
    if flags.truthy then .error (.conflict .flagsOfReady) else made
  if !flags.isHashable then .error .wrongKind
  else
    match pattern with
    | .pattern source own => ready (compile source own)
    | .bytesPattern _ _ => ready (.error .wrongKind)
    | .bytes data => do
      let _ ← ofSource (String.ofList (Numeral.ofBytes data)) flags .bytes
      .error .wrongKind
    | pattern =>
      match pattern.asText? with
      | some source => ofSource source flags .text
      | none => .error .wrongKind

end Regex

namespace Value

/-- Whether a text occurs in a value: inside another text, or among the items.  A value without
items cannot be asked. -/
def mentions (v : Value) (part : String) : Except Raised Bool :=
  match v with
  | .bytes _ => .error .wrongType
  | .typeName _ => .error .wrongType
  | v =>
    match v.asText?, v.items? with
    | some s, _ => .ok (Text.occursIn part s)
    | none, some items => .ok (items.any fun item => item.asText? = some part)
    | none, none => .error .wrongType

end Value

end FieldSchema
