import FieldSchema.Text.Casing
import FieldSchema.Value.Pattern

/-!
# Messages of rules

A rule that rejects a value says so in words.  The words are, in this order: an override for the
field and the rule, a text that the rule brings along, or the template of the rule.  A rule for a
pattern has no words of its own and guesses what the pattern is about.

An override is given out as it is, whatever value it is.

* `Overrides.find?`: the override for a rule of a field.
* `Message.ofRule`: the message of a rule.
* `Message.ofPattern`, `Message.strongPassword`: the messages of patterns.
-/

namespace FieldSchema

/-! ## Overrides -/

/-- Messages that replace those of rules, by field and rule. -/
structure Overrides where
  entries : List (String × Value) := []
  deriving Inhabited

namespace Overrides

/-- No override. -/
def none : Overrides := {}

/-- The overrides that a mapping states; a value that counts as false is none. -/
def ofEntries (entries : Entries) : Overrides :=
  ⟨entries.filterMap fun entry =>
    if entry.2.truthy then entry.1.asText?.map fun key => (key, entry.2) else Option.none⟩

/-- The entries of a value that stands for a mapping; one that counts as false has none. -/
def entriesOf (v : Value) : Except Raised Entries := if v.truthy then v.toEntries else .ok []

/-- The overrides of a value that stands for a mapping. -/
def read (v : Value) : Except Raised Overrides := (entriesOf v).map ofEntries

/-- The overrides of a value that is asked as it is: a mapping, or what counts as false. -/
def ofMapping (v : Value) : Except Raised Overrides :=
  match v with
  | .map entries => .ok (ofEntries entries)
  | v => if v.truthy then .error .noSuchPart else .ok none

/-- The key of a rule of a field. -/
def key (field : TextValue) (rule : String) : String := field.displayed ++ "." ++ rule

/-- The override for a rule of a field. -/
def find? (overrides : Overrides) (field : TextValue) (rule : String) : Option Value :=
  overrides.entries.lookup (key field rule)

/-- The override for a rule of a field, or words in its place. -/
def orElse (overrides : Overrides) (field : TextValue) (rule own : String) : Value :=
  (overrides.find? field rule).getD (.text own)

@[simp] theorem find?_none (field : TextValue) (rule : String) :
    none.find? field rule = Option.none := rfl

theorem orElse_of_find? {overrides : Overrides} {field : TextValue} {rule : String}
    {message : Value} (own : String) (h : overrides.find? field rule = some message) :
    overrides.orElse field rule own = message := by
  simp [orElse, h]

end Overrides

/-! ## Messages -/

namespace Message

/-- The template of a rule, filled in with the field and the value of the rule. -/
def ofTemplate (field : TextValue) (rule : String) (value : Value) : String :=
  let name := field.displayed
  if rule == "required" then name ++ " is required"
  else if rule == "min" then name ++ " must be at least " ++ value.displayed
  else if rule == "max" then name ++ " must be at most " ++ value.displayed
  else if rule == "minlength" then
    name ++ " must be at least " ++ value.displayed ++ " characters"
  else if rule == "maxlength" then
    name ++ " must be at most " ++ value.displayed ++ " characters"
  else if rule == "email" then name ++ " must be a valid email address"
  else if rule == "regex" then name ++ " format is invalid"
  else if rule == "enum" then name ++ " must be one of the allowed values"
  else name ++ " validation failed"

/-- The message of a rule: an override, the rule's own text, or its template. -/
def ofRule (overrides : Overrides) (field : TextValue) (rule : String) (value : Value)
    (own : Option String) : Value :=
  overrides.orElse field rule (own.getD (ofTemplate field rule value))

/-- What a strong password holds. -/
def strongPasswordStart (field : TextValue) : String :=
  field.displayed ++ " must contain at least one lowercase letter, one uppercase letter, " ++
    "one number, and one special character"

/-- The symbols that a strong password may hold. -/
def passwordSymbols : String := "@$!%*?&#"

/-- The message of the built-in rule for strong passwords. -/
def strongPassword (field : TextValue) : String :=
  strongPasswordStart field ++ " (" ++ passwordSymbols ++ ")."

/-- Whether a part occurs in the name of a field, in lower case. -/
def nameMentions (field : TextValue) (part : String) : Bool :=
  Text.occursIn part (Text.lowercase field.text)

/-- What a pattern seems to be about, from the name of the field and the text of the pattern. -/
def guessFromPattern (field : TextValue) (source : String) : String :=
  if nameMentions field "email" || Text.occursIn "@" source then
    field.displayed ++ " must be a valid email address"
  else if nameMentions field "password" || Text.occursIn "(?=.*\\d)" source then
    strongPasswordStart field ++ "."
  else if nameMentions field "phone" || Text.occursIn "\\d" source then
    field.displayed ++ " must be a valid phone number"
  else if nameMentions field "url" || Text.occursIn "http" source then
    field.displayed ++ " must be a valid URL"
  else ofTemplate field "regex" .null

/-- The message of a pattern: an override, or what the pattern seems to be about. -/
def ofPattern (overrides : Overrides) (field : TextValue) (source : String) : Value :=
  overrides.orElse field "regex" (guessFromPattern field source)

/-- The text of a pattern, or what stands in its place, with the number of its flags. -/
def patternSource : Value → Value × Nat
  | .pattern source flags => (.text source, flags.withoutUnicode.toNat)
  | .bytesPattern source flags => (.bytes source, flags.withoutUnicode.toNat)
  | v => (v, 0)

/-- The texts that a pattern is searched for. -/
def telltales : List String := ["@", "(?=.*\\d)", "\\d", "http"]

/-- The message of a pattern that may be any value.  What is no text is asked for the telltales
among its items, and counts as the text of those that it has. -/
def ofPatternValue (overrides : Overrides) (field : TextValue) (pattern : Value) :
    Except Raised Value := do
  let source := (patternSource pattern).1
  if (overrides.find? field "regex").isSome || nameMentions field "email" then
    pure (ofPattern overrides field "")
  else
    match source.asText? with
    | some s => pure (ofPattern overrides field s)
    | none =>
      let found ← telltales.filterM source.mentions
      pure (ofPattern overrides field ("\n".intercalate found))

theorem ofRule_of_override {overrides : Overrides} {field : TextValue} {rule : String}
    {message : Value} (value : Value) (own : Option String)
    (h : overrides.find? field rule = some message) :
    ofRule overrides field rule value own = message :=
  Overrides.orElse_of_find? _ h

end Message

end FieldSchema
