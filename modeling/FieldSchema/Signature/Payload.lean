import FieldSchema.Number.Basic
import FieldSchema.Text.Broken

/-!
# Payloads

What a signature is taken of is a text in JSON, without blanks and with all characters as they
are but for the few that have to be escaped.  Everything beside scalars and lists is an object
whose first key says what it is.  The text of a payload is written in front of a rest, which is
how one reads it back.

Surrogates are no characters and are written by their numbers here, as if they were escaped.  The
text of a payload that holds one is not encoded, so that there is no digest of it.

* `Payload`: what is written.
* `Payload.writeOnto`: the characters of a payload in front of a rest.
* `Payload.toText`: the text.
* `Payload.isEncodable`: whether the text can be encoded.
-/

namespace FieldSchema

/-- What a signature is taken of. -/
inductive Payload where
  | null
  | bool (b : Bool)
  | int (n : Int)
  | float (x : Binary64)
  | text (s : String)
  /-- A text that no coding has. -/
  | brokenText (text : BrokenText)
  | array (items : List Payload)
  /-- Something of a kind, with its contents. -/
  | tagged (tag : String) (content : Payload)
  /-- Something that only equals itself, by its kind, a name and an identity. -/
  | identified (tag : String) (name : String) (identity : List Nat)
  deriving Inhabited

namespace Payload

/-! ## Text -/

/-- A character inside quotes. -/
def escape (c : Char) : List Char :=
  if c == '"' then ['\\', '"']
  else if c == '\\' then ['\\', '\\']
  else if c == '\n' then ['\\', 'n']
  else if c == '\r' then ['\\', 'r']
  else if c == '\t' then ['\\', 't']
  else if c.toNat == 8 then ['\\', 'b']
  else if c.toNat == 12 then ['\\', 'f']
  else if c.toNat < 32 then ['\\', 'u'] ++ Text.hexFixed 4 c.toNat
  else [c]

/-- A code point inside quotes. -/
def escapePoint : CodePoint → List Char
  | .char c => escape c
  | point => point.escaped

/-- Code points between quotes. -/
def quotedPoints (points : List CodePoint) : List Char :=
  '"' :: points.flatMap escapePoint ++ ['"']

/-- A text between quotes. -/
def quoted (s : String) : List Char := quotedPoints (s.toList.map .char)

/-- The text of a double. -/
def floatText : Binary64 → String
  | .notANumber => "NaN"
  | .infinite false => "Infinity"
  | .infinite true => "-Infinity"
  | x => x.toText

/-- An identity as a text. -/
def identityText (identity : List Nat) : String := ".".intercalate (identity.map toString)

mutual

/-- The characters of a payload in front of a rest. -/
def writeOnto (rest : List Char) : Payload → List Char
  | .null => ['n', 'u', 'l', 'l'] ++ rest
  | .bool true => ['t', 'r', 'u', 'e'] ++ rest
  | .bool false => ['f', 'a', 'l', 's', 'e'] ++ rest
  | .int n => (toString n).toList ++ rest
  | .float x => (floatText x).toList ++ rest
  | .text s => quoted s ++ rest
  | .brokenText broken => quotedPoints broken.points ++ rest
  | .array items => '[' :: writeItems (']' :: rest) items
  | .tagged tag content => '{' :: quoted tag ++ ':' :: writeOnto ('}' :: rest) content
  | .identified tag name identity =>
    '{' :: quoted tag ++ ':' :: quoted name ++ ',' :: quoted "id" ++ ':' ::
      quoted (identityText identity) ++ '}' :: rest

/-- The characters of items with commas between them, in front of a rest. -/
def writeItems (rest : List Char) : List Payload → List Char
  | [] => rest
  | item :: items => writeOnto (writeMore rest items) item

/-- The characters of further items, each after a comma, in front of a rest. -/
def writeMore (rest : List Char) : List Payload → List Char
  | [] => rest
  | item :: items => ',' :: writeOnto (writeMore rest items) item

end

/-- The text of a payload. -/
def toText (p : Payload) : String := String.ofList (writeOnto [] p)

/-! ## Encoding -/

mutual

/-- Whether no text in a payload holds a surrogate. -/
def isEncodable : Payload → Bool
  | .brokenText _ => false
  | .array items => areEncodable items
  | .tagged _ content => isEncodable content
  | _ => true

/-- Whether no text in some items holds a surrogate. -/
def areEncodable : List Payload → Bool
  | [] => true
  | item :: items => isEncodable item && areEncodable items

end

/-! ## Identities -/

mutual

/-- Whether a payload holds something that only equals itself. -/
def hasIdentity : Payload → Bool
  | .array items => anyHasIdentity items
  | .tagged _ content => hasIdentity content
  | .identified _ _ _ => true
  | _ => false

/-- Whether some item holds something that only equals itself. -/
def anyHasIdentity : List Payload → Bool
  | [] => false
  | item :: items => hasIdentity item || anyHasIdentity items

end

end Payload

end FieldSchema
