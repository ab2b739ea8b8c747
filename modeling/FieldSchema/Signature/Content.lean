import FieldSchema.Signature.Canonical
import FieldSchema.Signature.Sha256

/-!
# Content signatures

A definition together with the options of its compilation has a signature: the digest of the text
of their payloads.  Equal contents have equal signatures; what is only equal to itself is told
apart by its identity, or by the site at which it is given and its place there.  A text that no
coding has leaves no digest.

* `Signature.payload`: what the signature is taken of.
* `Signature.digest?`: the digest of a payload.
* `Signature.ofContent`: the signature.
-/

namespace FieldSchema

namespace Signature

/-- What the signature of a definition and options is taken of.  The number of the site tells the
things of one site from those of another, when they have no identity of their own. -/
def payload (site : Nat) (definition options : Value) : Except DefinitionError Payload := do
  let first ← definition.payload [0, site]
  let second ← options.payload [1, site]
  pure (.array [first, second])

/-- The digest of a text. -/
def ofText (text : String) : String := Sha256.hexDigest text.toUTF8.toList

/-- The digest of a payload, unless no coding has its text. -/
def digest? (content : Payload) : Option String :=
  if content.isEncodable then some (ofText content.toText) else none

/-- The signature of a definition and options, unless no coding has what it is taken of. -/
def ofContent (site : Nat) (definition options : Value) :
    Except DefinitionError (Option String) := do
  let content ← payload site definition options
  pure (digest? content)

end Signature

end FieldSchema
