import FieldSchema.Pattern.Parser
import FieldSchema.Pattern.Matcher

/-!
# Usable patterns

A pattern text becomes usable when it parses and nothing in its tree is out of reach of the
matcher: what a look-behind looks for has one fixed width, and a template repeats nothing.

* `Regex.compile`: the usable pattern of a text and its flags.
* `Regex.search`, `Regex.matchStart`: whether a text has a match anywhere, or from its start on.

Groups that a pattern uses inside possessive repetitions can end up with their end before their
start.  A match with such a group cannot be told, so there is no answer then.
-/

namespace FieldSchema

/-- A usable pattern. -/
structure Regex where
  /-- The text of the pattern. -/
  source : String
  /-- All flags in force, those that the text states among them. -/
  flags : Flags
  body : Pattern
  /-- The number of groups. -/
  groups : Nat
  /-- The least number of characters of a match. -/
  least : Nat
  deriving DecidableEq, Repr

namespace Pattern

/-- The name of a repetition in the diagnostic for templates. -/
def repeatName : RepeatMode → String
  | .greedy => "MAX_REPEAT"
  | .lazy => "MIN_REPEAT"
  | .possessive => "POSSESSIVE_REPEAT"

/-- The largest number of characters that a look-behind may look back. -/
def lookBehindLimit : Nat := 4294967295

/-- Checks the parts of a pattern in order, the outer before the inner. -/
def check (template : Bool) : Pattern → Except PatternFailure Unit
  | .cat p q => do
    check template p
    check template q
  | .alt p q => do
    check template p
    check template q
  | .capture _ p => check template p
  | .flagged _ _ p => check template p
  | .atomic p => check template p
  | .repeated mode _ _ p =>
    if template then .error (.fault (.repeatInTemplate (repeatName mode)) none)
    else check template p
  | .ahead _ p => check template p
  | .behind _ width p =>
    if width.least > lookBehindLimit then .error (.fault .lookBehindTooLong none)
    else if !width.isFixed then .error (.fault .lookBehindNotFixed none)
    else check template p
  | .conditional _ yes no => do
    check template yes
    check template no
  | _ => .ok ()

end Pattern

namespace Regex

/-- The usable pattern of a text under flags given beside it. -/
def compile (source : String) (flags : Flags) (alphabet : Alphabet := .text) :
    Except PatternFailure Regex := do
  let parsed ← Pattern.parse alphabet source flags
  Pattern.check parsed.flags.template parsed.body
  pure ⟨source, parsed.flags, parsed.body, parsed.groups, parsed.width.least⟩

/-- Whether a trail is that of a match, if all of its groups can be told. -/
def answer (r : Regex) : Option Trail → Except PatternFailure Bool
  | none => .ok false
  | some t => if t.hasReversedGroup r.groups then .error .reversedGroup else .ok true

/-- Whether some part of a text matches. -/
def search (r : Regex) (text : String) : Except PatternFailure Bool :=
  r.answer
    (if text.length < r.least then none
    else r.body.searchFrom r.flags r.least [] text.toList)

/-- Whether a text has a match that starts at its first character. -/
def matchStart (r : Regex) (text : String) : Except PatternFailure Bool :=
  r.answer
    (if text.length < r.least then none
    else
      match r.body.attemptAt r.flags (.start text.toList) with
      | .found t => some t
      | .failed _ => none)

end Regex

end FieldSchema
