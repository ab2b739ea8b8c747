import FieldSchema.Text.Quoted

/-!
# Faults in patterns

What can be wrong with the text of a pattern, with the place where it was noticed.  A fault is
told apart from the ways in which a pattern can be refused although its text is well formed: a
number that is too large, flags that do not go with each other or with the pattern, or values that
are no patterns and no flags at all.

* `PatternFault.message`: what a fault says.
* `FlagConflict.message`: which flags do not go together.
* `PatternFailure.describe`: the whole diagnostic, with the place in the pattern.
-/

namespace FieldSchema

/-- What is wrong with the text of a pattern. -/
inductive PatternFault where
  | escapeAtEnd
  | badEscape (escape : String)
  | incompleteEscape (escape : String)
  | octalTooLarge (escape : String)
  | missingBrace
  | missingName (what : String)
  | unterminatedName (terminator : Char)
  | unknownCharacterName (name : String)
  | unterminatedSet
  | badRange (first last : String)
  | unterminatedGroup
  | unterminatedComment
  | unbalancedParenthesis
  | unexpectedEnd
  | unknownExtension (extension : String)
  | badGroupName (name : String)
  | unknownGroupName (name : String)
  | repeatedGroupName (name : String) (group earlier : Nat)
  | openGroup
  | groupInSameLookBehind
  | badGroupNumber
  | invalidGroupReference (group : Nat)
  | tooManyBranches
  | nothingToRepeat
  | multipleRepeat
  | repeatBoundsReversed
  | misplacedGlobalFlags
  | unknownFlag
  | missingFlag
  | missingFlagsEnd
  | missingColon
  | localeFlag
  | incompatibleFlags
  | globalFlagOn
  | globalFlagOff
  | characterSetFlagOff
  | flagOnAndOff
  | lookBehindNotFixed
  | lookBehindTooLong
  | repeatInTemplate (mode : String)
  deriving DecidableEq, Repr

/-- What a fault says, without its place. -/
def PatternFault.message : PatternFault → String
  | .escapeAtEnd => "bad escape (end of pattern)"
  | .badEscape escape => "bad escape " ++ escape
  | .incompleteEscape escape => "incomplete escape " ++ escape
  | .octalTooLarge escape => "octal escape value " ++ escape ++ " outside of range 0-0o377"
  | .missingBrace => "missing \x7b"
  | .missingName what => "missing " ++ what
  | .unterminatedName terminator =>
    "missing " ++ terminator.toString ++ ", unterminated name"
  | .unknownCharacterName name => "undefined character name " ++ Text.quote name
  | .unterminatedSet => "unterminated character set"
  | .badRange first last => "bad character range " ++ first ++ "-" ++ last
  | .unterminatedGroup => "missing ), unterminated subpattern"
  | .unterminatedComment => "missing ), unterminated comment"
  | .unbalancedParenthesis => "unbalanced parenthesis"
  | .unexpectedEnd => "unexpected end of pattern"
  | .unknownExtension extension => "unknown extension ?" ++ extension
  | .badGroupName name => "bad character in group name " ++ Text.quote name
  | .unknownGroupName name => "unknown group name " ++ Text.quote name
  | .repeatedGroupName name group earlier =>
    "redefinition of group name " ++ Text.quote name ++ " as group " ++ toString group ++
      "; was group " ++ toString earlier
  | .openGroup => "cannot refer to an open group"
  | .groupInSameLookBehind =>
    "cannot refer to group defined in the same lookbehind subpattern"
  | .badGroupNumber => "bad group number"
  | .invalidGroupReference group => "invalid group reference " ++ toString group
  | .tooManyBranches => "conditional backref with more than two branches"
  | .nothingToRepeat => "nothing to repeat"
  | .multipleRepeat => "multiple repeat"
  | .repeatBoundsReversed => "min repeat greater than max repeat"
  | .misplacedGlobalFlags => "global flags not at the start of the expression"
  | .unknownFlag => "unknown flag"
  | .missingFlag => "missing flag"
  | .missingFlagsEnd => "missing -, : or )"
  | .missingColon => "missing :"
  | .localeFlag => "bad inline flags: cannot use 'L' flag with a str pattern"
  | .incompatibleFlags => "bad inline flags: flags 'a', 'u' and 'L' are incompatible"
  | .globalFlagOn => "bad inline flags: cannot turn on global flag"
  | .globalFlagOff => "bad inline flags: cannot turn off global flag"
  | .characterSetFlagOff => "bad inline flags: cannot turn off flags 'a', 'u' and 'L'"
  | .flagOnAndOff => "bad inline flags: flag turned on and off"
  | .lookBehindNotFixed => "look-behind requires fixed-width pattern"
  | .lookBehindTooLong => "looks too much behind"
  | .repeatInTemplate mode => "internal: unsupported template operator " ++ mode

/-- Flags that do not go with each other or with the pattern. -/
inductive FlagConflict where
  /-- Classes of a text pattern cannot follow the surroundings of the program. -/
  | localeOfText
  /-- ASCII classes and full ones are asked for. -/
  | asciiAndUnicode
  /-- Bytes have no full classes. -/
  | unicodeOfBytes
  /-- ASCII classes and those of the surroundings are asked for. -/
  | asciiAndLocale
  /-- A ready pattern has its flags already. -/
  | flagsOfReady
  deriving DecidableEq, Repr

/-- Which flags do not go together. -/
def FlagConflict.message : FlagConflict → String
  | .localeOfText => "cannot use LOCALE flag with a str pattern"
  | .asciiAndUnicode => "ASCII and UNICODE flags are incompatible"
  | .unicodeOfBytes => "cannot use UNICODE flag with a bytes pattern"
  | .asciiAndLocale => "ASCII and LOCALE flags are incompatible"
  | .flagsOfReady => "cannot process flags argument with a compiled pattern"

/-- Why there is no usable pattern, or no answer from one. -/
inductive PatternFailure where
  /-- The text is wrong, at a place where that is known. -/
  | fault (cause : PatternFault) (position : Option Nat)
  /-- A repetition count is out of range. -/
  | countTooLarge
  /-- The number of the flags is out of range. -/
  | flagsTooLarge
  | conflict (cause : FlagConflict)
  /-- What should be a pattern or flags is neither, or the pattern is for bytes. -/
  | wrongKind
  /-- A match was found in which some group ends before it starts. -/
  | reversedGroup
  deriving DecidableEq, Repr

/-- The place of a fault: an offset, with line and column where the pattern has several lines. -/
def placeText (source : List Char) (position : Nat) : String :=
  let before := source.take position
  let column := (before.reverse.takeWhile (· != '\n')).length + 1
  " at position " ++ toString position ++
    (if source.contains '\n' then
      " (line " ++ toString (before.count '\n' + 1) ++ ", column " ++ toString column ++ ")"
    else "")

/-- The diagnostic for a pattern text that cannot be used. -/
def PatternFailure.describe (source : String) : PatternFailure → String
  | .fault cause none => cause.message
  | .fault cause (some position) => cause.message ++ placeText source.toList position
  | .countTooLarge => "the repetition number is too large"
  | .flagsTooLarge => "the number of the flags is too large"
  | .conflict cause => cause.message
  | .wrongKind => "neither a text pattern nor its flags"
  | .reversedGroup => "a group ends before it starts"

end FieldSchema
