import FieldSchema.Pattern.Basic
import FieldSchema.Pattern.Fault
import FieldSchema.Text.CharName
import FieldSchema.Text.Identifier

/-!
# Reading the text of a pattern

The state of a reader that works through the text of a pattern from the left, and the readers of
its smallest parts: tokens, names, numbers, escapes and inline flags.

A token is a single character, or a backslash with the character after it.  The reader always
looks one token ahead, so a backslash at the end of the text is noticed when the token before it
is taken.

* `PatternReader`: the state, and `Reading` for what reads and may fail.
* `readSetEscape`, `readEscape`: escapes inside and outside of character sets.
* `readFlags`: the flags of a group, none when they hold for the whole pattern.
-/

namespace FieldSchema

/-! ## State -/

/-- A character, or a backslash with the character after it. -/
inductive PatternToken where
  | plain (c : Char)
  | escaped (c : Char)
  deriving DecidableEq, Repr

namespace PatternToken

/-- The characters of a token. -/
def chars : PatternToken → List Char
  | .plain c => [c]
  | .escaped c => ['\\', c]

/-- The number of characters of a token. -/
def length (t : PatternToken) : Nat := t.chars.length

/-- The text of a token. -/
def text (t : PatternToken) : String := String.ofList t.chars

end PatternToken

/-- What patterns are matched against. -/
inductive Alphabet where
  | text | bytes
  deriving DecidableEq, Repr, Inhabited

/-- What is left of the text of a pattern, and what its beginning has said. -/
structure PatternReader where
  alphabet : Alphabet
  /-- What is left of the text. -/
  rest : List Char
  /-- How many characters have been read. -/
  position : Nat
  /-- The flags in force for the whole pattern. -/
  flags : Flags
  /-- The names of groups. -/
  names : List (String × Nat)
  /-- The widths of the groups, counted from one; an open group has none. -/
  widths : List (Option Width)
  /-- Inside a look-behind, the number of the first group that was not closed before it. -/
  behindLimit : Option Nat
  /-- The groups that conditions name by number, and where. -/
  tested : List (Nat × Nat)
  deriving Repr

/-- Reading that goes on from a state and may fail. -/
abbrev Reading := StateT PatternReader (Except PatternFailure)

/-- The next token, none at the end of the text. -/
def PatternReader.next? (r : PatternReader) : Option PatternToken :=
  match r.rest with
  | [] => none
  | '\\' :: c :: _ => some (.escaped c)
  | c :: _ => some (.plain c)

/-- The number that the next group will have. -/
def PatternReader.groupCount (r : PatternReader) : Nat := r.widths.length + 1

/-- Whether a group exists and is closed. -/
def PatternReader.isClosed (r : PatternReader) (group : Nat) : Bool :=
  match r.widths[group - 1]? with
  | some (some _) => true
  | _ => false

/-- The width of a closed group. -/
def PatternReader.groupWidth (r : PatternReader) (group : Nat) : Width :=
  match r.widths[group - 1]? with
  | some (some w) => w
  | _ => .zero

namespace Reading

/-- Fails at a place that lies the given number of characters before the current one. -/
def failBack {α : Type} (cause : PatternFault) (back : Nat) : Reading α := fun r =>
  .error (.fault cause (some (r.position - back)))

/-- Fails at a given place. -/
def failAt {α : Type} (cause : PatternFault) (position : Nat) : Reading α := fun _ =>
  .error (.fault cause (some position))

/-- Goes on to a later place; a lone backslash must not be what is left. -/
def goOn (rest : List Char) (position : Nat) : Reading Unit := fun r =>
  if rest = ['\\'] then .error (.fault .escapeAtEnd (some position))
  else .ok ((), { r with rest := rest, position := position })

/-- The next token. -/
def next? : Reading (Option PatternToken) := fun r => .ok (r.next?, r)

/-- Takes the next token; at the end of the text there is none. -/
def take? : Reading (Option PatternToken) := do
  let r ← get
  match r.rest with
  | [] => pure none
  | '\\' :: c :: rest =>
    goOn rest (r.position + 2)
    pure (some (.escaped c))
  | c :: rest =>
    goOn rest (r.position + 1)
    pure (some (.plain c))

/-- Takes the next token if it is the given character. -/
def accept (c : Char) : Reading Bool := do
  if (← next?) = some (.plain c) then
    let _ ← take?
    pure true
  else pure false

/-- Takes as many characters of a kind as there are, up to a limit. -/
def takeChars (kind : Char → Bool) (limit : Nat) : Reading (List Char) := do
  let r ← get
  let taken := (r.rest.takeWhile kind).take limit
  if taken.isEmpty then pure []
  else
    goOn (r.rest.drop taken.length) (r.position + taken.length)
    pure taken

/-! ## Names and numbers -/

/-- An ASCII digit. -/
def isDigit (c : Char) : Bool := Text.isAsciiDigit c.toNat

/-- An octal digit. -/
def isOctal (c : Char) : Bool := 0x30 ≤ c.toNat && c.toNat ≤ 0x37

/-- A hexadecimal digit. -/
def isHex (c : Char) : Bool := (Text.hexValue? c.toNat).isSome

/-- The number that digits write in a base of at most sixteen. -/
def numberOf (base : Nat) (digits : List Char) : Nat :=
  digits.foldl (fun n c => n * base + (Text.hexValue? c.toNat).getD 0) 0

/-- A name up to a terminator, which is taken too; `budget` bounds the number of tokens. -/
def readNameFrom (terminator : Char) (what : String) :
    Nat → List Char → Reading (List Char)
  | 0, name => failBack (.unterminatedName terminator) name.length
  | budget + 1, name => do
    match ← take? with
    | none =>
      if name.isEmpty then failBack (.missingName what) 0
      else failBack (.unterminatedName terminator) name.length
    | some token =>
      if token = .plain terminator then
        if name.isEmpty then failBack (.missingName what) 1 else pure name
      else readNameFrom terminator what budget (name ++ token.chars)

/-- A name up to a terminator, which is taken too. -/
def readName (terminator : Char) (what : String) : Reading (List Char) := do
  readNameFrom terminator what ((← get).rest.length + 1) []

/-- A number in decimal digits of any script, with single underscores between them. -/
def decimalNumber? : Nat → Bool → List Char → Option Nat
  | n, afterDigit, [] => if afterDigit then some n else none
  | n, afterDigit, c :: rest =>
    if c == '_' then (if afterDigit then decimalNumber? n false rest else none)
    else match Text.digitValue? c.toNat with
      | some d => decimalNumber? (n * 10 + d) true rest
      | none => none

/-- The number of a group in a condition: blanks around it and a sign before it are allowed. -/
def groupNumber? (name : List Char) : Option Nat :=
  let front := name.dropWhile fun c => Text.isBlank c.toNat
  let trimmed := (front.reverse.dropWhile fun c => Text.isBlank c.toNat).reverse
  match trimmed with
  | '+' :: rest => decimalNumber? 0 false rest
  | '-' :: rest => if decimalNumber? 0 false rest = some 0 then some 0 else none
  | digits => decimalNumber? 0 false digits

/-- Refuses a group that is open, or not closed before the look-behind that refers to it. -/
def checkLookBehindGroup (group : Nat) : Reading Unit := do
  let r ← get
  match r.behindLimit with
  | none => pure ()
  | some limit =>
    if !r.isClosed group then failBack .openGroup 0
    else if group ≥ limit then failBack .groupInSameLookBehind 0
    else pure ()

/-! ## Escapes -/

/-- The control characters that a letter after a backslash names. -/
def controlEscape? (c : Char) : Option Nat :=
  if c == 'a' then some 0x07
  else if c == 'f' then some 0x0C
  else if c == 'n' then some 0x0A
  else if c == 'r' then some 0x0D
  else if c == 't' then some 0x09
  else if c == 'v' then some 0x0B
  else if c == '\\' then some 0x5C
  else none

/-- The character classes that a letter after a backslash names. -/
def categoryEscape? (c : Char) : Option Category :=
  if c == 'd' then some .digit
  else if c == 'D' then some .notDigit
  else if c == 's' then some .space
  else if c == 'S' then some .notSpace
  else if c == 'w' then some .word
  else if c == 'W' then some .notWord
  else none

/-- The positions that a letter after a backslash names. -/
def anchorEscape? (c : Char) : Option Anchor :=
  if c == 'A' then some .textStart
  else if c == 'Z' then some .textStop
  else if c == 'b' then some .wordBoundary
  else if c == 'B' then some .notWordBoundary
  else none

/-- The text of an escape with what has been read after its letter. -/
def escapeText (c : Char) (more : List Char) : String := String.ofList ('\\' :: c :: more)

/-- A character by its code in a fixed number of hexadecimal digits. -/
def readHexEscape (c : Char) (count : Nat) : Reading Nat := do
  let digits ← takeChars isHex count
  let code := numberOf 16 digits
  if digits.length != count then
    failBack (.incompleteEscape (escapeText c digits)) (2 + digits.length)
  else if code > 0x10FFFF then failBack (.badEscape (escapeText c digits)) (2 + digits.length)
  else pure code

/-- A character by its name. -/
def readNamedEscape : Reading Nat := do
  if !(← accept '\x7b') then failBack .missingBrace 0
  else
    let name ← readName '\x7d' "character name"
    match Text.CharName.codeOf? (String.ofList name) with
    | some code => pure code
    | none => failBack (.unknownCharacterName (String.ofList name)) (name.length + 4)

/-- A character by its code in up to three octal digits, of which the first is given. -/
def readOctalEscape (c : Char) : Reading Nat := do
  let digits ← takeChars isOctal 2
  let code := numberOf 8 (c :: digits)
  if code > 0xFF then failBack (.octalTooLarge (escapeText c digits)) (2 + digits.length)
  else pure code

/-- The characters that are written by their code, with hexadecimal digits or by name; bytes have
two digits. -/
def readCodeEscape? (c : Char) : Reading (Option Nat) := do
  if c == 'x' then some <$> readHexEscape c 2
  else if (← get).alphabet = .bytes then pure none
  else if c == 'u' then some <$> readHexEscape c 4
  else if c == 'U' then some <$> readHexEscape c 8
  else if c == 'N' then some <$> readNamedEscape
  else pure none

/-- What an escape stands for inside a character set. -/
def readSetEscape (c : Char) : Reading SetMember := do
  if let some code := controlEscape? c then return .single code
  if c == 'b' then return .single 0x08
  if let some category := categoryEscape? c then return .category category
  if let some code ← readCodeEscape? c then return .single code
  if isOctal c then return .single (← readOctalEscape c)
  if isDigit c || Text.isAsciiLetter c.toNat then failBack (.badEscape (escapeText c [])) 2
  else return .single c.toNat

/-- The reference to a group by the digits of its number. -/
def readReference (digits : List Char) : Reading Pattern := do
  let r ← get
  let group := numberOf 10 digits
  if group < r.groupCount then
    if !r.isClosed group then failBack .openGroup (digits.length + 1)
    else
      checkLookBehindGroup group
      pure (.reference group)
  else failBack (.invalidGroupReference group) digits.length

/-- A reference to a group, or a character by its code in three octal digits. -/
def readNumberEscape (c : Char) : Reading Pattern := do
  match ← takeChars isDigit 1 with
  | [second] =>
    if isOctal c && isOctal second then
      match ← takeChars isOctal 1 with
      | [third] =>
        let code := numberOf 8 [c, second, third]
        if code > 0xFF then failBack (.octalTooLarge (escapeText c [second, third])) 4
        else pure (.literal code)
      | _ => readReference [c, second]
    else readReference [c, second]
  | _ => readReference [c]

/-- What an escape stands for outside of character sets. -/
def readEscape (c : Char) : Reading Pattern := do
  if let some anchor := anchorEscape? c then return .anchor anchor
  if let some category := categoryEscape? c then return .set false [.category category]
  if let some code := controlEscape? c then return .literal code
  if let some code ← readCodeEscape? c then return .literal code
  if c == '0' then return .literal (numberOf 8 (← takeChars isOctal 2))
  if isDigit c then return ← readNumberEscape c
  if Text.isAsciiLetter c.toNat then failBack (.badEscape (escapeText c [])) 2
  else return .literal c.toNat

/-! ## Inline flags -/

/-- Whether a letter names a flag; `L` does, though texts may not use it. -/
def isFlagLetter (c : Char) : Bool := c == 'L' || (Flags.ofLetter? c).isSome

/-- The fault for a token that is no flag: a letter is unknown, anything else is something
missing. -/
def flagFault (token : PatternToken) (missing : PatternFault) : PatternFault :=
  match token with
  | .plain c => if Text.isLetter c.toNat then .unknownFlag else missing
  | .escaped _ => missing

/-- The flags that a group switches on, from a given letter on, and the mark after them. -/
def readFlagsOn : Nat → Flags → Char → Reading (Flags × Char)
  | 0, _, _ => failBack .missingFlagsEnd 0
  | budget + 1, added, c => do
    match Flags.ofLetter? c with
    | none => failBack .localeFlag 0
    | some flag =>
      let added := added.union flag
      if (flag.ascii || flag.unicode) && added.ascii && added.unicode then
        failBack .incompatibleFlags 0
      else
        match ← take? with
        | none => failBack .missingFlagsEnd 0
        | some (.plain c) =>
          if c == ')' || c == '-' || c == ':' then pure (added, c)
          else if isFlagLetter c then readFlagsOn budget added c
          else failBack (flagFault (.plain c) .missingFlagsEnd) 1
        | some token => failBack .missingFlagsEnd token.length

/-- The flags that a group switches off, from a given letter on, up to the colon. -/
def readFlagsOff : Nat → Flags → Char → Reading Flags
  | 0, _, _ => failBack .missingColon 0
  | budget + 1, removed, c => do
    match Flags.ofLetter? c with
    | none => failBack .characterSetFlagOff 0
    | some flag =>
      if flag.ascii || flag.unicode then failBack .characterSetFlagOff 0
      else
        let removed := removed.union flag
        match ← take? with
        | none => failBack .missingColon 0
        | some (.plain c) =>
          if c == ':' then pure removed
          else if isFlagLetter c then readFlagsOff budget removed c
          else failBack (flagFault (.plain c) .missingColon) 1
        | some token => failBack .missingColon token.length

/-- The first letter of the flags that a group switches off. -/
def readFlagsOffStart : Reading Flags := do
  match ← take? with
  | none => failBack .missingFlag 0
  | some (.plain c) =>
    if isFlagLetter c then readFlagsOff ((← get).rest.length + 1) {} c
    else failBack (flagFault (.plain c) .missingFlag) 1
  | some token => failBack .missingFlag token.length

/-- The flags of a group, switched on and off, from a given letter or dash on.  Flags that hold
for the whole pattern are put into force, and there is no answer. -/
def readFlags (c : Char) : Reading (Option (Flags × Flags)) := do
  let (added, mark) ←
    if c == '-' then pure (({} : Flags), '-')
    else readFlagsOn ((← get).rest.length + 1) {} c
  if mark == ')' then
    modify fun r => { r with flags := r.flags.union added }
    pure none
  else if added.template then failBack .globalFlagOn 1
  else
    let removed ← if mark == '-' then readFlagsOffStart else pure ({} : Flags)
    if removed.template then failBack .globalFlagOff 1
    else if added.overlaps removed then failBack .flagOnAndOff 1
    else pure (some (added, removed))

end Reading

end FieldSchema
