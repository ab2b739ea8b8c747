import FieldSchema.Pattern.Reader

/-!
# From text to pattern

The grammar of patterns: alternatives of sequences of pieces.  A piece is a character, a set, a
position, a group, or a repetition of the piece before it.

A group that neither captures nor sets flags is only a bracket: a repetition applies to all of it,
and otherwise its pieces become pieces of the sequence around it.  Alternatives are brought into a
simpler form: pieces that all alternatives start with are taken out in front, and alternatives
of one character each become a set.

* `Pattern.parse`: the pattern of a text and its flags, or why there is none.
-/

namespace FieldSchema

namespace Reading

/-! ## Pieces -/

/-- A piece of a sequence while the sequence is being read. -/
inductive Piece where
  | single (p : Pattern)
  /-- A bracket around a sequence of its own. -/
  | bracket (items : List Pattern)

/-- The pieces of a sequence with all brackets dissolved. -/
def Piece.items : Piece → List Pattern
  | .single p => [p]
  | .bracket items => items

/-- What a repetition of a piece repeats. -/
def Piece.body : Piece → Pattern
  | .single p => p
  | .bracket items => .ofItems items

/-! ## Alternatives -/

/-- The members of a list in order, each of them once. -/
def distinct {α : Type} [DecidableEq α] : List α → List α
  | [] => []
  | a :: rest => a :: (distinct rest).filter (· ≠ a)

/-- Takes out in front what all alternatives start with; the first one is given apart. -/
def commonStart : List Pattern → List (List Pattern) → List Pattern × List (List Pattern)
  | [], others => ([], [] :: others)
  | p :: first, others =>
    if p.isAtom && others.all (fun items => items.head? = some p) then
      let (front, rest) := commonStart first (others.map List.tail)
      (p :: front, rest)
    else ([], (p :: first) :: others)

/-- The members of one set for alternatives of one character each. -/
def mergedMembers? : List (List Pattern) → Option (List SetMember)
  | [] => some []
  | [p] :: rest => do
    let members ← p.setMembers?
    let more ← mergedMembers? rest
    pure (members ++ more)
  | _ => none

/-- The items that stand for a choice between sequences. -/
def joinAlternatives : List (List Pattern) → List Pattern
  | [] => []
  | [items] => items
  | items :: others =>
    let (front, rest) := commonStart items others
    match mergedMembers? rest with
    | some members => front ++ [.set false (distinct members)]
    | none => front ++ [.ofAlternatives (rest.map .ofItems)]

/-! ## Character sets -/

/-- One member of a set, from its first token. -/
def readMember : PatternToken → Reading SetMember
  | .escaped c => readSetEscape c
  | .plain c => pure (.single c.toNat)

/-- The range between two members, which must be characters in order. -/
def rangeOf (first last : PatternToken) : SetMember → SetMember → Reading SetMember
  | .single low, .single high =>
    if high < low then
      failBack (.badRange first.text last.text) (first.length + 1 + last.length)
    else pure (.range low high)
  | _, _ => failBack (.badRange first.text last.text) (first.length + 1 + last.length)

/-- The members of a set up to its closing bracket.  The bracket stands for itself when it comes
first.  `opening` is the place of the opening bracket. -/
def readMembers (opening : Nat) : Nat → List SetMember → Reading (List SetMember)
  | 0, _ => failAt .unterminatedSet opening
  | budget + 1, members => do
    match ← take? with
    | none => failAt .unterminatedSet opening
    | some token =>
      if token = .plain ']' && !members.isEmpty then pure members
      else
        let member ← readMember token
        if ← accept '-' then
          match ← take? with
          | none => failAt .unterminatedSet opening
          | some last =>
            if last = .plain ']' then pure (members ++ [member, .single 0x2D])
            else
              let range ← rangeOf token last member (← readMember last)
              readMembers opening budget (members ++ [range])
        else readMembers opening budget (members ++ [member])

/-- A set after its opening bracket; a set of one character is that character. -/
def readSet : Reading Pattern := do
  let opening := (← get).position - 1
  let negated ← accept '^'
  let members ← readMembers opening ((← get).rest.length + 1) []
  match distinct members with
  | [.single code] => pure (if negated then .notLiteral code else .literal code)
  | members => pure (.set negated members)

/-! ## Repetitions -/

/-- Counts at or above this number are refused. -/
def countLimit : Nat := 4294967295

/-- The bounds between braces after the opening one, none when they do not form a repetition. -/
def readBounds? : Reading (Option (Nat × Option Nat)) := do
  let opened ← get
  let low ← takeChars isDigit opened.rest.length
  let high ← if ← accept ',' then takeChars isDigit opened.rest.length else pure low
  if !(← accept '\x7d') then
    modify fun r => { r with rest := opened.rest, position := opened.position }
    pure none
  else
    let least := numberOf 10 low
    if least ≥ countLimit then fun _ => .error .countTooLarge
    else if high.isEmpty then pure (some (least, none))
    else
      let most := numberOf 10 high
      if most ≥ countLimit then fun _ => .error .countTooLarge
      else if most < least then failAt .repeatBoundsReversed opened.position
      else pure (some (least, some most))

/-- The mode of a repetition, by the character after its bounds. -/
def readMode : Reading RepeatMode := do
  if ← accept '?' then pure .lazy
  else if ← accept '+' then pure .possessive
  else pure .greedy

/-- The pieces with the last one repeated.  `place` is that of the repetition sign. -/
def repeatLast (place least : Nat) (most : Option Nat) (pieces : List Piece) :
    Reading (List Piece) := do
  match pieces.getLast? with
  | none => failAt .nothingToRepeat place
  | some last =>
    let isSingle (test : Pattern → Bool) : Bool :=
      match last with
      | .single p => test p
      | .bracket _ => false
    if isSingle Pattern.isAnchor then failAt .nothingToRepeat place
    else if isSingle Pattern.isRepeated then failAt .multipleRepeat place
    else
      let mode ← readMode
      pure (pieces.dropLast ++ [.single (.repeated mode least most last.body)])

/-! ## Groups -/

/-- Skips a comment up to its closing parenthesis. -/
def skipComment (opening : Nat) : Nat → Reading Unit
  | 0 => failAt .unterminatedComment opening
  | budget + 1 => do
    match ← take? with
    | none => failAt .unterminatedComment opening
    | some token => if token = .plain ')' then pure () else skipComment opening budget

/-- Skips a line comment with the line break that ends it. -/
def skipLine : Nat → Reading Unit
  | 0 => pure ()
  | budget + 1 => do
    match ← take? with
    | none => pure ()
    | some token => if token = .plain '\n' then pure () else skipLine budget

/-- A new group, open so far. -/
def openGroup (name : Option String) : Reading Nat := do
  let r ← get
  let group := r.groupCount
  match name with
  | none =>
    set { r with widths := r.widths ++ [none] }
    pure group
  | some name =>
    match r.names.lookup name with
    | some earlier => failBack (.repeatedGroupName name group earlier) (name.length + 1)
    | none =>
      set { r with widths := r.widths ++ [none], names := r.names ++ [(name, group)] }
      pure group

/-- Closes a group with what it has been found to contain. -/
def closeGroup (group : Nat) (body : Pattern) : Reading Unit :=
  modify fun r =>
    { r with widths := r.widths.set (group - 1) (some (body.width r.groupWidth).clamp) }

/-- The closing parenthesis of a group. -/
def closing (opening : Nat) : Reading Unit := do
  if !(← accept ')') then failAt .unterminatedGroup opening

/-- What the sign after an opening parenthesis and a question mark makes of a group. -/
inductive GroupKind where
  | plain
  | named (name : String)
  | reference (group : Nat)
  | comment
  | look (behind negated : Bool)
  | condition
  | atomic
  | flags (c : Char)

/-- The name of a group, which is an identifier. -/
def readGroupName (terminator : Char) : Reading String := do
  let name ← readName terminator "group name"
  if Text.isIdentifier name then pure (String.ofList name)
  else failBack (.badGroupName (String.ofList name)) (name.length + 1)

/-- A group that is named after its opening sign, or a reference to a group by name. -/
def readNamedKind : Reading GroupKind := do
  if ← accept '<' then return .named (← readGroupName '>')
  if ← accept '=' then
    let name ← readGroupName ')'
    let r ← get
    match r.names.lookup name with
    | none => failBack (.unknownGroupName name) (name.length + 1)
    | some group =>
      if !r.isClosed group then failBack .openGroup (name.length + 1)
      else
        checkLookBehindGroup group
        return .reference group
  match ← take? with
  | none => failBack .unexpectedEnd 0
  | some token => failBack (.unknownExtension ("P" ++ token.text)) (token.length + 2)

/-- The kind of a group after its opening parenthesis. -/
def readKind : Reading GroupKind := do
  if !(← accept '?') then return .plain
  match ← take? with
  | none => failBack .unexpectedEnd 0
  | some (.escaped c) =>
    failBack (.unknownExtension (PatternToken.escaped c).text) 3
  | some (.plain c) =>
    if c == 'P' then readNamedKind
    else if c == ':' then return .flags ':'
    else if c == '#' then return .comment
    else if c == '=' then return .look false false
    else if c == '!' then return .look false true
    else if c == '<' then
      match ← take? with
      | none => failBack .unexpectedEnd 0
      | some token =>
        if token = .plain '=' then return .look true false
        else if token = .plain '!' then return .look true true
        else failBack (.unknownExtension ("<" ++ token.text)) (token.length + 2)
    else if c == '(' then return .condition
    else if c == '>' then return .atomic
    else if c == '-' || isFlagLetter c then return .flags c
    else failBack (.unknownExtension c.toString) 2

/-- The group that a condition names, by identifier or by number. -/
def readCondition : Reading Nat := do
  let name ← readName ')' "group name"
  let text := String.ofList name
  let r ← get
  let group ←
    if Text.isIdentifier name then
      match r.names.lookup text with
      | some group => pure group
      | none => failBack (.unknownGroupName text) (name.length + 1)
    else
      match groupNumber? name with
      | none => failBack (.badGroupName text) (name.length + 1)
      | some group =>
        if group == 0 then failBack .badGroupNumber (name.length + 1)
        else if group ≥ 1073741823 then
          failBack (.invalidGroupReference group) (name.length + 1)
        else
          let place := r.position - name.length - 1
          if (r.tested.lookup group).isNone then
            set { r with tested := r.tested ++ [(group, place)] }
          pure group
  checkLookBehindGroup group
  pure group

/-! ## The grammar -/

mutual

/-- Alternatives between bars, as items of one sequence.  `verbose` says whether layout is free;
at the top level later alternatives follow the flags of the whole pattern. -/
def alternatives : Nat → Bool → Bool → Reading (List Pattern)
  | 0, _, _ => failBack .unexpectedEnd 0
  | budget + 1, verbose, nested => do
    let first ← pieces budget verbose (!nested) []
    joinAlternatives <$> moreAlternatives budget verbose nested [first]

/-- The alternatives that follow those given. -/
def moreAlternatives : Nat → Bool → Bool → List (List Pattern) → Reading (List (List Pattern))
  | 0, _, _, _ => failBack .unexpectedEnd 0
  | budget + 1, verbose, nested, found => do
    if ← accept '|' then
      let r ← get
      let verbose := if nested then verbose else r.flags.verbose
      let items ← pieces budget verbose false []
      moreAlternatives budget verbose nested (found ++ [items])
    else pure found

/-- A sequence of pieces up to a bar, a closing parenthesis or the end.  `first` says whether flags
for the whole pattern may stand here. -/
def pieces : Nat → Bool → Bool → List Piece → Reading (List Pattern)
  | 0, _, _, _ => failBack .unexpectedEnd 0
  | budget + 1, verbose, first, found => do
    let place := (← get).position
    match ← next? with
    | none => pure (found.flatMap Piece.items)
    | some (.escaped c) =>
      let _ ← take?
      let p ← readEscape c
      pieces budget verbose first (found ++ [.single p])
    | some (.plain c) =>
      if c == '|' || c == ')' then pure (found.flatMap Piece.items)
      else
        let _ ← take?
        if verbose && Text.isAsciiBlank c.toNat then pieces budget verbose first found
        else if verbose && c == '#' then
          skipLine ((← get).rest.length + 1)
          pieces budget verbose first found
        else if c == '[' then
          let p ← readSet
          pieces budget verbose first (found ++ [.single p])
        else if c == '.' then pieces budget verbose first (found ++ [.single .any])
        else if c == '^' then pieces budget verbose first (found ++ [.single (.anchor .start)])
        else if c == '$' then pieces budget verbose first (found ++ [.single (.anchor .stop)])
        else if c == '?' then
          pieces budget verbose first (← repeatLast place 0 (some 1) found)
        else if c == '*' then
          pieces budget verbose first (← repeatLast place 0 none found)
        else if c == '+' then
          pieces budget verbose first (← repeatLast place 1 none found)
        else if c == '\x7b' then
          if (← next?) = some (.plain '\x7d') then
            pieces budget verbose first (found ++ [.single (.literal c.toNat)])
          else
            match ← readBounds? with
            | none => pieces budget verbose first (found ++ [.single (.literal c.toNat)])
            | some (least, most) =>
              pieces budget verbose first (← repeatLast place least most found)
        else if c == '(' then
          match ← readKind with
          | .comment =>
            skipComment place ((← get).rest.length + 1)
            pieces budget verbose first found
          | .reference group =>
            pieces budget verbose first (found ++ [.single (.reference group)])
          | .flags ':' =>
            let items ← alternatives budget verbose true
            closing place
            pieces budget verbose first (found ++ [.bracket items])
          | .flags letter =>
            match ← readFlags letter with
            | none =>
              let r ← get
              if !first || !found.isEmpty then failAt .misplacedGlobalFlags place
              else pieces budget r.flags.verbose first found
            | some (added, removed) =>
              let inner := (verbose || added.verbose) && !removed.verbose
              let items ← alternatives budget inner true
              closing place
              let p := Pattern.flagged added removed (.ofItems items)
              pieces budget verbose first (found ++ [.single p])
          | .atomic =>
            let items ← alternatives budget verbose true
            closing place
            pieces budget verbose first (found ++ [.single (.atomic (.ofItems items))])
          | .look false negated =>
            let items ← alternatives budget verbose true
            closing place
            pieces budget verbose first (found ++ [.single (.ahead negated (.ofItems items))])
          | .look true negated =>
            let outer := (← get).behindLimit
            modify fun r => { r with behindLimit := some (outer.getD r.groupCount) }
            let items ← alternatives budget verbose true
            modify fun r => { r with behindLimit := outer }
            closing place
            let body := Pattern.ofItems items
            let width := (body.width (← get).groupWidth).clamp
            pieces budget verbose first (found ++ [.single (.behind negated width body)])
          | .condition =>
            let group ← readCondition
            let yes ← pieces budget verbose false []
            let no ← if ← accept '|' then pieces budget verbose false [] else pure []
            if (← next?) = some (.plain '|') then failBack .tooManyBranches 0
            else
              closing place
              let p := Pattern.conditional group (.ofItems yes) (.ofItems no)
              pieces budget verbose first (found ++ [.single p])
          | .plain =>
            let group ← openGroup none
            let items ← alternatives budget verbose true
            closing place
            closeGroup group (.ofItems items)
            pieces budget verbose first (found ++ [.single (.capture group (.ofItems items))])
          | .named name =>
            let group ← openGroup (some name)
            let items ← alternatives budget verbose true
            closing place
            closeGroup group (.ofItems items)
            pieces budget verbose first (found ++ [.single (.capture group (.ofItems items))])
        else pieces budget verbose first (found ++ [.single (.literal c.toNat)])

end

end Reading

/-! ## Whole patterns -/

/-- A pattern with the flags of the whole of it, the number of its groups and its width. -/
structure ParsedPattern where
  body : Pattern
  flags : Flags
  groups : Nat
  width : Width
  deriving DecidableEq, Repr

namespace Pattern

/-- The flags of a whole pattern: texts have all characters unless ASCII is asked for. -/
def settleFlags (alphabet : Alphabet) (f : Flags) : Except PatternFailure Flags :=
  match alphabet with
  | .text =>
    if f.locale then .error (.conflict .localeOfText)
    else if !f.ascii then .ok { f with unicode := true }
    else if f.unicode then .error (.conflict .asciiAndUnicode)
    else .ok f
  | .bytes =>
    if f.unicode then .error (.conflict .unicodeOfBytes)
    else if f.locale && f.ascii then .error (.conflict .asciiAndLocale)
    else .ok f

/-- The groups that conditions name must exist. -/
def checkTested (count : Nat) : List (Nat × Nat) → Except PatternFailure Unit
  | [] => .ok ()
  | (group, place) :: rest =>
    if group ≥ count then .error (.fault (.invalidGroupReference group) (some place))
    else checkTested count rest

/-- The reader at the start of a text. -/
def startReader (alphabet : Alphabet) (chars : List Char) (flags : Flags) : PatternReader where
  alphabet := alphabet
  rest := chars
  position := 0
  flags := flags
  names := []
  widths := []
  behindLimit := none
  tested := []

/-- A whole text as a pattern.  The budget is twice the length, since every second step of the
grammar takes a token. -/
def parse (alphabet : Alphabet) (source : String) (flags : Flags) :
    Except PatternFailure ParsedPattern := do
  let chars := source.toList
  if chars = ['\\'] then throw (.fault .escapeAtEnd (some 0))
  let (items, r) ←
    (Reading.alternatives (2 * chars.length + 4) flags.verbose false).run
      (startReader alphabet chars flags)
  let settled ← settleFlags alphabet r.flags
  if r.rest ≠ [] then throw (.fault .unbalancedParenthesis (some r.position))
  checkTested r.groupCount r.tested
  let body := ofItems items
  pure ⟨body, settled, r.groupCount - 1, (body.width r.groupWidth).clamp⟩

end Pattern

end FieldSchema
