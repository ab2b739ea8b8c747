import FieldSchema.Pattern.Opening
import FieldSchema.Pattern.Repetition

/-!
# Matching a pattern

A match is searched for by trying: every choice is tried in the order that the pattern prefers,
and the next one follows when what comes after it fails.  What comes after is an argument of the
matcher, a function that continues from a place and a trail; so a pattern is matched by recursion
on the pattern alone, and the length of the text bounds the rounds of a repetition.

A choice takes the marks back that a failed try has set.  What stays is the cursor, and outside of
loops the new places of marks that were set before; a possessive repetition goes on from the
cursor, so what a failed round has left there can be seen.

* `Pattern.run`: the first match that the continuation accepts.
* `Pattern.searchFrom`: the first place from which a pattern matches.
-/

namespace FieldSchema

/-- What surrounds a part of a pattern. -/
structure Scope where
  /-- The flags in force. -/
  flags : Flags
  /-- Whether the part lies in a loop whose rounds can be taken back. -/
  looped : Bool := false
  /-- The character that has to come after the part, if it is known. -/
  next : Option Nat := none
  deriving DecidableEq, Repr

namespace Scope

/-- The surroundings of a part after which something unknown comes. -/
def inner (s : Scope) : Scope := { s with next := none }

/-- The surroundings of the body of a repetition. -/
def loop (mode : RepeatMode) (s : Scope) : Scope :=
  { s with looped := s.looped || mode != .possessive, next := none }

end Scope

namespace Pattern

/-! ## Single steps -/

/-- Takes up one character that passes a test. -/
def step (test : Nat → Bool) : Matching := fun p t k =>
  match p.next? with
  | some (c, q) => if test c.toNat then k q t else .failed t
  | none => .failed t

/-- Whether the characters on both sides differ in being word characters. -/
def atWordEdge (flags : Flags) (p : Place) : Bool :=
  let isWord (c : Option Char) : Bool :=
    match c with
    | some c => isWordFor flags c.toNat
    | none => false
  isWord p.before.head? != isWord p.after.head?

/-- Whether a place satisfies an anchor.  The end of the text includes the place before a line
break that ends it.  An empty text has neither word edges nor their opposite. -/
def anchorHolds (flags : Flags) (p : Place) : Anchor → Bool
  | .textStart => p.before.isEmpty
  | .textStop => p.after.isEmpty
  | .start => p.before.isEmpty || (flags.multiline && p.before.head? = some '\n')
  | .stop =>
    p.after.isEmpty || p.after = ['\n'] || (flags.multiline && p.after.head? = some '\n')
  | .wordBoundary => !(p.before.isEmpty && p.after.isEmpty) && atWordEdge flags p
  | .notWordBoundary => !(p.before.isEmpty && p.after.isEmpty) && !atWordEdge flags p

/-- Takes up a given text, character by character, under the flags for case. -/
def takeText (flags : Flags) : List Char → Place → Option Place
  | [], p => some p
  | c :: rest, p =>
    match p.next? with
    | some (d, q) =>
      let same := if flags.ignoreCase then foldCase flags c.toNat == foldCase flags d.toNat
        else c == d
      if same then takeText flags rest q else none
    | none => none

/-! ## Parts with a body -/

/-- One of several alternatives: it is skipped if the text cannot be its beginning, and its marks
are taken back when it fails. -/
def alternative (scope : Scope) (body : Pattern) (matching : Matching) : Matching := fun p t k =>
  if body.opensUnmet scope.flags p.after then .failed t
  else (matching p (t.moveTo p) k).onFailure (·.restore scope.looped t.marks)

/-- A repetition of a body of one character. -/
def repeatUnit (scope : Scope) (mode : RepeatMode) (least : Nat) (most : Option Nat)
    (test : Nat → Bool) (tried : Bool) : Matching := fun p t k =>
  if p.after.length < least then .failed t
  else
    let go : Continuation := fun q u =>
      if mode = .greedy && scope.next.any (q.after.head?.map Char.toNat != some ·) then .failed u
      else (k q (u.moveTo q)).onFailure (·.restore scope.looped t.marks)
    let bound := if mode = .lazy then some least else most
    let count := countOf test bound p.after
    let q := p.forward count
    let t := t.moveTo (if tried then q else p)
    if count < least then .failed t
    else
      match mode with
      | .greedy => longestFirst go count least p t
      | .lazy => shortestFirst test tried go q.before (most.map (· - least)) q.after t
      | .possessive => k q t

/-- A repetition of any other body. -/
def repeatBody (scope : Scope) (mode : RepeatMode) (least : Nat) (most : Option Nat)
    (body : Matching) : Matching := fun p t k =>
  let left := most.map (· - least)
  match mode with
  | .greedy =>
    leastRounds body
      (fun q => greedyRounds body (q.after.length + 1) left none q) least p t k
  | .lazy =>
    leastRounds body
      (fun q => lazyRounds scope.looped body (q.after.length + 1) left none q) least p t k
  | .possessive =>
    match settledLeast body least (t.moveTo p) with
    | .found u =>
      let v := settledMore body (u.cursor.after.length + 1) left u
      k v.cursor v
    | .failed u => .failed (u.moveTo p)

/-- A part of which only the first match counts. -/
def settle (body : Matching) : Matching := fun p t k =>
  match body p (t.moveTo p) Continuation.accept with
  | .found u => k u.cursor u
  | .failed u => .failed (u.moveTo p)

/-- A condition on what stands after a place some characters back. -/
def look (scope : Scope) (back : Nat) (negated : Bool) (body : Matching) : Matching :=
  fun p t k =>
    match p.back? back with
    | none => if negated then k p t else .failed t
    | some q =>
      match body q (t.moveTo q) Continuation.accept with
      | .found u => if negated then .failed u else k p u
      | .failed u => if negated then k p (u.restore scope.looped t.marks) else .failed u

/-! ## Patterns -/

/-- The first match of a pattern from a place on after which the continuation succeeds. -/
def run (scope : Scope) : Pattern → Matching
  | .empty, p, t, k => k p t
  | .literal code, p, t, k => step (literalMatches scope.flags code) p t k
  | .notLiteral code, p, t, k => step (fun c => !literalMatches scope.flags code c) p t k
  | .any, p, t, k => step (anyMatches scope.flags) p t k
  | .set negated members, p, t, k => step (setMatches scope.flags negated members) p t k
  | .anchor a, p, t, k => if anchorHolds scope.flags p a then k p t else .failed t
  | .reference group, p, t, k =>
    match (t.groupText? group).bind fun text => takeText scope.flags text p with
    | some q => k q t
    | none => .failed t
  | .cat first second, p, t, k =>
    run { scope with next := second.openingLiteral? scope.flags scope.next } first p t
      fun q u => run scope second q u k
  | .alt first second, p, t, k =>
    (alternative scope first (run scope.inner first) p t k).orElse fun u =>
      if second.isAlt then run scope.inner second p u k
      else alternative scope second (run scope.inner second) p u k
  | .capture group body, p, t, k =>
    run scope.inner body p (t.mark (2 * group - 2) p) fun q u => k q (u.mark (2 * group - 1) q)
  | .flagged added removed body, p, t, k =>
    run { scope with flags := scope.flags.within added removed } body p t k
  | .atomic body, p, t, k => settle (run scope.inner body) p t k
  | .repeated mode least most body, p, t, k =>
    match body.unitTest? scope.flags with
    | some test => repeatUnit scope mode least most test (body.isTriedUnit scope.flags) p t k
    | none => repeatBody scope mode least most (run (scope.loop mode) body) p t k
  | .ahead negated body, p, t, k => look scope 0 negated (run scope.inner body) p t k
  | .behind negated width body, p, t, k =>
    look scope width.least negated (run scope.inner body) p t k
  | .conditional group yes no, p, t, k =>
    if (t.groupText? group).isSome then
      run { scope with next := if no = .empty then scope.next else none } yes p t k
    else run scope no p t k

/-- A match from a place on, with no group marked. -/
def attemptAt (flags : Flags) (pattern : Pattern) (p : Place) : Attempt :=
  run ⟨flags, false, none⟩ pattern p (.start p) Continuation.accept

/-- Searches for a match that starts here or later.  A text that is shorter than every match has
none, and places near the end of the text are not tried when even a match of one character less
would not fit. -/
def searchFrom (flags : Flags) (least : Nat) (pattern : Pattern) (before : List Char) :
    List Char → Option Trail
  | [] =>
    match pattern.attemptAt flags ⟨before, []⟩ with
    | .found t => some t
    | .failed _ => none
  | c :: rest =>
    match pattern.attemptAt flags ⟨before, c :: rest⟩ with
    | .found t => some t
    | .failed _ =>
      if rest.length + 1 < least then none
      else searchFrom flags least pattern (c :: before) rest

end Pattern

end FieldSchema
