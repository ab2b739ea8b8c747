import FieldSchema.Pattern.Trail

/-!
# Repetitions

The loops of a matcher.  A body of one character is counted first and then given back or taken up
one by one; any other body goes through rounds, and after its least number of rounds a loop goes on
only from a place other than the one where it went on before.

* `countOf`, `longestFirst`, `shortestFirst`: bodies of one character.
* `leastRounds`, `greedyRounds`, `lazyRounds`: other bodies, with what comes after them.
* `settledLeast`, `settledMore`: rounds that are never taken back.
-/

namespace FieldSchema.Pattern

/-- How many rounds are left after one, of those that may be without bound. -/
def oneLess : Option Nat → Option Nat
  | none => none
  | some n => some (n - 1)

/-! ## Bodies of one character -/

/-- How many characters of a text pass a test one after another, up to a bound. -/
def countOf (test : Nat → Bool) (most : Option Nat) (chars : List Char) : Nat :=
  let run := (chars.takeWhile fun c => test c.toNat).length
  match most with
  | none => run
  | some m => min run m

/-- Goes on a number of characters further, then fewer, as long as at least `least` are kept. -/
def longestFirst (go : Continuation) : Nat → Nat → Continuation
  | 0, least, p, t => if least = 0 then go p t else .failed t
  | count + 1, least, p, t =>
    match p.next? with
    | some (_, q) =>
      (longestFirst go count (least - 1) q t).orElse fun u =>
        if least = 0 then go p u else .failed u
    | none => if least = 0 then go p t else .failed t

/-- Goes on where the text before ends, then one character further as long as it passes the test.
`slow` says whether the count of one character moves the cursor. -/
def shortestFirst (test : Nat → Bool) (slow : Bool) (go : Continuation) :
    List Char → Option Nat → List Char → Trail → Attempt
  | before, _, [], t => (go ⟨before, []⟩ t).onFailure (·.moveTo ⟨before, []⟩)
  | before, left, c :: rest, t =>
    (go ⟨before, c :: rest⟩ t).orElse fun u =>
      if !test c.toNat then .failed (u.moveTo ⟨before, c :: rest⟩)
      else if left = some 0 then
        .failed (u.moveTo (if slow then ⟨c :: before, rest⟩ else ⟨before, c :: rest⟩))
      else shortestFirst test slow go (c :: before) (oneLess left) rest u

/-! ## Other bodies -/

/-- The least number of rounds, before the loop goes on. -/
def leastRounds (body loop : Matching) : Nat → Matching
  | 0, p, t, k => loop p t k
  | count + 1, p, t, k =>
    (body p (t.moveTo p) fun q u => leastRounds body loop count q u k).onFailure (·.moveTo p)

/-- As many rounds as possible, then fewer.  `last` is where the loop went on before, and the first
number bounds the rounds. -/
def greedyRounds (body : Matching) : Nat → Option Nat → Option Place → Matching
  | 0, _, _, p, t, k => (k p (t.moveTo p)).onFailure (·.moveTo p)
  | budget + 1, left, last, p, t, k =>
    let leave (u : Trail) : Attempt := (k p (u.moveTo p)).onFailure (·.moveTo p)
    if left = some 0 || last.any (·.isAt p) then leave t
    else
      (body p (t.moveTo p) fun q u =>
        greedyRounds body budget (oneLess left) (some p) q u k).orElse fun u =>
          leave (u.restore true t.marks)

/-- As few rounds as possible, then more.  `looped` says whether the loop itself is in a loop. -/
def lazyRounds (looped : Bool) (body : Matching) : Nat → Option Nat → Option Place → Matching
  | 0, _, _, p, t, k => (k p (t.moveTo p)).onFailure (·.moveTo p)
  | budget + 1, left, last, p, t, k =>
    (k p (t.moveTo p)).orElse fun u =>
      let u := (u.restore looped t.marks).moveTo p
      if left = some 0 || last.any (·.isAt p) then .failed u
      else
        (body p u fun q v =>
          lazyRounds looped body budget (oneLess left) (some p) q v k).onFailure (·.moveTo p)

/-! ## Settled rounds -/

/-- The least number of rounds, of each only the first match; each starts at the cursor. -/
def settledLeast (body : Matching) : Nat → Trail → Attempt
  | 0, t => .found t
  | count + 1, t =>
    match body t.cursor t Continuation.accept with
    | .found u => settledLeast body count u
    | .failed u => .failed u

/-- As many rounds as possible, of each only the first match.  A round that fails is the last, and
so is one that takes up nothing; the cursor stays where the last round has left it. -/
def settledMore (body : Matching) : Nat → Option Nat → Trail → Trail
  | 0, _, t => t
  | budget + 1, left, t =>
    if left = some 0 then t
    else
      match body t.cursor t Continuation.accept with
      | .found u =>
        if u.cursor.isAt t.cursor then u else settledMore body budget (oneLess left) u
      | .failed u => u.restore true t.marks

end FieldSchema.Pattern
