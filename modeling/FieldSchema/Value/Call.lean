import FieldSchema.Value.Coding

/-!
# Calling values

Some values are functions: default factories, hooks, accessors of virtual fields, factories of
cached values.  A call may fail, and the failure carries the name of its kind and a text.

What a call returns depends on the arguments and on the calls made so far, which are therefore a
value of their own.  Of the functions of a fixed kind only counters heed them.  Functions from
outside may be anything that is called with values and answers with a value: they may keep a state,
and several of them may keep one together, so what one of them answers may depend on all calls of
all functions.  Two things are assumed of them.

* They read their arguments and do not change them.
* None of them answers with the mark of a field without a value, which is private to the checks; a
  function that passes the mark on is a constant or reads an entry.

* `CallHistory`: the calls made so far.
* `Calling`: a computation that may call functions.
* `Value.answer`: what a value answers after other calls.
* `Value.call`: the result of calling a value.
* `Value.assignWith`: the document that a setter leaves.
-/

namespace FieldSchema

/-! ## Histories of calls -/

/-- A call of a function, by its identity, with arguments. -/
structure FunctionCall where
  identity : Nat
  arguments : List Value
  deriving Inhabited

/-- What functions from outside answer. -/
structure Outside where
  /-- What a function answers to arguments after other calls, of which the last one comes first. -/
  answer : List FunctionCall → Nat → List Value → Except Raised Value
  answer_ne_mark : ∀ calls identity arguments,
    answer calls identity arguments ≠ .ok (.other Value.absentLabel)

/-- There are no functions from outside: a call fails. -/
instance : Inhabited Outside where
  default := ⟨fun _ _ _ => .error .wrongType, fun _ _ _ => nofun⟩

/-- The calls made so far, and what functions from outside answer. -/
structure CallHistory where
  /-- The calls, of which the last one comes first. -/
  calls : List FunctionCall := []
  outside : Outside := default
  deriving Inhabited

namespace CallHistory

/-- No call. -/
def empty : CallHistory := {}

/-- One more call of a function. -/
def record (history : CallHistory) (identity : Nat) (arguments : List Value) : CallHistory :=
  { history with calls := ⟨identity, arguments⟩ :: history.calls }

@[simp] theorem outside_record (history : CallHistory) (identity : Nat) (arguments : List Value) :
    (history.record identity arguments).outside = history.outside := rfl

@[simp] theorem calls_record (history : CallHistory) (identity : Nat) (arguments : List Value) :
    (history.record identity arguments).calls = ⟨identity, arguments⟩ :: history.calls := rfl

end CallHistory

/-- A computation that may call functions, on the history of calls so far. -/
abbrev Calling (α : Type) := CallHistory → Except Raised α × CallHistory

namespace Calling

/-- Fails without a call. -/
def fail {α : Type} (r : Raised) : Calling α := fun history => (.error r, history)

/-- Returns a value without a call. -/
def value {α : Type} (a : α) : Calling α := fun history => (.ok a, history)

/-- Goes on with the result of a computation. -/
def andThen {α β : Type} (first : Calling α) (next : α → Calling β) : Calling β := fun history =>
  match first history with
  | (.ok a, history) => next a history
  | (.error r, history) => (.error r, history)

/-- A computation in two steps returns a value when both steps do. -/
theorem andThen_eq_ok_iff {α β : Type} {first : Calling α} {next : α → Calling β} {b : β}
    {history later : CallHistory} :
    andThen first next history = (.ok b, later) ↔
      ∃ a between, first history = (.ok a, between) ∧ next a between = (.ok b, later) := by
  rw [andThen]
  constructor
  · intro h
    split at h
    · exact ⟨_, _, ‹_›, h⟩
    · exact nomatch h
  · rintro ⟨a, between, hfirst, hnext⟩
    rw [hfirst]
    exact hnext

/-- A computation in two steps fails when the first step does, or the second one after it. -/
theorem andThen_eq_error_iff {α β : Type} {first : Calling α} {next : α → Calling β} {r : Raised}
    {history later : CallHistory} :
    andThen first next history = (.error r, later) ↔
      first history = (.error r, later) ∨
        ∃ a between, first history = (.ok a, between) ∧ next a between = (.error r, later) := by
  rw [andThen]
  constructor
  · intro h
    split at h
    · exact .inr ⟨_, _, ‹_›, h⟩
    · rename_i hfirst
      exact .inl (hfirst.trans (by rw [(Prod.mk.inj h).2, Except.error.inj (Prod.mk.inj h).1]))
  · rintro (hfirst | ⟨a, between, hfirst, hnext⟩)
    · rw [hfirst]
    · rw [hfirst]
      exact hnext

instance : Monad Calling where
  pure := value
  bind := andThen

/-- The items of a list one after the other, until one fails. -/
def mapList {α β : Type} (f : α → Calling β) : List α → Calling (List β)
  | [] => value []
  | a :: rest => andThen (f a) fun b => andThen (mapList f rest) fun bs => value (b :: bs)

end Calling

/-! ## Calls -/

namespace Value

/-- Whether the values of a type are looked up by key. -/
def isLookupType (t : TypeName) : Bool := t ∈ [.dict, .mapping, .typingMapping]

/-- What a document holds under a key, null when it holds nothing.  Field specifications answer for
their modifiers, of which the last one counts.  A type of mappings is no mapping itself. -/
def entryAt (document key : Value) : Except Raised Value :=
  match document with
  | .map entries =>
    if key.isHashable then .ok ((Entries.get? entries key).getD .null) else .error .wrongType
  | .spec _ modifiers => .ok ((Entries.get? modifiers.reverse key).getD .null)
  | .typeName t => .error (if isLookupType t then .wrongType else .noSuchPart)
  | _ => .error .noSuchPart

/-- The place in a list of an index, which may count from the end. -/
def placeAt? (index : Int) (length : Nat) : Option Nat :=
  if 0 ≤ index then if index < length then some index.toNat else none
  else if -index ≤ length then some (length - (-index).toNat) else none

/-- A document with a value under a key, or in the place of an item. -/
def withEntry (document key newValue : Value) : Except Raised Value :=
  match document with
  | .map entries =>
    if key.isHashable then .ok (.map (Entries.insert entries key newValue)) else .error .wrongType
  | .list items =>
    match key.asIndex? with
    | none => .error .wrongType
    | some index =>
      match placeAt? index items.length with
      | some place => .ok (.list (items.set place newValue))
      | none => .error { kind := "IndexError" }
  | _ => .error .wrongType

/-- The result of a function of a kind with its parameters, given the number of earlier calls. -/
def apply (kind : FunctionKind) (parameters arguments : List Value) (earlier : Nat) :
    Except Raised Value :=
  match kind, parameters, arguments with
  | .constant, v :: _, [] => .ok v
  | .counter, .int n :: _, [] => .ok (.int (n + earlier))
  | .raising, .text errorKind :: .text words :: _, _ => .error { kind := errorKind, text := words }
  | .hook, tag :: _, arguments => .ok (.list (tag :: arguments))
  | .getter, key :: _, [document] => document.entryAt key
  | .setter, key :: _, [document, newValue] => do
    let _ ← document.withEntry key newValue
    pure .null
  | .describe, _, [v] => .ok (.text v.written)
  | .wrap, tag :: _, [v] => .ok (.list [tag, v])
  | _, _, _ => .error .wrongType

/-- The number of calls of a function. -/
def callCount (calls : List FunctionCall) (identity : Nat) : Nat :=
  calls.countP fun call => call.identity == identity

/-- What a value answers to arguments after other calls.  Types make a value of themselves; what is
no function cannot be called. -/
def answer (f : Value) (outside : Outside) (calls : List FunctionCall) (arguments : List Value) :
    Except Raised Value :=
  match f with
  | .function identity _ (.outside _ _) _ => outside.answer calls identity arguments
  | .function identity _ kind parameters =>
    apply kind parameters arguments (callCount calls identity)
  | .typeName t => t.make arguments
  | _ => .error .wrongType

/-- A function answers from outside, or as its kind does. -/
theorem answer_function_eq_ok {identity : Nat} {isShared : Bool} {kind : FunctionKind}
    {parameters arguments : List Value} {outside : Outside} {calls : List FunctionCall}
    {made : Value}
    (h : (function identity isShared kind parameters).answer outside calls arguments = .ok made) :
    (∃ name asks, kind = .outside name asks ∧ outside.answer calls identity arguments = .ok made) ∨
      apply kind parameters arguments (callCount calls identity) = .ok made := by
  cases kind with
  | outside name asks => exact .inl ⟨name, asks, rfl, h⟩
  | _ => exact .inr h

/-- The history after a call of a value. -/
def recordedIn (f : Value) (history : CallHistory) (arguments : List Value) : CallHistory :=
  match f with
  | .function identity _ _ _ => history.record identity arguments
  | _ => history

/-- The result of calling a value. -/
def call (f : Value) (arguments : List Value) : Calling Value := fun history =>
  (f.answer history.outside history.calls arguments, f.recordedIn history arguments)

/-- The document that a setter leaves when it is called with a document and a value.  Other
functions leave the document as it is. -/
def assignWith (setter document newValue : Value) : Calling Value := fun history =>
  match setter.call [document, newValue] history with
  | (.error r, history) => (.error r, history)
  | (.ok _, history) =>
    match setter with
    | .function _ _ .setter (key :: _) => (document.withEntry key newValue, history)
    | _ => (.ok document, history)

end Value

end FieldSchema
