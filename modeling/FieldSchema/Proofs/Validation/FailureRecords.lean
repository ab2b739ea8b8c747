import FieldSchema.Validation.ErrorRecord
import Mathlib.Data.List.Forall2

/-!
# The records of a failure, entry by entry

Reading a failure gives records.  What can go wrong is kept apart at two levels: a failure whose
collection cannot be had gives none, and an entry that cannot be read gives the usual record without
touching the records beside it.

This holds for what is caught.  A failure that is raised while an entry is read is noted in words,
so one that cannot be shown goes through, and so does one that asks the whole program to stop.  Then
there are no records at all, not even of the entries that can be read
(`ErrorRecord.ofFailure_of_uncaught`).

## Collections

A failure is asked for its issues, and for its errors when it has no issues.  A collection may be
held or returned by a function (`ErrorRecord.Offers`), and what functions return may depend on
earlier calls, so the collection that is selected comes with the calls made for it
(`ErrorRecord.Selects`).  Only a sequence lists entries (`ErrorRecord.Lists`); then the records are
those of the entries, one by one (`ErrorRecord.result_ofFailure_of_lists`).

## Entries

An entry is asked for one part after the other, each under a few names.  Which of them cannot be
read is said in `Value.Withholds`: all names before the one that fails must be free, since a part
that is there keeps the later names from being read.

* `ErrorRecord.exists_ofEntry_eq_error_iff`: when an entry cannot be read.
* `ErrorRecord.ofFailure_isolates`: the records of any failure.
-/

namespace FieldSchema

/-! ## Parts that cannot be read -/

namespace Value

/-- Asked for a part under some names, a value has none under the first of them, and the next one
cannot be read. -/
inductive Withholds (source : Value) : List String → Raised → Prop
  | here {name : String} {rest : List String} {cause : Raised}
    (hpart : source.part name = .error cause) : Withholds source (name :: rest) cause
  | later {name : String} {rest : List String} {cause : Raised}
    (hpart : source.part name = .ok .null) (hrest : Withholds source rest cause) :
    Withholds source (name :: rest) cause

variable {source : Value} {name : String} {names : List String} {cause : Raised}

theorem firstPart_cons_of_null (hpart : source.part name = .ok .null) (rest : List String) :
    source.firstPart (name :: rest) = source.firstPart rest := by
  rw [firstPart, hpart]

theorem firstPart_cons_of_ne_null (hpart : source.part name ≠ .ok .null) (rest : List String) :
    source.firstPart (name :: rest) = source.part name := by
  rw [firstPart]
  split
  · exact absurd ‹_› hpart
  · rfl

theorem firstPart_singleton (source : Value) (name : String) :
    source.firstPart [name] = source.part name := by
  by_cases hpart : source.part name = .ok .null
  · rw [firstPart_cons_of_null hpart, hpart]
    rfl
  · exact firstPart_cons_of_ne_null hpart []

theorem firstPart_eq_error_iff :
    source.firstPart names = .error cause ↔ source.Withholds names cause := by
  constructor
  · intro h
    induction names with
    | nil => exact nomatch h
    | cons name rest ih =>
      by_cases hpart : source.part name = .ok .null
      · rw [firstPart_cons_of_null hpart] at h
        exact .later hpart (ih h)
      · rw [firstPart_cons_of_ne_null hpart] at h
        exact .here h
  · intro h
    induction h with
    | here hpart => rw [firstPart_cons_of_ne_null (by rw [hpart]; exact nofun), hpart]
    | later hpart _ ih => rw [firstPart_cons_of_null hpart, ih]

/-- What can be read is not withheld. -/
theorem not_withholds_of_firstPart_eq_ok {v : Value} (h : source.firstPart names = .ok v) :
    ¬source.Withholds names cause := fun hwithholds =>
  nomatch h.symm.trans (firstPart_eq_error_iff.mpr hwithholds)

theorem exists_firstPart_eq_ok (h : ∀ cause, ¬source.Withholds names cause) :
    ∃ v, source.firstPart names = .ok v := by
  cases hread : source.firstPart names with
  | error cause => exact absurd (firstPart_eq_error_iff.mp hread) (h cause)
  | ok v => exact ⟨v, rfl⟩

end Value

namespace ErrorRecord

/-! ## Entries -/

/-- The names under which an entry is asked for its parts. -/
def askedNames : List (List String) :=
  [["ctx"], ["input", "received"], ["expected", "format"], ["path", "loc"], ["message", "msg"],
    ["code", "type"]]

/-- A part of an entry cannot be read, or the entry does not say what it expected and its context
cannot be asked. -/
inductive IsUnreadable (entry : Value) : Prop
  | own (names : List String) {cause : Raised} (hasked : names ∈ askedNames)
    (h : entry.Withholds names cause)
  | context {context : Value} {cause : Raised} (hcontext : entry.part "ctx" = .ok context)
    (hsilent : entry.firstPart ["expected", "format"] = .ok .null)
    (h : context.Withholds ["expected", "format"] cause)

theorem expectationOf_of_null {entry : Value} (context : Value)
    (hsilent : entry.firstPart ["expected", "format"] = .ok .null) :
    expectationOf entry context = context.firstPart ["expected", "format"] := by
  rw [expectationOf, hsilent]
  rfl

theorem expectationOf_of_ne_null {entry : Value} (context : Value)
    (hstated : entry.firstPart ["expected", "format"] ≠ .ok .null) :
    expectationOf entry context = entry.firstPart ["expected", "format"] := by
  rw [expectationOf]
  cases hown : entry.firstPart ["expected", "format"] with
  | error cause => rfl
  | ok own =>
    cases own with
    | null => exact absurd hown hstated
    | _ => rfl

/-- What an entry expected is known unless one of the two that are asked for it withholds it. -/
theorem expectationOf_eq_error_iff {entry context : Value} {cause : Raised} :
    expectationOf entry context = .error cause ↔
      entry.Withholds ["expected", "format"] cause ∨
        entry.firstPart ["expected", "format"] = .ok .null ∧
          context.Withholds ["expected", "format"] cause := by
  by_cases hsilent : entry.firstPart ["expected", "format"] = .ok .null
  · have hown : ¬entry.Withholds ["expected", "format"] cause :=
      Value.not_withholds_of_firstPart_eq_ok hsilent
    rw [expectationOf_of_null context hsilent, Value.firstPart_eq_error_iff]
    exact ⟨fun h => .inr ⟨hsilent, h⟩, fun h => (h.resolve_left hown).2⟩
  · rw [expectationOf_of_ne_null context hsilent, Value.firstPart_eq_error_iff]
    exact ⟨.inl, fun h => h.resolve_right fun hcontext => hsilent hcontext.1⟩

/-- An entry of which a record can be made could be read in all its parts. -/
theorem not_isUnreadable_of_ofEntry_eq_ok {entry : Value} {record : ErrorRecord}
    (h : ofEntry entry = .ok record) : ¬IsUnreadable entry := by
  obtain ⟨context, hcontext, h⟩ := Logged.bind_eq_ok_iff.mp h
  obtain ⟨value, hvalue, h⟩ := Logged.bind_eq_ok_iff.mp h
  obtain ⟨expected, hexpected, h⟩ := Logged.bind_eq_ok_iff.mp h
  obtain ⟨path, hpath, h⟩ := Logged.bind_eq_ok_iff.mp h
  obtain ⟨message, hmessage, h⟩ := Logged.bind_eq_ok_iff.mp h
  obtain ⟨code, hcode, -⟩ := Logged.bind_eq_ok_iff.mp h
  have hexpectation (cause : Raised) : expectationOf entry context ≠ .error cause := fun h =>
    nomatch h.symm.trans hexpected
  intro hunreadable
  cases hunreadable with
  | own names hasked hwithholds =>
    simp only [askedNames, List.mem_cons, List.not_mem_nil, or_false] at hasked
    rcases hasked with rfl | rfl | rfl | rfl | rfl | rfl
    · rw [← Value.firstPart_singleton] at hcontext
      exact Value.not_withholds_of_firstPart_eq_ok hcontext hwithholds
    · exact Value.not_withholds_of_firstPart_eq_ok hvalue hwithholds
    · exact hexpectation _ (expectationOf_eq_error_iff.mpr (.inl hwithholds))
    · exact Value.not_withholds_of_firstPart_eq_ok hpath hwithholds
    · exact Value.not_withholds_of_firstPart_eq_ok hmessage hwithholds
    · exact Value.not_withholds_of_firstPart_eq_ok hcode hwithholds
  | context hcontext' hsilent hwithholds =>
    obtain rfl := Except.ok.inj (hcontext.symm.trans hcontext')
    exact hexpectation _ (expectationOf_eq_error_iff.mpr (.inr ⟨hsilent, hwithholds⟩))

/-- An entry that can be read in all its parts gives a record. -/
theorem exists_ofEntry_eq_ok {entry : Value} (h : ¬IsUnreadable entry) :
    ∃ record, ofEntry entry = .ok record := by
  have hown (names : List String) (hasked : names ∈ askedNames) :
      ∃ v, entry.firstPart names = .ok v :=
    Value.exists_firstPart_eq_ok fun cause hwithholds => h (.own names hasked hwithholds)
  obtain ⟨context, hcontext⟩ := hown ["ctx"] (by decide)
  obtain ⟨value, hvalue⟩ := hown ["input", "received"] (by decide)
  obtain ⟨path, hpath⟩ := hown ["path", "loc"] (by decide)
  obtain ⟨message, hmessage⟩ := hown ["message", "msg"] (by decide)
  obtain ⟨code, hcode⟩ := hown ["code", "type"] (by decide)
  rw [Value.firstPart_singleton] at hcontext
  cases hexpected : expectationOf entry context with
  | error cause =>
    rcases expectationOf_eq_error_iff.mp hexpected with hwithholds | ⟨hsilent, hwithholds⟩
    · exact absurd (.own _ (by decide) hwithholds) h
    · exact absurd (.context hcontext hsilent hwithholds) h
  | ok expected =>
    rw [ofEntry, hcontext, valueOf, hvalue, hpath, hmessage, hcode]
    simp only [hexpected, bind, Except.bind]
    exact ⟨_, rfl⟩

/-- **An entry gives no record** exactly when one of the parts it is asked for cannot be read. -/
theorem exists_ofEntry_eq_error_iff {entry : Value} :
    (∃ cause, ofEntry entry = .error cause) ↔ IsUnreadable entry := by
  constructor
  · rintro ⟨cause, hcause⟩
    refine Classical.byContradiction fun hreadable => ?_
    obtain ⟨record, hrecord⟩ := exists_ofEntry_eq_ok hreadable
    exact nomatch hcause.symm.trans hrecord
  · intro hunreadable
    cases h : ofEntry entry with
    | error cause => exact ⟨cause, rfl⟩
    | ok record => exact absurd hunreadable (not_isUnreadable_of_ofEntry_eq_ok h)

/-- The record that stands for an entry: what could be read, or the usual one. -/
def recordOf (entry : Value) : ErrorRecord :=
  match ofEntry entry with
  | .ok record => record
  | .error _ => {}

theorem recordOf_of_isUnreadable {entry : Value} (h : IsUnreadable entry) :
    recordOf entry = {} := by
  obtain ⟨cause, hcause⟩ := exists_ofEntry_eq_error_iff.mpr h
  rw [recordOf, hcause]

/-- What is raised when an entry is read is caught. -/
def IsContained (entry : Value) : Prop :=
  ∀ cause, ofEntry entry = .error cause → cause.IsCaught

theorem result_excusing_eq_ok_iff {α : Type} {instead a : α} {note : String → LogEvent}
    {cause : Raised} :
    (excusing instead note cause).result = .ok a ↔ cause.IsCaught ∧ a = instead := by
  rw [excusing, Logged.result_andThen_eq_ok_iff, Raised.IsCaught]
  constructor
  · rintro ⟨words, hwords, hresult⟩
    exact ⟨⟨words, hwords⟩, (Except.ok.inj hresult).symm⟩
  · rintro ⟨⟨words, hwords⟩, rfl⟩
    exact ⟨words, hwords, rfl⟩

theorem result_recordAt_eq_ok_iff {index : Nat} {entry : Value} {record : ErrorRecord} :
    (recordAt index entry).result = .ok record ↔
      IsContained entry ∧ record = recordOf entry := by
  rw [recordAt, recordOf, IsContained]
  cases hread : ofEntry entry with
  | ok own => exact ⟨fun h => ⟨nofun, (Except.ok.inj h).symm⟩, fun h => congrArg _ h.2.symm⟩
  | error cause =>
    dsimp only
    rw [result_excusing_eq_ok_iff]
    exact and_congr_left fun _ =>
      ⟨fun h cause' hcause => Except.error.inj hcause ▸ h, fun h => h cause rfl⟩

/-- **The records of entries** are made one by one; where the entries stand only matters for the
notes.  There are none when something is raised for an entry that is not caught. -/
theorem result_ofEntries_eq_ok_iff {index : Nat} {entries : List Value}
    {records : List ErrorRecord} :
    (ofEntries index entries).result = .ok records ↔
      (∀ entry ∈ entries, IsContained entry) ∧ records = entries.map recordOf := by
  induction entries generalizing index records with
  | nil =>
    rw [ofEntries]
    exact ⟨fun h => ⟨List.forall_mem_nil _, (Except.ok.inj h).symm⟩, fun h => congrArg _ h.2.symm⟩
  | cons entry rest ih =>
    rw [ofEntries, Logged.result_andThen_eq_ok_iff, List.forall_mem_cons, List.map_cons]
    simp only [Logged.result_andThen_eq_ok_iff, result_recordAt_eq_ok_iff, ih]
    constructor
    · rintro ⟨-, ⟨hentry, rfl⟩, -, ⟨hrest, rfl⟩, hresult⟩
      exact ⟨⟨hentry, hrest⟩, (Except.ok.inj hresult).symm⟩
    · rintro ⟨⟨hentry, hrest⟩, rfl⟩
      exact ⟨_, ⟨hentry, rfl⟩, _, ⟨hrest, rfl⟩, rfl⟩

/-! ## Collections -/

/-- A failure has a collection under a name: it is held, or a function returns it. -/
inductive Offers (failure : Value) (name : String) (history : CallHistory) :
    Value → CallHistory → Prop
  | held {collection : Value} (hpart : failure.part name = .ok collection)
    (hplain : collection.isCallable = false) : Offers failure name history collection history
  | returned {f collection : Value} {later : CallHistory} (hpart : failure.part name = .ok f)
    (hcallable : f.isCallable = true) (hcall : f.call [] history = (.ok collection, later)) :
    Offers failure name history collection later

/-- The collection of a failure under a name cannot be had: it cannot be read, or the function that
should return it raises something. -/
inductive Refuses (failure : Value) (name : String) (history : CallHistory) :
    Raised → CallHistory → Prop
  | unread {cause : Raised} (hpart : failure.part name = .error cause) :
    Refuses failure name history cause history
  | raised {f : Value} {cause : Raised} {later : CallHistory} (hpart : failure.part name = .ok f)
    (hcallable : f.isCallable = true) (hcall : f.call [] history = (.error cause, later)) :
    Refuses failure name history cause later

/-- The collection of a failure: its issues, or its errors when it has no issues. -/
inductive Selects (failure : Value) (history : CallHistory) : Value → CallHistory → Prop
  | issues {collection : Value} {later : CallHistory}
    (hissues : Offers failure "issues" history collection later)
    (hthere : collection.isNull = false) : Selects failure history collection later
  | errors {collection : Value} {between later : CallHistory}
    (hissues : Offers failure "issues" history .null between)
    (herrors : Offers failure "errors" between collection later) :
    Selects failure history collection later

/-- A failure lists entries: the collection that is selected is a sequence of them. -/
def Lists (failure : Value) (history : CallHistory) (entries : List Value)
    (later : CallHistory) : Prop :=
  ∃ collection, Selects failure history collection later ∧ collection.asSequence? = some entries

/-- A failure withholds its entries: its issues cannot be had, or it has none and its errors cannot
be had. -/
inductive WithholdsEntries (failure : Value) (history : CallHistory) (cause : Raised) : Prop
  | issues {later : CallHistory} (h : Refuses failure "issues" history cause later)
  | errors {between later : CallHistory} (hissues : Offers failure "issues" history .null between)
    (h : Refuses failure "errors" between cause later)

section Collections

variable {failure collection : Value} {name : String} {history later : CallHistory}
  {entries : List Value} {cause : Raised} {records : List ErrorRecord}

theorem collectionOf_eq_ok_iff :
    collectionOf failure name history = (.ok collection, later) ↔
      Offers failure name history collection later := by
  rw [collectionOf, Calling.andThen_eq_ok_iff]
  constructor
  · rintro ⟨part, between, hpart, h⟩
    obtain ⟨hread, rfl⟩ := Prod.mk.inj hpart
    cases hcallable : part.isCallable with
    | true =>
      rw [hcallable, if_pos rfl] at h
      exact .returned hread hcallable h
    | false =>
      rw [hcallable, if_neg Bool.false_ne_true] at h
      obtain ⟨hvalue, rfl⟩ := Prod.mk.inj h
      obtain rfl := Except.ok.inj hvalue
      exact .held hread hcallable
  · intro h
    cases h with
    | held hpart hplain =>
      refine ⟨_, _, by rw [hpart], ?_⟩
      rw [hplain, if_neg Bool.false_ne_true]
      rfl
    | returned hpart hcallable hcall =>
      refine ⟨_, _, by rw [hpart], ?_⟩
      rw [hcallable, if_pos rfl, hcall]

/-- The entries of a failure are the items of the collection that is selected. -/
theorem entriesOf_eq_ok_iff :
    entriesOf failure history = (.ok entries, later) ↔
      ∃ collection, Selects failure history collection later ∧ itemsOf collection = entries := by
  rw [entriesOf, Calling.andThen_eq_ok_iff]
  constructor
  · rintro ⟨issues, between, hissues, h⟩
    rw [collectionOf_eq_ok_iff] at hissues
    split at h
    · rename_i hnull
      obtain rfl := Value.isNull_iff.mp hnull
      obtain ⟨errors, between', herrors, h⟩ := Calling.andThen_eq_ok_iff.mp h
      obtain ⟨hitems, rfl⟩ := Prod.mk.inj h
      exact ⟨errors, .errors hissues (collectionOf_eq_ok_iff.mp herrors), Except.ok.inj hitems⟩
    · rename_i hthere
      obtain ⟨hitems, rfl⟩ := Prod.mk.inj h
      exact ⟨issues, .issues hissues (by simpa using hthere), Except.ok.inj hitems⟩
  · rintro ⟨collection, hselects, rfl⟩
    cases hselects with
    | issues hissues hthere =>
      refine ⟨collection, _, collectionOf_eq_ok_iff.mpr hissues, ?_⟩
      rw [hthere, if_neg Bool.false_ne_true]
      rfl
    | errors hissues herrors =>
      refine ⟨.null, _, collectionOf_eq_ok_iff.mpr hissues, ?_⟩
      exact Calling.andThen_eq_ok_iff.mpr ⟨collection, _, collectionOf_eq_ok_iff.mpr herrors, rfl⟩

theorem collectionOf_eq_error_iff :
    collectionOf failure name history = (.error cause, later) ↔
      Refuses failure name history cause later := by
  rw [collectionOf, Calling.andThen_eq_error_iff]
  constructor
  · rintro (hread | ⟨part, between, hread, h⟩)
    · obtain ⟨hpart, rfl⟩ := Prod.mk.inj hread
      exact .unread hpart
    · obtain ⟨hpart, rfl⟩ := Prod.mk.inj hread
      cases hcallable : part.isCallable with
      | true =>
        rw [hcallable, if_pos rfl] at h
        exact .raised hpart hcallable h
      | false =>
        rw [hcallable, if_neg Bool.false_ne_true] at h
        cases (Prod.mk.inj h).1
  · intro h
    cases h with
    | unread hpart => exact .inl (by rw [hpart])
    | raised hpart hcallable hcall =>
      refine .inr ⟨_, _, by rw [hpart], ?_⟩
      rw [hcallable, if_pos rfl, hcall]

/-- The entries of a failure cannot be had when it withholds them. -/
theorem exists_entriesOf_eq_error_iff :
    (∃ later, entriesOf failure history = (.error cause, later)) ↔
      WithholdsEntries failure history cause := by
  simp only [entriesOf, Calling.andThen_eq_error_iff, collectionOf_eq_error_iff,
    collectionOf_eq_ok_iff]
  constructor
  · rintro ⟨later, hrefuses | ⟨issues, between, hissues, h⟩⟩
    · exact .issues hrefuses
    · split at h
      · rename_i hnull
        obtain rfl := Value.isNull_iff.mp hnull
        rcases Calling.andThen_eq_error_iff.mp h with herrors | ⟨errors, between', -, h⟩
        · exact .errors hissues (collectionOf_eq_error_iff.mp herrors)
        · cases (Prod.mk.inj h).1
      · cases (Prod.mk.inj h).1
  · intro h
    cases h with
    | issues hrefuses => exact ⟨_, .inl hrefuses⟩
    | @errors between later hissues hrefuses =>
      refine ⟨later, .inr ⟨.null, between, hissues, ?_⟩⟩
      rw [if_pos (show Value.null.isNull = true from rfl)]
      exact Calling.andThen_eq_error_iff.mpr (.inl (collectionOf_eq_error_iff.mpr hrefuses))

theorem entriesOf_of_lists (h : Lists failure history entries later) :
    entriesOf failure history = (.ok entries, later) := by
  obtain ⟨collection, hselects, hentries⟩ := h
  exact entriesOf_eq_ok_iff.mpr ⟨collection, hselects, by rw [itemsOf, hentries]; rfl⟩

/-- The records of a failure that lists entries are those of the entries, in order. -/
theorem result_ofFailure_of_lists (h : Lists failure history entries later) :
    (ofFailure failure history).1.result = .ok records ↔
      (∀ entry ∈ entries, IsContained entry) ∧ records = entries.map recordOf := by
  rw [ofFailure, entriesOf_of_lists h]
  exact result_ofEntries_eq_ok_iff

/-- A failure that lists nothing has no records. -/
theorem result_ofFailure_of_not_lists (h : ∀ entries later, ¬Lists failure history entries later) :
    (ofFailure failure history).1.result = .ok records ↔
      (∀ cause, WithholdsEntries failure history cause → cause.IsCaught) ∧ records = [] := by
  rw [ofFailure]
  simp only [← exists_entriesOf_eq_error_iff]
  cases hread : entriesOf failure history with
  | mk result later =>
    cases result with
    | error cause =>
      dsimp only
      rw [result_excusing_eq_ok_iff]
      refine and_congr_left fun _ => ⟨?_, fun h => h cause ⟨later, rfl⟩⟩
      rintro hcaught cause' ⟨later', hcause⟩
      exact Except.error.inj (Prod.mk.inj hcause).1 ▸ hcaught
    | ok entries =>
      obtain ⟨collection, hselects, rfl⟩ := entriesOf_eq_ok_iff.mp hread
      cases hentries : collection.asSequence? with
      | some entries => exact absurd ⟨collection, hselects, hentries⟩ (h entries later)
      | none =>
        dsimp only
        rw [result_ofEntries_eq_ok_iff, itemsOf, hentries]
        exact and_congr_left fun _ => iff_of_true (List.forall_mem_nil _)
          fun cause ⟨later, hcause⟩ => nomatch (Prod.mk.inj hcause).1

end Collections

/-! ## Failures -/

/-- Any entries are listed by some failure, whatever was called before. -/
theorem lists_issues (entries : List Value) (history : CallHistory) :
    Lists (.ofFields [("issues", .list entries)]) history entries history :=
  ⟨.list entries, .issues (.held rfl rfl) rfl, rfl⟩

/-- A record says of an entry what it says whatever stands beside the entry: it is the only record
of any failure that lists just this entry (there are such, `lists_issues`), and the usual one when
the entry cannot be read. -/
structure StandsFor (entry : Value) (record : ErrorRecord) : Prop where
  alone : ∀ failure history later, Lists failure history [entry] later →
    (ofFailure failure history).1.result = .ok [record]
  usual : IsUnreadable entry → record = {}

theorem standsFor_recordOf {entry : Value} (h : IsContained entry) :
    StandsFor entry (recordOf entry) where
  alone _ _ _ hlists :=
    (result_ofFailure_of_lists hlists).mpr ⟨List.forall_mem_singleton.mpr h, rfl⟩
  usual := recordOf_of_isUnreadable

/-- What is raised while a failure is read is caught, both for its collection and for the entries
that it lists. -/
structure IsQuiet (failure : Value) (history : CallHistory) : Prop where
  collection : ∀ cause, WithholdsEntries failure history cause → cause.IsCaught
  entries : ∀ entries later, Lists failure history entries later →
    ∀ entry ∈ entries, IsContained entry

/-- A failure that lists entries is quiet when nothing that is raised for them goes through. -/
theorem isQuiet_iff_of_lists {failure : Value} {history later : CallHistory}
    {entries : List Value} (h : Lists failure history entries later) :
    IsQuiet failure history ↔ ∀ entry ∈ entries, IsContained entry := by
  have hread := entriesOf_of_lists h
  refine ⟨fun hquiet => hquiet.entries entries later h, fun hcontained => ⟨?_, ?_⟩⟩
  · intro cause hwithholds
    obtain ⟨left, hcause⟩ := exists_entriesOf_eq_error_iff.mpr hwithholds
    cases (Prod.mk.inj (hread.symm.trans hcause)).1
  · intro others left hothers
    obtain ⟨hsame, -⟩ := Prod.mk.inj (hread.symm.trans (entriesOf_of_lists hothers))
    obtain rfl := Except.ok.inj hsame
    exact hcontained

/-- **The records of a failure.**  There are records just when everything that is raised on the way
is caught.  A failure that lists no entries has none then.  Otherwise there is one record for each
entry, in order, which is the record that any failure has that lists only this entry, and the usual
one for an entry that cannot be read; and when the entries are those of two failures one after the
other, so are the records. -/
theorem ofFailure_isolates (failure : Value) (history : CallHistory) :
    ((∃ records, (ofFailure failure history).1.result = .ok records) ↔ IsQuiet failure history) ∧
    ∀ records, (ofFailure failure history).1.result = .ok records →
      ((∀ entries later, ¬Lists failure history entries later) → records = []) ∧
      ∀ entries later, Lists failure history entries later →
        List.Forall₂ StandsFor entries records ∧
        ∀ first second firstHistory secondHistory before after firstLater secondLater,
          Lists first firstHistory before firstLater →
          Lists second secondHistory after secondLater → entries = before ++ after →
          ∃ firstRecords secondRecords,
            (ofFailure first firstHistory).1.result = .ok firstRecords ∧
            (ofFailure second secondHistory).1.result = .ok secondRecords ∧
            records = firstRecords ++ secondRecords := by
  constructor
  · by_cases hlists : ∃ entries later, Lists failure history entries later
    · obtain ⟨entries, later, hlists⟩ := hlists
      simp only [result_ofFailure_of_lists hlists, isQuiet_iff_of_lists hlists]
      exact ⟨fun ⟨_, hcontained, _⟩ => hcontained, fun hcontained => ⟨_, hcontained, rfl⟩⟩
    · have hnone : ∀ entries later, ¬Lists failure history entries later :=
        fun entries later h => hlists ⟨entries, later, h⟩
      simp only [result_ofFailure_of_not_lists hnone]
      exact ⟨fun ⟨_, hcaught, _⟩ => ⟨hcaught, fun entries later h => absurd h (hnone _ _)⟩,
        fun hquiet => ⟨_, hquiet.collection, rfl⟩⟩
  · intro records hrecords
    refine ⟨fun hnone => ((result_ofFailure_of_not_lists hnone).mp hrecords).2,
      fun entries later hlists => ?_⟩
    obtain ⟨hcontained, rfl⟩ := (result_ofFailure_of_lists hlists).mp hrecords
    constructor
    · rw [List.forall₂_map_right_iff]
      exact List.forall₂_same.mpr fun entry hentry => standsFor_recordOf (hcontained entry hentry)
    · rintro first second firstHistory secondHistory before after firstLater secondLater hfirst
        hsecond rfl
      obtain ⟨hbefore, hafter⟩ := List.forall_mem_append.mp hcontained
      exact ⟨_, _, (result_ofFailure_of_lists hfirst).mpr ⟨hbefore, rfl⟩,
        (result_ofFailure_of_lists hsecond).mpr ⟨hafter, rfl⟩, List.map_append⟩

/-- An entry whose path cannot be read. -/
def blockedEntry : Value :=
  .record 1 [("message", .text "bad"),
    ("path", .unreadable { kind := "RuntimeError", text := "the path is gone" })]

/-- An entry that says where it belongs and what is wrong. -/
def plainEntry : Value := .ofFields [("loc", .list [.text "email"]), ("msg", .text "bad")]

/-- A failure that has no issues and a function that returns its errors. -/
def returningFailure : Value :=
  .record 0 [("issues", .null),
    ("errors", .function 2 false .constant [.list [blockedEntry, plainEntry]])]

/-- The message of the entry that cannot be read is lost with it; the next entry is not affected. -/
theorem ofFailure_isolates_returning :
    Lists returningFailure .empty [blockedEntry, plainEntry] (CallHistory.empty.record 2 []) ∧
      IsUnreadable blockedEntry ∧ IsQuiet returningFailure .empty ∧
      (ofFailure returningFailure .empty).1.result =
        .ok [{}, { field := "email", message := "bad" }] := by
  have hlists : Lists returningFailure .empty [blockedEntry, plainEntry]
      (CallHistory.empty.record 2 []) :=
    ⟨_, .errors (.held rfl rfl) (.returned rfl rfl rfl), rfl⟩
  have hblocked : IsUnreadable blockedEntry :=
    .own ["path", "loc"] (by decide) (.here rfl)
  have hresult : (ofFailure returningFailure .empty).1.result =
      .ok [{}, { field := "email", message := "bad" }] := rfl
  obtain ⟨hquiet, -⟩ := ofFailure_isolates returningFailure .empty
  exact ⟨hlists, hblocked, hquiet.mp ⟨_, hresult⟩, hresult⟩

/-- A function that does not return the errors of a failure, but asks the whole program to stop. -/
def stoppingFailure : Value :=
  .ofFields [("errors", .function 0 false .raising [.text "KeyboardInterrupt", .text "stop"])]

/-- An entry of which something cannot be read, for a cause that cannot be shown. -/
def unshownEntry : Value :=
  .record 1 [("message", .unreadable { kind := "RuntimeError", unshown? := some "ValueError" })]

/-- **What goes through**: a failure that asks the program to stop is raised again, and one entry
that fails for a cause that cannot be shown takes the records of all others with it. -/
theorem ofFailure_of_uncaught :
    (ofFailure stoppingFailure .empty).1.result =
        .error { kind := "KeyboardInterrupt", text := "stop" } ∧
      (ofFailure (.ofFields [("issues", .list [plainEntry, unshownEntry])]) .empty).1.result =
        .error { kind := "ValueError" } :=
  ⟨rfl, rfl⟩

end ErrorRecord

end FieldSchema
