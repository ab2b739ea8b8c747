import FieldSchema.Proofs.Validation.FailureRecords
import Mathlib.Data.List.Induction
import Mathlib.Data.List.Nodup

/-!
# The records of a rejected input

A rejected input shows itself in three ways: as a text, as the messages of every field, and, like
any other failure, as records.  The first two are made from the issues.  The records are not: they
come from asking each issue for its parts, as an object that might have none of them.

* `ErrorRecord.ofEntry_asRecord`: what is read from an issue, whatever the issue holds.
* `ErrorRecord.messagesByField`: the messages of records, all groups made at once.
* `Rejected.views_agree`: the three views of a rejection.
-/

namespace FieldSchema

/-! ## Issues that are read -/

namespace Value

variable {source v w : Value} {name other : String}

theorem part_record {identity : Nat} {attributes : List (String × Value)}
    (hlookup : attributes.lookup name = some v) (hreadable : ∀ message, v ≠ .unreadable message) :
    (record identity attributes).part name = .ok v := by
  rw [part, hlookup]
  cases v with
  | unreadable message => exact absurd rfl (hreadable message)
  | _ => rfl

/-- Of two parts that can be read the second one counts when the first is not there. -/
theorem firstPart_pair (hfirst : source.part name = .ok v) (hsecond : source.part other = .ok w) :
    source.firstPart [name, other] = .ok (if v.isNull then w else v) := by
  cases hnull : v.isNull with
  | true =>
    rw [isNull_iff.mp hnull] at hfirst
    rw [firstPart_cons_of_null hfirst, firstPart_singleton, hsecond]
    rfl
  | false =>
    have hthere : source.part name ≠ .ok .null := by
      rw [hfirst]
      rintro ⟨⟩
      contradiction
    rw [firstPart_cons_of_ne_null hthere, hfirst]
    rfl

/-- A part is read under its first name when there is nothing under the second. -/
theorem firstPart_of_alone (hfirst : source.part name = .ok v)
    (hsecond : source.part other = .ok .null) : source.firstPart [name, other] = .ok v := by
  rw [firstPart_pair hfirst hsecond]
  cases v <;> rfl

end Value

theorem PathSegment.displayed_toValue (segment : PathSegment) :
    segment.toValue.displayed = segment.displayed := by
  cases segment <;> rfl

namespace Issue

/-- The parts of an issue are values, not attributes that cannot be read. -/
def IsReadable (issue : Issue) : Prop :=
  ∀ v ∈ [issue.message, issue.code, issue.input, issue.expected, issue.format],
    ∀ message, v ≠ .unreadable message

/-- What an issue expected, or the format that it asks for. -/
def expectation (issue : Issue) : Value :=
  if issue.expected.isNull then issue.format else issue.expected

/-- Reading the path of an issue gives its field. -/
theorem fieldOf_path (issue : Issue) :
    ErrorRecord.fieldOf (.tuple (issue.path.map PathSegment.toValue)) = issue.field := by
  cases hpath : issue.path with
  | nil => rw [field, hpath]; rfl
  | cons segment rest =>
    have hwords : (segment :: rest).map (Value.displayed ∘ PathSegment.toValue) =
        (segment :: rest).map PathSegment.displayed :=
      List.map_congr_left fun segment _ => PathSegment.displayed_toValue segment
    rw [field, Path.dotted, hpath, ← hwords, ← List.map_map]
    rfl

end Issue

namespace ErrorRecord

/-- **What is read from an issue** is what the issue says; where it says nothing, the usual words
stand for it. -/
theorem ofEntry_asRecord {issue : Issue} (h : issue.IsReadable) :
    ofEntry issue.asRecord = .ok
      { field := issue.field
        message := wordsOr validationFailed issue.message
        code := wordsOr Path.unknown issue.code
        value := issue.input
        type :=
          if issue.expectation.isNull then Path.unknown else issue.expectation.displayed } := by
  have hmessage : issue.asRecord.firstPart ["message", "msg"] = .ok issue.message :=
    Value.firstPart_of_alone (Value.part_record rfl (h issue.message (by simp))) rfl
  have hcode : issue.asRecord.firstPart ["code", "type"] = .ok issue.code :=
    Value.firstPart_of_alone (Value.part_record rfl (h issue.code (by simp))) rfl
  have hinput : issue.asRecord.firstPart ["input", "received"] = .ok issue.input :=
    Value.firstPart_of_alone (Value.part_record rfl (h issue.input (by simp))) rfl
  have hpath : issue.asRecord.firstPart ["path", "loc"] =
      .ok (.tuple (issue.path.map PathSegment.toValue)) := rfl
  have hstated : issue.asRecord.firstPart ["expected", "format"] = .ok issue.expectation :=
    Value.firstPart_pair (Value.part_record rfl (h issue.expected (by simp)))
      (Value.part_record rfl (h issue.format (by simp)))
  have hexpected : expectationOf issue.asRecord .null = .ok issue.expectation := by
    by_cases hsilent : issue.expectation = .null
    · rw [hsilent] at hstated ⊢
      exact expectationOf_of_null .null hstated
    · have hspoken : issue.asRecord.firstPart ["expected", "format"] ≠ .ok .null := fun hnull =>
        hsilent (Except.ok.inj (hstated.symm.trans hnull))
      rw [expectationOf_of_ne_null .null hspoken, hstated]
  have hcontext : issue.asRecord.part "ctx" = .ok .null := rfl
  rw [ofEntry, hcontext, valueOf, hinput, hpath, hmessage, hcode]
  simp only [hexpected, bind, Except.bind, pure, Except.pure, Issue.fieldOf_path]

theorem lists_asFailure (r : Rejected) (history : CallHistory) :
    Lists r.asFailure history (r.issues.map Issue.asRecord) history :=
  ⟨.list (r.issues.map Issue.asRecord), .issues (.held rfl rfl) rfl, rfl⟩

/-! ## Messages by field -/

/-- The messages of the records of a field, in order. -/
def messagesOf (records : List ErrorRecord) (name : String) : List Value :=
  (records.filter fun record => record.field == name).map fun record => .text record.message

/-- The messages of records by field; fields stand in the order in which they occur first. -/
def messagesByField (records : List ErrorRecord) : List (String × List Value) :=
  (records.map field).eraseDups.map fun name => (name, messagesOf records name)

end ErrorRecord

section Groups

variable {names : List String}

theorem eraseDups_concat (names : List String) (name : String) :
    (names ++ [name]).eraseDups = names.eraseDups ++ if name ∈ names then [] else [name] := by
  rw [List.eraseDups_append]
  by_cases hmem : name ∈ names
  · simp [List.removeAll, hmem]
  · simp [List.removeAll, hmem, List.eraseDups_cons]

theorem nodup_eraseDups (names : List String) : names.eraseDups.Nodup := by
  induction names using List.reverseRecOn with
  | nil => exact List.nodup_nil
  | append_singleton past name ih =>
    rw [eraseDups_concat]
    split
    · rwa [List.append_nil]
    · rename_i hnew
      exact List.nodup_append.mpr ⟨ih, List.nodup_singleton name, fun other hother =>
        List.forall_mem_singleton.mpr fun heq => hnew (List.mem_eraseDups.mp (heq ▸ hother))⟩

/-- Adding a message to groups with different names changes the group of its field, or makes one at
the end. -/
theorem Rejected.addMessage_map (hdistinct : names.Nodup) (messages : String → List Value)
    (name : String) (message : Value) :
    addMessage (names.map fun other => (other, messages other)) name message =
      (names.map fun other => (other, messages other ++ if name = other then [message] else [])) ++
        if name ∈ names then [] else [(name, [message])] := by
  induction names with
  | nil => rfl
  | cons first rest ih =>
    obtain ⟨hfirst, hrest⟩ := List.nodup_cons.mp hdistinct
    rw [List.map_cons, addMessage, List.map_cons, List.cons_append]
    by_cases hname : first = name
    · have hothers : rest.map (fun other => (other, messages other)) = rest.map fun other =>
          (other, messages other ++ if name = other then [message] else []) :=
        List.map_congr_left fun other hother => by
          rw [if_neg (fun heq => hfirst (hname.trans heq ▸ hother)), List.append_nil]
      rw [if_pos (beq_iff_eq.mpr hname), if_pos hname.symm, if_pos (by simp [hname]),
        List.append_nil, hothers]
    · rw [if_neg (mt beq_iff_eq.mp hname), if_neg (Ne.symm hname), List.append_nil, ih hrest]
      simp only [List.mem_cons, Ne.symm hname, false_or]

end Groups

namespace ErrorRecord

theorem messagesOf_concat (records : List ErrorRecord) (record : ErrorRecord) (name : String) :
    messagesOf (records ++ [record]) name =
      messagesOf records name ++ if record.field = name then [.text record.message] else [] := by
  rw [messagesOf, List.filter_append, List.map_append, ← messagesOf]
  congr 1
  by_cases hname : record.field = name
  · simp [hname]
  · simp [hname]

theorem messagesOf_of_notMem {records : List ErrorRecord} {name : String}
    (h : name ∉ records.map field) : messagesOf records name = [] := by
  rw [messagesOf, List.filter_eq_nil_iff.mpr, List.map_nil]
  intro record hrecord hname
  exact h (List.mem_map.mpr ⟨record, hrecord, beq_iff_eq.mp hname⟩)

/-- One more record adds its message to those of its field. -/
theorem messagesByField_concat (records : List ErrorRecord) (record : ErrorRecord) :
    messagesByField (records ++ [record]) =
      Rejected.addMessage (messagesByField records) record.field (.text record.message) := by
  rw [messagesByField, messagesByField, Rejected.addMessage_map (nodup_eraseDups _),
    List.map_append, List.map_singleton, eraseDups_concat, List.map_append]
  simp only [List.mem_eraseDups]
  congr 1
  · exact List.map_congr_left fun name _ => by rw [messagesOf_concat]
  · split
    · rfl
    · rename_i hnew
      rw [List.map_singleton, messagesOf_concat, if_pos rfl, messagesOf_of_notMem hnew]
      rfl

end ErrorRecord

/-! ## The views of a rejection -/

/-- An issue as checks report it: it says what is wrong and of which kind in words, and may name
what was expected. -/
structure Issue.IsWorded (issue : Issue) : Prop where
  message : ∃ text, issue.message = .text text ∧ text ≠ ""
  code : ∃ text, issue.code = .text text ∧ text ≠ ""
  input : ∀ message, issue.input ≠ .unreadable message
  expected : ∃ text?, issue.expected = .ofText? text?
  format : ∃ text?, issue.format = .ofText? text?

/-- A record says what an issue says. -/
structure ErrorRecord.Shows (record : ErrorRecord) (issue : Issue) : Prop where
  field : record.field = issue.field
  message : .text record.message = issue.message
  code : .text record.code = issue.code
  value : record.value = issue.input
  type : .text record.type =
    if issue.expected.isNull then if issue.format.isNull then .text "unknown" else issue.format
    else issue.expected

theorem Issue.IsWorded.isReadable {issue : Issue} (h : issue.IsWorded) : issue.IsReadable := by
  obtain ⟨text, hmessage, -⟩ := h.message
  obtain ⟨code, hcode, -⟩ := h.code
  obtain ⟨expected, hexpected⟩ := h.expected
  obtain ⟨format, hformat⟩ := h.format
  rw [Issue.IsReadable, hmessage, hcode, hexpected, hformat]
  simp only [List.forall_mem_cons]
  refine ⟨nofun, nofun, h.input, ?_, ?_, nofun⟩
  · cases expected <;> exact nofun
  · cases format <;> exact nofun

theorem ErrorRecord.wordsOr_text (instead : String) {text : String} (h : text ≠ "") :
    wordsOr instead (.text text) = text := by
  rw [wordsOr, Value.truthy, if_pos (by simpa using h)]
  rfl

theorem Issue.IsWorded.shows {issue : Issue} (h : issue.IsWorded) :
    (ErrorRecord.recordOf issue.asRecord).Shows issue := by
  obtain ⟨text, hmessage, htext⟩ := h.message
  obtain ⟨codeText, hcode, hcodeText⟩ := h.code
  obtain ⟨expected, hexpected⟩ := h.expected
  obtain ⟨format, hformat⟩ := h.format
  rw [ErrorRecord.recordOf, ErrorRecord.ofEntry_asRecord h.isReadable]
  refine ⟨rfl, ?_, ?_, rfl, ?_⟩
  · rw [hmessage, ErrorRecord.wordsOr_text _ htext]
  · rw [hcode, ErrorRecord.wordsOr_text _ hcodeText]
  · rw [Issue.expectation, hexpected, hformat]
    cases expected with
    | some expected => rfl
    | none => cases format <;> rfl

namespace Rejected

/-- A rejection whose issues can be read has a record for each. -/
theorem records_eq (r : Rejected) (h : ∀ issue ∈ r.issues, issue.IsReadable) :
    r.records = r.issues.map fun issue => ErrorRecord.recordOf issue.asRecord := by
  have hcontained : ∀ entry ∈ r.issues.map Issue.asRecord, ErrorRecord.IsContained entry := by
    intro entry hentry cause hcause
    obtain ⟨issue, hissue, rfl⟩ := List.mem_map.mp hentry
    exact nomatch (ErrorRecord.ofEntry_asRecord (h issue hissue)).symm.trans hcause
  have hresult := (ErrorRecord.result_ofFailure_of_lists
    (ErrorRecord.lists_asFailure r .empty)).mpr ⟨hcontained, rfl⟩
  rw [records, hresult, List.map_map]
  rfl

/-- Grouping the messages of issues one by one gives the groups of their records. -/
theorem foldl_addMessage_eq {issues : List Issue} (h : ∀ issue ∈ issues, issue.IsWorded) :
    issues.foldl (fun groups issue => addMessage groups issue.field issue.message) [] =
      ErrorRecord.messagesByField
        (issues.map fun issue => ErrorRecord.recordOf issue.asRecord) := by
  induction issues using List.reverseRecOn with
  | nil => rfl
  | append_singleton past issue ih =>
    have hshows := (h issue (by simp)).shows
    have hpast := ih fun issue hissue => h issue (List.mem_append_left _ hissue)
    rw [List.foldl_append, hpast, List.map_append, List.map_singleton,
      ErrorRecord.messagesByField_concat, hshows.field, hshows.message]
    rfl

theorem displayed_of_shows {record : ErrorRecord} {issue : Issue} (h : record.Shows issue) :
    issue.displayed = record.field ++ ": " ++ record.message := by
  rw [Issue.displayed, ← h.field, ← h.message]
  rfl

/-- **The views of a rejection** agree when its issues say what is wrong.  There is one record for
each issue, in order, which says what the issue says; the messages of every field are those of its
records, fields in the order in which they occur first; and the text shows field and message of
every record. -/
theorem views_agree (r : Rejected) (h : ∀ issue ∈ r.issues, issue.IsWorded) :
    List.Forall₂ ErrorRecord.Shows r.records r.issues ∧
      r.fieldErrors = ErrorRecord.messagesByField r.records ∧
      r.summary =
        if r.records.isEmpty then "Validation failed"
        else "; ".intercalate
          (r.records.map fun record => record.field ++ ": " ++ record.message) := by
  rw [records_eq r fun issue hissue => (h issue hissue).isReadable]
  refine ⟨?_, foldl_addMessage_eq h, ?_⟩
  · rw [List.forall₂_map_left_iff]
    exact List.forall₂_same.mpr fun issue hissue => (h issue hissue).shows
  · have hwords : r.issues.map Issue.displayed = r.issues.map fun issue =>
        (ErrorRecord.recordOf issue.asRecord).field ++ ": " ++
          (ErrorRecord.recordOf issue.asRecord).message :=
      List.map_congr_left fun issue hissue => displayed_of_shows (h issue hissue).shows
    rw [summary, List.isEmpty_map, List.map_map, hwords]
    rfl

/-- A rejection without a place, with an empty name, and with two paths that look the same. -/
def crowded : Rejected where
  issues :=
    [⟨[.field "a", .field "b"], .text "first", .text "too_small", .int 1, .text "number", .null⟩,
      ⟨[], .text "second", .text "custom", .null, .null, .text "email"⟩,
      ⟨[.field "a.b"], .text "third", .text "custom", .null, .null, .null⟩,
      ⟨[.field "", .index 0], .text "fourth", .text "custom", .null, .null, .null⟩]

/-- The two paths that look the same are one field, and both of its messages are kept. -/
theorem views_agree_crowded :
    (∀ issue ∈ crowded.issues, issue.IsWorded) ∧
      crowded.fieldErrors =
        [("a.b", [.text "first", .text "third"]), ("unknown", [.text "second"]),
          (".0", [.text "fourth"])] ∧
      crowded.summary = "a.b: first; unknown: second; a.b: third; .0: fourth" := by
  have hworded : ∀ issue ∈ crowded.issues, issue.IsWorded := by
    simp only [crowded, List.forall_mem_cons]
    refine ⟨⟨⟨_, rfl, by decide⟩, ⟨_, rfl, by decide⟩, nofun, ⟨some _, rfl⟩, ⟨none, rfl⟩⟩,
      ⟨⟨_, rfl, by decide⟩, ⟨_, rfl, by decide⟩, nofun, ⟨none, rfl⟩, ⟨some _, rfl⟩⟩,
      ⟨⟨_, rfl, by decide⟩, ⟨_, rfl, by decide⟩, nofun, ⟨none, rfl⟩, ⟨none, rfl⟩⟩,
      ⟨⟨_, rfl, by decide⟩, ⟨_, rfl, by decide⟩, nofun, ⟨none, rfl⟩, ⟨none, rfl⟩⟩, nofun⟩
  obtain ⟨-, hgroups, hsummary⟩ := views_agree crowded hworded
  exact ⟨hworded, hgroups.trans rfl, hsummary.trans rfl⟩

end Rejected

end FieldSchema
