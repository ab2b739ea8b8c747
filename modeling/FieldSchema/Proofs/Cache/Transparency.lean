import FieldSchema.Proofs.Cache.Entries
import FieldSchema.Proofs.Signature.Exactness
import FieldSchema.SchemaPair

/-!
# Compiling by way of a cache

A request that is compiled by way of a cache ends as it would without one, whatever was compiled
before, however often the cache was cleared and however much time went by.  The cache is bounded in
any way: what it evicts and what it lets expire is made again.  Requests that hold a surrogate are
the exception, as they have no key, and without a cache nothing asks for one.

## The invariant

Every entry of the cache holds the pair of an earlier call, and is kept under the key of that call
(`CompilerState.IsFaithful`).  Look-ups move entries and drop them, and a failure keeps nothing, so
that only a call that made a pair adds an entry, which is its own.

## Equal keys

A pair that is found was made under the same key.  Keys are digests of texts, and texts determine
contents (`Signature.eq_of_toText_payload_eq`), so the earlier call had the same definition and the
same options.  These are the options as a record, and a pair depends on nothing else
(`CompilePlan.make_eq_of_keyOptions`): it can only be made of options all of whose parts are
mappings, and for those the record says everything.

What is assumed of the world outside is stated as `CompilerState.Separates`: no two texts of the
history have the same digest, objects that are known by an identity are the same when their
identities are, members of enumerations when their full names are, and what stands at one site is
the same as long as a pair of the site is kept.  Pairs do not see to the last of these.  They hold
on to some of the objects of their requests and not to others, as a sequence of hooks is copied: it
may be given up and another one put in its place (`CompilerState.compile_reusedSite`).

* `CompilerAction`, `CompilerState.run`: histories of calls and clearings.
* `CompilerState.isFaithful_run`: the invariant of a run.
* `CompilerState.compile_transparent`: compiling with and without the cache.
-/

namespace FieldSchema

/-! ## What a pair depends on -/

/-- The parts of options as a record. -/
def StorageParts.toValue (parts : StorageParts) : Value :=
  .ofFields [("schema_options", .map parts.schemaOptions),
    ("middleware", .ofFields [("pre", .map parts.pre), ("post", .map parts.post)]),
    ("virtuals", .map parts.virtuals), ("indexes", .map parts.indexes)]

theorem StorageParts.toValue_injective {parts parts' : StorageParts}
    (h : parts.toValue = parts'.toValue) : parts = parts' := by
  obtain ⟨schemaOptions, pre, post, virtuals, indexes⟩ := parts
  obtain ⟨schemaOptions', pre', post', virtuals', indexes'⟩ := parts'
  simp only [toValue, Value.ofFields, Entries.ofFields, List.map_cons, List.map_nil,
    Value.map.injEq, List.cons.injEq, Prod.mk.injEq, true_and, and_true] at h
  obtain ⟨rfl, ⟨rfl, rfl⟩, rfl, rfl⟩ := h
  rfl

namespace StorageOptions

theorem entriesOf_eq_ok {v : Value} {entries : Entries} (h : entriesOf v = .ok entries) :
    v = .map entries := by
  unfold entriesOf at h
  split at h
  · rw [Except.ok.inj h]
  all_goals contradiction

/-- Only mappings can be used as parts of options. -/
theorem parts_eq_ok {options : StorageOptions} {parts : StorageParts}
    (h : options.parts = .ok parts) :
    options.schemaOptions = .map parts.schemaOptions ∧
      hookSides options.hooks = .ok (.map parts.pre, .map parts.post) ∧
      options.virtuals = .map parts.virtuals ∧ options.indexes = .map parts.indexes := by
  obtain ⟨schemaOptions, hooks, virtuals, indexes⟩ := options
  cases schemaOptions with
  | map entries =>
    obtain ⟨found, hfound, h⟩ := Logged.bind_eq_ok_iff.mp h
    obtain ⟨sides, hsides, h⟩ := Logged.bind_eq_ok_iff.mp h
    obtain ⟨pre, hpre, h⟩ := Logged.bind_eq_ok_iff.mp h
    obtain ⟨post, hpost, h⟩ := Logged.bind_eq_ok_iff.mp h
    obtain ⟨virtualEntries, hvirtuals, h⟩ := Logged.bind_eq_ok_iff.mp h
    obtain ⟨indexEntries, hindexes, h⟩ := Logged.bind_eq_ok_iff.mp h
    cases hfound
    cases h
    refine ⟨rfl, ?_, entriesOf_eq_ok hvirtuals, entriesOf_eq_ok hindexes⟩
    rw [hsides]
    show Except.ok (sides.1, sides.2) = _
    rw [entriesOf_eq_ok hpre, entriesOf_eq_ok hpost]
  | _ => contradiction

/-- Options whose parts can all be used are the mappings that they seem to be. -/
theorem toValue_of_parts {options : StorageOptions} {parts : StorageParts}
    (h : options.parts = .ok parts) : options.toValue = .ok parts.toValue := by
  obtain ⟨hschema, hsides, hvirtuals, hindexes⟩ := parts_eq_ok h
  rw [toValue, hschema, hsides, hvirtuals, hindexes]
  rfl

end StorageOptions

namespace CompilePlan

/-- The options of a plan as a record, when the parts of its storage options are mappings. -/
theorem keyOptions_of_parts {plan : CompilePlan} {parts : StorageParts}
    (h : plan.storage.parts = .ok parts) :
    plan.keyOptions = .ok (.ofFields [("persistence_options", parts.toValue),
      ("strict_mode", .bool plan.strict), ("custom_messages", .map plan.messages)]) := by
  rw [keyOptions, StorageOptions.toValue_of_parts h]
  rfl

/-- A pair is only made of options all of whose parts are mappings. -/
theorem parts_of_make {plan : CompilePlan} {pair : SchemaPair}
    (h : (SchemaPair.make plan).result = .ok pair) : ∃ parts, plan.storage.parts = .ok parts := by
  unfold SchemaPair.make at h
  obtain ⟨pair', hboth, -⟩ := Logged.result_andThen_eq_ok_iff.mp h
  rw [SchemaPair.result_notingFailure] at hboth
  unfold SchemaPair.both at hboth
  obtain ⟨validation, -, hrest⟩ := Logged.result_andThen_eq_ok_iff.mp hboth
  obtain ⟨storage, hstorage, -⟩ := Logged.result_andThen_eq_ok_iff.mp hrest
  unfold StorageSchema.ofDefinition at hstorage
  split at hstorage
  · contradiction
  · obtain ⟨fields, -, hparts⟩ := Logged.result_andThen_eq_ok_iff.mp hstorage
    cases hfound : plan.storage.parts with
    | error cause =>
      rw [hfound] at hparts
      contradiction
    | ok parts => exact ⟨parts, rfl⟩

/-- **What a pair depends on**: the definition, the entries of the parts of the storage options, the
strictness and the messages. -/
theorem make_eq_of_parts {plan plan' : CompilePlan}
    (hdefinition : plan.definition = plan'.definition)
    (hparts : plan.storage.parts = plan'.storage.parts) (hstrict : plan.strict = plan'.strict)
    (hmessages : plan.messages = plan'.messages) :
    SchemaPair.make plan = SchemaPair.make plan' := by
  have hvalidation : plan.validationOptions = plan'.validationOptions := by
    rw [validationOptions, hstrict, hmessages, validationOptions]
  unfold SchemaPair.make SchemaPair.both StorageSchema.ofDefinition
  rw [hvalidation, hdefinition, hparts]

/-- Plans with the same definition and the same record of options make the same pair. -/
theorem make_eq_of_keyOptions {plan plan' : CompilePlan} {parts parts' : StorageParts}
    {options : Value} (hdefinition : plan.definition = plan'.definition)
    (hparts : plan.storage.parts = .ok parts) (hparts' : plan'.storage.parts = .ok parts')
    (hoptions : plan.keyOptions = .ok options) (hoptions' : plan'.keyOptions = .ok options) :
    SchemaPair.make plan = SchemaPair.make plan' := by
  rw [keyOptions_of_parts hparts] at hoptions
  rw [keyOptions_of_parts hparts'] at hoptions'
  have hsame := Except.ok.inj (hoptions.trans hoptions'.symm)
  simp only [Value.ofFields, Entries.ofFields, List.map_cons, List.map_nil, Value.map.injEq,
    List.cons.injEq, Prod.mk.injEq, true_and, and_true, Value.bool.injEq] at hsame
  obtain ⟨hstorage, hstrict, hmessages⟩ := hsame
  have hstorage := StorageParts.toValue_injective hstorage
  exact make_eq_of_parts hdefinition (by rw [hparts, hparts', hstorage]) hstrict hmessages

/-- What has a payload has a key, if its text can be encoded. -/
theorem key_of_payload {plan : CompilePlan} {options : Value} {p : Payload}
    (hoptions : plan.keyOptions = .ok options)
    (hp : Signature.payload plan.site plan.definition options = .ok p) :
    plan.key = if p.isEncodable then .ok (Signature.ofText p.toText)
      else .error (.raised TextCoding.notExpressed) := by
  have hcontent : Signature.ofContent plan.site plan.definition options =
      .ok (Signature.digest? p) := by
    rw [Signature.ofContent, hp]
    rfl
  rw [CompilePlan.key, hoptions]
  dsimp only
  rw [hcontent, Signature.digest?]
  cases p.isEncodable <;> rfl

/-- A key is the digest of the text of what it is taken of. -/
theorem key_eq_ok_iff {plan : CompilePlan} {key : String} :
    plan.key = .ok key ↔ ∃ options p, plan.keyOptions = .ok options ∧
      Signature.payload plan.site plan.definition options = .ok p ∧ p.isEncodable = true ∧
      key = Signature.ofText p.toText := by
  cases hoptions : plan.keyOptions with
  | error cause => simp [CompilePlan.key, hoptions]
  | ok options =>
    cases hpayload : Signature.payload plan.site plan.definition options with
    | error cause =>
      constructor
      · intro h
        simp [CompilePlan.key, hoptions, Signature.ofContent, hpayload, bind, Except.bind] at h
      · rintro ⟨options', p, hsame, hp, -⟩
        rw [← Except.ok.inj hsame, hpayload] at hp
        contradiction
    | ok p =>
      rw [key_of_payload hoptions hpayload]
      constructor
      · intro h
        split at h
        · rename_i hencodable
          exact ⟨options, p, rfl, hpayload, hencodable, (Except.ok.inj h).symm⟩
        · contradiction
      · rintro ⟨options', p', hsame, hp, hencodable, rfl⟩
        rw [← Except.ok.inj hsame, hpayload, Except.ok.injEq] at hp
        rw [hp, if_pos hencodable]

end CompilePlan

/-! ## Parts without cycles -/

/-- Whether a value is a text, with or without a coding. -/
def Value.isString : Value → Bool
  | .brokenText _ => true
  | v => v.isText

namespace Entries

theorem isAcyclic_getText {entries : Entries} (h : Value.areEntriesAcyclic entries = true)
    (key : String) : (entries.getText key).isAcyclic = true := by
  induction entries with
  | nil => rfl
  | cons entry rest ih =>
    obtain ⟨k, v⟩ := entry
    obtain ⟨hentry, hrest⟩ := Bool.and_eq_true_iff.mp h
    obtain ⟨-, hv⟩ := Bool.and_eq_true_iff.mp hentry
    have hih := ih hrest
    unfold getText getText?
    split
    · exact hv
    · exact hih

/-- Entries of texts have no cycles. -/
theorem areEntriesAcyclic_of_texts {entries : Entries}
    (h : ∀ entry ∈ entries, entry.1.isString = true ∧ entry.2.isString = true) :
    Value.areEntriesAcyclic entries = true := by
  have htext : ∀ v : Value, v.isString = true → v.isAcyclic = true := by
    intro v hv
    cases v <;> first | rfl | contradiction
  induction entries with
  | nil => rfl
  | cons entry rest ih =>
    obtain ⟨key, message⟩ := entry
    obtain ⟨hkey, hmessage⟩ := h (key, message) List.mem_cons_self
    have hrest := ih fun entry hentry => h entry (List.mem_cons_of_mem _ hentry)
    simp [Value.areEntriesAcyclic, htext key hkey, htext message hmessage, hrest]

end Entries

namespace StorageOptions

/-- A part that is read is a mapping without cycles, when what it is read of has none. -/
theorem readPart_spec {what : String} {v part : Value} (hacyclic : v.isAcyclic = true)
    (h : readPart what v = .ok part) :
    ∃ entries, part = .map entries ∧ Value.areEntriesAcyclic entries = true := by
  cases v with
  | null => exact ⟨[], (Except.ok.inj h).symm, rfl⟩
  | map entries => exact ⟨entries, (Except.ok.inj h).symm, hacyclic⟩
  | _ => contradiction

/-- Hooks that are read of a mapping, or left out, are mappings without cycles. -/
theorem readHooks_spec {v hooks : Value} (hacyclic : v.isAcyclic = true)
    (hmapping : v = .null ∨ ∃ entries, v = .map entries)
    (h : readHooks v = .ok hooks) :
    ∃ pre post, hooks = .middleware (.map pre) (.map post) ∧
      Value.areEntriesAcyclic pre = true ∧ Value.areEntriesAcyclic post = true := by
  rcases hmapping with rfl | ⟨entries, rfl⟩
  · exact ⟨[], [], (Except.ok.inj h).symm, rfl, rfl⟩
  · obtain ⟨pre, hpre, h⟩ := Logged.bind_eq_ok_iff.mp h
    obtain ⟨post, hpost, h⟩ := Logged.bind_eq_ok_iff.mp h
    obtain ⟨preEntries, rfl, hpreAcyclic⟩ :=
      readPart_spec (Entries.isAcyclic_getText hacyclic "pre") hpre
    obtain ⟨postEntries, rfl, hpostAcyclic⟩ :=
      readPart_spec (Entries.isAcyclic_getText hacyclic "post") hpost
    exact ⟨preEntries, postEntries, (Except.ok.inj h).symm, hpreAcyclic, hpostAcyclic⟩

/-- Storage options that are read of a mapping, or left out, have parts without cycles. -/
theorem exists_parts {v : Value} {options : StorageOptions}
    (hmapping : v = .null ∨ ∃ entries, v = .map entries)
    (hhooks : ∀ entries, v = .map entries → Entries.getText entries "middleware" = .null ∨
      ∃ hooks, Entries.getText entries "middleware" = .map hooks)
    (hacyclic : v.isAcyclic = true) (h : read v = .ok options) :
    ∃ parts, options.parts = .ok parts ∧ parts.toValue.isAcyclic = true := by
  rcases hmapping with rfl | ⟨entries, rfl⟩
  · obtain rfl := Except.ok.inj h
    exact ⟨{}, rfl, rfl⟩
  · have hget := Entries.isAcyclic_getText hacyclic
    obtain ⟨schemaOptions, hschema, h⟩ := Logged.bind_eq_ok_iff.mp h
    obtain ⟨hooks, hhooksRead, h⟩ := Logged.bind_eq_ok_iff.mp h
    obtain ⟨virtuals, hvirtuals, h⟩ := Logged.bind_eq_ok_iff.mp h
    obtain ⟨indexes, hindexes, h⟩ := Logged.bind_eq_ok_iff.mp h
    obtain ⟨schemaEntries, rfl, hschemaAcyclic⟩ := readPart_spec (hget _) hschema
    obtain ⟨pre, post, rfl, hpre, hpost⟩ := readHooks_spec (hget _) (hhooks _ rfl) hhooksRead
    obtain ⟨virtualEntries, rfl, hvirtualsAcyclic⟩ := readPart_spec (hget _) hvirtuals
    obtain ⟨indexEntries, rfl, hindexesAcyclic⟩ := readPart_spec (hget _) hindexes
    obtain rfl := Except.ok.inj h
    refine ⟨⟨schemaEntries, pre, post, virtualEntries, indexEntries⟩, rfl, ?_⟩
    simp [StorageParts.toValue, Value.ofFields, Entries.ofFields, Value.isAcyclic,
      Value.areEntriesAcyclic, hschemaAcyclic, hpre, hpost, hvirtualsAcyclic, hindexesAcyclic]

end StorageOptions

namespace Overrides

/-- Messages as they are meant to be are read as texts. -/
theorem messages_spec {v : Value} {messages : Entries}
    (hmapping : v = .null ∨ ∃ entries, v = .map entries ∧
      ∀ entry ∈ entries, entry.1.isString = true ∧ entry.2.isString = true)
    (h : entriesOf v = .ok messages) : Value.areEntriesAcyclic messages = true := by
  unfold entriesOf at h
  split at h
  · rcases hmapping with rfl | ⟨entries, rfl, htexts⟩
    · contradiction
    · obtain rfl := Except.ok.inj h
      exact Entries.areEntriesAcyclic_of_texts htexts
  · obtain rfl := Except.ok.inj h
    rfl

end Overrides

/-! ## What a key is taken of -/

namespace CompileRequest

/-- The definition and the options that the key of a request is taken of. -/
def keyContents? (request : CompileRequest) : Option (Value × Value) :=
  match request.plan with
  | .error _ => none
  | .ok plan =>
    match plan.keyOptions with
    | .error _ => none
    | .ok options => some (plan.definition, options)

/-- The text whose digest is the key of a request. -/
def keyText? (request : CompileRequest) : Option String :=
  request.keyContents?.bind fun contents =>
    match Signature.payload request.site contents.1 contents.2 with
    | .error _ => none
    | .ok p => some p.toText

/-- Whether no text in what the key is taken of holds a surrogate. -/
def isEncodable (request : CompileRequest) : Bool :=
  match request.keyContents? with
  | none => true
  | some (definition, options) => definition.isEncodable && options.isEncodable

/-- What the key of a request knows by reference or by a full name only. -/
def keyReferences (request : CompileRequest) : List Value :=
  match request.keyContents? with
  | none => []
  | some (definition, options) => definition.references ++ options.references

/-- Whether the doubles in what the key is taken of have the form that doubles have. -/
def hasCanonicalNumbers (request : CompileRequest) : Bool :=
  match request.keyContents? with
  | none => true
  | some (definition, options) => definition.hasCanonicalNumbers && options.hasCanonicalNumbers

/-- A request as it is meant to be: storage options are left out or a mapping, in which the hooks
are left out or a mapping; messages are left out or a mapping of texts; and nothing holds itself. -/
structure Conforms (request : CompileRequest) : Prop where
  storageOptions : request.storageOptions = .null ∨ ∃ entries, request.storageOptions = .map entries
  hooks : ∀ entries, request.storageOptions = .map entries →
    Entries.getText entries "middleware" = .null ∨
      ∃ hooks, Entries.getText entries "middleware" = .map hooks
  messages : request.messages = .null ∨ ∃ entries, request.messages = .map entries ∧
    ∀ entry ∈ entries, entry.1.isString = true ∧ entry.2.isString = true
  definition_acyclic : request.definition.isAcyclic = true
  storageOptions_acyclic : request.storageOptions.isAcyclic = true

theorem keyContents?_of_plan {request : CompileRequest} {plan : CompilePlan} {options : Value}
    (hplan : request.plan = .ok plan) (hoptions : plan.keyOptions = .ok options) :
    request.keyContents? = some (plan.definition, options) := by
  unfold keyContents?
  rw [hplan]
  show (match plan.keyOptions with
    | .error _ => none
    | .ok options => some (plan.definition, options)) = _
  rw [hoptions]

/-- The parts of a plan: what each of them was read of. -/
theorem plan_eq_ok {request : CompileRequest} {plan : CompilePlan} (h : request.plan = .ok plan) :
    StorageOptions.read request.storageOptions = .ok plan.storage ∧
      Overrides.entriesOf request.messages = .ok plan.messages ∧
      plan.definition = request.definition ∧ plan.site = request.site := by
  unfold CompileRequest.plan at h
  split at h
  · contradiction
  · contradiction
  · rename_i storage messages hstorage hmessages
    obtain rfl := Except.ok.inj h
    exact ⟨hstorage, hmessages, rfl, rfl⟩

/-- A key is the digest of the text of the request that it is the key of. -/
theorem key_eq_ofText {request : CompileRequest} {plan : CompilePlan} {key : String}
    (hplan : request.plan = .ok plan) (hkey : plan.key = .ok key) :
    ∃ options p, plan.keyOptions = .ok options ∧
      Signature.payload request.site plan.definition options = .ok p ∧
      request.keyText? = some p.toText ∧ key = Signature.ofText p.toText := by
  obtain ⟨options, p, hoptions, hp, -, hdigest⟩ := CompilePlan.key_eq_ok_iff.mp hkey
  obtain ⟨-, -, -, hsite⟩ := plan_eq_ok hplan
  rw [hsite] at hp
  refine ⟨options, p, hoptions, hp, ?_, hdigest⟩
  rw [keyText?, keyContents?_of_plan hplan hoptions, Option.bind_some, hp]

/-! ### Requests that are as they are meant to be have keys -/

/-- A request as it is meant to be has a key, if it has a plan and can be encoded, and the parts of
its storage options can be used. -/
theorem Conforms.exists_key {request : CompileRequest} (h : request.Conforms) {plan : CompilePlan}
    (hplan : request.plan = .ok plan) :
    ∃ parts key, plan.storage.parts = .ok parts ∧
      plan.key = if request.isEncodable then .ok key
        else .error (.raised TextCoding.notExpressed) := by
  obtain ⟨hstorage, hmessages, hdefinition, -⟩ := plan_eq_ok hplan
  obtain ⟨parts, hparts, hpartsAcyclic⟩ :=
    StorageOptions.exists_parts h.storageOptions h.hooks h.storageOptions_acyclic hstorage
  have hmessagesAcyclic := Overrides.messages_spec h.messages hmessages
  have hdefinitionAcyclic : plan.definition.isAcyclic = true := by
    rw [hdefinition]
    exact h.definition_acyclic
  obtain ⟨options, hoptions, hoptionsAcyclic⟩ :
      ∃ options, plan.keyOptions = .ok options ∧ options.isAcyclic = true := by
    refine ⟨_, CompilePlan.keyOptions_of_parts hparts, ?_⟩
    simp [Value.ofFields, Entries.ofFields, Value.isAcyclic, Value.areEntriesAcyclic,
      hpartsAcyclic, hmessagesAcyclic]
  obtain ⟨d, hd⟩ := Value.exists_payload _ hdefinitionAcyclic [0, plan.site]
  obtain ⟨o, ho⟩ := Value.exists_payload _ hoptionsAcyclic [1, plan.site]
  have hpayload : Signature.payload plan.site plan.definition options = .ok (.array [d, o]) := by
    rw [Signature.payload, hd, ho]
    rfl
  have hencodable : (Payload.array [d, o]).isEncodable = request.isEncodable := by
    rw [isEncodable, keyContents?_of_plan hplan hoptions]
    dsimp only
    rw [← Value.isEncodable_payload _ hd, ← Value.isEncodable_payload _ ho]
    simp only [Payload.isEncodable, Payload.areEncodable, Bool.and_true]
  refine ⟨parts, Signature.ofText (Payload.array [d, o]).toText, hparts, ?_⟩
  rw [CompilePlan.key_of_payload hoptions hpayload, hencodable]

end CompileRequest

/-! ## Histories -/

/-- What can happen to a cache of pairs. -/
inductive CompilerAction where
  /-- A request is compiled at a time. -/
  | compile (now : Binary64) (request : CompileRequest)
  /-- The cache is cleared. -/
  | clear

/-- A cache of pairs with the requests that were compiled by way of it, in order.  The number of a
call is the number of the requests before it. -/
structure CompilerState where
  cache : Cache MadePair
  requests : List CompileRequest := []

namespace CompilerState

/-- One action after another history. -/
def perform (state : CompilerState) : CompilerAction → CompilerState
  | .compile now request =>
    ⟨(SchemaPair.compile now state.requests.length request state.cache).cache,
      state.requests ++ [request]⟩
  | .clear => ⟨state.cache.clear, state.requests⟩

/-- The state after a history that begins with an empty cache. -/
def run (limits : CacheLimits) (history : List CompilerAction) : CompilerState :=
  history.foldl perform ⟨⟨limits, [], 0, 0⟩, []⟩

/-- A pair is that of an earlier request, under the key of its call. -/
structure Made (requests : List CompileRequest) (key : String) (made : MadePair)
    (earlier : CompileRequest) (plan : CompilePlan) : Prop where
  request_eq : requests[made.call]? = some earlier
  plan_eq : earlier.plan = .ok plan
  key_eq : plan.key = .ok key
  make_eq : (SchemaPair.make plan).result = .ok made.pair

/-- Every entry holds a pair that an earlier call made, under the key of that call. -/
def IsFaithful (state : CompilerState) : Prop :=
  ∀ entry ∈ state.cache.entries, ∃ made earlier plan,
    entry.value = some made ∧ Made state.requests entry.key made earlier plan

/-- A pair stays that of its request when there are further requests. -/
theorem Made.append {requests : List CompileRequest} {key : String} {made : MadePair}
    {earlier : CompileRequest} {plan : CompilePlan} (h : Made requests key made earlier plan)
    (request : CompileRequest) : Made (requests ++ [request]) key made earlier plan where
  request_eq := by
    have hlt := (List.getElem?_eq_some_iff.mp h.request_eq).1
    rw [List.getElem?_append_left hlt, h.request_eq]
  plan_eq := h.plan_eq
  key_eq := h.key_eq
  make_eq := h.make_eq

end CompilerState

/-! ### What operations keep -/

namespace SchemaPair

variable {now : Binary64} {call : ℕ} {plan : CompilePlan} {cache : Cache MadePair} {key : String}

/-- A pair that is found is returned, and no entry is added. -/
theorem makeCached_of_found {made : MadePair} (hkey : plan.key = .ok key)
    (hfound : (cache.get now key).result = some made) :
    (makeCached now call plan cache).result = .ok made ∧
      (makeCached now call plan cache).cache.entries = (cache.get now key).cache.entries := by
  unfold makeCached
  simp only [hkey, Cache.getOrCompile_of_found hfound, and_self]

/-- A pair that cannot be made is not kept. -/
theorem makeCached_of_failed {cause : CompileFailure} (hkey : plan.key = .ok key)
    (hnone : (cache.get now key).result = none) (hmake : (make plan).result = .error cause) :
    (makeCached now call plan cache).result = .error cause ∧
      (makeCached now call plan cache).cache.entries = (cache.get now key).cache.entries := by
  unfold makeCached
  simp only [hkey]
  rw [Cache.getOrCompile_of_failed hnone
    (show _ = Except.error cause by simp [Logged.result_andThen, hmake, Except.bind])]
  exact ⟨rfl, rfl⟩

/-- A pair that is made is returned, and its entry is added to the cache that the look-up leaves. -/
theorem makeCached_of_made {pair : SchemaPair} (hkey : plan.key = .ok key)
    (hnone : (cache.get now key).result = none) (hmake : (make plan).result = .ok pair) :
    (makeCached now call plan cache).result = .ok ⟨call, pair⟩ ∧
      ∃ left : Cache MadePair, left.entries = (cache.get now key).cache.entries ∧
        (makeCached now call plan cache).cache = (left.set now key (some ⟨call, pair⟩)).cache := by
  unfold makeCached
  simp only [hkey]
  rw [Cache.getOrCompile_of_made hnone (show _ = Except.ok (some (MadePair.mk call pair)) by
    simp [Logged.result_andThen, hmake, Except.bind])]
  exact ⟨rfl, { (cache.get now key).cache with
    misses := (cache.get now key).cache.misses + 1 }, rfl, rfl⟩

/-- The entries that a call leaves were there before, but for the pair that the call made. -/
theorem mem_entries_of_mem_compile {request : CompileRequest} {entry : CacheEntry MadePair}
    (h : entry ∈ (compile now call request cache).cache.entries) :
    entry ∈ cache.entries ∨ ∃ plan pair, request.plan = .ok plan ∧
      plan.key = .ok entry.key ∧ (make plan).result = .ok pair ∧
        entry.value = some ⟨call, pair⟩ := by
  unfold compile at h
  split at h
  · exact .inl h
  · rename_i plan hplan
    split at h
    · cases hkey : plan.key with
      | error failure =>
        rw [makeCached, hkey] at h
        exact .inl h
      | ok key =>
        cases hfound : (cache.get now key).result with
        | some made =>
          rw [(makeCached_of_found hkey hfound).2] at h
          exact .inl (Cache.mem_entries_of_mem_get h)
        | none =>
          cases hmake : (make plan).result with
          | error cause =>
            rw [(makeCached_of_failed hkey hfound hmake).2] at h
            exact .inl (Cache.mem_entries_of_mem_get h)
          | ok pair =>
            obtain ⟨-, left, hleft, hcache⟩ := makeCached_of_made hkey hfound hmake
            rw [hcache] at h
            rcases Cache.mem_entries_of_mem_set h with rfl | hkept
            · exact .inr ⟨plan, pair, hplan, hkey, hmake, rfl⟩
            · rw [hleft] at hkept
              exact .inl (Cache.mem_entries_of_mem_get hkept)
    · exact .inl h

end SchemaPair

namespace CompilerState

/-- What one action keeps. -/
theorem IsFaithful.perform {state : CompilerState} (h : state.IsFaithful)
    (action : CompilerAction) : (state.perform action).IsFaithful := by
  intro entry hentry
  cases action with
  | clear => exact absurd hentry List.not_mem_nil
  | compile now request =>
    rcases SchemaPair.mem_entries_of_mem_compile hentry with
      hkept | ⟨plan, pair, hplan, hkey, hmake, hvalue⟩
    · obtain ⟨made, earlier, plan, hvalue, hmade⟩ := h entry hkept
      exact ⟨made, earlier, plan, hvalue, hmade.append request⟩
    · exact ⟨_, request, plan, hvalue, List.getElem?_concat_length, hplan, hkey, hmake⟩

/-- **The invariant of a run**: every entry holds the pair of an earlier call, under its key. -/
theorem isFaithful_run (limits : CacheLimits) (history : List CompilerAction) :
    (run limits history).IsFaithful := by
  have hsteps : ∀ state : CompilerState, state.IsFaithful →
      (history.foldl CompilerState.perform state).IsFaithful := by
    induction history with
    | nil => exact fun state h => h
    | cons action rest ih => exact fun state h => ih _ (h.perform action)
  exact hsteps _ fun entry hentry => absurd hentry List.not_mem_nil

/-! ### Compiling with and without the cache -/

/-- What is assumed when a request comes after a history, of the pairs that are kept: the text of a
request that has the digest of another is the same text, an object that has the identity of another
is the same object, a member that has the full name of another is the same member, and a request of
the same site has the same contents. -/
structure Separates (state : CompilerState) (request : CompileRequest) : Prop where
  texts : ∀ entry ∈ state.cache.entries, ∀ made earlier text text', entry.value = some made →
    state.requests[made.call]? = some earlier → earlier.keyText? = some text →
    request.keyText? = some text' → Signature.ofText text = Signature.ofText text' → text = text'
  known : ∀ entry ∈ state.cache.entries, ∀ made earlier, entry.value = some made →
    state.requests[made.call]? = some earlier →
    Value.KnownApart earlier.keyReferences request.keyReferences
  sites : ∀ entry ∈ state.cache.entries, ∀ made earlier, entry.value = some made →
    state.requests[made.call]? = some earlier → earlier.site = request.site →
    earlier.keyContents? = request.keyContents?

/-- A pair that is found for a request is the pair that would be made. -/
theorem make_eq_of_found {state : CompilerState} (hfaithful : state.IsFaithful)
    {request : CompileRequest} {plan : CompilePlan} {parts : StorageParts} {key : String}
    {now : Binary64} {made : MadePair} (hseparates : state.Separates request)
    (hnumbers : ∀ earlier ∈ state.requests, earlier.hasCanonicalNumbers = true)
    (hnumbersHere : request.hasCanonicalNumbers = true) (hplan : request.plan = .ok plan)
    (hparts : plan.storage.parts = .ok parts)
    (hkey : plan.key = .ok key)
    (hfound : (state.cache.get now key).result = some made) :
    (SchemaPair.make plan).result = .ok made.pair := by
  obtain ⟨entry, hentry, rfl, hvalue⟩ := Cache.exists_entry_of_result_get hfound
  obtain ⟨made', earlier, plan', hvalue', hmade⟩ := hfaithful entry hentry
  obtain rfl := Option.some.inj (hvalue.symm.trans hvalue')
  obtain ⟨options, p, hoptions, hp, htext, hdigest⟩ :=
    CompileRequest.key_eq_ofText hplan hkey
  obtain ⟨options', p', hoptions', hp', htext', hdigest'⟩ :=
    CompileRequest.key_eq_ofText hmade.plan_eq hmade.key_eq
  have hsameText : p'.toText = p.toText :=
    hseparates.texts entry hentry made earlier _ _ hvalue hmade.request_eq htext' htext
      (hdigest'.symm.trans hdigest)
  have hcontents := CompileRequest.keyContents?_of_plan hplan hoptions
  have hcontents' := CompileRequest.keyContents?_of_plan hmade.plan_eq hoptions'
  obtain ⟨hlt, hearlier⟩ := List.getElem?_eq_some_iff.mp hmade.request_eq
  have hcanonical := hnumbers earlier (hearlier ▸ List.getElem_mem hlt)
  have hknown := hseparates.known entry hentry made earlier hvalue hmade.request_eq
  rw [CompileRequest.hasCanonicalNumbers, hcontents'] at hcanonical
  rw [CompileRequest.hasCanonicalNumbers, hcontents] at hnumbersHere
  rw [CompileRequest.keyReferences, CompileRequest.keyReferences, hcontents, hcontents'] at hknown
  obtain ⟨hdefinition, hsameOptions⟩ :
      plan'.definition = plan.definition ∧ options' = options := by
    by_cases hsite : earlier.site = request.site
    · have hsame := hseparates.sites entry hentry made earlier hvalue hmade.request_eq hsite
      rw [hcontents, hcontents', Option.some.injEq, Prod.mk.injEq] at hsame
      exact hsame
    · exact Signature.eq_of_toText_payload_eq hsite hp' hp hsameText
        (Bool.and_eq_true_iff.mp hcanonical) (Bool.and_eq_true_iff.mp hnumbersHere) hknown
  obtain ⟨parts', hparts'⟩ := CompilePlan.parts_of_make hmade.make_eq
  rw [hsameOptions] at hoptions'
  rw [CompilePlan.make_eq_of_keyOptions hdefinition.symm hparts hparts' hoptions hoptions']
  exact hmade.make_eq

/-- **The cache does not show.**  After any history, with any bounds and at any time, a request ends
by way of the cache as it does without: with the same failure, or with the same pair.  This is so
when nothing in the request holds a surrogate; if something does, no coding has what the key is
taken of, and the request ends with this failure by way of the cache. -/
theorem compile_transparent (limits : CacheLimits) (history : List CompilerAction)
    (now : Binary64) {request : CompileRequest} (hconforms : request.Conforms)
    (hseparates : (run limits history).Separates request)
    (hnumbers : ∀ earlier ∈ (run limits history).requests, earlier.hasCanonicalNumbers = true)
    (hnumbersHere : request.hasCanonicalNumbers = true) :
    (request.isEncodable = true →
      (SchemaPair.compile now (run limits history).requests.length request
          (run limits history).cache).result.map MadePair.pair =
        (SchemaPair.compile now (run limits history).requests.length
          { request with useCache := false } (run limits history).cache).result.map
            MadePair.pair) ∧
      (request.isEncodable = false → request.useCache = true →
        (SchemaPair.compile now (run limits history).requests.length request
          (run limits history).cache).result = .error (.raised TextCoding.notExpressed)) := by
  have hfaithful := isFaithful_run limits history
  generalize run limits history = state at *
  have hsamePlan : CompileRequest.plan { request with useCache := false } = request.plan := rfl
  unfold SchemaPair.compile
  rw [hsamePlan]
  cases hplan : request.plan with
  | error failure =>
    have hencodable : request.isEncodable = true := by
      simp only [CompileRequest.isEncodable, CompileRequest.keyContents?, hplan]
    exact ⟨fun _ => rfl, fun hbroken => absurd (hencodable.symm.trans hbroken) (by decide)⟩
  | ok plan =>
    obtain ⟨parts, key, hparts, hkey⟩ := hconforms.exists_key hplan
    refine ⟨fun hencodable => ?_, fun hbroken huse => ?_⟩
    · rw [hencodable, if_pos rfl] at hkey
      cases huse : request.useCache with
      | false => rfl
      | true =>
        show (SchemaPair.makeCached now state.requests.length plan state.cache).result.map
            MadePair.pair =
          ((SchemaPair.make plan).andThen fun pair =>
            Logged.ok (MadePair.mk state.requests.length pair)).result.map MadePair.pair
        rw [Logged.result_andThen]
        cases hfound : (state.cache.get now key).result with
        | some made =>
          rw [(SchemaPair.makeCached_of_found hkey hfound).1, make_eq_of_found hfaithful hseparates
            hnumbers hnumbersHere hplan hparts hkey hfound]
          rfl
        | none =>
          cases hmake : (SchemaPair.make plan).result with
          | error cause =>
            rw [(SchemaPair.makeCached_of_failed hkey hfound hmake).1]
            rfl
          | ok pair =>
            rw [(SchemaPair.makeCached_of_made hkey hfound hmake).1]
            rfl
    · rw [hbroken] at hkey
      simp only [huse, if_true]
      rw [SchemaPair.makeCached, hkey]
      rfl

/-- A request whose definition holds a function and a double. -/
def sharedRequest : CompileRequest where
  definition := .ofFields [("name", .ofFields [("type", .text "String"), ("required", .bool true),
      ("default", .function 7 true .constant [.text "nobody"])]),
    ("score", .ofFields [("type", .text "Number"), ("min", .float (.finite false (2 ^ 52) (-53)))])]
  storageOptions := .ofFields [("indexes", .ofFields [("name", .int 1)])]
  messages := .ofFields [("name.required", .text "who is it?")]

/-- The same request twice, with the cache cleared in between, and at times between which an entry
does not live. -/
def sharedHistory : List CompilerAction :=
  [.compile .zero sharedRequest, .clear, .compile .zero sharedRequest,
    .compile (.finite false (2 ^ 52) 0) sharedRequest]

/-- The request once more, by way of a cache of one entry. -/
theorem compile_transparent_shared :
    let state := run ⟨some 1, some (.int 60), .int 1, .int 60⟩ sharedHistory
    (SchemaPair.compile .zero state.requests.length sharedRequest state.cache).result.map
        MadePair.pair =
      (SchemaPair.compile .zero state.requests.length { sharedRequest with useCache := false }
        state.cache).result.map MadePair.pair := by
  have hrequests : (run ⟨some 1, some (.int 60), .int 1, .int 60⟩ sharedHistory).requests =
      List.replicate 3 sharedRequest := rfl
  have hobject : ∀ v ∈ sharedRequest.keyReferences,
      v = .function 7 true .constant [.text "nobody"] := by
    intro v hv
    exact List.mem_singleton.mp hv
  refine (compile_transparent _ sharedHistory .zero
    ⟨.inr ⟨_, rfl⟩, ?_, .inr ⟨_, rfl, ?_⟩, rfl, rfl⟩ ⟨?_, ?_, ?_⟩ ?_ ?_).1 rfl
  · intro entries hentries
    obtain rfl := Value.map.inj hentries
    exact .inl rfl
  · intro entry hentry
    obtain rfl := List.mem_singleton.mp hentry
    exact ⟨rfl, rfl⟩
  · intro entry _ made earlier text text' _ hearlier htext htext' _
    obtain rfl := List.eq_of_mem_replicate (hrequests ▸ List.mem_of_getElem? hearlier)
    exact Option.some.inj (htext.symm.trans htext')
  · intro entry _ made earlier _ hearlier
    obtain rfl := List.eq_of_mem_replicate (hrequests ▸ List.mem_of_getElem? hearlier)
    refine ⟨fun v hv w hw _ _ => ?_, fun v hv w hw _ _ _ => ?_⟩
    · rw [hobject v hv, hobject w hw]
    · rw [hobject v hv, hobject w hw]
  · intro entry _ made earlier _ hearlier _
    obtain rfl := List.eq_of_mem_replicate (hrequests ▸ List.mem_of_getElem? hearlier)
    rfl
  · intro earlier hearlier
    obtain rfl := List.eq_of_mem_replicate (hrequests ▸ hearlier)
    rfl
  · rfl

/-! ### Sites that are used again -/

/-- A request is answered with the pair of the one before that has the same key. -/
theorem compile_of_sameKey {first second : CompileRequest} {plan plan' : CompilePlan}
    {pair : SchemaPair} {key : String} (hplan : first.plan = .ok plan)
    (hplan' : second.plan = .ok plan') (huse : first.useCache = true)
    (huse' : second.useCache = true) (hkey : plan.key = .ok key) (hkey' : plan'.key = .ok key)
    (hmake : (SchemaPair.make plan).result = .ok pair) :
    (SchemaPair.compile .zero 1 second
      (run ⟨none, none, .null, .null⟩ [.compile .zero first]).cache).result = .ok ⟨0, pair⟩ := by
  have hrun : (run ⟨none, none, .null, .null⟩ [.compile .zero first]).cache =
      ⟨⟨none, none, .null, .null⟩, [⟨key, .zero, some ⟨0, pair⟩⟩], 0, 1⟩ := by
    show (SchemaPair.compile .zero 0 first _).cache = _
    rw [SchemaPair.compile, hplan]
    simp only [huse, if_true]
    rw [SchemaPair.makeCached, hkey]
    dsimp only
    rw [Cache.getOrCompile_of_made rfl (show _ = Except.ok (some (MadePair.mk 0 pair)) by
      simp [Logged.result_andThen, hmake, Except.bind])]
    rfl
  rw [hrun, SchemaPair.compile, hplan']
  simp only [huse', if_true]
  refine (SchemaPair.makeCached_of_found hkey' ?_).1
  simp [Cache.get, Cache.entry?, CacheLimits.isOver]

/-- A hook that is known by its tag. -/
def taggedHook (tag : String) : Value := .function 0 true .hook [.text tag]

/-- Options with one hook, which is listed by a sequence that nothing but its site tells apart. -/
def hookOptions (tag : String) : StorageOptions where
  hooks := .middleware (.ofFields [("save", .deque [taggedHook tag])]) (.map [])

/-- A request for no fields, with such options. -/
def hookRequest (tag : String) : CompileRequest where
  definition := .map []
  storageOptions := .ofFields [("middleware", .ofFields [("pre", .ofFields [("save",
    .deque [taggedHook tag])])])]

/-- The plan of this request. -/
def hookPlan (tag : String) : CompilePlan where
  definition := .map []
  storage := hookOptions tag

/-- The pair of this request has the hook that is listed. -/
theorem exists_pair_hookPlan (tag : String) :
    ∃ pair, (SchemaPair.make (hookPlan tag)).result = .ok pair ∧
      pair.storage.pre = [(.text "save", [taggedHook tag])] := by
  have hvalidation : (ValidationSchema.ofDefinition (hookPlan tag).validationOptions
      (.map [])).result = .ok { rule := .ofFields [], options := ⟨false, .ofEntries []⟩ } := by
    show ((Rule.ofParts _ [] : Compiling Rule).andThen _).result = _
    rw [Rule.ofParts, Rule.ofForms]
    rfl
  obtain ⟨storage, hstorage, hpre⟩ : ∃ storage,
      (StorageSchema.ofDefinition (hookOptions tag) (.map [])).result = .ok storage ∧
        storage.pre = [(.text "save", [taggedHook tag])] := ⟨_, rfl, rfl⟩
  have hboth : (SchemaPair.notingFailure (SchemaPair.both (hookPlan tag))).result =
      .ok ⟨storage, { rule := .ofFields [], options := ⟨false, .ofEntries []⟩ }⟩ := by
    rw [SchemaPair.result_notingFailure]
    exact Logged.result_andThen_eq_ok_iff.mpr ⟨_, hvalidation,
      Logged.result_andThen_eq_ok_iff.mpr ⟨_, hstorage, rfl⟩⟩
  exact ⟨_, Logged.result_andThen_eq_ok_iff.mpr ⟨_, hboth, rfl⟩, hpre⟩

/-- The key of this request has nothing of the hook. -/
theorem exists_key_hookPlan : ∃ key, ∀ tag, (hookPlan tag).key = .ok key := by
  have hkey : ∃ key, (hookPlan "").key = .ok key :=
    ⟨_, (CompilePlan.key_of_payload rfl rfl).trans (if_pos rfl)⟩
  exact hkey.imp fun key h tag => (show (hookPlan tag).key = (hookPlan "").key from rfl).trans h

/-- **A site that is used again shows.**  A sequence of hooks that was listed where the one of an
earlier request had been is known by the same identity, and the request gets the pair with the
hooks of the earlier one. -/
theorem compile_reusedSite {tag tag' : String} (htags : tag ≠ tag') :
    let state := run ⟨none, none, .null, .null⟩ [.compile .zero (hookRequest tag)]
    (hookRequest tag').Conforms ∧ (hookRequest tag').isEncodable = true ∧
      (SchemaPair.compile .zero 1 (hookRequest tag') state.cache).result.map MadePair.pair ≠
        (SchemaPair.compile .zero 1 { hookRequest tag' with useCache := false }
          state.cache).result.map MadePair.pair := by
  intro state
  obtain ⟨pair, hmake, hpre⟩ := exists_pair_hookPlan tag
  obtain ⟨pair', hmake', hpre'⟩ := exists_pair_hookPlan tag'
  obtain ⟨key, hkey⟩ := exists_key_hookPlan
  refine ⟨⟨.inr ⟨_, rfl⟩, ?_, .inl rfl, rfl, rfl⟩, rfl, fun hsame => htags ?_⟩
  · intro entries hentries
    obtain rfl := Value.map.inj hentries
    exact .inr ⟨_, rfl⟩
  · have hcached : (SchemaPair.compile .zero 1 (hookRequest tag') state.cache).result =
        .ok ⟨0, pair⟩ := compile_of_sameKey rfl rfl rfl rfl (hkey tag) (hkey tag') hmake
    have hfresh : (SchemaPair.compile .zero 1 { hookRequest tag' with useCache := false }
        state.cache).result.map MadePair.pair = .ok pair' := by
      show ((SchemaPair.make (hookPlan tag')).andThen _).result.map _ = _
      rw [Logged.result_andThen, hmake']
      rfl
    rw [hcached, hfresh] at hsame
    obtain rfl : pair = pair' := Except.ok.inj hsame
    simpa [taggedHook] using hpre.symm.trans hpre'

end CompilerState

end FieldSchema
