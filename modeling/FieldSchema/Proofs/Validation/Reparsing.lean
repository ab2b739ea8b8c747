import FieldSchema.Proofs.Validation.Names
import FieldSchema.Proofs.Validation.Stable

/-!
# Checking an output again

What a schema gave out it gives out again, after every history of calls, in strict schemas as well
as in others: nothing in it is changed a second time, and it has no keys but the names of fields.

There is one exception.  A field with a default always has a value after a check, unless the value
is the mark of a field without a value, which fields for values of any kind take.  So a field may be
missing in an output although it has a default, or is required; and when the output is checked
again, the default is made, or the field is found missing.

## The exact condition

Whether this happens can be read off the rule and the output (`Rule.isComplete`): every field that
an object lacks may be left out and has no default, or has a default that comes to the mark again.
The mark has to be in the input or in a default, or a default has to ask for the fields before it;
otherwise every output is complete (`Rule.isComplete_of_isMarkFree`).

* `Rule.isComplete`: outputs that lack no field for which anything is made.
* `Rule.always_of_accepts`: complete outputs are accepted as they are.
* `Rule.isComplete_of_accepts`: outputs that are accepted as they are are complete.
* `ValidationSchema.parse_parse_iff`: what a schema gave out it gives out again exactly when it is
  complete.
-/

namespace FieldSchema

namespace Rule

/-! ## Complete outputs -/

/-- Whether a field that is missing in an output is missing when the output is checked again: it may
be left out, or its default comes to the mark. -/
def staysOut (rule : Rule) (earlier : Entries) : Bool :=
  match rule.facts.default? with
  | some default => rule.kind == .any && default.answersMark earlier
  | none => rule.facts.isOptional

mutual

/-- Whether every field that is missing in an output, at any depth, stays out. -/
def isComplete : Rule → Value → Bool
  | .array _ item, .list parts => parts.all (isComplete item)
  | .object _ fields, .map output => fieldsAreComplete fields output 0 []
  | _, _ => true

/-- Whether the values of fields are complete, and the fields without a value stay out. -/
def fieldsAreComplete : List (TextValue × Rule) → Entries → Nat → Entries → Bool
  | [], _, _, _ => true
  | (name, rule) :: rest, output, index, earlier =>
    (output.getText? name.text).elim (rule.staysOut earlier) (isComplete rule) &&
    fieldsAreComplete rest output (index + 1) (earlier ++ [known output name index])

end

end Rule

/-! ## Defaults that come to the mark -/

namespace Value

theorem unlessAbsent_of_isMark {v : Value} (h : v.isMark = false) : v.unlessAbsent = some v := by
  cases hv : v.unlessAbsent with
  | none =>
    rw [unlessAbsent_eq_none_iff.mp hv] at h
    contradiction
  | some w => rw [unlessAbsent_eq_some hv]

/-- What equals a text may be a key. -/
theorem isHashable_of_equals {a b : Value} (ha : a.isText = true) (h : a.equals b = true) :
    b.isHashable = true := by
  have htext : ∃ text, b.asText? = some text := by
    cases a with
    | text s => exact ⟨s, by simpa [equals] using h⟩
    | canonical t => exact ⟨t.label, by simpa [equals] using h⟩
    | _ => contradiction
  obtain ⟨text, htext⟩ := htext
  cases b <;> first | rfl | contradiction

/-- A default that answers with the mark comes to it after every history of calls. -/
theorem always_of_answersMark {default : Value} {earlier : Entries}
    (hkeys : ∀ entry ∈ earlier, entry.1.isText = true)
    (h : default.answersMark earlier = true) :
    (default.make earlier).Always (.other absentLabel) := by
  unfold answersMark at h
  split at h
  · rw [← eq_of_isMark h]
    exact fun history => ⟨_, rfl⟩
  · rename_i key rest
    cases hfound : Entries.get? earlier key with
    | none =>
      rw [hfound] at h
      contradiction
    | some mark =>
      rw [hfound] at h
      obtain ⟨entry, hentry, rfl⟩ := Option.map_eq_some_iff.mp hfound
      have hequal : entry.1.equals key = true := by simpa using List.find?_some hentry
      have hhashable :=
        isHashable_of_equals (hkeys entry (List.mem_of_find?_eq_some hentry)) hequal
      refine fun history => ⟨_, Prod.ext ?_ rfl⟩
      show entryAt (.map earlier) key = _
      rw [entryAt, if_pos hhashable, hfound, Option.getD_some]
      exact congrArg Except.ok (eq_of_isMark h)
  · rw [eq_of_isMark h]
    exact Checking.always_value _

end Value

/-! ## Complete outputs are accepted as they are -/

namespace Rule

variable {policy : ObjectPolicy} {rule : Rule} {fields : List (TextValue × Rule)} {index : Nat}
  {input output earlier : Entries} {outcomes : List (Option Value)}

/-- A rule for values of any kind accepts every value as it is. -/
theorem always_of_any (policy : ObjectPolicy) (hrule : rule.IsWellFormed)
    (hkind : rule.kind = .any) (path : String) (done : Nat) (v : Value) :
    (check policy rule path done v).Always (.accepted v) := by
  cases hrule with
  | @leaf facts kind hfacts =>
    obtain rfl : kind = .any := hkind
    rw [check, hfacts.eq_nil (by decide)]
    exact Checking.always_value _
  | _ => contradiction

/-- A field that stays out is left out of what is accepted. -/
theorem always_checkAbsent (hrule : rule.IsWellFormed) (hstays : rule.staysOut earlier = true)
    (hkeys : ∀ entry ∈ earlier, entry.1.isText = true) (path name : String) (done index : Nat) :
    (checkAbsent rule.facts ⟨earlier, false⟩ (check policy rule path done) name index).Always
      (.accepted none) := by
  unfold staysOut at hstays
  unfold checkAbsent
  cases hdefault : rule.facts.default? with
  | none =>
    rw [hdefault] at hstays
    rw [if_pos hstays]
    exact Checking.always_value _
  | some default =>
    rw [hdefault] at hstays
    obtain ⟨hkind, hanswers⟩ := Bool.and_eq_true_iff.mp hstays
    have hmark := always_of_any policy hrule (beq_iff_eq.mp hkind) path done
      (.other Value.absentLabel)
    have hcheck : (checkDefault default ⟨earlier, false⟩ (check policy rule path done)).Always
        (.accepted (.other Value.absentLabel)) := by
      rw [checkDefault_eq, Bool.and_false, if_neg Bool.false_ne_true]
      exact (Value.always_of_answersMark hkeys hanswers).andThen hmark
    exact hcheck.andThen (Checking.always_value _)

/-- The fields of a complete output are accepted as they are, given the fields before them. -/
theorem always_checkFields_of_known (h : FieldOutcomes policy input fields index earlier outcomes)
    (hget : ∀ field outcome, (field, outcome) ∈ fields.zip outcomes →
      output.getText? field.1.text = outcome)
    (hcomplete : fieldsAreComplete fields output index earlier = true)
    (hkeys : ∀ entry ∈ earlier, entry.1.isText = true)
    (hwell : ∀ field ∈ fields, field.2.IsWellFormed)
    (hfields : ∀ field ∈ fields, ∀ v w, Accepts policy field.2 v w →
      field.2.isComplete w = true → ∀ path done, (check policy field.2 path done w).Always
        (.accepted w)) (path : String) (done : Nat) :
    (checkFields policy fields path done index ⟨earlier, false⟩ output).Always
      (.accepted (outputOf fields index outcomes)) := by
  induction h generalizing done with
  | nil => exact Checking.always_value _
  | @cons name rule rest index earlier outcome outcomes first others ih =>
    obtain ⟨hrule, hrestWell⟩ := List.forall_mem_cons.mp hwell
    obtain ⟨hfield, hrestFields⟩ := List.forall_mem_cons.mp hfields
    have hhead := hget _ _ List.mem_cons_self
    rw [fieldsAreComplete, Bool.and_eq_true, hhead] at hcomplete
    obtain ⟨hfirst, hrest⟩ := hcomplete
    have hnext : ∀ entry ∈ earlier ++ [known output name index], entry.1.isText = true :=
      List.forall_mem_append.mpr ⟨hkeys, List.forall_mem_singleton.mpr rfl⟩
    rw [known, hhead] at hrest hnext
    -- Both checks know the same of this field, so the rest goes on alike.
    have hothers := ih (fun field outcome hmem => hget field outcome (List.mem_cons_of_mem _ hmem))
      hrest hnext hrestWell hrestFields (done + modelCount rule)
    rw [checkFields]
    dsimp only
    rw [hhead]
    cases outcome with
    | none =>
      refine (always_checkAbsent hrule hfirst hkeys _ _ _ _).andThen ?_
      exact hothers.andThen (Checking.always_value _)
    | some w =>
      obtain ⟨v, -, haccepts⟩ := first.exists_supplied
      have hvalue : ((check policy rule (fieldPath path name) done w).andThen fun verdict =>
          .value ((verdict.under (.field name.text)).map Value.unlessAbsent)).Always
            (.accepted (some w)) := by
        refine (hfield v w haccepts hfirst (fieldPath path name) done).andThen ?_
        rw [Verdict.under, Verdict.map, Value.unlessAbsent_of_isMark first.isMark_eq_false]
        exact Checking.always_value _
      exact hvalue.andThen (hothers.andThen (Checking.always_value _))

/-- The fields of a complete output are accepted as they are. -/
theorem always_checkFields (h : FieldOutcomes policy input fields 0 [] outcomes)
    (hnames : fieldsHaveNames fields = true) (hdistinct : (fieldTexts fields).Nodup)
    (hcomplete : fieldsAreComplete fields (outputOf fields 0 outcomes) 0 [] = true)
    (hwell : ∀ field ∈ fields, field.2.IsWellFormed)
    (hfields : ∀ field ∈ fields, ∀ v w, Accepts policy field.2 v w →
      field.2.isComplete w = true → ∀ path done, (check policy field.2 path done w).Always
        (.accepted w)) (path : String) (done : Nat) :
    (checkFields policy fields path done 0 {} (outputOf fields 0 outcomes)).Always
      (.accepted (outputOf fields 0 outcomes)) :=
  have hget := getText?_outputOf (text_ne_of_fieldsHaveNames hnames) hdistinct 0 outcomes
  always_checkFields_of_known h hget hcomplete (fun _ hmem => absurd hmem List.not_mem_nil) hwell
    hfields path done

/-- An output has no keys but the names of fields. -/
theorem strangeKeys_outputOf (policy : ObjectPolicy) (hnames : fieldsHaveNames fields = true)
    (hdistinct : (fieldTexts fields).Nodup) :
    strangeKeys policy (fieldTexts fields) (outputOf fields index outcomes) = [] := by
  have htexts := text_ne_of_fieldsHaveNames hnames
  unfold strangeKeys
  split
  · refine List.filterMap_eq_nil_iff.mpr fun entry hentry => ?_
    obtain ⟨field, hmem, hkey⟩ := exists_of_mem_outputOf htexts hentry
    have hname : field.1.text ∈ fieldTexts fields :=
      List.mem_map_of_mem (List.of_mem_zip hmem).1
    have hvalue := getText?_outputOf htexts hdistinct index outcomes field _ hmem
    simp [strangeKey?, hkey, hname, hvalue]
  · rfl

/-- **Complete outputs are accepted as they are**, by induction on the rule. -/
theorem always_of_accepts (hrule : rule.IsWellFormed) (hnames : rule.hasNames = true)
    {v w : Value} (h : Accepts policy rule v w) (hcomplete : rule.isComplete w = true)
    (path : String) (done : Nat) : (check policy rule path done w).Always (.accepted w) := by
  induction hrule generalizing v w path done with
  | leaf hfacts => exact always_leaf hfacts h path done
  | array hfacts hitem ih =>
    obtain ⟨items, parts, hitems, rfl, hparts, hrefine⟩ := h.array
    rw [isComplete, List.all_eq_true] at hcomplete
    have heach := fun part hpart =>
      (exists_of_mem_forall₂ hparts.flip part hpart).elim fun v hv =>
        ih hnames hv.2 (hcomplete part hpart) path done
    rw [check]
    exact (Checking.always_each heach 0).andThen (always_refineVerdict_list hfacts hrefine)
  | @object facts fields hfacts hdistinct hfields ih =>
    obtain ⟨input, outcomes, rfl, rfl, houtcomes⟩ := h.object hnames hdistinct
    have hall := always_checkFields houtcomes hnames hdistinct hcomplete hfields
      (fun field hfield v w haccepts hwhole path done =>
        ih field hfield (hasNames_of_fieldsHaveNames hnames field hfield) haccepts hwhole path done)
      path done
    rw [check]
    refine hall.andThen ?_
    rw [strangeKeys_outputOf policy hnames hdistinct, hfacts.eq_nil (by decide)]
    show (Checking.value (Verdict.accepted
      (Value.map (Entries.ofPairs (outputOf fields 0 outcomes))))).Always _
    rw [ofPairs_outputOf hnames hdistinct]
    exact Checking.always_value _

/-! ## Outputs that are accepted as they are -/

/-- A field for which nothing is given and that comes to nothing stays out. -/
theorem FieldOutcome.staysOut {outcome : Option Value}
    (h : FieldOutcome policy rule none earlier outcome) (hnone : outcome = none) :
    rule.staysOut earlier = true := by
  have hmark := h.isNone_eq
  rw [hnone] at hmark
  unfold Rule.staysOut
  cases h with
  | given hgiven => contradiction
  | made hgiven hdefault =>
    rw [hdefault] at hmark ⊢
    exact hmark.symm
  | leftOut hgiven hdefault hoptional =>
    rw [hdefault]
    exact hoptional

/-- An output is complete when its values are, and the fields that it lacks stay out. -/
theorem fieldsAreComplete_of_outcomes
    (h : FieldOutcomes policy input fields index earlier outcomes)
    (hget : ∀ field outcome, (field, outcome) ∈ fields.zip outcomes →
      output.getText? field.1.text = outcome)
    (hfields : ∀ field ∈ fields, ∀ earlier outcome,
      FieldOutcome policy field.2 (input.getText? field.1.text) earlier outcome →
      output.getText? field.1.text = outcome →
      outcome.elim (field.2.staysOut earlier) field.2.isComplete = true) :
    fieldsAreComplete fields output index earlier = true := by
  induction h with
  | nil => rfl
  | @cons name rule rest index earlier outcome outcomes first others ih =>
    obtain ⟨hfield, hrestFields⟩ := List.forall_mem_cons.mp hfields
    have hhead := hget _ _ List.mem_cons_self
    have hrest := ih (fun field outcome hmem => hget field outcome (List.mem_cons_of_mem _ hmem))
      hrestFields
    rw [fieldsAreComplete, known, hhead, hrest, Bool.and_true]
    exact hfield earlier outcome first hhead

/-- The fields of an output that is accepted as it is are complete. -/
theorem fieldsAreComplete_of_same
    (h : FieldOutcomes policy (outputOf fields 0 outcomes) fields 0 [] outcomes)
    (hnames : fieldsHaveNames fields = true) (hdistinct : (fieldTexts fields).Nodup)
    (hfields : ∀ field ∈ fields, ∀ w, Accepts policy field.2 w w → field.2.isComplete w = true) :
    fieldsAreComplete fields (outputOf fields 0 outcomes) 0 [] = true := by
  have hget := getText?_outputOf (text_ne_of_fieldsHaveNames hnames) hdistinct 0 outcomes
  refine fieldsAreComplete_of_outcomes h hget fun field hfield earlier outcome h hsame => ?_
  rw [hsame] at h
  cases outcome with
  | none => exact h.staysOut rfl
  | some w =>
    obtain ⟨v, hsupplied | ⟨habsent, -⟩, haccepts⟩ := h.exists_supplied
    · obtain rfl := Option.some.inj hsupplied
      exact hfields field hfield w haccepts
    · contradiction

/-- **What is accepted as it is is complete**, by induction on the rule. -/
theorem isComplete_of_accepts (hrule : rule.IsWellFormed) (hnames : rule.hasNames = true)
    {w : Value} (h : Accepts policy rule w w) : rule.isComplete w = true := by
  induction hrule generalizing w with
  | leaf => rfl
  | array hfacts hitem ih =>
    obtain ⟨items, parts, hitems, rfl, hparts, -⟩ := h.array
    obtain rfl := Option.some.inj hitems
    exact List.all_eq_true.mpr fun part hpart =>
      ih hnames (List.forall₂_same.mp hparts part hpart)
  | object hfacts hdistinct hfields ih =>
    obtain ⟨input, outcomes, rfl, hsame, houtcomes⟩ := h.object hnames hdistinct
    obtain rfl := Value.map.inj hsame
    exact fieldsAreComplete_of_same houtcomes hnames hdistinct fun field hfield w haccepts =>
      ih field hfield (hasNames_of_fieldsHaveNames hnames field hfield) haccepts

end Rule

/-! ## Values without marks -/

namespace Value

mutual

/-- Whether the mark of a field without a value occurs nowhere in a value. -/
def isMarkFree : Value → Bool
  | .list items => areMarkFree items
  | .tuple items => areMarkFree items
  | .deque items => areMarkFree items
  | .set items => areMarkFree items
  | .map entries => entriesAreMarkFree entries
  | .spec _ modifiers => entriesAreMarkFree modifiers
  | v => !v.isMark

/-- Whether this holds of all items. -/
def areMarkFree : List Value → Bool
  | [] => true
  | v :: rest => isMarkFree v && areMarkFree rest

/-- Whether this holds of all keys and values. -/
def entriesAreMarkFree : List (Value × Value) → Bool
  | [] => true
  | (key, v) :: rest => isMarkFree key && isMarkFree v && entriesAreMarkFree rest

end

theorem areMarkFree_iff {items : List Value} :
    areMarkFree items = true ↔ ∀ v ∈ items, v.isMarkFree = true := by
  induction items with
  | nil => simp [areMarkFree]
  | cons v rest ih => rw [areMarkFree, Bool.and_eq_true, ih, List.forall_mem_cons]

theorem entriesAreMarkFree_iff {entries : List (Value × Value)} :
    entriesAreMarkFree entries = true ↔
      ∀ entry ∈ entries, entry.1.isMarkFree = true ∧ entry.2.isMarkFree = true := by
  induction entries with
  | nil => simp [entriesAreMarkFree]
  | cons entry rest ih =>
    rw [entriesAreMarkFree, Bool.and_eq_true, Bool.and_eq_true, ih, List.forall_mem_cons]

theorem isMark_of_isMarkFree {v : Value} (h : v.isMarkFree = true) : v.isMark = false := by
  cases v <;> first | rfl | simpa [isMarkFree] using h

/-- The items of a value without marks have none. -/
theorem isMarkFree_of_listItems? {v : Value} {items : List Value} (h : v.isMarkFree = true)
    (hitems : v.listItems? = some items) : ∀ item ∈ items, item.isMarkFree = true := by
  cases v with
  | list => exact Option.some.inj hitems ▸ areMarkFree_iff.mp h
  | tuple => exact Option.some.inj hitems ▸ areMarkFree_iff.mp h
  | deque => exact Option.some.inj hitems ▸ areMarkFree_iff.mp h
  | set => exact Option.some.inj hitems ▸ areMarkFree_iff.mp h
  | spec type modifiers =>
    obtain rfl := Option.some.inj hitems
    intro item hitem
    obtain ⟨entry, hentry, rfl⟩ := List.mem_map.mp hitem
    obtain ⟨hkey, hv⟩ := entriesAreMarkFree_iff.mp h entry hentry
    exact areMarkFree_iff.mpr (List.forall_mem_cons.mpr ⟨hkey, List.forall_mem_singleton.mpr hv⟩)
  | typeName t =>
    cases t <;> first | contradiction | (obtain rfl := Option.some.inj hitems; decide)
  | other label =>
    simp only [listItems?, items?] at hitems
    split at hitems
    · obtain rfl := Option.some.inj hitems
      decide
    · contradiction
  | _ => contradiction

/-- What an input without marks gives for a field has none. -/
theorem isMarkFree_of_getText? {entries : Entries} {name : String} {v : Value}
    (h : entriesAreMarkFree entries = true) (hget : entries.getText? name = some v) :
    v.isMarkFree = true := by
  induction entries with
  | nil => contradiction
  | cons entry rest ih =>
    obtain ⟨⟨-, hentry⟩, hrest⟩ :=
      List.forall_mem_cons.mp (entriesAreMarkFree_iff.mp h)
    unfold Entries.getText? at hget
    split at hget
    · rw [← Option.some.inj hget]
      exact hentry
    · exact ih (entriesAreMarkFree_iff.mpr hrest) hget

/-- Whether a default makes values without marks: it is no function from outside and does not ask
for the fields before it, and no mark occurs in it or in its parameters. -/
def isPlainDefault (default : Value) : Bool :=
  match default with
  | .function _ _ (.outside _ _) _ => false
  | .function _ _ _ parameters => !Rule.asksEarlierFields default && areMarkFree parameters
  | default => default.isMarkFree

theorem isPlainDefault_function {identity : Nat} {isShared : Bool} {kind : FunctionKind}
    {parameters : List Value}
    (h : (function identity isShared kind parameters).isPlainDefault = true) :
    (∀ name asks, kind ≠ .outside name asks) ∧
      Rule.asksEarlierFields (function identity isShared kind parameters) = false ∧
      areMarkFree parameters = true := by
  cases kind <;> simp_all [isPlainDefault]

/-- What such a default makes has no marks. -/
theorem isMarkFree_of_makes {default made : Value} {earlier : Entries}
    (hplain : default.isPlainDefault = true) (h : default.Makes earlier made) :
    made.isMarkFree = true := by
  cases default with
  | function identity isShared kind parameters =>
    obtain ⟨hkind, hasks, hfree⟩ := isPlainDefault_function hplain
    obtain ⟨history, left, h⟩ := h
    rw [make, hasks, if_neg Bool.false_ne_true] at h
    obtain ⟨name, asks, houtside, -⟩ | happly := answer_function_eq_ok (Prod.mk.inj h).1
    · exact absurd houtside (hkind name asks)
    rcases apply_nil_eq_ok happly with ⟨-, rest, rfl⟩ | ⟨-, n, rfl⟩ | ⟨-, tag, rest, rfl, rfl⟩
    · exact areMarkFree_iff.mp hfree made List.mem_cons_self
    · rfl
    · exact areMarkFree_iff.mpr (List.forall_mem_singleton.mpr
        (areMarkFree_iff.mp hfree tag List.mem_cons_self))
  | typeName t =>
    obtain ⟨history, left, h⟩ := h
    have hmade : t.emptyValue?.elim (.error Raised.wrongType) .ok = Except.ok made :=
      (Prod.mk.inj h).1
    cases t <;> first | contradiction | (obtain rfl := Except.ok.inj hmade; rfl)
  | formatCheck check =>
    obtain ⟨history, left, h⟩ := h
    cases (Prod.mk.inj h).1
  | _ =>
    rw [← Checking.gives_value_iff.mp h]
    exact hplain

end Value

namespace Rule

/-! ## Outputs without marks -/

mutual

/-- Whether the defaults of all fields make values without marks. -/
def hasPlainDefaults : Rule → Bool
  | .leaf _ _ => true
  | .array _ item => hasPlainDefaults item
  | .object _ fields => fieldsHavePlainDefaults fields

/-- Whether the defaults of fields, and of the fields inside them, make values without marks. -/
def fieldsHavePlainDefaults : List (TextValue × Rule) → Bool
  | [] => true
  | (_, rule) :: rest =>
    rule.facts.default?.all Value.isPlainDefault && hasPlainDefaults rule &&
      fieldsHavePlainDefaults rest

end

theorem fieldsHavePlainDefaults_iff {fields : List (TextValue × Rule)} :
    fieldsHavePlainDefaults fields = true ↔
      ∀ field ∈ fields, field.2.facts.default?.all Value.isPlainDefault = true ∧
        field.2.hasPlainDefaults = true := by
  induction fields with
  | nil => simp [fieldsHavePlainDefaults]
  | cons field rest ih =>
    rw [fieldsHavePlainDefaults, Bool.and_eq_true, Bool.and_eq_true, ih, List.forall_mem_cons]

variable {policy : ObjectPolicy} {rule : Rule} {input earlier : Entries}

/-- What is supplied for a field has no marks when the input and the defaults have none. -/
theorem isMarkFree_of_supplies {name : String} {v : Value}
    (hinput : Value.entriesAreMarkFree input = true)
    (hdefault : rule.facts.default?.all Value.isPlainDefault = true)
    (h : rule.Supplies (input.getText? name) earlier v) : v.isMarkFree = true := by
  rcases h with hgiven | ⟨-, default, hsome, hmakes⟩
  · exact Value.isMarkFree_of_getText? hinput hgiven
  · rw [hsome] at hdefault
    exact Value.isMarkFree_of_makes hdefault hmakes

/-- What is made of a value without marks is not the mark. -/
theorem Accepts.ne_none_of_isMarkFree {v w : Value} (h : Accepts policy rule v w)
    (hfree : v.isMarkFree = true) : w.unlessAbsent ≠ none := by
  intro hnone
  have hmark := Value.unlessAbsent_eq_none_iff.mp hnone
  rw [h.isMark_eq, Value.isMark_of_isMarkFree hfree, Bool.and_false] at hmark
  contradiction

/-- A field without a value stays out when the input and the defaults have no marks. -/
theorem FieldOutcome.staysOut_of_isMarkFree {name : String} {outcome : Option Value}
    (h : FieldOutcome policy rule (input.getText? name) earlier outcome)
    (hinput : Value.entriesAreMarkFree input = true)
    (hdefault : rule.facts.default?.all Value.isPlainDefault = true) (hnone : outcome = none) :
    rule.staysOut earlier = true := by
  cases h with
  | given hgiven haccepts =>
    have hfree := Value.isMarkFree_of_getText? hinput hgiven
    exact absurd hnone (haccepts.ne_none_of_isMarkFree hfree)
  | made hgiven hsome hmade haccepts =>
    have hfree := isMarkFree_of_supplies hinput hdefault (.inr ⟨hgiven, _, hsome, hmade⟩)
    exact absurd hnone (haccepts.ne_none_of_isMarkFree hfree)
  | leftOut hgiven hsome hoptional =>
    rw [Rule.staysOut, hsome]
    exact hoptional

/-- The fields of an output are complete when the input and the defaults have no marks. -/
theorem fieldsAreComplete_of_isMarkFree {fields : List (TextValue × Rule)}
    {outcomes : List (Option Value)} (h : FieldOutcomes policy input fields 0 [] outcomes)
    (hnames : fieldsHaveNames fields = true) (hdistinct : (fieldTexts fields).Nodup)
    (hinput : Value.entriesAreMarkFree input = true)
    (hdefaults : fieldsHavePlainDefaults fields = true)
    (hfields : ∀ field ∈ fields, ∀ v w, v.isMarkFree = true → Accepts policy field.2 v w →
      field.2.isComplete w = true) :
    fieldsAreComplete fields (outputOf fields 0 outcomes) 0 [] = true := by
  have hget := getText?_outputOf (text_ne_of_fieldsHaveNames hnames) hdistinct 0 outcomes
  refine fieldsAreComplete_of_outcomes h hget fun field hfield earlier outcome h _ => ?_
  have hdefault := (fieldsHavePlainDefaults_iff.mp hdefaults field hfield).1
  cases outcome with
  | none => exact h.staysOut_of_isMarkFree hinput hdefault rfl
  | some w =>
    obtain ⟨v, hsupplies, haccepts⟩ := h.exists_supplied
    exact hfields field hfield v w (isMarkFree_of_supplies hinput hdefault hsupplies) haccepts

/-- **Outputs without marks** are complete, by induction on the rule: the input and the defaults
have none. -/
theorem isComplete_of_isMarkFree (hrule : rule.IsWellFormed) (hnames : rule.hasNames = true)
    (hdefaults : rule.hasPlainDefaults = true) {v w : Value} (hfree : v.isMarkFree = true)
    (h : Accepts policy rule v w) : rule.isComplete w = true := by
  induction hrule generalizing v w with
  | leaf => rfl
  | array hfacts hitem ih =>
    obtain ⟨items, parts, hitems, rfl, hparts, -⟩ := h.array
    refine List.all_eq_true.mpr fun part hpart => ?_
    obtain ⟨v, hv, haccepts⟩ := exists_of_mem_forall₂ hparts.flip part hpart
    exact ih hnames hdefaults (Value.isMarkFree_of_listItems? hfree hitems v hv) haccepts
  | object hfacts hdistinct hfields ih =>
    obtain ⟨input, outcomes, rfl, rfl, houtcomes⟩ := h.object hnames hdistinct
    refine fieldsAreComplete_of_isMarkFree houtcomes hnames hdistinct hfree hdefaults
      fun field hfield v w hv haccepts => ?_
    exact ih field hfield (hasNames_of_fieldsHaveNames hnames field hfield)
      (fieldsHavePlainDefaults_iff.mp hdefaults field hfield).2 hv haccepts

end Rule

namespace ValidationSchema

variable {schema : ValidationSchema} {facts : RuleFacts} {fields : List (TextValue × Rule)}
  {input : Entries} {outcomes : List (Option Value)}

/-- A complete output is given out again after every history of calls. -/
theorem parse_outputOf (hrule : schema.rule = .object facts fields)
    (hpartial : schema.isPartial = false) (hnames : Rule.fieldsHaveNames fields = true)
    (hdistinct : (Rule.fieldTexts fields).Nodup) (hwell : ∀ field ∈ fields, field.2.IsWellFormed)
    (h : Rule.FieldOutcomes schema.policy input fields 0 [] outcomes)
    (hcomplete : Rule.fieldsAreComplete fields (Rule.outputOf fields 0 outcomes) 0 [] = true)
    (again : CallHistory) :
    (schema.parse (.map (Rule.outputOf fields 0 outcomes)) again).1.result =
      .ok (Rule.outputOf fields 0 outcomes) := by
  have hall := Rule.always_checkFields h hnames hdistinct hcomplete hwell
    (fun field hfield v w haccepts => Rule.always_of_accepts (hwell field hfield)
      (Rule.hasNames_of_fieldsHaveNames hnames field hfield) haccepts) "" 0
  have hchecked : (schema.check (.map (Rule.outputOf fields 0 outcomes))).Always
      (.accepted (Rule.outputOf fields 0 outcomes)) := by
    rw [check, Rule.checkObject, hrule, hpartial]
    refine hall.andThen ?_
    show (Checking.value ((Verdict.withFindings (Rule.strangeKeys schema.policy
      (Rule.fieldTexts fields) (Rule.outputOf fields 0 outcomes)) _).map _)).Always _
    rw [Rule.strangeKeys_outputOf schema.policy hnames hdistinct]
    show (Checking.value (Verdict.accepted
      (Entries.ofPairs (Rule.outputOf fields 0 outcomes)))).Always _
    rw [Rule.ofPairs_outputOf hnames hdistinct]
    exact Checking.always_value _
  obtain ⟨left, hleft⟩ := hchecked again
  rw [parse, hleft]
  rfl

/-- The fields of an output that is given out again are complete. -/
theorem fieldsAreComplete_of_parse (hrule : schema.rule = .object facts fields)
    (hpartial : schema.isPartial = false) (hnames : Rule.fieldsHaveNames fields = true)
    (hdistinct : (Rule.fieldTexts fields).Nodup) (hwell : ∀ field ∈ fields, field.2.IsWellFormed)
    {document : Entries} {again : CallHistory}
    (h : (schema.parse (.map document) again).1.result = .ok document) :
    Rule.fieldsAreComplete fields document 0 [] = true := by
  obtain ⟨input, outcomes, hdata, hsame, houtcomes⟩ :=
    outcomes_of_parse hrule hpartial hnames hdistinct h
  obtain rfl := Value.map.inj hdata
  obtain rfl := hsame
  exact Rule.fieldsAreComplete_of_same houtcomes hnames hdistinct fun field hfield w haccepts =>
    Rule.isComplete_of_accepts (hwell field hfield)
      (Rule.hasNames_of_fieldsHaveNames hnames field hfield) haccepts

/-- **Parsing an output again**: what a schema gave out it gives out again, after every history of
calls, exactly when it is complete.  It is complete when the input and the defaults have no
marks. -/
theorem parse_parse_iff {definition : Value} (hkeys : definition.IsWellKeyed)
    {options : ValidationOptions} {schema : ValidationSchema}
    (hschema : (ofDefinition options definition).result = .ok schema)
    (hnames : schema.rule.hasNames = true) {data : Value} {history : CallHistory}
    {document : Entries} (hparse : (schema.parse data history).1.result = .ok document) :
    (∀ again, (schema.parse (.map document) again).1.result = .ok document ↔
        schema.rule.isComplete (.map document) = true) ∧
      (data.isMarkFree = true → schema.rule.hasPlainDefaults = true →
        schema.rule.isComplete (.map document) = true) := by
  obtain ⟨forms, fields, hread, hrule, hdeclared, hwell, hpartial⟩ :=
    exists_fields_of_ofDefinition hschema hkeys
  rw [hrule] at hwell hnames ⊢
  cases hwell with
  | object hfacts hdistinct hfields =>
    obtain ⟨input, outcomes, rfl, rfl, houtcomes⟩ :=
      outcomes_of_parse hrule hpartial hnames hdistinct hparse
    refine ⟨fun again => ?_, fun hfree hplain => ?_⟩
    · exact ⟨fieldsAreComplete_of_parse hrule hpartial hnames hdistinct hfields,
        fun hcomplete => parse_outputOf hrule hpartial hnames hdistinct hfields houtcomes
          hcomplete again⟩
    · exact Rule.fieldsAreComplete_of_isMarkFree houtcomes hnames hdistinct hfree hplain
        fun field hfield v w hv haccepts => Rule.isComplete_of_isMarkFree (hfields field hfield)
          (Rule.hasNames_of_fieldsHaveNames hnames field hfield)
          (Rule.fieldsHavePlainDefaults_iff.mp hplain field hfield).2 hv haccepts

/-- What describes the items of a list: objects with a value of any kind. -/
def wrappedItem : FieldSpec :=
  ⟨.canonical .object,
    [(.text "schema", .map [(.text "field_0", .map [(.text "type", .canonical .mixed)])])]⟩

/-- The rule of such objects. -/
def wrappedRule : Rule := .ofFields [(.plain "field_0", .leaf {} .any)]

/-- A default that makes a list of an object and of the fields before. -/
def wrapper : Value := .function 0 false .wrap [.map [(.text "field_0", .int 1)]]

/-- A text that may be left out, and a list that is made of it. -/
def wrapping : Value :=
  .map [(.text "a", .map [(.text "type", .canonical .string), (.text "required", .bool false)]),
    (.text "c", .map [(.text "type", .canonical .array),
      (.text "items", .map [(.text "type", .canonical .object),
        (.text "schema", .map [(.text "field_0", .map [(.text "type", .canonical .mixed)])])]),
      (.text "default", wrapper)])]

/-- The validation schema of the definition. -/
def wrappingSchema : ValidationSchema where
  rule := .ofFields [(.plain "a", .leaf { isOptional := true } .string),
    (.plain "c", .array { isOptional := true, default? := some wrapper } wrappedRule)]

theorem ofItemSpec_wrappedItem :
    (Rule.ofItemSpec .none (.plain "c") wrappedItem).result = .ok (some wrappedRule) := by
  have hparts : (Rule.ofParts .none
      [(.plain "field_0", .single ⟨.canonical .mixed, []⟩)]).result = .ok wrappedRule := by
    rw [Rule.ofParts, Rule.ofForms, Rule.ofForms, Rule.ofForm]
    unfold Rule.ofType
    rfl
  rw [Rule.ofItemSpec]
  refine Logged.result_andThen_eq_ok_iff.mpr ⟨wrappedRule, ?_, rfl⟩
  unfold Rule.ofType
  exact hparts

theorem ofDefinition_wrapping : (ofDefinition {} wrapping).result = .ok wrappingSchema := by
  let items : Value := .map [(.text "type", .canonical .object),
    (.text "schema", .map [(.text "field_0", .map [(.text "type", .canonical .mixed)])])]
  have htext : (Rule.ofForm .none (.plain "a")
      (.single ⟨.canonical .string, [(.text "required", .bool false)]⟩)).result =
        .ok (.leaf { isOptional := true } .string) := by
    rw [Rule.ofForm]
    unfold Rule.ofType
    rfl
  have hlist : (Rule.ofForm .none (.plain "c")
      (.single ⟨.canonical .array, [(.text "items", items), (.text "default", wrapper)]⟩)).result =
        .ok (.array { isOptional := true, default? := some wrapper } wrappedRule) := by
    rw [Rule.ofForm]
    refine Logged.result_andThen_eq_ok_iff.mpr ⟨.array, rfl,
      Logged.result_andThen_eq_ok_iff.mpr ⟨.array {} wrappedRule, ?_, rfl⟩⟩
    unfold Rule.ofType
    exact Logged.result_andThen_eq_ok_iff.mpr ⟨_, ofItemSpec_wrappedItem, rfl⟩
  refine Logged.result_andThen_eq_ok_iff.mpr ⟨wrappingSchema.rule,
    Logged.result_andThen_eq_ok_iff.mpr ⟨_, rfl, ?_⟩, rfl⟩
  rw [Rule.ofParts, Rule.ofForms, Rule.ofForms, Rule.ofForms]
  exact Logged.result_andThen_eq_ok_iff.mpr ⟨_, Logged.result_andThen_eq_ok_iff.mpr
    ⟨_, htext, Logged.result_andThen_eq_ok_iff.mpr
      ⟨_, Logged.result_andThen_eq_ok_iff.mpr ⟨_, hlist, rfl⟩, rfl⟩⟩, rfl⟩

/-- What is given out without marks is given out again.  A list that is made of the fields before
holds the mark of a text that is left out, and the object with the mark lacks a field when the list
is checked again. -/
theorem parse_parse_iff_placed_wrapping :
    let wrapped : Entries := [(.text "c", .list [.map [(.text "field_0", .int 1)], .map []])]
    (placed.IsWellKeyed ∧ (ofDefinition {} placed).result = .ok placedSchema ∧
      placedSchema.rule.hasNames = true ∧
      (placedSchema.parse placedData .empty).1.result = .ok placedDocument ∧
      placedData.isMarkFree = true ∧ placedSchema.rule.hasPlainDefaults = true ∧
      (placedSchema.parse (.map placedDocument) .empty).1.result = .ok placedDocument) ∧
    wrapping.IsWellKeyed ∧ (ofDefinition {} wrapping).result = .ok wrappingSchema ∧
      wrappingSchema.rule.hasNames = true ∧
      (wrappingSchema.parse (.map []) .empty).1.result = .ok wrapped ∧
      (wrappingSchema.parse (.map wrapped) .empty).1.result ≠ .ok wrapped := by
  intro wrapped
  constructor
  · have hnames : placedSchema.rule.hasNames = true := by decide
    have hfree : placedData.isMarkFree = true := by decide
    have hplain : placedSchema.rule.hasPlainDefaults = true := by decide
    obtain ⟨hagain, hcomplete⟩ :=
      parse_parse_iff isWellKeyed_placed ofDefinition_placed hnames parse_placed
    exact ⟨isWellKeyed_placed, ofDefinition_placed, hnames, parse_placed, hfree, hplain,
      (hagain .empty).mpr (hcomplete hfree hplain)⟩
  · have hkeys : wrapping.IsWellKeyed := by
      simp [wrapping, wrapper, Value.IsWellKeyed, Value.EntriesAreWellKeyed,
        Entries.HasDistinctKeys, Value.equals, Value.asText?]
    have hnames : wrappingSchema.rule.hasNames = true := by decide
    have hparse : (wrappingSchema.parse (.map []) .empty).1.result = .ok wrapped := by
      with_unfolding_all rfl
    refine ⟨hkeys, ofDefinition_wrapping, hnames, hparse, fun hsame => ?_⟩
    have hcomplete :=
      ((parse_parse_iff hkeys ofDefinition_wrapping hnames hparse).1 .empty).mp hsame
    exact absurd hcomplete (by decide)

end ValidationSchema

end FieldSchema
