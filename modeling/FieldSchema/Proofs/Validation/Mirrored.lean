import FieldSchema.Proofs.Rule.WellFormed
import FieldSchema.Proofs.Validation.FindingKinds
import FieldSchema.Proofs.Validation.Runs

/-!
# Checks that run alike

Two runs of a rule on one value may differ in three ways: in the calls that were made before them,
in the name of the schema, and in the place of the rule, from which objects take the names of their
models.  Little comes of it.

1. The calls before matter only when a default of the rule heeds them.  If what these defaults
   answer depends on the calls of some functions only, and the same calls of these were made, then
   both runs give the same verdict, and the same calls of these functions have been made after them.
2. The name and the place matter only for the words that say that a value is no object, as they
   name the model that was expected.

Both are shown by one induction on the rule.  It relates the runs of two checks (`Checking.Mirrors`)
by the functions whose calls are heeded (`RunPair`) and by a relation between findings.  The
relation may be sameness (`Finding.SameNamed`), for one place, or sameness up to models
(`Finding.SameUpToModel`), for any two places.

* `Rule.innerDefaults`: the defaults that a check of a value may make.
* `Rule.mirrors_check`: runs of a rule at two places after two histories.
-/

namespace FieldSchema

/-! ## Histories that agree -/

/-- Two runs to compare: what functions from outside answer in each of them, and which functions
are heeded. -/
structure RunPair where
  first : Outside
  second : Outside
  heeds : Nat → Prop

namespace RunPair

variable {pair : RunPair} {history history' : CallHistory} {calls calls' : List FunctionCall}

open Classical in
/-- The calls that are heeded. -/
noncomputable def heeded (pair : RunPair) (calls : List FunctionCall) : List FunctionCall :=
  calls.filter fun call => pair.heeds call.identity

/-- Two histories agree when the same calls were made of the functions that are heeded. -/
structure Relates (pair : RunPair) (history history' : CallHistory) : Prop where
  first : history.outside = pair.first
  second : history'.outside = pair.second
  calls : pair.heeded history.calls = pair.heeded history'.calls

/-- What a value answers when it is called depends on the calls that are heeded, and is the same in
both runs. -/
def Settles (pair : RunPair) (f : Value) : Prop :=
  ∀ calls calls', pair.heeded calls = pair.heeded calls' →
    ∀ arguments, f.answer pair.first calls arguments = f.answer pair.second calls' arguments

theorem heeded_cons_of_heeds {call : FunctionCall} (h : pair.heeds call.identity) :
    pair.heeded (call :: calls) = call :: pair.heeded calls :=
  List.filter_cons_of_pos (by simpa using h)

theorem heeded_cons_of_not_heeds {call : FunctionCall} (h : ¬pair.heeds call.identity) :
    pair.heeded (call :: calls) = pair.heeded calls :=
  List.filter_cons_of_neg (by simpa using h)

/-- Calls that agree have as many calls of a function that is heeded. -/
theorem callCount_eq (h : pair.heeded calls = pair.heeded calls') {k : Nat} (hk : pair.heeds k) :
    Value.callCount calls k = Value.callCount calls' k := by
  have hkept : ∀ calls, Value.callCount (pair.heeded calls) k = Value.callCount calls k := by
    intro calls
    rw [Value.callCount, heeded, List.countP_filter]
    refine List.countP_congr fun call _ => ?_
    simp only [Bool.and_eq_true, beq_iff_eq, decide_eq_true_eq, and_iff_left_iff_imp]
    rintro rfl
    exact hk
  rw [← hkept calls, h, hkept]

/-- The same call keeps histories related. -/
theorem Relates.recordedIn (h : pair.Relates history history') (f : Value)
    (arguments : List Value) :
    pair.Relates (f.recordedIn history arguments) (f.recordedIn history' arguments) := by
  cases f with
  | function identity isShared kind parameters =>
    refine ⟨h.first, h.second, ?_⟩
    show pair.heeded (_ :: _) = pair.heeded (_ :: _)
    by_cases hcalled : pair.heeds identity
    · rw [heeded_cons_of_heeds hcalled, heeded_cons_of_heeds hcalled, h.calls]
    · rw [heeded_cons_of_not_heeds hcalled, heeded_cons_of_not_heeds hcalled, h.calls]
  | _ => exact h

/-- Two runs after one history, in which every call is heeded. -/
def same (outside : Outside) : RunPair := ⟨outside, outside, fun _ => True⟩

open Classical in
theorem heeded_same (outside : Outside) (calls : List FunctionCall) :
    (same outside).heeded calls = calls :=
  List.filter_eq_self.mpr fun _ _ => decide_eq_true trivial

theorem relates_same_iff {outside : Outside} :
    (same outside).Relates history history' ↔ history.outside = outside ∧ history = history' := by
  constructor
  · rintro ⟨hfirst, hsecond, hcalls⟩
    rw [heeded_same, heeded_same] at hcalls
    rcases history with ⟨calls, outside⟩
    rcases history' with ⟨calls', outside'⟩
    obtain rfl : calls = calls' := hcalls
    obtain rfl : outside = outside' := hfirst.trans hsecond.symm
    exact ⟨hfirst, rfl⟩
  · rintro ⟨rfl, rfl⟩
    exact ⟨rfl, rfl, rfl⟩

theorem settles_same (outside : Outside) (f : Value) : (same outside).Settles f := by
  intro calls calls' hcalls arguments
  rw [heeded_same, heeded_same] at hcalls
  rw [hcalls]
  rfl

end RunPair

/-! ## Verdicts and findings -/

/-- Verdicts that accept the same, or reject for findings that are related one by one; there is at
least one. -/
inductive Verdict.Like {α : Type} (R : Finding → Finding → Prop) : Verdict α → Verdict α → Prop
  | accepted (a : α) : Like R (.accepted a) (.accepted a)
  | rejected {list list' : List Finding} (hsome : list ≠ []) (h : List.Forall₂ R list list') :
    Like R (.rejected list) (.rejected list')

namespace Finding

/-- A failure that is reported with the name at the end of its path has a name there. -/
def IsNamed (finding : Finding) : Prop :=
  finding.isMissing = true ∨ finding.isExtra = true →
    ∃ name, finding.path.getLast? = some (.field name)

/-- The same finding, up to the model that the words name when a value is no object. -/
inductive SameUpToModel : Finding → Finding → Prop
  | same {finding : Finding} (h : finding.IsNamed) : SameUpToModel finding finding
  | noObject (path : Path) (model model' : String) (v : Value) :
    SameUpToModel { Rule.notAnObject model v with path } { Rule.notAnObject model' v with path }

/-- A relation between findings that is kept by the steps of a check. -/
structure IsKept (R : Finding → Finding → Prop) : Prop where
  same : ∀ {finding : Finding}, finding.IsNamed → R finding finding
  under : ∀ {first second : Finding} (segment : PathSegment), R first second →
    R (first.under segment) (second.under segment)

theorem IsNamed.under {finding : Finding} (h : finding.IsNamed) (segment : PathSegment) :
    (finding.under segment).IsNamed := by
  intro hkind
  obtain ⟨name, hname⟩ := h hkind
  refine ⟨name, ?_⟩
  show (segment :: finding.path).getLast? = some (.field name)
  rw [List.getLast?_cons, hname, Option.getD_some]

/-- The same finding, which has a name if it goes by one. -/
def SameNamed (first second : Finding) : Prop := first = second ∧ first.IsNamed

theorem isKept_sameNamed : IsKept SameNamed where
  same h := ⟨rfl, h⟩
  under segment h := ⟨congrArg (Finding.under segment) h.1, h.2.under segment⟩

theorem isKept_sameUpToModel : IsKept SameUpToModel where
  same h := .same h
  under segment h := by
    cases h with
    | same h => exact .same (h.under segment)
    | noObject path model model' v => exact .noObject (segment :: path) model model' v

/-- Findings of other kinds than those that go by a name. -/
theorem IsNamed.of_kind_ne {finding : Finding}
    (h : finding.kind.text ≠ "missing" ∧ finding.kind.text ≠ "extra_forbidden") :
    finding.IsNamed := by
  rintro (hmissing | hextra)
  · exact absurd (beq_iff_eq.mp hmissing) h.1
  · exact absurd (beq_iff_eq.mp hextra) h.2

theorem IsNamed.of_kind {finding : Finding} (kind : String) (h : finding.kind = kind)
    (hkind : kind ≠ "missing" ∧ kind ≠ "extra_forbidden") : finding.IsNamed :=
  .of_kind_ne (by rw [h]; exact hkind)

end Finding

namespace Verdict

variable {α β γ : Type} {R : Finding → Finding → Prop} {verdict verdict' : Verdict α}

theorem Like.map (h : Like R verdict verdict') (f : α → β) :
    Like R (verdict.map f) (verdict'.map f) := by
  cases h with
  | accepted a => exact .accepted (f a)
  | rejected hsome h => exact .rejected hsome h

theorem Like.under (hR : Finding.IsKept R) (h : Like R verdict verdict') (segment : PathSegment) :
    Like R (verdict.under segment) (verdict'.under segment) := by
  cases h with
  | accepted a => exact .accepted a
  | rejected hsome h =>
    refine .rejected (fun hnil => hsome (List.map_eq_nil_iff.mp hnil)) ?_
    rw [List.forall₂_map_left_iff, List.forall₂_map_right_iff]
    exact h.imp fun _ _ hfinding => hR.under segment hfinding

theorem Like.both {other other' : Verdict β} (h : Like R verdict verdict')
    (hother : Like R other other') (f : α → β → γ) :
    Like R (verdict.both f other) (verdict'.both f other') := by
  cases h with
  | accepted a =>
    cases hother with
    | accepted b => exact .accepted (f a b)
    | rejected hsome hmore => exact .rejected hsome hmore
  | rejected hsome h =>
    cases hother with
    | accepted b => exact .rejected hsome h
    | rejected _ hmore =>
      exact .rejected (List.append_ne_nil_of_left_ne_nil hsome _) (List.rel_append h hmore)

/-- Findings that are added after those of related verdicts. -/
theorem Like.withFindings (h : Like R verdict verdict') {more : List Finding}
    (hmore : List.Forall₂ R more more) :
    Like R (verdict.withFindings more) (verdict'.withFindings more) := by
  cases more with
  | nil => exact h
  | cons finding rest =>
    have hsome : verdict.findings ++ finding :: rest ≠ [] :=
      List.append_ne_nil_of_right_ne_nil _ (List.cons_ne_nil _ _)
    cases h with
    | accepted a => exact .rejected hsome hmore
    | rejected _ h => exact .rejected hsome (List.rel_append h hmore)

/-- A verdict that can be reported: a rejection has findings, and those that go by a name have
one. -/
def IsReported (verdict : Verdict α) : Prop := Like Finding.SameNamed verdict verdict

theorem isReported_accepted (a : α) : IsReported (.accepted a) := Like.accepted a

theorem isReported_rejected {finding : Finding} (h : finding.IsNamed) :
    IsReported (.rejected [finding] : Verdict α) :=
  Like.rejected (List.cons_ne_nil _ _) (.cons ⟨rfl, h⟩ .nil)

/-- A verdict that can be reported is like itself. -/
theorem IsReported.like (hR : Finding.IsKept R) (h : verdict.IsReported) :
    Like R verdict verdict := by
  cases verdict with
  | accepted a => exact .accepted a
  | rejected list =>
    cases h with
    | rejected hsome h => exact .rejected hsome (h.imp fun _ _ ⟨hsame, hnamed⟩ =>
        hsame ▸ hR.same hnamed)

end Verdict

/-! ## Runs that are alike -/

namespace Checking

variable {α β : Type} {pair : RunPair}

/-- Two checks end in related results, or stop for the same cause. -/
inductive Ends (S : α → α → Prop) : Except Raised α → Except Raised α → Prop
  | ok {a a' : α} (h : S a a') : Ends S (.ok a) (.ok a')
  | stopped (cause : Raised) : Ends S (.error cause) (.error cause)

/-- Two checks run alike: after histories that agree they end alike, and leave histories that
agree. -/
def Mirrors (pair : RunPair) (S : α → α → Prop) (first second : Checking α) : Prop :=
  ∀ history history', pair.Relates history history' →
    Ends S (first history).1 (second history').1 ∧
      pair.Relates (first history).2 (second history').2

theorem mirrors_value {S : α → α → Prop} {a a' : α} (h : S a a') :
    Mirrors pair S (value a) (value a') :=
  fun _ _ hagree => ⟨.ok h, hagree⟩

theorem mirrors_ofExcept {S : α → α → Prop} {result result' : Except Raised α}
    (h : Ends S result result') : Mirrors pair S (ofExcept result) (ofExcept result') :=
  fun _ _ hagree => ⟨h, hagree⟩

theorem Mirrors.andThen {S : α → α → Prop} {T : β → β → Prop} {first second : Checking α}
    {next next' : α → Checking β} (h : Mirrors pair S first second)
    (hnext : ∀ a a', S a a' → Mirrors pair T (next a) (next' a')) :
    Mirrors pair T (first.andThen next) (second.andThen next') := by
  intro history history' hagree
  have hfirst := h history history' hagree
  unfold Checking.andThen
  revert hfirst
  rcases first history with ⟨result, between⟩
  rcases second history' with ⟨result', between'⟩
  rintro ⟨hends, hbetween⟩
  cases hends with
  | ok hresult => exact hnext _ _ hresult between between' hbetween
  | stopped cause => exact ⟨.stopped cause, hbetween⟩

/-- What one of two checks that run alike accepts, the other one accepts. -/
theorem Mirrors.accepted {R : Finding → Finding → Prop} {first second : Checking (Verdict α)}
    (h : Mirrors pair (Verdict.Like R) first second) {history history' left : CallHistory} {a : α}
    (hagree : pair.Relates history history')
    (hfirst : first history = (.ok (.accepted a), left)) :
    ∃ left', second history' = (.ok (.accepted a), left') ∧ pair.Relates left left' := by
  obtain ⟨hends, hleft⟩ := h history history' hagree
  rw [hfirst] at hends hleft
  rcases hsecond : second history' with ⟨result, left'⟩
  rw [hsecond] at hends hleft
  cases hends with
  | ok hlike =>
    cases hlike
    exact ⟨left', rfl, hleft⟩

/-- What the second of two checks that run alike accepts, the first one accepts. -/
theorem Mirrors.accepted_of_second {R : Finding → Finding → Prop}
    {first second : Checking (Verdict α)} (h : Mirrors pair (Verdict.Like R) first second)
    {history history' left' : CallHistory} {a : α} (hagree : pair.Relates history history')
    (hsecond : second history' = (.ok (.accepted a), left')) :
    ∃ left, first history = (.ok (.accepted a), left) ∧ pair.Relates left left' := by
  obtain ⟨hends, hleft⟩ := h history history' hagree
  rw [hsecond] at hends hleft
  rcases hfirst : first history with ⟨result, left⟩
  rw [hfirst] at hends hleft
  cases hends with
  | ok hlike =>
    cases hlike
    exact ⟨left, rfl, hleft⟩

theorem mirrors_each {R : Finding → Finding → Prop} (hR : Finding.IsKept R)
    {first second : Value → Checking (Verdict Value)}
    (h : ∀ v, Mirrors pair (Verdict.Like R) (first v) (second v)) (index : Nat)
    (items : List Value) :
    Mirrors pair (Verdict.Like R) (each first index items) (each second index items) := by
  induction items generalizing index with
  | nil => exact mirrors_value (.accepted [])
  | cons v rest ih =>
    exact (h v).andThen fun verdict verdict' hverdict =>
      (ih (index + 1)).andThen fun others others' hothers =>
        mirrors_value ((hverdict.under hR (.index index)).both hothers List.cons)

end Checking

/-! ## Defaults -/

/-- A default makes the same value in two runs when what it answers is settled. -/
theorem Value.mirrors_make {pair : RunPair} {default : Value} (h : pair.Settles default)
    (earlier : Entries) :
    Checking.Mirrors pair Eq (default.make earlier) (default.make earlier) := by
  have hself : ∀ result : Except Raised Value, Checking.Ends Eq result result := by
    intro result
    cases result with
    | ok a => exact .ok rfl
    | error cause => exact .stopped cause
  have hcall : ∀ arguments, Checking.Mirrors pair Eq (default.call arguments)
      (default.call arguments) := by
    intro arguments history history' hrelated
    refine ⟨?_, hrelated.recordedIn default arguments⟩
    rw [call, call, hrelated.first, hrelated.second, h _ _ hrelated.calls]
    exact hself _
  unfold make
  split
  · exact hcall _
  · split
    · exact hcall _
    · exact Checking.mirrors_value rfl

namespace Rule

mutual

/-- The defaults that a check of a value may make: those of the fields inside it, at every depth. -/
def innerDefaults : Rule → List Value
  | .leaf _ _ => []
  | .array _ item => innerDefaults item
  | .object _ fields => fieldDefaults fields

/-- The defaults of fields and those inside them. -/
def fieldDefaults : List (TextValue × Rule) → List Value
  | [] => []
  | (_, rule) :: rest => rule.facts.default?.toList ++ innerDefaults rule ++ fieldDefaults rest

end

end Rule

/-! ## Findings of single values -/

/-- What a kind rejects can be reported. -/
theorem RuleKind.isReported_check (kind : RuleKind) (v : Value) : (kind.check v).IsReported := by
  have hnameless : ∀ kind ∈ findingKinds, kind.text ≠ "missing" ∧
      kind.text ≠ "extra_forbidden" := by decide
  have hown := findsOwn_check kind v
  revert hown
  cases kind.check v with
  | accepted a => exact fun _ => Verdict.isReported_accepted a
  | rejected list =>
    exact fun hown => .rejected hown.1 (List.forall₂_same.mpr fun finding hfinding =>
      ⟨rfl, .of_kind_ne (hnameless _ (hown.2 finding hfinding))⟩)

namespace Refinement

/-- Bounds reject a value as too small or too big. -/
theorem constraint_of_checkBounds {measure : Measure} {least most message : Value} {size : Number}
    {rejection : Rejection}
    (h : checkBounds measure least most message size = .ok (some rejection)) :
    rejection.constraint = "too_small" ∨ rejection.constraint = "too_big" := by
  obtain ⟨lower, -, h⟩ := Logged.bind_eq_ok_iff.mp h
  split at h
  · obtain rfl := Option.some.inj (Except.ok.inj h)
    exact .inl rfl
  · obtain ⟨upper, -, h⟩ := Logged.bind_eq_ok_iff.mp h
    split at h
    · obtain rfl := Option.some.inj (Except.ok.inj h)
      exact .inr rfl
    · cases Except.ok.inj h

/-- Refinements of texts reject a text for its format or for its value. -/
theorem constraint_of_checkText {r : Refinement} {text : String} {rejection : Rejection}
    (h : r.checkText text = .ok (some rejection)) :
    rejection.constraint = "invalid_format" ∨ rejection.constraint = "invalid_value" := by
  have hanswer : ∀ {found : Except PatternFailure Bool} {given : Rejection},
      answerOf found given = .ok (some rejection) → given = rejection := by
    intro found given h
    unfold answerOf at h
    split at h
    · cases Except.ok.inj h
    · exact Option.some.inj (Except.ok.inj h)
    · contradiction
  unfold checkText at h
  split at h
  · obtain rfl := hanswer h
    exact .inl rfl
  · obtain rfl := hanswer h
    exact .inl rfl
  · have hid := Except.ok.inj h
    unfold checkObjectId at hid
    split at hid
    · obtain rfl := Option.some.inj hid
      exact .inl rfl
    · split at hid
      · obtain rfl := Option.some.inj hid
        exact .inl rfl
      · contradiction
  · have hone := Except.ok.inj h
    split at hone
    · contradiction
    · obtain rfl := Option.some.inj hone
      exact .inr rfl
  · cases Except.ok.inj h

/-- A rejection is of one of a few kinds. -/
theorem constraint_mem_of_check {r : Refinement} {v : Value} {rejection : Rejection}
    (h : r.check v = .ok (some rejection)) :
    rejection.constraint ∈
      ["invalid_type", "too_small", "too_big", "invalid_format", "invalid_value"] := by
  unfold check at h
  split at h
  · split at h
    · rcases constraint_of_checkBounds h with hconstraint | hconstraint <;> simp [hconstraint]
    · obtain rfl := Option.some.inj (Except.ok.inj h)
      exact List.mem_cons_self
  · split at h
    · rcases constraint_of_checkText h with hconstraint | hconstraint <;> simp [hconstraint]
    · obtain rfl := Option.some.inj (Except.ok.inj h)
      exact List.mem_cons_self

end Refinement

namespace Rule

/-- What refinements reject can be reported. -/
theorem isReported_checkRefinements {input v : Value} {refinements : List Refinement}
    {verdict : Verdict Value} (h : checkRefinements input refinements v = .ok verdict) :
    verdict.IsReported := by
  induction refinements generalizing v with
  | nil => exact Except.ok.inj h ▸ Verdict.isReported_accepted v
  | cons r rest ih =>
    rw [checkRefinements] at h
    split at h
    · exact ih h
    · rename_i rejection hcheck
      split at h
      · exact Except.ok.inj h ▸ Verdict.isReported_rejected (.of_kind "value_error" rfl (by decide))
      · obtain ⟨finding, hfinding, h⟩ := Logged.bind_eq_ok_iff.mp h
        obtain ⟨words, -, hmade⟩ := Logged.bind_eq_ok_iff.mp hfinding
        obtain rfl := Except.ok.inj hmade
        have hkinds : ∀ kind ∈ ["invalid_type", "too_small", "too_big", "invalid_format",
            "invalid_value"], kind ≠ "missing" ∧ kind ≠ "extra_forbidden" := by decide
        exact Except.ok.inj h ▸ Verdict.isReported_rejected
          (.of_kind rejection.constraint rfl (hkinds _ (Refinement.constraint_mem_of_check hcheck)))
    · split at h
      · exact Except.ok.inj h ▸ Verdict.isReported_rejected (.of_kind "value_error" rfl (by decide))
      · contradiction

/-- What is found for a key that no field has: the key stands in the path if it is a text. -/
theorem kind_of_mem_strangeKeys {policy : ObjectPolicy} {names : List String} {entries : Entries}
    {finding : Finding} (h : finding ∈ strangeKeys policy names entries) :
    finding.kind = "extra_forbidden" ∧ (∃ name, finding.path = [.field name]) ∨
      finding.kind = "invalid_key" := by
  unfold strangeKeys at h
  split at h
  · obtain ⟨entry, -, hstrange⟩ := List.mem_filterMap.mp h
    unfold strangeKey? at hstrange
    split at hstrange
    · rename_i name _
      split at hstrange
      · contradiction
      · obtain rfl := Option.some.inj hstrange
        exact .inl ⟨rfl, name, rfl⟩
    · obtain rfl := Option.some.inj hstrange
      exact .inr rfl
  · cases h

/-- A key that no field has is reported under its name. -/
theorem isNamed_of_mem_strangeKeys {policy : ObjectPolicy} {names : List String}
    {entries : Entries} : ∀ finding ∈ strangeKeys policy names entries, finding.IsNamed := by
  intro finding hfinding
  rcases kind_of_mem_strangeKeys hfinding with ⟨-, name, hpath⟩ | hkind
  · exact fun _ => ⟨name, by rw [hpath]; rfl⟩
  · exact .of_kind "invalid_key" hkind (by decide)

/-! ## Runs of rules -/

variable {pair : RunPair} {R : Finding → Finding → Prop} {policy policy' : ObjectPolicy}

/-- Refinements of related verdicts. -/
theorem mirrors_refineVerdict (hR : Finding.IsKept R) {verdict verdict' : Verdict Value}
    (h : Verdict.Like R verdict verdict') (input : Value) (refinements : List Refinement) :
    Checking.Mirrors pair (Verdict.Like R) (refineVerdict input refinements verdict)
      (refineVerdict input refinements verdict') := by
  cases h with
  | rejected hsome h => exact Checking.mirrors_value (.rejected hsome h)
  | accepted v =>
    refine Checking.mirrors_ofExcept ?_
    cases hresult : checkRefinements input refinements v with
    | ok verdict => exact .ok ((isReported_checkRefinements hresult).like hR)
    | error cause => exact .stopped cause

/-- Two places that findings do not tell apart: one and the same, or any two when it does not matter
which model the words name. -/
def AlikePlaces (R : Finding → Finding → Prop) (name name' path path' : String)
    (done done' : Nat) : Prop :=
  (name = name' ∧ path = path' ∧ done = done') ∨
    ∀ model model' v, R (notAnObject model v) (notAnObject model' v)

theorem AlikePlaces.upToModel (name name' path path' : String) (done done' : Nat) :
    AlikePlaces Finding.SameUpToModel name name' path path' done done' :=
  .inr fun model model' v => .noObject [] model model' v

theorem AlikePlaces.later {name name' path path' : String} {done done' : Nat}
    (h : AlikePlaces R name name' path path' done done') (count : Nat) :
    AlikePlaces R name name' path path' (done + count) (done' + count) :=
  h.imp_left fun ⟨hname, hpath, hdone⟩ => ⟨hname, hpath, hdone ▸ rfl⟩

theorem AlikePlaces.field {name name' path path' : String} {done done' : Nat}
    (h : AlikePlaces R name name' path path' done done') (field : TextValue) :
    AlikePlaces R name name' (fieldPath path field) (fieldPath path' field) done done' :=
  h.imp_left fun ⟨hname, hpath, hdone⟩ => ⟨hname, hpath ▸ rfl, hdone⟩

/-- Related verdicts on a field leave the same to know about it. -/
theorem record_eq_of_like {verdict verdict' : Verdict (Option Value)}
    (h : Verdict.Like R verdict verdict') (earlier : EarlierFields) (index : Nat)
    (isGiven : Bool) :
    earlier.record index isGiven verdict = earlier.record index isGiven verdict' := by
  cases h <;> rfl

/-- An object without refinements is checked by its fields and its keys. -/
theorem check_object_map {facts : RuleFacts} {fields : List (TextValue × Rule)} {path : String}
    {done : Nat} {entries : Entries} (h : facts.refinements = []) :
    check policy (.object facts fields) path done (.map entries) =
      (checkFields policy fields path done 0 {} entries).andThen fun verdict =>
        .value ((verdict.withFindings (strangeKeys policy (fieldTexts fields) entries)).map
          fun output => .map (Entries.ofPairs output)) := by
  rw [check, h]
  congr 1
  funext verdict
  cases verdict.withFindings (strangeKeys policy (fieldTexts fields) entries) <;> rfl

/-- What is given for a field is checked alike at two places when its rule checks it alike. -/
theorem mirrors_checkField_some (hR : Finding.IsKept R) {rule : Rule} {name : TextValue}
    {path path' : String} {done done' : Nat} {v : Value}
    (hrule : Checking.Mirrors pair (Verdict.Like R) (check policy rule (fieldPath path name) done v)
      (check policy' rule (fieldPath path' name) done' v)) (index : Nat)
    (earlier : EarlierFields) :
    Checking.Mirrors pair (Verdict.Like R)
      (checkField policy path done index earlier name rule (some v))
      (checkField policy' path' done' index earlier name rule (some v)) :=
  hrule.andThen fun _ _ hverdict => Checking.mirrors_value ((hverdict.under hR _).map _)

/-- A field is checked alike at two places when its rule is. -/
theorem mirrors_checkField (hR : Finding.IsKept R) {rule : Rule} {name : TextValue}
    {path path' : String} {done done' : Nat}
    (hrule : ∀ v, Checking.Mirrors pair (Verdict.Like R)
      (check policy rule (fieldPath path name) done v)
      (check policy' rule (fieldPath path' name) done' v))
    (hsettled : ∀ default ∈ rule.facts.default?, pair.Settles default) (index : Nat)
    (earlier : EarlierFields) (given? : Option Value) :
    Checking.Mirrors pair (Verdict.Like R)
      (checkField policy path done index earlier name rule given?)
      (checkField policy' path' done' index earlier name rule given?) := by
  cases given? with
  | some v => exact mirrors_checkField_some hR (hrule v) index earlier
  | none =>
    unfold checkField checkAbsent
    cases hdefault : rule.facts.default? with
    | none =>
      refine Checking.mirrors_value ?_
      split
      · exact .accepted none
      · exact (Verdict.isReported_rejected fun _ => ⟨name.text, rfl⟩).like hR
    | some default =>
      refine Checking.Mirrors.andThen (S := Verdict.Like R) ?_ fun verdict verdict' hverdict =>
        Checking.mirrors_value ((hverdict.under hR _).map _)
      rw [checkDefault_eq, checkDefault_eq]
      split
      · exact Checking.mirrors_value ((Verdict.isReported_rejected
          (.of_kind "default_factory_not_called" rfl (by decide))).like hR)
      · refine (Value.mirrors_make (hsettled default hdefault) _).andThen fun v v' hv => ?_
        subst hv
        exact hrule v

/-- Fields are checked alike at two places when their rules are. -/
theorem mirrors_checkFields (hR : Finding.IsKept R) {fields : List (TextValue × Rule)}
    {path path' : String} {done done' : Nat}
    (hplaces : AlikePlaces R policy.name policy'.name path path' done done')
    (hfields : ∀ field ∈ fields, (∀ default ∈ field.2.innerDefaults, pair.Settles default) →
      ∀ path path' done done',
      AlikePlaces R policy.name policy'.name path path' done done' → ∀ v,
      Checking.Mirrors pair (Verdict.Like R) (check policy field.2 path done v)
        (check policy' field.2 path' done' v))
    (hsettled : ∀ default ∈ fieldDefaults fields, pair.Settles default) (index : Nat)
    (earlier : EarlierFields) (entries : Entries) :
    Checking.Mirrors pair (Verdict.Like R)
      (checkFields policy fields path done index earlier entries)
      (checkFields policy' fields path' done' index earlier entries) := by
  induction fields generalizing done done' index earlier with
  | nil =>
    rw [checkFields, checkFields]
    exact Checking.mirrors_value (.accepted [])
  | cons field rest ih =>
    obtain ⟨name, rule⟩ := field
    obtain ⟨hrule, hrest⟩ := List.forall_mem_cons.mp hfields
    rw [fieldDefaults] at hsettled
    obtain ⟨hfield, hlater⟩ := List.forall_mem_append.mp hsettled
    obtain ⟨hdefault, hinner⟩ := List.forall_mem_append.mp hfield
    have hown : ∀ default ∈ rule.facts.default?, pair.Settles default :=
      fun default hsome => hdefault default (Option.mem_toList.mpr hsome)
    have hfirst := mirrors_checkField hR (hrule hinner _ _ _ _ (hplaces.field name)) hown index
      earlier (entries.getText? name.text)
    rw [checkFields_cons, checkFields_cons]
    refine hfirst.andThen fun verdict verdict' hverdict => ?_
    rw [record_eq_of_like hverdict]
    exact (ih (hplaces.later (modelCount rule)) hrest hlater _ _).andThen
      fun others others' hothers => Checking.mirrors_value (hverdict.both hothers _)

/-- **Runs of a rule** at two places after two histories that agree: when what the defaults inside
the rule answer is settled, the verdicts are the same up to what findings do not tell apart, and the
histories agree again. -/
theorem mirrors_check (hR : Finding.IsKept R) (hstrict : policy.strict = policy'.strict)
    {rule : Rule} (hrule : rule.IsWellFormed)
    (hsettled : ∀ default ∈ rule.innerDefaults, pair.Settles default)
    {path path' : String} {done done' : Nat}
    (hplaces : AlikePlaces R policy.name policy'.name path path' done done') (v : Value) :
    Checking.Mirrors pair (Verdict.Like R) (check policy rule path done v)
      (check policy' rule path' done' v) := by
  induction hrule generalizing path path' done done' v with
  | @leaf facts kind hfacts =>
    rw [check, check]
    exact mirrors_refineVerdict hR ((RuleKind.isReported_check kind v).like hR) v _
  | @array facts item hfacts hitem ih =>
    rw [check, check]
    cases v.listItems? with
    | none =>
      exact Checking.mirrors_value
        ((Verdict.isReported_rejected (.of_kind "list_type" rfl (by decide))).like hR)
    | some items =>
      exact (Checking.mirrors_each hR (ih hsettled hplaces) 0 items).andThen
        fun verdict verdict' hverdict => mirrors_refineVerdict hR (hverdict.map .list) v _
  | @object facts fields hfacts hdistinct hfields ih =>
    -- An object has no refinements, so no refinement comes to see the name of the model.
    have hnone : facts.refinements = [] := hfacts.eq_nil (by decide)
    have hnotAnObject : ∀ v, List.Forall₂ R
        [notAnObject (modelName policy.name path (done + modelCountOfFields fields + 1)) v]
        [notAnObject (modelName policy'.name path' (done' + modelCountOfFields fields + 1)) v] := by
      intro v
      refine .cons ?_ .nil
      rcases hplaces with ⟨hname, rfl, rfl⟩ | hany
      · rw [hname]
        exact hR.same (.of_kind "model_type" rfl (by decide))
      · exact hany _ _ v
    cases v with
    | map entries =>
      rw [check_object_map hnone, check_object_map hnone]
      have hsame : strangeKeys policy' (fieldTexts fields) entries =
          strangeKeys policy (fieldTexts fields) entries := by
        rw [strangeKeys, strangeKeys, hstrict]
      refine (mirrors_checkFields hR hplaces (fun field hfield hinner path path' done done'
        hplaces v => ih field hfield hinner hplaces v) hsettled 0 {}
        entries).andThen
        fun verdict verdict' hverdict => Checking.mirrors_value ?_
      rw [hsame]
      exact (hverdict.withFindings (List.forall₂_same.mpr fun finding hfinding =>
        hR.same (isNamed_of_mem_strangeKeys finding hfinding))).map _
    | _ =>
      simp only [check]
      exact Checking.mirrors_value (.rejected (List.cons_ne_nil _ _) (hnotAnObject _))

/-- What a rule finds can be reported. -/
theorem ends_check {rule : Rule} (hrule : rule.IsWellFormed) (policy : ObjectPolicy) (path : String)
    (done : Nat) (v : Value) (history : CallHistory) :
    Checking.Ends (Verdict.Like Finding.SameNamed) (check policy rule path done v history).1
      (check policy rule path done v history).1 :=
  (mirrors_check Finding.isKept_sameNamed rfl hrule
    (fun default _ => RunPair.settles_same history.outside default) (.inl ⟨rfl, rfl, rfl⟩) v history
    history (RunPair.relates_same_iff.mpr ⟨rfl, rfl⟩)).1

end Rule

end FieldSchema
