import FieldSchema.LogEvent
import FieldSchema.Proofs.Lists
import FieldSchema.Validation.Check

/-!
# What accepted values are like

A check of a value may call functions and may stop, so what it gives depends on the history of
calls.  For what accepted values are like the history does not matter: it is enough that a check
can give them (`Checking.Gives`).

## Values

An accepted value is of the kind of its rule (`Rule.kind_of_gives`), and refinements other than
lower case hand it on as it is and accept it (`Rule.refinements_of_gives`).  The items of an
accepted list are of the kind of the rule for items (`Rule.items_of_gives`).

## Fields

A field of an accepted object was given, was made by its default, or may be left out
(`FieldOutcome`).  The outcomes of all fields, in order, make up the output
(`Rule.fieldOutcomes_of_gives`).  A default may be made of the outcomes of the fields before it, and
of these the ones without a value have a mark.  The mark is what makes a field be left out of the
output; only rules for values of any kind accept it.

* `Value.answersMark`: the defaults that come to the mark.
* `RuleKind.Holds`, `Rule.Describes`: what is known of an accepted value.
* `Rule.Accepts`, `FieldOutcome`, `FieldOutcomes`: what values and fields come to.
-/

namespace FieldSchema

/-! ## Checks -/

namespace Checking

variable {α β : Type}

/-- A check can give a result, after some history of calls. -/
def Gives (first : Checking α) (a : α) : Prop :=
  ∃ history left : CallHistory, first history = (.ok a, left)

theorem gives_value_iff {a b : α} : (value a).Gives b ↔ a = b := by
  constructor
  · rintro ⟨history, left, h⟩
    exact Except.ok.inj (Prod.mk.inj h).1
  · rintro rfl
    exact ⟨.empty, .empty, rfl⟩

theorem eq_ok_of_gives_ofExcept {result : Except Raised α} {a : α}
    (h : (ofExcept result).Gives a) : result = .ok a := by
  obtain ⟨history, left, h⟩ := h
  exact (Prod.mk.inj h).1

/-- A check in two steps gives what the second step gives after the first one. -/
theorem exists_of_gives_andThen {first : Checking α} {next : α → Checking β} {b : β}
    (h : (first.andThen next).Gives b) : ∃ a, first.Gives a ∧ (next a).Gives b := by
  obtain ⟨history, left, h⟩ := h
  unfold andThen at h
  split at h
  · rename_i a between hfirst
    exact ⟨a, ⟨history, between, hfirst⟩, ⟨between, left, h⟩⟩
  · cases (Prod.mk.inj h).1

end Checking

namespace Verdict

variable {α β γ : Type}

theorem map_eq_accepted_iff {f : α → β} {verdict : Verdict α} {b : β} :
    verdict.map f = .accepted b ↔ ∃ a, verdict = .accepted a ∧ f a = b := by
  cases verdict <;> simp [map]

theorem both_eq_accepted_iff {f : α → β → γ} {first : Verdict α} {second : Verdict β} {c : γ} :
    first.both f second = .accepted c ↔
      ∃ a b, first = .accepted a ∧ second = .accepted b ∧ f a b = c := by
  cases first <;> cases second <;> simp [both]

theorem under_eq_accepted_iff {segment : PathSegment} {verdict : Verdict α} {a : α} :
    verdict.under segment = .accepted a ↔ verdict = .accepted a := by
  cases verdict <;> simp [under]

theorem withFindings_eq_accepted {more : List Finding} {verdict : Verdict α} {a : α}
    (h : verdict.withFindings more = .accepted a) : verdict = .accepted a := by
  cases more with
  | nil => exact h
  | cons finding rest => contradiction

end Verdict

/-! ## The mark of a field without a value -/

namespace Value

/-- Whether a value is the mark of a field without a value. -/
def isMark (v : Value) : Bool := v.unlessAbsent.isNone

theorem unlessAbsent_eq_some {v w : Value} (h : v.unlessAbsent = some w) : v = w := by
  unfold unlessAbsent at h
  split at h
  · split at h
    · contradiction
    · exact Option.some.inj h
  · exact Option.some.inj h

theorem unlessAbsent_eq_none_iff {v : Value} :
    v.unlessAbsent = none ↔ v.isMark = true := by
  rw [isMark, Option.isNone_iff_eq_none]

theorem isMark_of_unlessAbsent {v w : Value} (h : v.unlessAbsent = some w) :
    w.isMark = false := by
  obtain rfl := unlessAbsent_eq_some h
  rw [isMark, h, Option.isNone_some]

theorem eq_of_isMark {v : Value} (h : v.isMark = true) : v = .other absentLabel := by
  have hnone : v.unlessAbsent = none := unlessAbsent_eq_none_iff.mpr h
  unfold unlessAbsent at hnone
  split at hnone
  · split at hnone
    · rename_i hlabel
      rw [beq_iff_eq.mp hlabel]
    · contradiction
  · contradiction

/-- Whether a default comes to the mark, given the values of the fields before it. -/
def answersMark (default : Value) (earlier : Entries) : Bool :=
  match default with
  | .function _ _ .constant (v :: _) => v.isMark
  | .function _ _ .getter (key :: _) => (Entries.get? earlier key).any isMark
  | default => default.isMark

/-- Whether a field comes to the mark: of a given value and of a default only a field that takes
values of any kind takes the mark, and a field without a default that is left out has no value. -/
def endsInMark (takesAny : Bool) (default? given? : Option Value) (earlier : Entries) : Bool :=
  match given? with
  | some v => takesAny && v.isMark
  | none => default?.all fun default => takesAny && default.answersMark earlier

/-- A value that is left out when it is the mark is known to later fields as it is. -/
theorem isMark_getD_unlessAbsent (v : Value) :
    (v.unlessAbsent.getD (.other absentLabel)).isMark = v.isMark := by
  cases hv : v.unlessAbsent with
  | none => rw [unlessAbsent_eq_none_iff.mp hv, Option.getD_none, isMark]; rfl
  | some w => rw [unlessAbsent_eq_some hv, Option.getD_some]

/-- What a default comes to, given the values of the fields before it: what is no function stands
for itself. -/
def make (default : Value) (earlier : Entries) : Checking Value :=
  if Rule.asksEarlierFields default then default.call [.map earlier]
  else if default.isCallable then default.call [] else Checking.value default

/-- A value that a default can come to. -/
def Makes (default : Value) (earlier : Entries) (made : Value) : Prop :=
  (default.make earlier).Gives made

/-- What a function answers that is called without arguments: its parameter, a number, or a list of
its tag. -/
theorem apply_nil_eq_ok {count : Nat} {kind : FunctionKind} {parameters : List Value}
    {made : Value} (h : apply kind parameters [] count = .ok made) :
    (kind = .constant ∧ ∃ rest, parameters = made :: rest) ∨
      (kind = .counter ∧ ∃ n, made = .int n) ∨
      (kind = .hook ∧ ∃ tag rest, parameters = tag :: rest ∧ made = .list [tag]) := by
  unfold apply at h
  split at h
  case h_1 v rest _ =>
    obtain rfl := Except.ok.inj h
    exact .inl ⟨rfl, rest, rfl⟩
  case h_2 =>
    obtain rfl := Except.ok.inj h
    exact .inr (.inl ⟨rfl, _, rfl⟩)
  case h_4 _ tag rest =>
    obtain rfl := Except.ok.inj h
    exact .inr (.inr ⟨rfl, tag, rest, rfl, rfl⟩)
  all_goals contradiction

/-- A function that is called without arguments answers with the mark when the mark is its
parameter. -/
theorem isMark_of_apply_nil {identity count : Nat} {isShared : Bool} {kind : FunctionKind}
    {parameters : List Value} {made : Value} (earlier : Entries)
    (h : apply kind parameters [] count = .ok made) :
    made.isMark = (function identity isShared kind parameters).answersMark earlier := by
  rcases apply_nil_eq_ok h with ⟨rfl, rest, rfl⟩ | ⟨rfl, n, rfl⟩ | ⟨rfl, tag, rest, rfl, rfl⟩ <;>
    rfl

/-- What a function answers that is called with the fields before. -/
theorem isMark_of_apply_map {identity count : Nat} {isShared : Bool} {kind : FunctionKind}
    {parameters : List Value} {made : Value} {earlier : Entries}
    (h : apply kind parameters [.map earlier] count = .ok made) :
    made.isMark = (function identity isShared kind parameters).answersMark earlier := by
  unfold apply at h
  split at h
  case h_4 tag rest _ =>
    obtain rfl := Except.ok.inj h
    rfl
  case h_5 key rest document hdocument =>
    obtain rfl := (List.cons.inj hdocument).1
    have hentry : (if key.isHashable then .ok ((Entries.get? earlier key).getD .null)
        else .error Raised.wrongType) = Except.ok made := h
    split at hentry
    · obtain rfl := Except.ok.inj hentry
      rw [answersMark]
      cases Entries.get? earlier key <;> rfl
    · contradiction
  case h_6 hdocument =>
    cases hdocument
  case h_7 v hv =>
    obtain rfl := Except.ok.inj h
    rfl
  case h_8 tag rest v hv =>
    obtain rfl := Except.ok.inj h
    rfl
  all_goals contradiction

/-- A function from outside does not answer with the mark. -/
theorem isMark_of_outside {outside : Outside} {calls : List FunctionCall} {identity : Nat}
    {arguments : List Value} {made : Value}
    (h : outside.answer calls identity arguments = .ok made) : made.isMark = false := by
  rw [Bool.eq_false_iff]
  intro hmark
  rw [eq_of_isMark hmark] at h
  exact outside.answer_ne_mark calls identity arguments h

/-- A default comes to the mark when it answers with it. -/
theorem isMark_of_makes {default : Value} {earlier : Entries} {made : Value}
    (h : default.Makes earlier made) : made.isMark = default.answersMark earlier := by
  cases default with
  | function identity isShared kind parameters =>
    obtain ⟨history, left, h⟩ := h
    unfold make at h
    split at h
    · rcases answer_function_eq_ok (Prod.mk.inj h).1 with ⟨name, asks, rfl, hanswer⟩ | happly
      · exact isMark_of_outside hanswer
      · exact isMark_of_apply_map happly
    · rcases answer_function_eq_ok (Prod.mk.inj h).1 with ⟨name, asks, rfl, hanswer⟩ | happly
      · exact isMark_of_outside hanswer
      · exact isMark_of_apply_nil earlier happly
  | typeName t =>
    obtain ⟨history, left, h⟩ := h
    have hmade : t.emptyValue?.elim (.error Raised.wrongType) .ok = Except.ok made :=
      (Prod.mk.inj h).1
    cases t <;> first | contradiction | (obtain rfl := Except.ok.inj hmade; rfl)
  | formatCheck check =>
    obtain ⟨history, left, h⟩ := h
    have hmade : Except.error Raised.wrongType = Except.ok made := (Prod.mk.inj h).1
    contradiction
  | _ =>
    rw [← Checking.gives_value_iff.mp h]
    rfl

end Value

/-! ## Kinds -/

/-- Whether a value is of a kind, as accepted values are. -/
def RuleKind.Holds : RuleKind → Value → Prop
  | .string, v => ∃ text, v = .text text
  | .number, v => v.asNumber?.isSome = true
  | .boolean, v => ∃ b, v = .bool b
  | .date, v => ∃ t, v = .dateTime t
  | .array, v => ∃ items, v = .list items
  | .object, v => ∃ entries, v = .map entries
  | .map, v => ∃ entries, v = .map entries
  | .any, _ => True

namespace RuleKind

theorem holds_of_checkMapping {checkValue : Value → Verdict Value} {v w : Value}
    (h : checkMapping checkValue v = .accepted w) : ∃ entries, w = .map entries := by
  unfold checkMapping at h
  split at h
  · obtain ⟨entries, -, rfl⟩ := Verdict.map_eq_accepted_iff.mp h
    exact ⟨_, rfl⟩
  · contradiction

theorem holds_of_checkDate {v w : Value} (h : checkDate v = .accepted w) :
    ∃ t, w = .dateTime t := by
  unfold checkDate at h
  split at h
  · exact ⟨_, (Verdict.accepted.inj h).symm⟩
  · exact ⟨_, (Verdict.accepted.inj h).symm⟩
  · split at h
    · split at h
      · exact ⟨_, (Verdict.accepted.inj h).symm⟩
      · contradiction
    · contradiction

/-- The check of a kind gives values of the kind. -/
theorem holds_of_check {kind : RuleKind} {v w : Value} (h : kind.check v = .accepted w) :
    kind.Holds w := by
  cases kind with
  | string =>
    unfold check checkText at h
    dsimp only at h
    split at h
    · exact ⟨_, (Verdict.accepted.inj h).symm⟩
    · contradiction
  | number =>
    unfold check at h
    dsimp only at h
    split at h
    · rename_i n hn
      rw [← Verdict.accepted.inj h]
      exact Option.isSome_of_eq_some hn
    · contradiction
  | boolean =>
    unfold check at h
    dsimp only at h
    split at h
    · exact ⟨_, (Verdict.accepted.inj h).symm⟩
    · contradiction
  | date => exact holds_of_checkDate h
  | array =>
    unfold check at h
    dsimp only at h
    split at h
    · exact ⟨_, (Verdict.accepted.inj h).symm⟩
    · contradiction
  | object => exact holds_of_checkMapping h
  | map => exact holds_of_checkMapping h
  | any => trivial

/-- Only values of any kind can be the mark. -/
theorem isMark_of_holds {kind : RuleKind} {v : Value} (hkind : kind ≠ .any) (h : kind.Holds v) :
    v.isMark = false := by
  cases kind with
  | any => contradiction
  | number => cases v <;> first | rfl | contradiction
  | _ =>
    obtain ⟨_, rfl⟩ := h
    rfl

end RuleKind

/-! ## Refinements -/

namespace Refinement

/-- A refinement changes nothing but texts, which stay texts. -/
theorem transform_eq_or (r : Refinement) (v : Value) :
    r.transform v = v ∨ v.isText = true ∧ ∃ text, r.transform v = .text text := by
  unfold transform
  split
  · exact .inr ⟨rfl, _, rfl⟩
  · exact .inr ⟨rfl, _, rfl⟩
  · exact .inl rfl

/-- Only lower case changes anything. -/
theorem transform_of_kind_ne {r : Refinement} (h : r.kind ≠ .lowercase) (v : Value) :
    r.transform v = v := by
  cases r with
  | lowercase => exact absurd rfl h
  | _ => rfl

/-- A refinement keeps the kind of a value. -/
theorem holds_transform {kind : RuleKind} {v : Value} (r : Refinement) (h : kind.Holds v) :
    kind.Holds (r.transform v) := by
  rcases r.transform_eq_or v with hsame | ⟨htext, text, hchanged⟩
  · rw [hsame]
    exact h
  · cases kind with
    | string => exact ⟨text, hchanged⟩
    | any => trivial
    | number => cases v <;> contradiction
    | _ =>
      obtain ⟨_, rfl⟩ := h
      contradiction

/-- A refinement neither makes nor takes away the mark. -/
theorem isMark_transform (r : Refinement) (v : Value) :
    (r.transform v).isMark = v.isMark := by
  rcases r.transform_eq_or v with hsame | ⟨htext, text, hchanged⟩
  · rw [hsame]
  · rw [hchanged]
    cases v <;> first | rfl | contradiction

end Refinement

namespace Rule

/-- Refinements accept a value when the first one does, and the others accept what it hands on. -/
theorem checkRefinements_cons_eq_accepted {input v w : Value} {r : Refinement}
    {rest : List Refinement} (h : checkRefinements input (r :: rest) v = .ok (.accepted w)) :
    r.check (r.transform v) = .ok none ∧
      checkRefinements input rest (r.transform v) = .ok (.accepted w) := by
  rw [checkRefinements] at h
  split at h
  · rename_i hcheck
    exact ⟨hcheck, h⟩
  · split at h
    · cases Except.ok.inj h
    · obtain ⟨finding, -, h⟩ := Logged.bind_eq_ok_iff.mp h
      cases Except.ok.inj h
  · split at h
    · cases Except.ok.inj h
    · contradiction

/-- What each refinement keeps is kept by refinements in order. -/
theorem kept_of_checkRefinements {P : Value → Prop} {input w : Value}
    {refinements : List Refinement}
    (hstep : ∀ r ∈ refinements, ∀ v, P v → P (r.transform v)) :
    ∀ v, P v → checkRefinements input refinements v = .ok (.accepted w) → P w := by
  induction refinements with
  | nil =>
    intro v hv h
    obtain rfl := Verdict.accepted.inj (Except.ok.inj h)
    exact hv
  | cons r rest ih =>
    intro v hv h
    obtain ⟨-, hrest⟩ := checkRefinements_cons_eq_accepted h
    exact ih (fun r' hr' => hstep r' (List.mem_cons_of_mem _ hr')) _
      (hstep r List.mem_cons_self v hv) hrest

/-- Refinements other than lower case hand on what they accept as it is. -/
theorem checkRefinements_eq_accepted {input v w : Value} {refinements : List Refinement}
    (hlower : ∀ r ∈ refinements, r.kind ≠ .lowercase)
    (h : checkRefinements input refinements v = .ok (.accepted w)) :
    w = v ∧ ∀ r ∈ refinements, r.check v = .ok none := by
  induction refinements with
  | nil =>
    exact ⟨(Verdict.accepted.inj (Except.ok.inj h)).symm, fun r hr => absurd hr List.not_mem_nil⟩
  | cons r rest ih =>
    obtain ⟨hcheck, hrest⟩ := checkRefinements_cons_eq_accepted h
    rw [Refinement.transform_of_kind_ne (hlower r List.mem_cons_self)] at hcheck hrest
    obtain ⟨hw, hothers⟩ := ih (fun r' hr' => hlower r' (List.mem_cons_of_mem _ hr')) hrest
    refine ⟨hw, fun r' hr' => ?_⟩
    rcases List.mem_cons.mp hr' with rfl | hmem
    · exact hcheck
    · exact hothers r' hmem

/-- What refinements accept was accepted before. -/
theorem exists_of_gives_refineVerdict {input w : Value} {refinements : List Refinement}
    {verdict : Verdict Value}
    (h : (refineVerdict input refinements verdict).Gives (.accepted w)) :
    ∃ v, verdict = .accepted v ∧ checkRefinements input refinements v = .ok (.accepted w) := by
  cases verdict with
  | accepted v => exact ⟨v, rfl, Checking.eq_ok_of_gives_ofExcept h⟩
  | rejected list => cases Checking.gives_value_iff.mp h

/-! ## Rules -/

/-- What a list is made of was given item by item. -/
theorem forall₂_of_gives_each {checkItem : Value → Checking (Verdict Value)}
    {items parts : List Value} {index : Nat}
    (h : (Checking.each checkItem index items).Gives (.accepted parts)) :
    List.Forall₂ (fun v w => (checkItem v).Gives (.accepted w)) items parts := by
  induction items generalizing index parts with
  | nil =>
    obtain rfl := Verdict.accepted.inj (Checking.gives_value_iff.mp h)
    exact .nil
  | cons v rest ih =>
    obtain ⟨first, hfirst, h⟩ := Checking.exists_of_gives_andThen h
    obtain ⟨others, hothers, h⟩ := Checking.exists_of_gives_andThen h
    obtain ⟨w, parts', hw, hparts, rfl⟩ :=
      Verdict.both_eq_accepted_iff.mp (Checking.gives_value_iff.mp h)
    obtain rfl := Verdict.under_eq_accepted_iff.mp hw
    exact .cons hfirst (ih (hparts ▸ hothers))

variable {policy : ObjectPolicy} {path : String} {done : Nat}

/-- Refinements leave lists as they are. -/
theorem eq_list_of_checkRefinements {input w : Value} {refinements : List Refinement}
    {parts : List Value}
    (h : checkRefinements input refinements (.list parts) = .ok (.accepted w)) :
    w = .list parts := by
  have hstep : ∀ r ∈ refinements, ∀ v, v = .list parts → r.transform v = .list parts := by
    rintro r - v rfl
    exact (r.transform_eq_or _).resolve_right fun htext => Bool.false_ne_true htext.1
  have hkept := kept_of_checkRefinements hstep _ rfl h
  exact hkept

/-- An accepted list was made item by item, and the refinements accept it. -/
theorem exists_of_gives_array {facts : RuleFacts} {item : Rule} {v w : Value}
    (h : (check policy (.array facts item) path done v).Gives (.accepted w)) :
    ∃ items parts, v.listItems? = some items ∧ w = .list parts ∧
      List.Forall₂ (fun v w => (check policy item path done v).Gives (.accepted w)) items parts ∧
      checkRefinements v facts.refinements (.list parts) = .ok (.accepted w) := by
  rw [check] at h
  split at h
  · cases Checking.gives_value_iff.mp h
  · rename_i items hitems
    obtain ⟨verdict, heach, h⟩ := Checking.exists_of_gives_andThen h
    obtain ⟨u, hmap, hrefine⟩ := exists_of_gives_refineVerdict h
    obtain ⟨parts, rfl, rfl⟩ := Verdict.map_eq_accepted_iff.mp hmap
    exact ⟨items, parts, hitems, eq_list_of_checkRefinements hrefine,
      forall₂_of_gives_each heach, hrefine⟩

/-- An accepted object was made of its fields. -/
theorem exists_of_gives_object {facts : RuleFacts} {fields : List (TextValue × Rule)} {v w : Value}
    (h : (check policy (.object facts fields) path done v).Gives (.accepted w)) :
    ∃ input output, v = .map input ∧ w = .map (Entries.ofPairs output) ∧
      (checkFields policy fields path done 0 {} input).Gives (.accepted output) := by
  cases v with
  | map input =>
    rw [check] at h
    obtain ⟨verdict, hfields, h⟩ := Checking.exists_of_gives_andThen h
    dsimp only at h
    split at h
    · cases Checking.gives_value_iff.mp h
    · rename_i output houtput
      obtain ⟨refined, -, h⟩ := Checking.exists_of_gives_andThen h
      obtain ⟨u, -, rfl⟩ := Verdict.map_eq_accepted_iff.mp (Checking.gives_value_iff.mp h)
      obtain rfl := Verdict.withFindings_eq_accepted houtput
      exact ⟨input, output, rfl, rfl, hfields⟩
  | _ =>
    simp only [check] at h
    cases Checking.gives_value_iff.mp h

/-- **Kinds of accepted values**: a rule gives values of its kind. -/
theorem holds_of_gives {rule : Rule} {v w : Value}
    (h : (check policy rule path done v).Gives (.accepted w)) : rule.kind.Holds w := by
  cases rule with
  | leaf facts kind =>
    rw [check] at h
    obtain ⟨u, hkind, hrefine⟩ := exists_of_gives_refineVerdict h
    exact kept_of_checkRefinements (fun r _ _ => r.holds_transform) u
      (RuleKind.holds_of_check hkind) hrefine
  | array facts item =>
    obtain ⟨items, parts, -, hw, -, -⟩ := exists_of_gives_array h
    exact ⟨parts, hw⟩
  | object facts fields =>
    obtain ⟨input, output, -, hw, -⟩ := exists_of_gives_object h
    exact ⟨_, hw⟩

/-- What is known of a value that a rule accepts: it is of the kind of the rule, it is accepted by
the refinements, unless they bring it to lower case, and its items are of their kind. -/
structure Describes (rule : Rule) (w : Value) : Prop where
  holds : rule.kind.Holds w
  refinements : rule.kind ≠ .object → (∀ r ∈ rule.facts.refinements, r.kind ≠ .lowercase) →
    ∀ r ∈ rule.facts.refinements, r.check w = .ok none
  items : ∀ item, rule.item? = some item → ∀ ws, w = .list ws → ∀ part ∈ ws, item.kind.Holds part

/-- What a rule accepts is as it describes. -/
theorem describes_of_gives {rule : Rule} {v w : Value}
    (h : (check policy rule path done v).Gives (.accepted w)) : rule.Describes w := by
  refine ⟨holds_of_gives h, ?_, ?_⟩
  · intro hkind hlower
    cases rule with
    | leaf facts kind =>
      rw [check] at h
      obtain ⟨u, -, hrefine⟩ := exists_of_gives_refineVerdict h
      obtain ⟨rfl, haccepted⟩ := checkRefinements_eq_accepted hlower hrefine
      exact haccepted
    | array facts item =>
      obtain ⟨items, parts, -, -, -, hrefine⟩ := exists_of_gives_array h
      obtain ⟨rfl, haccepted⟩ := checkRefinements_eq_accepted hlower hrefine
      exact haccepted
    | object facts fields => exact absurd rfl hkind
  · intro item hitem ws hws part hpart
    cases rule with
    | array facts item' =>
      obtain rfl := Option.some.inj hitem
      obtain ⟨items, parts, -, hlist, hparts, -⟩ := exists_of_gives_array h
      obtain rfl := Value.list.inj (hws.symm.trans hlist)
      obtain ⟨given, -, hgiven⟩ := exists_of_mem_forall₂ hparts.flip part hpart
      exact holds_of_gives hgiven
    | _ => contradiction

/-- A rule for values of any kind neither makes nor takes away the mark. -/
theorem isMark_of_gives {rule : Rule} {v w : Value} (hkind : rule.kind = .any)
    (h : (check policy rule path done v).Gives (.accepted w)) : w.isMark = v.isMark := by
  cases rule with
  | leaf facts kind =>
    obtain rfl : kind = .any := hkind
    rw [check] at h
    obtain ⟨u, hkind, hrefine⟩ := exists_of_gives_refineVerdict h
    obtain rfl := Verdict.accepted.inj hkind
    have hstep : ∀ r ∈ facts.refinements, ∀ u, u.isMark = v.isMark →
        (r.transform u).isMark = v.isMark := fun r _ u hu => (r.isMark_transform u).trans hu
    exact kept_of_checkRefinements hstep v rfl hrefine
  | _ => contradiction

/-- A rule accepts a value as another one, after some history of calls and at some place. -/
def Accepts (policy : ObjectPolicy) (rule : Rule) (v w : Value) : Prop :=
  ∃ path done, (check policy rule path done v).Gives (.accepted w)

/-- What is accepted is the mark only in a rule for values of any kind. -/
theorem Accepts.isMark_eq {rule : Rule} {v w : Value} (h : Accepts policy rule v w) :
    w.isMark = (rule.kind == .any && v.isMark) := by
  obtain ⟨path, done, h⟩ := h
  by_cases hkind : rule.kind = .any
  · simp [hkind, isMark_of_gives hkind h]
  · simp [hkind, RuleKind.isMark_of_holds hkind (holds_of_gives h)]

theorem Accepts.describes {rule : Rule} {v w : Value} (h : Accepts policy rule v w) :
    rule.Describes w := by
  obtain ⟨path, done, h⟩ := h
  exact describes_of_gives h

/-! ## Fields -/

/-- What a field comes to, given the input for it and the values of the fields before it. -/
inductive FieldOutcome (policy : ObjectPolicy) (rule : Rule) (given? : Option Value)
    (earlier : Entries) : Option Value → Prop
  /-- The input has a value, which was accepted; it does not count if it is the mark. -/
  | given {v w : Value} (hgiven : given? = some v) (haccepts : Accepts policy rule v w) :
    FieldOutcome policy rule given? earlier w.unlessAbsent
  /-- The default has made a value, which was accepted; it does not count if it is the mark. -/
  | made {default v w : Value} (hgiven : given? = none)
    (hdefault : rule.facts.default? = some default) (hmade : default.Makes earlier v)
    (haccepts : Accepts policy rule v w) : FieldOutcome policy rule given? earlier w.unlessAbsent
  /-- The field may be left out. -/
  | leftOut (hgiven : given? = none) (hdefault : rule.facts.default? = none)
    (hoptional : rule.facts.isOptional = true) : FieldOutcome policy rule given? earlier none

namespace FieldOutcome

variable {rule : Rule} {given? : Option Value} {earlier : Entries}

/-- A value that a field comes to is as the rule describes. -/
theorem describes {w : Value} (h : FieldOutcome policy rule given? earlier (some w)) :
    rule.Describes w := by
  generalize houtcome : some w = outcome at h
  cases h with
  | given hgiven haccepts =>
    obtain rfl := Value.unlessAbsent_eq_some houtcome.symm
    exact haccepts.describes
  | made hgiven hdefault hmade haccepts =>
    obtain rfl := Value.unlessAbsent_eq_some houtcome.symm
    exact haccepts.describes
  | leftOut hgiven hdefault hoptional => contradiction

/-- A value that a field comes to is not the mark. -/
theorem isMark_eq_false {w : Value} (h : FieldOutcome policy rule given? earlier (some w)) :
    w.isMark = false := by
  generalize houtcome : some w = outcome at h
  cases h with
  | given hgiven haccepts => exact Value.isMark_of_unlessAbsent houtcome.symm
  | made hgiven hdefault hmade haccepts => exact Value.isMark_of_unlessAbsent houtcome.symm
  | leftOut hgiven hdefault hoptional => contradiction

/-- What later fields know of a field is the mark exactly when the field comes to it. -/
theorem isMark_getD {outcome : Option Value} (h : FieldOutcome policy rule given? earlier outcome) :
    (outcome.getD (.other Value.absentLabel)).isMark =
      Value.endsInMark (rule.kind == .any) rule.facts.default? given? earlier := by
  cases h with
  | given hgiven haccepts =>
    rw [Value.isMark_getD_unlessAbsent, hgiven, haccepts.isMark_eq]
    rfl
  | made hgiven hdefault hmade haccepts =>
    rw [Value.isMark_getD_unlessAbsent, hgiven, hdefault, haccepts.isMark_eq,
      Value.isMark_of_makes hmade]
    rfl
  | leftOut hgiven hdefault hoptional =>
    rw [hgiven, hdefault, Option.getD_none]
    rfl

/-- **Fields without a value**: a field has no value exactly when it comes to the mark. -/
theorem isNone_eq {outcome : Option Value} (h : FieldOutcome policy rule given? earlier outcome) :
    outcome.isNone =
      Value.endsInMark (rule.kind == .any) rule.facts.default? given? earlier := by
  rw [← h.isMark_getD]
  cases houtcome : outcome with
  | none => rfl
  | some w =>
    rw [houtcome] at h
    exact h.isMark_eq_false.symm

/-- A field that is not optional has no value exactly when it takes values of any kind and the mark
was given, or was made because nothing was given. -/
theorem eq_none_iff {outcome : Option Value} (h : FieldOutcome policy rule given? earlier outcome)
    (hoptional : rule.facts.isOptional = false) :
    outcome = none ↔ rule.kind = .any ∧
      given?.elim (rule.facts.default?.any (·.answersMark earlier)) Value.isMark = true := by
  rw [← Option.isNone_iff_eq_none, h.isNone_eq]
  cases h with
  | given hgiven haccepts => simp [Value.endsInMark, hgiven]
  | made hgiven hdefault hmade haccepts => simp [Value.endsInMark, hgiven, hdefault]
  | leftOut hgiven hdefault hleft => exact absurd (hoptional.symm.trans hleft) Bool.false_ne_true

end FieldOutcome

/-- What fields come to, in order.  What has no value is known to later fields by the mark. -/
inductive FieldOutcomes (policy : ObjectPolicy) (input : Entries) :
    List (TextValue × Rule) → Nat → Entries → List (Option Value) → Prop
  | nil {index : Nat} {earlier : Entries} : FieldOutcomes policy input [] index earlier []
  | cons {name : TextValue} {rule : Rule} {rest : List (TextValue × Rule)} {index : Nat}
    {earlier : Entries} {outcome : Option Value} {outcomes : List (Option Value)}
    (first : FieldOutcome policy rule (input.getText? name.text) earlier outcome)
    (others : FieldOutcomes policy input rest (index + 1)
      (earlier ++ [(.text (placeName index), outcome.getD (.other Value.absentLabel))]) outcomes) :
    FieldOutcomes policy input ((name, rule) :: rest) index earlier (outcome :: outcomes)

/-- The output that outcomes make up. -/
def outputOf : List (TextValue × Rule) → Nat → List (Option Value) → Entries
  | (name, _) :: rest, index, outcome :: outcomes =>
    putField name index outcome (outputOf rest (index + 1) outcomes)
  | _, _, _ => []

/-- A default is made and then checked, unless it asks for fields of which one was rejected. -/
theorem checkDefault_eq (default : Value) (earlier : EarlierFields)
    (checkValue : Value → Checking (Verdict Value)) :
    checkDefault default earlier checkValue =
      if asksEarlierFields default && earlier.anyRejected then .value (.rejected [defaultNotMade])
      else (default.make earlier.values).andThen checkValue := by
  unfold checkDefault Value.make
  cases asksEarlierFields default <;> cases earlier.anyRejected <;> cases default.isCallable <;> rfl

/-- An accepted default was made and then accepted. -/
theorem exists_of_gives_checkDefault {default w : Value} {earlier : EarlierFields}
    {checkValue : Value → Checking (Verdict Value)}
    (h : (checkDefault default earlier checkValue).Gives (.accepted w)) :
    ∃ made, default.Makes earlier.values made ∧ (checkValue made).Gives (.accepted w) := by
  rw [checkDefault_eq] at h
  split at h
  · cases Checking.gives_value_iff.mp h
  · exact Checking.exists_of_gives_andThen h

/-- What a field that is left out comes to. -/
theorem fieldOutcome_of_gives_checkAbsent {rule : Rule} {earlier : EarlierFields} {name : String}
    {index : Nat} {outcome : Option Value} {fieldPath : String}
    (h : (checkAbsent rule.facts earlier (check policy rule fieldPath done) name index).Gives
      (.accepted outcome)) : FieldOutcome policy rule none earlier.values outcome := by
  unfold checkAbsent at h
  split at h
  · rename_i default hdefault
    obtain ⟨verdict, hverdict, h⟩ := Checking.exists_of_gives_andThen h
    obtain ⟨w, hunder, rfl⟩ := Verdict.map_eq_accepted_iff.mp (Checking.gives_value_iff.mp h)
    obtain rfl := Verdict.under_eq_accepted_iff.mp hunder
    obtain ⟨made, hmade, hcheck⟩ := exists_of_gives_checkDefault hverdict
    exact .made rfl hdefault hmade ⟨_, _, hcheck⟩
  · rename_i hdefault
    have hverdict := Checking.gives_value_iff.mp h
    split at hverdict
    · rename_i hoptional
      obtain rfl := Verdict.accepted.inj hverdict
      exact .leftOut rfl hdefault hoptional
    · contradiction

/-- **What fields come to**: an accepted output is made up of an outcome for every field. -/
theorem fieldOutcomes_of_gives {fields : List (TextValue × Rule)} {index : Nat}
    {earlier : EarlierFields} {input output : Entries}
    (h : (checkFields policy fields path done index earlier input).Gives (.accepted output)) :
    ∃ outcomes, FieldOutcomes policy input fields index earlier.values outcomes ∧
      output = outputOf fields index outcomes := by
  induction fields generalizing done index earlier output with
  | nil =>
    rw [checkFields] at h
    exact ⟨[], .nil, (Verdict.accepted.inj (Checking.gives_value_iff.mp h)).symm⟩
  | cons field rest ih =>
    obtain ⟨name, rule⟩ := field
    rw [checkFields] at h
    obtain ⟨verdict, hfirst, h⟩ := Checking.exists_of_gives_andThen h
    obtain ⟨others, hothers, h⟩ := Checking.exists_of_gives_andThen h
    obtain ⟨outcome, output', rfl, rfl, rfl⟩ :=
      Verdict.both_eq_accepted_iff.mp (Checking.gives_value_iff.mp h)
    obtain ⟨outcomes, houtcomes, rfl⟩ := ih hothers
    refine ⟨outcome :: outcomes, .cons ?_ houtcomes, rfl⟩
    dsimp only at hfirst
    split at hfirst
    · rename_i v hgiven
      obtain ⟨verdict, hcheck, hfirst⟩ := Checking.exists_of_gives_andThen hfirst
      obtain ⟨w, hunder, rfl⟩ :=
        Verdict.map_eq_accepted_iff.mp (Checking.gives_value_iff.mp hfirst)
      obtain rfl := Verdict.under_eq_accepted_iff.mp hunder
      exact .given hgiven ⟨_, _, hcheck⟩
    · rename_i hgiven
      rw [hgiven]
      exact fieldOutcome_of_gives_checkAbsent hfirst

/-! ## The output -/

/-- What fields come to is as their rules describe. -/
theorem FieldOutcomes.describes {input earlier : Entries} {fields : List (TextValue × Rule)}
    {index : Nat} {outcomes : List (Option Value)}
    (h : FieldOutcomes policy input fields index earlier outcomes) :
    ∀ field w, (field, some w) ∈ fields.zip outcomes → field.2.Describes w := by
  induction h with
  | nil => exact fun field w hmem => absurd hmem List.not_mem_nil
  | cons first others ih =>
    intro field w hmem
    rcases List.mem_cons.mp hmem with hhead | htail
    · obtain ⟨rfl, rfl⟩ := Prod.mk.inj hhead
      exact first.describes
    · exact ih field w htail

end Rule

end FieldSchema
