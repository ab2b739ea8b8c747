import FieldSchema.Proofs.Pattern.Password
import FieldSchema.Proofs.Rule.Agreement
import FieldSchema.Proofs.Rule.AllowedValues
import FieldSchema.Proofs.Text.HexPairs
import FieldSchema.Proofs.Validation.Stable

/-!
# Fields whose names mention passwords

The last step of a rule for texts looks at the name of its field: under a name that mentions a
password texts have to be strong passwords, whatever else is asked of them.  Allowed values are
compared in lower case, where no capital letter is left, and an object identifier consists of
hexadecimal digits, none of which is a symbol.  Neither can be a strong password.

So a field with allowed values, or for object identifiers, accepts what it is made for under every
other name, and nothing at all under a name that mentions a password (`Rule.ofField_builtIn`).

* `Rule.Turns`, `Rule.Refuses`: what a rule does with a value, whatever it is a part of.
* `Rule.guarded`: the rule after its name was looked at.
-/

namespace FieldSchema

/-! ## Strong passwords -/

/-- A hexadecimal digit is no symbol of passwords. -/
theorem Text.not_isHexDigit_of_symbol {c : Char}
    (h : passwordSymbols.contains c.toNat = true) : isHexDigit c = false := by
  have hnone : ∀ code ∈ passwordSymbols, (hexValue? code).isSome = false := by decide
  exact hnone _ (List.contains_iff_mem.mp h)

namespace Refinement

/-- The condition of a strong password. -/
def strong (message : Value) : Refinement := .pattern (.text passwordPattern) (.int 0) message

/-- What the condition accepts is a strong password, or one with a line break after it. -/
theorem exists_of_strong_check {message : Value} {text : String}
    (h : (strong message).check (.text text) = .ok none) :
    ∃ run rest, text.toList = run ++ rest ∧ Text.IsStrongPassword run := by
  have hcheck : (Refinement.pattern (.ofTextValue (.plain passwordPattern))
      (.int Flags.none.toNat) message).check (.text text) = .ok none := h
  have hmatch := FormatCheck.hasMatch_of_check rfl hcheck
  obtain ⟨found, hfound, hanswer⟩ := Regex.hasMatch_passwordPattern text
  obtain rfl := Except.ok.inj (hfound.symm.trans hmatch)
  obtain ⟨run, rest, htext, -, hstrong⟩ := hanswer.mp rfl
  exact ⟨run, rest, htext, hstrong⟩

/-- A text in lower case is no strong password. -/
theorem strong_check_lowercase (message : Value) (text : String) :
    (strong message).check (.text (Text.lowercase text)) ≠ .ok none := by
  intro h
  obtain ⟨run, rest, htext, hstrong⟩ := exists_of_strong_check h
  obtain ⟨c, hc, hupper⟩ := hstrong.upper
  have hlower : Text.isAsciiUpper c.toNat = false :=
    Text.isAsciiUpper_of_mem_lowercase (htext ▸ List.mem_append_left rest hc)
  exact Bool.false_ne_true (hlower.symm.trans hupper)

/-- An object identifier is no strong password. -/
theorem strong_check_objectId (message : Value) {text : String}
    (hdigits : text.toList.all Text.isHexDigit = true) :
    (strong message).check (.text text) ≠ .ok none := by
  intro h
  obtain ⟨run, rest, htext, hstrong⟩ := exists_of_strong_check h
  obtain ⟨c, hc, hsymbol⟩ := hstrong.symbol
  have hdigit := List.all_eq_true.mp hdigits c (htext ▸ List.mem_append_left rest hc)
  exact Bool.false_ne_true ((Text.not_isHexDigit_of_symbol hsymbol).symm.trans hdigit)

/-- What the format of object identifiers accepts, in whatever words it says what is wrong. -/
theorem checkObjectId_eq_none_iff {isValid : String → Bool} {lengthMessage formatMessage : Value}
    {text : String} : checkObjectId isValid lengthMessage formatMessage text = none ↔
      text.length = 24 ∧ isValid text = true := by
  rw [checkObjectId]
  split
  · rename_i hlength
    exact iff_of_false (Option.some_ne_none _) fun h => bne_iff_ne.mp hlength h.1
  · rename_i hlength
    have hlength : text.length = 24 := by simpa using hlength
    cases hvalid : isValid text <;> simp [hlength]

end Refinement

/-- A text of twenty-four characters stands for an identifier when it consists of digits. -/
theorem ObjectId.isValid_iff {text : String} (hlength : text.length = 24) :
    isValid text = true ↔ text.toList.all Text.isHexDigit = true := by
  have hread : isValid text = true ↔
      ∃ data, Text.bytesOfHexChars? text.toList = some data ∧ data.length = 12 := by
    rw [isValid, read?, if_pos hlength, Text.bytesOfHex?]
    cases Text.bytesOfHexChars? text.toList <;> simp [Option.filter]
  rw [hread, List.all_eq_true]
  exact Text.exists_bytesOfHexChars?_iff (String.length_toList.trans hlength)

namespace Rule

variable {overrides : Overrides} {field : TextValue} {rule : Rule}

/-! ## What a rule does with a value -/

/-- A rule that accepts a value and hands on another one for it, whatever it is a part of. -/
def Turns (rule : Rule) (v w : Value) : Prop :=
  ∀ policy path done history,
    check policy rule path done v history = (.ok (.accepted w), history)

/-- A rule that does not accept a value, whatever it is a part of. -/
def Refuses (rule : Rule) (v : Value) : Prop :=
  ∀ policy path done w history left,
    check policy rule path done v history ≠ (.ok (.accepted w), left)

/-- A rule for texts hands on what its refinements make of a text. -/
theorem turns_ofKind_string {refinements : List Refinement} {v w : Value} {text : String}
    (htext : v.asText? = some text)
    (h : ∀ input, checkRefinements input refinements (.text text) = .ok (.accepted w)) :
    (ofKind .string refinements).Turns v w := by
  intro policy path done history
  have hkind : RuleKind.check .string v = .accepted (.text text) := by
    rw [RuleKind.check, RuleKind.checkText, htext]
  rw [ofKind, check, hkind, refineVerdict, h v]
  rfl

/-- A rule for texts refuses what its refinements accept no text for. -/
theorem refuses_of_string (hkind : rule.kind = .string)
    (h : ∀ input text w, checkRefinements input rule.facts.refinements (.text text) ≠
      .ok (.accepted w)) (v : Value) : rule.Refuses v := by
  intro policy path done w history left hcheck
  obtain ⟨text, -, hrefine⟩ := exists_of_check_string hkind hcheck
  exact h v text w hrefine

/-- Refinements accept a value when those in front do, and the last one accepts what they hand
on. -/
theorem exists_of_checkRefinements_append {front back : List Refinement} {input v w : Value}
    (h : checkRefinements input (front ++ back) v = .ok (.accepted w)) :
    ∃ between, checkRefinements input front v = .ok (.accepted between) ∧
      checkRefinements input back between = .ok (.accepted w) := by
  induction front generalizing v with
  | nil => exact ⟨v, rfl, h⟩
  | cons r rest ih =>
    obtain ⟨hcheck, hrest⟩ := checkRefinements_cons_eq_accepted h
    obtain ⟨between, hfront, hback⟩ := ih hrest
    exact ⟨between, by rw [checkRefinements, hcheck]; exact hfront, hback⟩

/-! ## Allowed values -/

/-- Allowed values are accepted in any case of their letters, and handed on in lower case. -/
theorem oneOf_turns {allowed : List TextValue} {v : Value} {text : String}
    (htext : v.asText? = some text)
    (h : ∃ option ∈ allowed, Text.lowercase text = Text.lowercase option.text) :
    (oneOf overrides field allowed).Turns v (.text (Text.lowercase text)) := by
  refine turns_ofKind_string htext fun input => ?_
  have hallowed : Refinement.isOneOf allowed (Text.lowercase text) = true := by
    obtain ⟨option, hoption, hsame⟩ := h
    rw [Refinement.isOneOf, Text.lowercase_lowercase, List.contains_iff_mem, hsame]
    exact List.mem_map_of_mem hoption
  have hone : ∀ message, (Refinement.oneOf allowed message).check
      (.text (Text.lowercase text)) = .ok none := fun message =>
    congrArg Except.ok (if_pos hallowed)
  exact checkRefinements_of_forall input
    (List.forall_mem_singleton.mpr RefinementKind.noConfusion)
    (List.forall_mem_singleton.mpr (hone _))

/-- What the refinements of allowed values hand on is in lower case. -/
theorem eq_lowercase_of_oneOf {allowed : List TextValue} {input w : Value} {text : String}
    (h : checkRefinements input (oneOf overrides field allowed).facts.refinements (.text text) =
      .ok (.accepted w)) : w = .text (Text.lowercase text) := by
  obtain ⟨-, hrest⟩ := checkRefinements_cons_eq_accepted h
  exact (checkRefinements_eq_accepted (List.forall_mem_singleton.mpr RefinementKind.noConfusion)
    hrest).1

/-! ## Object identifiers -/

/-- The condition of object identifiers on a text. -/
theorem objectId_check_eq_ok_none_iff {text : String} :
    objectId.check (.text text) = .ok none ↔
      text.length = 24 ∧ text.toList.all Text.isHexDigit = true := by
  have hcheck : objectId.check (.text text) = .ok (Refinement.checkObjectId ObjectId.isValid
      (.text "Invalid ObjectId") (.text "Invalid ObjectId format") text) := rfl
  rw [hcheck, Except.ok.injEq, Refinement.checkObjectId_eq_none_iff]
  exact and_congr_right fun hlength => ObjectId.isValid_iff hlength

/-- Twenty-four hexadecimal digits are accepted as they are. -/
theorem objectId_turns {v : Value} {text : String} (htext : v.asText? = some text)
    (hlength : text.length = 24) (hdigits : text.toList.all Text.isHexDigit = true) :
    (ofCategory .objectId).Turns v (.text text) :=
  turns_ofKind_string htext fun input => checkRefinements_of_forall input
    (List.forall_mem_singleton.mpr RefinementKind.noConfusion)
    (List.forall_mem_singleton.mpr (objectId_check_eq_ok_none_iff.mpr ⟨hlength, hdigits⟩))

/-- What the refinements of object identifiers hand on are hexadecimal digits. -/
theorem isHexDigit_of_objectId {input w : Value} {text : String}
    (h : checkRefinements input (ofCategory .objectId).facts.refinements (.text text) =
      .ok (.accepted w)) : w = .text text ∧ text.toList.all Text.isHexDigit = true := by
  obtain ⟨hw, hchecked⟩ := checkRefinements_eq_accepted
    (List.forall_mem_singleton.mpr RefinementKind.noConfusion) h
  exact ⟨hw, (objectId_check_eq_ok_none_iff.mp (hchecked _ (List.mem_singleton_self _))).2⟩

/-! ## The name of a field -/

/-- A rule for texts after the name of its field was looked at. -/
def guarded (field : TextValue) (rule : Rule) : Rule :=
  if isPasswordName field then rule.refine [.strong (.text (Message.strongPassword field))]
  else rule

/-- Under a name that mentions a password a rule for texts refuses everything, if none of what it
hands on is a strong password. -/
theorem guarded_refuses (hname : isPasswordName field = true) (hkind : rule.kind = .string)
    (hweak : ∀ input text w, checkRefinements input rule.facts.refinements (.text text) =
      .ok (.accepted w) → ∀ message, (Refinement.strong message).check w ≠ .ok none) (v : Value) :
    (guarded field rule).Refuses v := by
  rw [guarded, if_pos hname]
  refine refuses_of_string ((kind_refine _ _).trans hkind) (fun input text w h => ?_) v
  rw [facts_refine] at h
  obtain ⟨between, hfront, hback⟩ := exists_of_checkRefinements_append h
  exact hweak input text between hfront _ (checkRefinements_cons_eq_accepted hback).1

/-- The rule of a type whose items or parts are not described. -/
theorem ofType_of_null {spec : FieldSpec} (hitems : spec.get "items" = .null)
    (hschema : spec.get "schema" = .null) (t : CanonicalType) :
    ofType overrides field t spec = .ok (ofCategory t) := by
  have hopen : ∀ part made, spec.get part = .null → orEndless spec part made = .ok made := by
    intro part made hnone
    rw [orEndless, FieldSpec.refersBack, hnone]
    rfl
  have hnoItems : spec.items? = none := by rw [FieldSpec.items?, hitems]; rfl
  have hnoParts : spec.schema? = none := by rw [FieldSpec.schema?, hschema]; rfl
  unfold ofType
  split
  · split
    · rename_i item hitem
      cases hnoItems.symm.trans hitem
    · exact hopen "items" _ hitems
  · split
    · rename_i entries hentries
      cases hnoParts.symm.trans hentries
    · exact hopen "schema" _ hschema
  · rfl

/-- A field that is described by a type and modifiers, among which there are no parts, no pattern
and no default. -/
theorem ofForm_guarded {spec : FieldSpec} {t : CanonicalType} {made : Rule}
    (htype : spec.type.category? = some t) (hitems : spec.get "items" = .null)
    (hschema : spec.get "schema" = .null) (hregex : spec.has "regex" = false)
    (hdefault : spec.has "default" = false)
    (hmade : applyModifiers overrides field (ofCategory t) spec.modifiers = .ok made)
    (hkind : made.kind = .string) :
    (ofForm overrides field (.single spec)).result = .ok (guarded field made) := by
  have htypeRule : (ofType overrides field t spec).result = .ok (ofCategory t) := by
    rw [ofType_of_null hitems hschema]
    rfl
  have hfinish : finish field spec made = guarded field made := by
    rw [finish_of_string spec hkind, relax, hdefault, hregex, Bool.not_false, Bool.and_true]
    rfl
  rw [ofForm]
  exact Logged.result_andThen_eq_ok_iff.mpr ⟨t,
    Compiling.result_ofDefinition_eq_ok_iff.mpr ((Value.categoryFor_eq_ok_iff _ _ _).mpr htype),
    Logged.result_andThen_eq_ok_iff.mpr ⟨_, htypeRule,
      Logged.result_andThen_eq_ok_iff.mpr ⟨made, hmade, congrArg Except.ok hfinish⟩⟩⟩

/-- The rule of a field that states nothing but allowed values. -/
theorem ofField_allowed {raw type key stated : Value} {t : CanonicalType} {allowed : List TextValue}
    (hread : FieldForm.read (some field) raw = .ok (.single ⟨type, [(key, stated)]⟩))
    (htype : type.category? = some t) (hkey : key.asText? = some "enum")
    (hstated : stated.StatesTexts allowed) :
    (ofField overrides field raw).result = .ok (guarded field (oneOf overrides field allowed)) := by
  have hother : ∀ name, name ≠ "enum" → key.asText? ≠ some name := by
    rintro name hname hsame
    exact hname (Option.some.inj (hsame.symm.trans hkey))
  have hget : ∀ name, name ≠ "enum" → (FieldSpec.mk type ([] ++ [(key, stated)])).get name =
      (FieldSpec.mk type ([] ++ [])).get name :=
    fun name hname => FieldSpec.get_append_cons (hother name hname)
  have hhas : ∀ name, name ≠ "enum" → (FieldSpec.mk type ([] ++ [(key, stated)])).has name =
      (FieldSpec.mk type ([] ++ [])).has name :=
    fun name hname => FieldSpec.has_append_cons (hother name hname)
  have hmade : applyModifiers overrides field (ofCategory t) [(key, stated)] =
      .ok (oneOf overrides field allowed) := by
    rw [applyModifiers, hkey]
    dsimp only
    rw [applyModifier_enum, allowedValues?_eq_ok_some_iff.mpr hstated]
    rfl
  refine Logged.result_andThen_eq_ok_iff.mpr
    ⟨_, Compiling.result_ofDefinition_eq_ok_iff.mpr hread, ?_⟩
  exact ofForm_guarded htype (hget _ (by decide)) (hget _ (by decide)) (hhas _ (by decide))
    (hhas _ (by decide)) hmade rfl

/-- The rule of a field that states nothing but that it is for object identifiers. -/
theorem ofField_objectId {raw type : Value}
    (hread : FieldForm.read (some field) raw = .ok (.single ⟨type, []⟩))
    (htype : type.category? = some .objectId) :
    (ofField overrides field raw).result = .ok (guarded field (ofCategory .objectId)) :=
  Logged.result_andThen_eq_ok_iff.mpr ⟨_, Compiling.result_ofDefinition_eq_ok_iff.mpr hread,
    ofForm_guarded htype rfl rfl rfl rfl rfl rfl⟩

/-- **Fields that are made for some texts.**  A field that states nothing but allowed values,
whatever its type, or nothing but that it is for object identifiers, has a rule.  Under a name that
does not mention a password the rule turns the allowed values, in any case of their letters, to
lower case, and accepts object identifiers as they are.  Under a name that mentions one it refuses
everything. -/
theorem ofField_builtIn (overrides : Overrides) (field : TextValue) (raw type : Value) :
    (∀ t key stated allowed, type.categoryFor (some field) = .ok t →
      FieldForm.read (some field) raw = .ok (.single ⟨type, [(key, stated)]⟩) →
      key.asText? = some "enum" → stated.StatesTexts allowed →
      ∃ rule, (ofField overrides field raw).result = .ok rule ∧
        (isPasswordName field = false → ∀ v text, v.asText? = some text →
          (∃ option ∈ allowed, Text.lowercase text = Text.lowercase option.text) →
            rule.Turns v (.text (Text.lowercase text))) ∧
        (isPasswordName field = true → ∀ v, rule.Refuses v)) ∧
    (type.categoryFor (some field) = .ok .objectId →
      FieldForm.read (some field) raw = .ok (.single ⟨type, []⟩) →
      ∃ rule, (ofField overrides field raw).result = .ok rule ∧
        (isPasswordName field = false → ∀ v text, v.asText? = some text → text.length = 24 →
          text.toList.all Text.isHexDigit = true → rule.Turns v (.text text)) ∧
        (isPasswordName field = true → ∀ v, rule.Refuses v)) := by
  have hunguarded : isPasswordName field = false → ∀ rule, guarded field rule = rule := by
    intro hname rule
    rw [guarded, hname]
    rfl
  constructor
  · intro t key stated allowed htype hread hkey hstated
    refine ⟨_, ofField_allowed hread ((Value.categoryFor_eq_ok_iff _ _ _).mp htype) hkey hstated,
      fun hname v text htext hoption => ?_, fun hname v => ?_⟩
    · rw [hunguarded hname]
      exact oneOf_turns htext hoption
    · refine guarded_refuses hname rfl (fun input text w h message => ?_) v
      rw [eq_lowercase_of_oneOf h]
      exact Refinement.strong_check_lowercase message text
  · intro htype hread
    refine ⟨_, ofField_objectId hread ((Value.categoryFor_eq_ok_iff _ _ _).mp htype),
      fun hname v text htext hlength hdigits => ?_, fun hname v => ?_⟩
    · rw [hunguarded hname]
      exact objectId_turns htext hlength hdigits
    · refine guarded_refuses hname rfl (fun input text w h message => ?_) v
      obtain ⟨rfl, hdigits⟩ := isHexDigit_of_objectId h
      exact Refinement.strong_check_objectId message hdigits

/-- A field for numbers of which two kinds are allowed. -/
def kindField : Value :=
  .spec (.canonical .number) [(.text "enum", .tuple [.text "Plain", .text "Hashed"])]

/-- A field for object identifiers. -/
def ownerField : Value := .map [(.text "type", .text "ObjectId")]

/-- Kinds and owners are accepted, but neither the kind nor the owner of a password. -/
theorem ofField_builtIn_kind :
    (∃ rule, (ofField .none (.plain "kind") kindField).result = .ok rule ∧
      rule.Turns (.text "PLAIN") (.text "plain")) ∧
    (∃ rule, (ofField .none (.plain "password_kind") kindField).result = .ok rule ∧
      rule.Refuses (.text "plain")) ∧
    (∃ rule, (ofField .none (.plain "owner") ownerField).result = .ok rule ∧
      rule.Turns (.text "0123456789abcdefABCDEF01") (.text "0123456789abcdefABCDEF01")) ∧
    ∃ rule, (ofField .none (.plain "PasswordOwner") ownerField).result = .ok rule ∧
      rule.Refuses (.text "0123456789abcdefABCDEF01") := by
  have hstated : (Value.tuple [.text "Plain", .text "Hashed"]).StatesTexts
      [.plain "Plain", .plain "Hashed"] :=
    ⟨List.cons_ne_nil _ _, rfl⟩
  have hsame : Text.lowercase "PLAIN" = "plain" := by with_unfolding_all rfl
  have hallowed : Text.lowercase "Plain" = "plain" := by with_unfolding_all rfl
  have htoken : (Value.text "ObjectId").category? = some .objectId := by with_unfolding_all rfl
  have htype : ∀ field, (Value.text "ObjectId").categoryFor (some field) = .ok .objectId :=
    fun field => (Value.categoryFor_eq_ok_iff _ _ _).mpr htoken
  refine ⟨?_, ?_, ?_, ?_⟩
  · obtain ⟨rule, hrule, hturns, -⟩ := (ofField_builtIn .none (.plain "kind") kindField _).1 _ _ _ _
      rfl rfl rfl hstated
    have hname : isPasswordName (.plain "kind") = false := by with_unfolding_all rfl
    have hplain := hturns hname (.text "PLAIN") "PLAIN" rfl
      ⟨_, List.mem_cons_self, hsame.trans hallowed.symm⟩
    exact ⟨rule, hrule, hsame ▸ hplain⟩
  · obtain ⟨rule, hrule, -, hrefuses⟩ :=
      (ofField_builtIn .none (.plain "password_kind") kindField _).1 _ _ _ _ rfl rfl rfl hstated
    exact ⟨rule, hrule, hrefuses (by with_unfolding_all rfl) _⟩
  · obtain ⟨rule, hrule, hturns, -⟩ :=
      (ofField_builtIn .none (.plain "owner") ownerField _).2 (htype _) rfl
    exact ⟨rule, hrule, hturns (by with_unfolding_all rfl) _ _ rfl (by decide) (by decide)⟩
  · obtain ⟨rule, hrule, -, hrefuses⟩ :=
      (ofField_builtIn .none (.plain "PasswordOwner") ownerField _).2 (htype _) rfl
    exact ⟨rule, hrule, hrefuses (by with_unfolding_all rfl) _⟩

end Rule

end FieldSchema
