import FieldSchema.Proofs.Pattern.FormatPatterns
import FieldSchema.Proofs.Rule.PasswordNames
import FieldSchema.Proofs.Storage.Admission
import FieldSchema.Storage.OfField
import FieldSchema.Value.Conversion

/-!
# What formats accept

A format is documented in several places: by the condition of a rule, by the keywords of a
documented schema, by the check that storage keeps, and by what can be made of a text.  For each
format these are shown to accept the same texts, and the texts are described without a pattern.

The end of a pattern is also the place before a line break that ends the text.  The keywords of
object identifiers state the length beside the pattern, which leaves no room for a line break.  Mail
addresses have no such keyword, and both conditions on them accept one line break too many.

What is taken for an object identifier is up to the library that makes them.  Bytes are read from
pairs of digits, over blanks between them, so it is the number of the bytes that keeps blanks out.

* `Value.Satisfies`, `Value.MeetsHints`: the keywords of documented schemas.
* `Refinement.objectId_accepts_iff`: object identifiers.
* `Refinement.email_accepts_iff`: mail addresses.
* `Refinement.strong_accepts_iff`: strong passwords.
-/

namespace FieldSchema

/-! ## Keywords of documented schemas -/

namespace Measure

theorem leastKeyword_injective {m m' : Measure} (h : m.leastKeyword = m'.leastKeyword) :
    m = m' := by
  cases m <;> cases m' <;> first | rfl | exact absurd h (by decide)

theorem mostKeyword_injective {m m' : Measure} (h : m.mostKeyword = m'.mostKeyword) :
    m = m' := by
  cases m <;> cases m' <;> first | rfl | exact absurd h (by decide)

theorem leastKeyword_ne_mostKeyword (m m' : Measure) : m.leastKeyword ≠ m'.mostKeyword := by
  cases m <;> cases m' <;> decide

theorem leastKeyword_ne (m : Measure) : m.leastKeyword ≠ "pattern" ∧ m.leastKeyword ≠ "enum" := by
  cases m <;> decide

theorem mostKeyword_ne (m : Measure) : m.mostKeyword ≠ "pattern" ∧ m.mostKeyword ≠ "enum" := by
  cases m <;> decide

end Measure

namespace Value

/-- A value satisfies what a documented schema states under a keyword.  Bounds hold of values that
have the measure, a pattern is searched in texts, and the options under `enum` are all there is. -/
structure Satisfies (v : Value) (keyword : String) (stated : Value) : Prop where
  least : ∀ measure : Measure, keyword = measure.leastKeyword →
    v.isWithin measure true stated = true
  most : ∀ measure : Measure, keyword = measure.mostKeyword →
    v.isWithin measure false stated = true
  pattern : keyword = "pattern" → ∀ source text, stated.asText? = some source →
    v.asText? = some text → Regex.hasMatch source .none text = .ok true
  options : keyword = "enum" → ∃ option ∈ stated.listed, option.equals v = true

/-- A value satisfies all that a documented schema says about a refinement. -/
def MeetsHints (v : Value) (r : Refinement) : Prop := ∀ hint ∈ r.hints, v.Satisfies hint.1 hint.2

variable {v stated : Value}

theorem satisfies_least_iff {measure : Measure} :
    v.Satisfies measure.leastKeyword stated ↔ v.isWithin measure true stated = true := by
  constructor
  · exact fun h => h.least measure rfl
  · intro h
    refine ⟨fun other hother => ?_, fun other hother => ?_, fun hname => ?_, fun hname => ?_⟩
    · obtain rfl := Measure.leastKeyword_injective hother
      exact h
    · exact absurd hother (Measure.leastKeyword_ne_mostKeyword measure other)
    · exact absurd hname measure.leastKeyword_ne.1
    · exact absurd hname measure.leastKeyword_ne.2

theorem satisfies_most_iff {measure : Measure} :
    v.Satisfies measure.mostKeyword stated ↔ v.isWithin measure false stated = true := by
  constructor
  · exact fun h => h.most measure rfl
  · intro h
    refine ⟨fun other hother => ?_, fun other hother => ?_, fun hname => ?_, fun hname => ?_⟩
    · exact absurd hother.symm (Measure.leastKeyword_ne_mostKeyword other measure)
    · obtain rfl := Measure.mostKeyword_injective hother
      exact h
    · exact absurd hname measure.mostKeyword_ne.1
    · exact absurd hname measure.mostKeyword_ne.2

theorem satisfies_pattern_iff {source text : String} (htext : v.asText? = some text) :
    v.Satisfies "pattern" (.text source) ↔ Regex.hasMatch source .none text = .ok true := by
  constructor
  · exact fun h => h.pattern rfl source text rfl htext
  · intro h
    refine ⟨fun other hother => ?_, fun other hother => ?_, fun _ => ?_, fun hname => ?_⟩
    · exact absurd hother.symm other.leastKeyword_ne.1
    · exact absurd hother.symm other.mostKeyword_ne.1
    · rintro source' text' hsource htext'
      obtain rfl : source = source' := Option.some.inj hsource
      obtain rfl : text = text' := Option.some.inj (htext.symm.trans htext')
      exact h
    · exact absurd hname (by decide)

/-- Lengths between two equal whole numbers. -/
theorem isWithin_length_iff {text : String} (htext : v.asText? = some text) (n : Nat) :
    v.isWithin .length true (.int n) = true ∧ v.isWithin .length false (.int n) = true ↔
      text.length = n := by
  have hsize : Measure.length.of? v = some (.int text.length) := by
    rw [Measure.of?, htext]
    rfl
  have hlt : ∀ a b : Nat, (Number.int a).lt (.int b) = true ↔ a < b := by
    intro a b
    simp [Number.lt, Number.compare?, compare_lt_iff_lt]
  have hnot : ∀ a b : Nat, (!(Number.int a).lt (.int b)) = true ↔ ¬a < b := by
    intro a b
    rw [Bool.not_eq_true', ← Bool.not_eq_true, hlt]
  have hleast : v.isWithin .length true (.int n) = true ↔ ¬text.length < n := by
    rw [isWithin, hsize]
    exact hnot _ _
  have hmost : v.isWithin .length false (.int n) = true ↔ ¬n < text.length := by
    rw [isWithin, hsize]
    exact hnot _ _
  rw [hleast, hmost]
  omega

end Value

/-! ## Object identifiers -/

namespace Value

variable {v : Value} {text : String}

/-- The keywords of object identifiers state the identifiers: the pattern leaves room for a line
break at the end, and the length does not. -/
theorem meetsHints_objectId_iff (htext : v.asText? = some text)
    (lengthMessage formatMessage : Value) :
    v.MeetsHints (.objectId lengthMessage formatMessage) ↔ Text.IsIdentifier text.toList := by
  have hkeywords : v.MeetsHints (.objectId lengthMessage formatMessage) ↔
      v.Satisfies "pattern" (.text objectIdPattern) ∧
        v.Satisfies Measure.length.leastKeyword (.int 24) ∧
          v.Satisfies Measure.length.mostKeyword (.int 24) := by
    simp [MeetsHints, Refinement.hints, Measure.leastKeyword, Measure.mostKeyword]
  obtain ⟨found, hmatch, hfound⟩ := Regex.hasMatch_objectIdPattern text
  have hlength : v.isWithin .length true (.int 24) = true ∧
      v.isWithin .length false (.int 24) = true ↔ text.length = 24 := isWithin_length_iff htext 24
  rw [hkeywords, satisfies_pattern_iff htext, satisfies_least_iff, satisfies_most_iff, hlength,
    hmatch, Except.ok.injEq, hfound, ← String.length_toList]
  constructor
  · rintro ⟨⟨digits, rest, hsplit, hrest, hdigits⟩, hlong⟩
    have hnone : rest = [] := by
      have htotal : digits.length + rest.length = 24 := by
        rw [← List.length_append, ← hsplit, hlong]
      have hdigitsLong := hdigits.long
      exact List.length_eq_zero_iff.mp (by omega)
    rw [hsplit, hnone, List.append_nil]
    exact hdigits
  · intro hdigits
    exact ⟨⟨text.toList, [], (List.append_nil _).symm, .inl rfl, hdigits⟩, hdigits.long⟩

end Value

namespace Refinement

variable {isValid : String → Bool}

/-- What the format of object identifiers says about a value, given which texts are taken for
identifiers. -/
def checkIdentifier (isValid : String → Bool) (lengthMessage formatMessage v : Value) :
    Option Rejection :=
  match v.asText? with
  | some text => checkObjectId isValid lengthMessage formatMessage text
  | none => some (.wrongKind "string" v)

theorem checkIdentifier_eq_none_iff {lengthMessage formatMessage v : Value} :
    checkIdentifier isValid lengthMessage formatMessage v = none ↔
      ∃ text, v.asText? = some text ∧ text.length = 24 ∧ isValid text = true := by
  rw [checkIdentifier]
  cases v.asText? with
  | none => simp
  | some text =>
    dsimp only
    rw [checkObjectId_eq_none_iff]
    exact ⟨fun h => ⟨text, rfl, h⟩, fun ⟨_, hsame, h⟩ => Option.some.inj hsame ▸ h⟩

/-- A library that does not count the bytes takes pairs of digits with blanks around them, and then
the condition agrees with its keywords on a text unless it accepts it with a blank in it. -/
theorem checkIdentifier_of_pairs
    (hlibrary : ∀ text, text.length = 24 →
      (isValid text = true ↔ (Text.bytesOfHex? text).isSome = true))
    {v : Value} {text : String} (htext : v.asText? = some text)
    (lengthMessage formatMessage : Value) :
    (checkIdentifier isValid lengthMessage formatMessage v = none ↔
      text.length = 24 ∧ Text.IsPaired text.toList) ∧
    ((checkIdentifier isValid lengthMessage formatMessage v = none ↔
        v.MeetsHints (objectId lengthMessage formatMessage)) ↔
      ¬(checkIdentifier isValid lengthMessage formatMessage v = none ∧
        ∃ c ∈ text.toList, Text.isAsciiBlank c.toNat = true)) := by
  have haccepts : checkIdentifier isValid lengthMessage formatMessage v = none ↔
      text.length = 24 ∧ Text.IsPaired text.toList := by
    rw [checkIdentifier_eq_none_iff, htext]
    simp only [Option.some.injEq, exists_eq_left']
    refine and_congr_right fun hlength => (hlibrary text hlength).trans ?_
    exact Text.isSome_bytesOfHexChars?_iff
  have hidentifier : Text.IsIdentifier text.toList ↔ (text.length = 24 ∧
      Text.IsPaired text.toList) ∧ ∀ c ∈ text.toList, Text.isAsciiBlank c.toNat = false := by
    rw [Text.isIdentifier_iff, String.length_toList]
    constructor
    · rintro ⟨hlength, hdigits⟩
      exact ⟨⟨hlength, Text.isPaired_of_digits 12 (String.length_toList.trans hlength) hdigits⟩,
        fun c hc => Text.not_isAsciiBlank_of_isHexDigit (hdigits c hc)⟩
    · rintro ⟨⟨hlength, hpaired⟩, hblank⟩
      exact ⟨hlength, hpaired.digits hblank⟩
  refine ⟨haccepts, ?_⟩
  rw [haccepts, Value.meetsHints_objectId_iff htext, hidentifier, iff_self_and, not_and,
    not_exists]
  simp only [not_and, Bool.not_eq_true]

end Refinement

/-! ## Mail addresses -/

namespace StoredField

variable {field : TextValue} {isArrayType : Bool} {stored made : StoredField}

/-- The check after modifiers that state no pattern is the one before, or that of mail addresses. -/
theorem check?_of_applyModifier {modifier : Value × Value}
    (h : (applyModifier field isArrayType stored modifier).result = .ok made)
    (hpattern : modifier.1.asText? ≠ some "regex") :
    made.check? = stored.check? ∨ made.check? = some .email := by
  rcases (step_of_applyModifier h).check?_eq with hkept | ⟨-, -, hmail⟩ | ⟨hregex, -⟩
  · exact .inl hkept
  · exact .inr hmail
  · exact absurd hregex hpattern

/-- A modifier that asks for mail addresses brings their check. -/
theorem check?_of_mail {key v : Value} (hkey : key.asText? = some "email") (hv : v.isTrue = true)
    (h : (applyModifier field isArrayType stored (key, v)).result = .ok made) :
    made.check? = some .email := by
  unfold applyModifier at h
  simp only [hkey, hv] at h
  exact (Except.ok.inj h) ▸ rfl

/-- Among modifiers that state no pattern, one that asks for mail addresses decides the check,
wherever it stands. -/
theorem check?_of_applyModifiers {modifiers : List (Value × Value)}
    (h : (applyModifiers field isArrayType stored modifiers).result = .ok made)
    (hpattern : ∀ m ∈ modifiers, m.1.asText? ≠ some "regex")
    (hmail : stored.check? = some .email ∨
      ∃ m ∈ modifiers, m.1.asText? = some "email" ∧ m.2.isTrue = true) :
    made.check? = some .email := by
  induction modifiers generalizing stored with
  | nil =>
    obtain rfl := Except.ok.inj h
    rcases hmail with hstored | ⟨m, hm, -⟩
    · exact hstored
    · cases hm
  | cons modifier rest ih =>
    obtain ⟨next, hnext, hrest⟩ := Logged.result_andThen_eq_ok_iff.mp h
    refine ih hrest (fun m hm => hpattern m (List.mem_cons_of_mem modifier hm)) ?_
    rcases hmail with hstored | ⟨m, hm, hkey, hv⟩
    · rcases check?_of_applyModifier hnext (hpattern modifier List.mem_cons_self) with hkept | hmade
      · exact .inl (hkept.trans hstored)
      · exact .inl hmade
    · rcases List.mem_cons.mp hm with rfl | hm
      · exact .inl (check?_of_mail hkey hv hnext)
      · exact .inr ⟨m, hm, hkey, hv⟩

end StoredField

/-- **Mail addresses.**  Take a field that asks for mail addresses and states no pattern.  The
condition of the rule and the check that storage keeps give every text the same answer.  They accept
the mail addresses, and mail addresses with one line break after them. -/
theorem Refinement.email_accepts_iff {message v : Value} {text : String} {field : TextValue}
    {spec : FieldSpec} {stored : StoredField} (htext : v.asText? = some text)
    (hmail : ∃ m ∈ spec.modifiers, m.1.asText? = some "email" ∧ m.2.isTrue = true)
    (hpattern : ∀ m ∈ spec.modifiers, m.1.asText? ≠ some "regex")
    (hstored : (StoredField.ofSpec field spec).result = .ok stored) :
    ∃ found check,
      (email message).check v = .ok (if found then none else
        some ⟨message, .invalidEmail, "invalid_format", none, some "email"⟩) ∧
      stored.check? = some check ∧ check.accepts v = .ok found ∧
      (found = true ↔ ∃ address rest, text.toList = address ++ rest ∧
        (rest = [] ∨ rest = ['\n']) ∧ Text.IsMailAddress address) := by
  obtain ⟨found, hsearch, hstart, hfound⟩ := Regex.answers_emailPattern text
  refine ⟨found, .email, ?_, StoredField.check?_of_applyModifiers hstored hpattern (.inr hmail),
    ?_, hfound⟩
  · have hcheck : (email message).check v = answerOf (Regex.startsWithMatch emailPattern text)
        ⟨message, .invalidEmail, "invalid_format", none, some "email"⟩ := by
      rw [check_of_text (fun _ => RefinementKind.noConfusion) htext, checkText]
    rw [hcheck, hstart]
    cases found <;> rfl
  · have hnull : v.isNull = false := Value.isNull_of_asText? htext
    have haccepts : FormatCheck.email.accepts v =
        Regex.hasMatch FormatCheck.email.pattern.text FormatCheck.email.flags text := by
      rw [FormatCheck.accepts, hnull, if_neg Bool.false_ne_true, htext]
    rw [haccepts]
    exact hsearch

/-- A mail address with a line break after it is accepted on both sides. -/
theorem Refinement.email_accepts_lineBreak :
    ∃ found check,
      (email (.text "Invalid email format")).check (.text "a@b.co\n") =
        .ok (if found then none else some ⟨.text "Invalid email format", .invalidEmail,
          "invalid_format", none, some "email"⟩) ∧
      (StoredField.withCheck { type := .canonical .string } .email).check? = some check ∧
      check.accepts (.text "a@b.co\n") = .ok found ∧
      (found = true ↔ ∃ address rest, "a@b.co\n".toList = address ++ rest ∧
        (rest = [] ∨ rest = ['\n']) ∧ Text.IsMailAddress address) :=
  @email_accepts_iff (.text "Invalid email format") (.text "a@b.co\n") "a@b.co\n" (.plain "contact")
    ⟨.canonical .string, [(.text "email", .bool true)]⟩ _ rfl
    ⟨_, List.mem_singleton_self _, rfl, rfl⟩ (by decide) rfl

/-! ## Strong passwords -/

namespace Refinement

/-- The usable pattern of the condition of strong passwords. -/
theorem ofValues_strong :
    Regex.ofValues (.text passwordPattern) (.int 0) = .ok Pattern.password := by
  have hsource : Regex.ofValues (.text passwordPattern) (.int 0) =
      Regex.ofSource passwordPattern (.int 0) .text := rfl
  have hcompiled : Regex.compile passwordPattern (.ofInt 0) .text = .ok Pattern.password :=
    Pattern.compile_passwordPattern
  have hread : Regex.ofSource passwordPattern (.int 0) .text =
      (Regex.compile passwordPattern (.ofInt 0) .text).bind fun regex =>
        if Regex.flagsFit 0 then pure regex else .error .flagsTooLarge := rfl
  have hfit : Regex.flagsFit 0 = true := by decide
  rw [hsource, hread, hcompiled, Except.bind, if_pos hfit]
  rfl

/-- **Strong passwords.**  The condition has an answer for every text.  Of the texts without line
breaks it accepts exactly the strong passwords. -/
theorem strong_accepts_iff {message v : Value} {text : String} (htext : v.asText? = some text)
    (hline : '\n' ∉ text.toList) :
    ∃ found, (strong message).check v = .ok (if found then none else
        some ⟨message, .invalidFormat, "invalid_format", none, some "regex"⟩) ∧
      (found = true ↔ Text.IsStrongPassword text.toList) := by
  obtain ⟨found, hmatch, hfound⟩ := Regex.hasMatch_passwordPattern text
  have hsearch : Pattern.password.search text = .ok found := by
    rw [Regex.hasMatch, Pattern.compile_passwordPattern] at hmatch
    exact hmatch
  have hcheck : (strong message).check v = answerOf (.ok found)
      ⟨message, .invalidFormat, "invalid_format", none, some "regex"⟩ := by
    rw [check_of_text (fun _ => RefinementKind.noConfusion) htext, strong, checkText,
      ofValues_strong, ← hsearch]
    rfl
  refine ⟨found, ?_, hfound.trans ?_⟩
  · rw [hcheck]
    cases found <;> rfl
  · constructor
    · rintro ⟨run, rest, hsplit, hrest, hstrong⟩
      rcases hrest with rfl | rfl
      · rwa [hsplit, List.append_nil]
      · exact absurd (hsplit ▸ List.mem_append_right run (List.mem_singleton_self '\n')) hline
    · exact fun hstrong => ⟨text.toList, [], (List.append_nil _).symm, .inl rfl, hstrong⟩

theorem strong_accepts_letters :
    ('\n' ∉ "Str0ng!pass".toList) ∧
      ∃ found, (strong (.text "weak")).check (.text "Str0ng!pass") =
          .ok (if found then none else
            some ⟨.text "weak", .invalidFormat, "invalid_format", none, some "regex"⟩) ∧
        (found = true ↔ Text.IsStrongPassword "Str0ng!pass".toList) :=
  ⟨by decide, strong_accepts_iff rfl (by decide)⟩

end Refinement

end FieldSchema
