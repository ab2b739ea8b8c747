import FieldSchema.Proofs.Number.Digits
import FieldSchema.Signature.Payload
import Mathlib.Tactic.FinCases

/-!
# Reading the text of a payload

The text of a payload can be read in one way only.  Payloads are written without lengths and
without blanks, so that this rests on what may stand next to what: a number goes on until a comma
or a closing bracket, a quoted text until the first quote that is not escaped, and everything else
opens with a character of its own.

## The induction

A payload is written in front of a rest, and the rest of every payload begins with a comma or a
closing bracket if it is not empty (`endsPayload`).  With that as the only condition on the rests,
two equal texts come from payloads that are alike and from equal rests (`writeOnto_reads`), by
induction on the first payload.  The first character settles which of the two shapes are compared
(`Payload.opening`), and there is one case for each shape.

Doubles come out equal as texts: `Payload.Alike` is equality of payloads up to that.

* `readEscaped`: a character of a quoted text, read back.
* `Payload.Alike`: payloads with the same text.
* `Payload.toText_eq_iff`: texts are equal exactly when the payloads are alike.
-/

namespace FieldSchema

namespace Payload

/-! ## Characters inside quotes -/

/-- The number of a lowercase hexadecimal digit. -/
def hexDigitValue (c : Char) : Nat := if c.isDigit then c.toNat - 0x30 else c.toNat - 0x57

/-- The first code point of a text inside quotes, read back from its escape, and what follows.  A
bare quote is no character of the text. -/
def readEscaped : List Char → Option (CodePoint × List Char)
  | [] => none
  | '"' :: _ => none
  | '\\' :: 'n' :: rest => some (.char '\n', rest)
  | '\\' :: 'r' :: rest => some (.char '\r', rest)
  | '\\' :: 't' :: rest => some (.char '\t', rest)
  | '\\' :: 'b' :: rest => some (.char (Char.ofNat 8), rest)
  | '\\' :: 'f' :: rest => some (.char (Char.ofNat 12), rest)
  | '\\' :: 'u' :: 'd' :: second :: high :: low :: rest =>
    some (.surrogate (Fin.ofNat 0x800 (256 * (hexDigitValue second - 8) +
      16 * hexDigitValue high + hexDigitValue low)), rest)
  | '\\' :: 'u' :: _ :: _ :: high :: low :: rest =>
    some (.char (Char.ofNat (16 * hexDigitValue high + hexDigitValue low)), rest)
  | '\\' :: c :: rest => some (.char c, rest)
  | c :: rest => some (.char c, rest)

theorem hexDigitValue_hexDigit {n : Nat} (h : n < 16) : hexDigitValue (Text.hexDigit n) = n := by
  have hall : ∀ n : Fin 16, hexDigitValue (Text.hexDigit n) = n := by decide
  exact hall ⟨n, h⟩

/-- An escaped character is read back, whatever follows it. -/
theorem readEscaped_escape (c : Char) (rest : List Char) :
    readEscaped (escape c ++ rest) = some (.char c, rest) := by
  unfold escape
  by_cases hquote : c = '"'
  · subst hquote; rfl
  by_cases hslash : c = '\\'
  · subst hslash; rfl
  by_cases hn : c = '\n'
  · subst hn; rfl
  by_cases hr : c = '\r'
  · subst hr; rfl
  by_cases ht : c = '\t'
  · subst ht; rfl
  by_cases hb : c.toNat = 8
  · have hc : c = Char.ofNat 8 := by rw [← hb, Char.ofNat_toNat]
    subst hc; rfl
  by_cases hf : c.toNat = 12
  · have hc : c = Char.ofNat 12 := by rw [← hf, Char.ofNat_toNat]
    subst hc; rfl
  by_cases hlow : c.toNat < 32
  · have hcode : 16 * (c.toNat / 16 % 16) + c.toNat % 16 = c.toNat := by omega
    have hlead : c.toNat / 16 / 16 / 16 % 16 = 0 := by omega
    have hhigh := hexDigitValue_hexDigit (n := c.toNat / 16 % 16) (by omega)
    have hdigit := hexDigitValue_hexDigit (n := c.toNat % 16) (by omega)
    have hzero : Text.hexDigit 0 = '0' := by decide
    simp [hquote, hslash, hn, hr, ht, hb, hf, hlow, Text.hexFixed, hlead, hzero, readEscaped, hhigh,
      hdigit, hcode]
  · simp only [hquote, hslash, hn, hr, ht, hb, hf, hlow, beq_iff_eq, if_false, List.cons_append,
      List.nil_append]
    rw [readEscaped.eq_def]
    split <;> simp_all

/-- A surrogate is read back from its number. -/
theorem readEscaped_surrogate (place : Fin 0x800) (rest : List Char) :
    readEscaped ((CodePoint.surrogate place).escaped ++ rest) = some (.surrogate place, rest) := by
  have hplace := place.isLt
  have hfirst : (0xD800 + place.val) / 16 / 16 / 16 % 16 = 13 := by omega
  have hsecond := hexDigitValue_hexDigit (n := (0xD800 + place.val) / 16 / 16 % 16) (by omega)
  have hhigh := hexDigitValue_hexDigit (n := (0xD800 + place.val) / 16 % 16) (by omega)
  have hlow := hexDigitValue_hexDigit (n := (0xD800 + place.val) % 16) (by omega)
  have hcode : 256 * ((0xD800 + place.val) / 16 / 16 % 16 - 8) +
      16 * ((0xD800 + place.val) / 16 % 16) + (0xD800 + place.val) % 16 = place.val := by omega
  have hd : Text.hexDigit 13 = 'd' := by decide
  simp only [CodePoint.escaped, CodePoint.code, Text.hexFixed, List.nil_append, List.cons_append,
    hfirst, hd, readEscaped, hsecond, hhigh, hlow, hcode, Fin.ofNat_val_eq_self]

/-- A code point is read back from its escape, whatever follows it. -/
theorem readEscaped_escapePoint (point : CodePoint) (rest : List Char) :
    readEscaped (escapePoint point ++ rest) = some (point, rest) := by
  cases point with
  | char c => exact readEscaped_escape c rest
  | surrogate place => exact readEscaped_surrogate place rest

/-- Nothing is read at the quote that ends a text. -/
theorem readEscaped_quote (rest : List Char) : readEscaped ('"' :: rest) = none := rfl

/-- Texts inside quotes are determined by their escapes up to the closing quote. -/
theorem flatMap_escape_reads {cs ds : List CodePoint} {r s : List Char}
    (h : cs.flatMap escapePoint ++ '"' :: r = ds.flatMap escapePoint ++ '"' :: s) :
    cs = ds ∧ r = s := by
  induction cs generalizing ds with
  | nil =>
    cases ds with
    | nil => simpa using h
    | cons d ds =>
      have hread := congrArg readEscaped h
      rw [List.flatMap_cons, List.append_assoc, readEscaped_escapePoint, List.flatMap_nil,
        List.nil_append, readEscaped_quote] at hread
      contradiction
  | cons c cs ih =>
    cases ds with
    | nil =>
      have hread := congrArg readEscaped h
      rw [List.flatMap_cons, List.append_assoc, readEscaped_escapePoint, List.flatMap_nil,
        List.nil_append, readEscaped_quote] at hread
      contradiction
    | cons d ds =>
      have hread := congrArg readEscaped h
      rw [List.flatMap_cons, List.flatMap_cons, List.append_assoc, List.append_assoc,
        readEscaped_escapePoint, readEscaped_escapePoint, Option.some.injEq, Prod.mk.injEq] at hread
      obtain ⟨rfl, hrest⟩ := hread
      obtain ⟨rfl, hrs⟩ := ih hrest
      exact ⟨rfl, hrs⟩

/-- Quoted code points can be read back, whatever follows them. -/
theorem quotedPoints_reads {cs ds : List CodePoint} {r r' : List Char}
    (h : quotedPoints cs ++ r = quotedPoints ds ++ r') : cs = ds ∧ r = r' := by
  simp only [quotedPoints, List.cons_append, List.append_assoc, List.cons.injEq, true_and,
    List.nil_append] at h
  exact flatMap_escape_reads h

/-- A quoted text is determined by its characters, whatever follows it. -/
theorem quoted_reads {s t : String} {r r' : List Char} (h : quoted s ++ r = quoted t ++ r') :
    s = t ∧ r = r' := by
  obtain ⟨hpoints, hrest⟩ := quotedPoints_reads h
  have hchar : Function.Injective CodePoint.char := fun _ _ => CodePoint.char.inj
  exact ⟨String.toList_inj.mp (List.map_injective_iff.mpr hchar hpoints), hrest⟩

/-- A text without surrogates is none that holds one. -/
theorem chars_ne_points (s : String) (broken : BrokenText) :
    s.toList.map .char ≠ broken.points := by
  intro h
  have hbroken := broken.isBroken
  rw [← h, List.any_map] at hbroken
  obtain ⟨c, -, hc⟩ := List.any_eq_true.mp hbroken
  exact absurd hc Bool.false_ne_true

theorem BrokenText.points_injective {a b : BrokenText} (h : a.points = b.points) : a = b := by
  cases a
  cases b
  cases h
  rfl

/-! ## Numbers -/

/-- Whether a character ends what is written before it. -/
def isStop (c : Char) : Bool := c == ',' || c == ']' || c == '}'

/-- Whether a rest may follow a payload: it is empty, or a comma or a closing bracket begins it. -/
def endsPayload (rest : List Char) : Bool := rest.head?.all isStop

/-- A sign or a digit. -/
def isWholePart (c : Char) : Bool := c.isDigit || c == '-'

/-- The text of a whole number has signs and digits only, and is not empty. -/
theorem intText_shape (n : Int) :
    (∀ c ∈ (toString n).toList, isWholePart c = true) ∧ (toString n).toList ≠ [] := by
  rw [Int.toString_eq_repr, Int.repr_eq_if]
  split
  · refine ⟨?_, toList_toString_ne_nil _⟩
    intro c hc
    simp [isWholePart, isDigit_of_mem_toString (n := n.toNat) hc]
  · rw [String.toList_append]
    refine ⟨?_, by simp⟩
    intro c hc
    rcases List.mem_append.mp hc with hc | hc
    · rw [List.mem_singleton.mp hc]
      decide
    · simp [isWholePart, isDigit_of_mem_toString (n := (-n).toNat) hc]

theorem intText_injective {m n : Int} (h : toString m = toString n) : m = n := by
  have hminus (a b : Nat) : "-" ++ a.repr ≠ b.repr := by
    intro heq
    have hmem : '-' ∈ b.repr.toList := by
      rw [← heq, String.toList_append]
      exact List.mem_append_left _ List.mem_cons_self
    have hdigit := isDigit_of_mem_toString (n := b) hmem
    revert hdigit
    decide
  simp only [Int.toString_eq_repr, Int.repr_eq_if] at h
  split at h <;> split at h
  · have hsame := toString_nat_injective (m := m.toNat) (n := n.toNat) h
    omega
  · exact absurd h.symm (hminus _ _)
  · exact absurd h (hminus _ _)
  · have hrepr := (String.append_right_inj _).mp h
    have hsame := toString_nat_injective (m := (-m).toNat) (n := (-n).toNat) hrepr
    omega

/-- What the text of a double is made of: numerals, or the letters of the special values. -/
def isFloatPart (c : Char) : Bool := Binary64.isNumeral c || "NaInfity".toList.contains c

/-- The text of a double has no stop in it, and some character that no whole number has. -/
theorem floatText_shape (x : Binary64) :
    (∀ c ∈ (floatText x).toList, isFloatPart c = true) ∧
      ∃ c ∈ (floatText x).toList, isWholePart c = false := by
  cases x with
  | notANumber => exact ⟨List.all_eq_true.mp (by decide), 'N', by decide, by decide⟩
  | infinite negative =>
    refine ⟨List.all_eq_true.mp ?_, 'I', ?_, by decide⟩ <;> cases negative <;> decide
  | finite negative significand exponent =>
    obtain ⟨hall, c, hc, hmark⟩ := Binary64.toText_shape negative significand exponent
    refine ⟨?_, c, hc, ?_⟩
    · intro d hd
      simp [isFloatPart, hall d hd]
    · rcases hmark with rfl | rfl <;> decide

theorem isStop_of_isWholePart {c : Char} (h : isWholePart c = true) : isStop c = false := by
  by_contra hstop
  simp only [isStop, Bool.not_eq_false, Bool.or_eq_true, beq_iff_eq] at hstop
  rcases hstop with (rfl | rfl) | rfl <;> revert h <;> decide

theorem isStop_of_isFloatPart {c : Char} (h : isFloatPart c = true) : isStop c = false := by
  by_contra hstop
  simp only [isStop, Bool.not_eq_false, Bool.or_eq_true, beq_iff_eq] at hstop
  rcases hstop with (rfl | rfl) | rfl <;> revert h <;> decide

/-! ## First characters -/

/-- The shapes of payloads that differ in their first characters. -/
inductive Opening where
  | null | yes | no | number | text | array | object
  deriving DecidableEq

/-- The shape that a first character announces. -/
def Opening.ofChar? (c : Char) : Option Opening :=
  if Binary64.isNumeral c || c == 'N' || c == 'I' then some .number
  else if c == 'n' then some .null
  else if c == 't' then some .yes
  else if c == 'f' then some .no
  else if c == '"' then some .text
  else if c == '[' then some .array
  else if c == '{' then some .object
  else none

/-- The shape of a payload. -/
def opening : Payload → Opening
  | .null => .null
  | .bool true => .yes
  | .bool false => .no
  | .int _ => .number
  | .float _ => .number
  | .text _ => .text
  | .brokenText _ => .text
  | .array _ => .array
  | .tagged _ _ => .object
  | .identified _ _ _ => .object

theorem ofChar?_of_isNumeral {c : Char} (h : Binary64.isNumeral c = true) :
    Opening.ofChar? c = some .number := by
  simp [Opening.ofChar?, h]

/-- The text of a double begins like a number. -/
theorem floatText_opening (x : Binary64) :
    ∃ c cs, (floatText x).toList = c :: cs ∧ Opening.ofChar? c = some .number := by
  cases x with
  | notANumber => exact ⟨'N', _, rfl, by decide⟩
  | infinite negative =>
    cases negative with
    | true => exact ⟨'-', _, rfl, by decide⟩
    | false => exact ⟨'I', _, rfl, by decide⟩
  | finite negative significand exponent =>
    obtain ⟨hall, c, hc, -⟩ := Binary64.toText_shape negative significand exponent
    cases htext : (Binary64.toText (.finite negative significand exponent)).toList with
    | nil =>
      rw [htext] at hc
      contradiction
    | cons d ds =>
      refine ⟨d, ds, htext, ofChar?_of_isNumeral (hall d ?_)⟩
      rw [htext]
      exact List.mem_cons_self

/-- The first character of a written payload announces its shape. -/
theorem writeOnto_opening (p : Payload) (r : List Char) :
    ∃ c cs, writeOnto r p = c :: cs ∧ Opening.ofChar? c = some p.opening := by
  cases p with
  | null => exact ⟨'n', _, rfl, by decide⟩
  | bool b =>
    cases b with
    | true => exact ⟨'t', _, rfl, by decide⟩
    | false => exact ⟨'f', _, rfl, by decide⟩
  | int n =>
    obtain ⟨hall, hne⟩ := intText_shape n
    obtain ⟨c, cs, hcs⟩ := List.exists_cons_of_ne_nil hne
    refine ⟨c, cs ++ r, by simp only [writeOnto, hcs, List.cons_append], ofChar?_of_isNumeral ?_⟩
    have hwhole := hall c (by rw [hcs]; exact List.mem_cons_self)
    rcases Bool.or_eq_true_iff.mp hwhole with hdigit | hminus
    · exact Binary64.isNumeral_of_isDigit hdigit
    · rw [beq_iff_eq.mp hminus]
      decide
  | float x =>
    obtain ⟨c, cs, hcs, hopen⟩ := floatText_opening x
    exact ⟨c, cs ++ r, by simp only [writeOnto, hcs, List.cons_append], hopen⟩
  | text s => exact ⟨'"', _, rfl, rfl⟩
  | brokenText broken => exact ⟨'"', _, rfl, rfl⟩
  | array items => exact ⟨'[', _, rfl, rfl⟩
  | tagged tag content => exact ⟨'{', _, rfl, rfl⟩
  | identified tag name identity => exact ⟨'{', _, rfl, rfl⟩

/-- Equal texts announce the same shape. -/
theorem opening_eq {p q : Payload} {r s : List Char} (h : writeOnto r p = writeOnto s q) :
    p.opening = q.opening := by
  obtain ⟨c, cs, hp, hpo⟩ := writeOnto_opening p r
  obtain ⟨d, ds, hq, hqo⟩ := writeOnto_opening q s
  rw [hp, hq] at h
  rw [(List.cons_eq_cons.mp h).1, hqo] at hpo
  exact (Option.some.inj hpo).symm

/-- No payload begins with a closing bracket. -/
theorem writeOnto_ne_bracket (p : Payload) (r s : List Char) : writeOnto r p ≠ ']' :: s := by
  intro h
  obtain ⟨c, cs, hp, hopen⟩ := writeOnto_opening p r
  rw [hp] at h
  rw [(List.cons_eq_cons.mp h).1] at hopen
  have hnone : Opening.ofChar? ']' = none := by decide
  rw [hnone] at hopen
  contradiction

/-! ## Identities -/

/-- The text of an identity determines it. -/
theorem identityText_injective {a b : List Nat} (h : identityText a = identityText b) : a = b := by
  have hsplit (identity : List Nat) (hne : identity ≠ []) :
      (identityText identity).toList.splitOn '.' = identity.map fun n => (toString n).toList := by
    rw [identityText, String.toList_intercalate, List.map_map]
    refine List.splitOn_intercalate '.' ?_ (by simpa using hne)
    intro digits hdigits hpoint
    obtain ⟨n, -, rfl⟩ := List.mem_map.mp hdigits
    have hdigit := isDigit_of_mem_toString (n := n) hpoint
    revert hdigit
    decide
  have hempty (identity : List Nat) (hne : identity ≠ []) : identityText identity ≠ "" := by
    intro htext
    have hone := hsplit identity hne
    rw [htext] at hone
    obtain ⟨n, rest, rfl⟩ := List.exists_cons_of_ne_nil hne
    simp at hone
  by_cases ha : a = []
  · by_cases hb : b = []
    · rw [ha, hb]
    · subst ha
      exact absurd h.symm (hempty b hb)
  · by_cases hb : b = []
    · subst hb
      exact absurd h (hempty a ha)
    · have hdigits := hsplit a ha
      rw [h, hsplit b hb] at hdigits
      have hinjective : Function.Injective fun n : Nat => (toString n).toList := by
        intro m n hmn
        exact toString_nat_injective (String.toList_inj.mp hmn)
      exact (List.map_injective_iff.mpr hinjective hdigits).symm

/-! ## Payloads with the same text -/

mutual

/-- Equality of payloads, doubles by their texts. -/
inductive Alike : Payload → Payload → Prop
  | null : Alike .null .null
  | bool (b : Bool) : Alike (.bool b) (.bool b)
  | int (n : Int) : Alike (.int n) (.int n)
  | float {x y : Binary64} (h : floatText x = floatText y) : Alike (.float x) (.float y)
  | text (s : String) : Alike (.text s) (.text s)
  | brokenText (broken : BrokenText) : Alike (.brokenText broken) (.brokenText broken)
  | array {ps qs : List Payload} (h : AllAlike ps qs) : Alike (.array ps) (.array qs)
  | tagged (tag : String) {p q : Payload} (h : Alike p q) : Alike (.tagged tag p) (.tagged tag q)
  | identified (tag name : String) (identity : List Nat) :
    Alike (.identified tag name identity) (.identified tag name identity)

/-- Equality of payloads item by item. -/
inductive AllAlike : List Payload → List Payload → Prop
  | nil : AllAlike [] []
  | cons {p q : Payload} {ps qs : List Payload} (h : Alike p q) (hs : AllAlike ps qs) :
    AllAlike (p :: ps) (q :: qs)

end

mutual

/-- Payloads that are alike are written alike. -/
theorem Alike.writeOnto_eq : {p q : Payload} → Alike p q → (r : List Char) →
    writeOnto r p = writeOnto r q
  | _, _, .null, _ => rfl
  | _, _, .bool _, _ => rfl
  | _, _, .int _, _ => rfl
  | _, _, .float h, r => by
    rw [writeOnto, writeOnto, h]
  | _, _, .text _, _ => rfl
  | _, _, .brokenText _, _ => rfl
  | _, _, .array .nil, _ => rfl
  | _, _, .array (.cons h hs), r => by
    rw [writeOnto, writeOnto, writeItems, writeItems, hs.writeMore_eq, h.writeOnto_eq]
  | _, _, .tagged _ h, r => by
    rw [writeOnto, writeOnto, h.writeOnto_eq]
  | _, _, .identified _ _ _, _ => rfl

theorem AllAlike.writeMore_eq : {ps qs : List Payload} → AllAlike ps qs → (r : List Char) →
    writeMore r ps = writeMore r qs
  | _, _, .nil, _ => rfl
  | _, _, .cons h hs, r => by
    rw [writeMore, writeMore, hs.writeMore_eq, h.writeOnto_eq]

end

/-- What follows an item may follow a payload. -/
theorem endsPayload_writeMore (r : List Char) (ps : List Payload) :
    endsPayload (writeMore (']' :: r) ps) = true := by
  cases ps <;> rfl

/-- A whole number and a double are never written alike. -/
theorem intText_ne_floatText (n : Int) (x : Binary64) :
    (toString n).toList ≠ (floatText x).toList := by
  intro h
  obtain ⟨c, hc, hpart⟩ := (floatText_shape x).2
  rw [← h] at hc
  rw [(intText_shape n).1 c hc] at hpart
  contradiction

/-- A text is written like no other payload. -/
theorem text_reads {a : String} {q : Payload} {r s : List Char}
    (h : writeOnto r (.text a) = writeOnto s q) : q = .text a ∧ r = s := by
  have hopen := opening_eq h
  cases q with
  | text b =>
    obtain ⟨rfl, hrest⟩ := quoted_reads (by simpa only [writeOnto] using h)
    exact ⟨rfl, hrest⟩
  | brokenText broken =>
    have hpoints := (quotedPoints_reads (by simpa only [writeOnto, quoted] using h)).1
    exact absurd hpoints (chars_ne_points a broken)
  | bool b => cases b <;> simp [opening] at hopen
  | _ => simp [opening] at hopen

/-- A text that holds a surrogate is written like no other payload. -/
theorem brokenText_reads {a : BrokenText} {q : Payload} {r s : List Char}
    (h : writeOnto r (.brokenText a) = writeOnto s q) : q = .brokenText a ∧ r = s := by
  have hopen := opening_eq h
  cases q with
  | text b =>
    have hpoints := (quotedPoints_reads (by simpa only [writeOnto, quoted] using h)).1
    exact absurd hpoints.symm (chars_ne_points b a)
  | brokenText b =>
    obtain ⟨hpoints, hrest⟩ := quotedPoints_reads (by simpa only [writeOnto] using h)
    exact ⟨congrArg Payload.brokenText (BrokenText.points_injective hpoints).symm, hrest⟩
  | bool b => cases b <;> simp [opening] at hopen
  | _ => simp [opening] at hopen

/-- What has contents and what has an identity are never written alike: a text after the tag is
followed by a bracket in one case and by a comma in the other. -/
theorem tagged_ne_identified (a b name : String) (p : Payload) (identity : List Nat)
    (r s : List Char) : writeOnto r (.tagged a p) ≠ writeOnto s (.identified b name identity) := by
  intro h
  simp only [writeOnto, List.cons_append, List.append_assoc] at h
  obtain ⟨-, hcontent⟩ := quoted_reads (List.cons_eq_cons.mp h).2
  have hname := (List.cons_eq_cons.mp hcontent).2
  have htext (t : List Char) : quoted name ++ t = writeOnto t (.text name) := rfl
  rw [htext] at hname
  have hmark := (text_reads hname.symm).2
  simp at hmark

mutual

/-- **The text of a payload is read in one way.**  By induction on the first payload: the first
character says which shapes are compared, and the rests stay such as may follow a payload. -/
theorem writeOnto_reads : (p q : Payload) → (r s : List Char) → endsPayload r = true →
    endsPayload s = true → writeOnto r p = writeOnto s q → Alike p q ∧ r = s
  | .null, q, r, s, _, _, h => by
    have hopen := opening_eq h
    cases q with
    | null => exact ⟨.null, by simpa [writeOnto] using h⟩
    | bool b => cases b <;> simp [opening] at hopen
    | _ => simp [opening] at hopen
  | .bool a, q, r, s, _, _, h => by
    have hopen := opening_eq h
    cases q with
    | bool b =>
      cases a <;> cases b <;> simp [opening] at hopen
      · exact ⟨.bool false, by simpa [writeOnto] using h⟩
      · exact ⟨.bool true, by simpa [writeOnto] using h⟩
    | _ => cases a <;> simp [opening] at hopen
  | .int m, q, r, s, hr, hs, h => by
    have hopen := opening_eq h
    have hm := fun c hc => isStop_of_isWholePart ((intText_shape m).1 c hc)
    cases q with
    | int n =>
      have hn := fun c hc => isStop_of_isWholePart ((intText_shape n).1 c hc)
      obtain ⟨htext, hrest⟩ := eq_of_append_stop hm hn hr hs (by simpa only [writeOnto] using h)
      rw [intText_injective (String.toList_inj.mp htext)]
      exact ⟨.int n, hrest⟩
    | float y =>
      have hy := fun c hc => isStop_of_isFloatPart ((floatText_shape y).1 c hc)
      obtain ⟨htext, -⟩ := eq_of_append_stop hm hy hr hs (by simpa only [writeOnto] using h)
      exact absurd htext (intText_ne_floatText m y)
    | bool b => cases b <;> simp [opening] at hopen
    | _ => simp [opening] at hopen
  | .float x, q, r, s, hr, hs, h => by
    have hopen := opening_eq h
    have hx := fun c hc => isStop_of_isFloatPart ((floatText_shape x).1 c hc)
    cases q with
    | int n =>
      have hn := fun c hc => isStop_of_isWholePart ((intText_shape n).1 c hc)
      obtain ⟨htext, -⟩ := eq_of_append_stop hx hn hr hs (by simpa only [writeOnto] using h)
      exact absurd htext.symm (intText_ne_floatText n x)
    | float y =>
      have hy := fun c hc => isStop_of_isFloatPart ((floatText_shape y).1 c hc)
      obtain ⟨htext, hrest⟩ := eq_of_append_stop hx hy hr hs (by simpa only [writeOnto] using h)
      exact ⟨.float (String.toList_inj.mp htext), hrest⟩
    | bool b => cases b <;> simp [opening] at hopen
    | _ => simp [opening] at hopen
  | .text a, q, r, s, _, _, h => by
    obtain ⟨rfl, hrest⟩ := text_reads h
    exact ⟨.text a, hrest⟩
  | .brokenText a, q, r, s, _, _, h => by
    obtain ⟨rfl, hrest⟩ := brokenText_reads h
    exact ⟨.brokenText a, hrest⟩
  | .array [], q, r, s, _, _, h => by
    have hopen := opening_eq h
    cases q with
    | array items =>
      cases items with
      | nil => exact ⟨.array .nil, by simpa [writeOnto, writeItems] using h⟩
      | cons item items =>
        simp only [writeOnto, writeItems, List.cons.injEq, true_and] at h
        exact absurd h.symm (writeOnto_ne_bracket _ _ _)
    | bool b => cases b <;> simp [opening] at hopen
    | _ => simp [opening] at hopen
  | .array (p :: ps), q, r, s, _, _, h => by
    have hopen := opening_eq h
    cases q with
    | array items =>
      cases items with
      | nil =>
        simp only [writeOnto, writeItems, List.cons.injEq, true_and] at h
        exact absurd h (writeOnto_ne_bracket _ _ _)
      | cons item items =>
        simp only [writeOnto, writeItems, List.cons.injEq, true_and] at h
        obtain ⟨hfirst, hmore⟩ := writeOnto_reads p item _ _ (endsPayload_writeMore r ps)
          (endsPayload_writeMore s items) h
        obtain ⟨hothers, hrest⟩ := writeMore_reads ps items r s hmore
        exact ⟨.array (.cons hfirst hothers), hrest⟩
    | bool b => cases b <;> simp [opening] at hopen
    | _ => simp [opening] at hopen
  | .tagged a p, q, r, s, _, _, h => by
    have hopen := opening_eq h
    cases q with
    | tagged b q =>
      simp only [writeOnto, List.cons.injEq, List.cons_append, true_and] at h
      obtain ⟨rfl, hcontent⟩ := quoted_reads h
      obtain ⟨hcontent, hrest⟩ := writeOnto_reads p q _ _ rfl rfl
        (List.cons_eq_cons.mp hcontent).2
      exact ⟨.tagged a hcontent, (List.cons_eq_cons.mp hrest).2⟩
    | identified b name identity => exact absurd h (tagged_ne_identified _ _ _ _ _ _ _)
    | bool b => cases b <;> simp [opening] at hopen
    | _ => simp [opening] at hopen
  | .identified a name identity, q, r, s, _, _, h => by
    have hopen := opening_eq h
    cases q with
    | tagged b q => exact absurd h.symm (tagged_ne_identified _ _ _ _ _ _ _)
    | identified b name' identity' =>
      simp only [writeOnto, List.cons_append, List.append_assoc] at h
      obtain ⟨htag, hname⟩ := quoted_reads (List.cons_eq_cons.mp h).2
      obtain ⟨hname, hmark⟩ := quoted_reads (List.cons_eq_cons.mp hname).2
      obtain ⟨-, hid⟩ := quoted_reads (List.cons_eq_cons.mp hmark).2
      obtain ⟨hidentity, hrest⟩ := quoted_reads (List.cons_eq_cons.mp hid).2
      rw [htag, hname, identityText_injective hidentity]
      exact ⟨.identified b name' identity', (List.cons_eq_cons.mp hrest).2⟩
    | bool b => cases b <;> simp [opening] at hopen
    | _ => simp [opening] at hopen

theorem writeMore_reads : (ps qs : List Payload) → (r s : List Char) →
    writeMore (']' :: r) ps = writeMore (']' :: s) qs → AllAlike ps qs ∧ r = s
  | [], [], r, s, h => ⟨.nil, (List.cons_eq_cons.mp h).2⟩
  | [], q :: qs, r, s, h => by simp [writeMore] at h
  | p :: ps, [], r, s, h => by simp [writeMore] at h
  | p :: ps, q :: qs, r, s, h => by
    simp only [writeMore, List.cons.injEq, true_and] at h
    obtain ⟨hfirst, hmore⟩ := writeOnto_reads p q _ _ (endsPayload_writeMore r ps)
      (endsPayload_writeMore s qs) h
    obtain ⟨hothers, hrest⟩ := writeMore_reads ps qs r s hmore
    exact ⟨.cons hfirst hothers, hrest⟩

end

/-- **Texts of payloads.**  They are equal exactly when the payloads are alike. -/
theorem toText_eq_iff {p q : Payload} : p.toText = q.toText ↔ Alike p q := by
  constructor
  · intro h
    exact (writeOnto_reads p q [] [] rfl rfl (String.ofList_inj.mp h)).1
  · intro h
    rw [toText, toText, h.writeOnto_eq]

end Payload

end FieldSchema
