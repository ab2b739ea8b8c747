import FieldSchema.Pattern.Named
import FieldSchema.Proofs.Pattern.WholeText
import FieldSchema.Text.Hex

/-!
# Mail addresses and identifiers

The patterns of mail addresses and of object identifiers are patterns for a whole text.  The host
of a mail address may hold dots itself, so where its ending begins is left open: an address is any
text that splits into a mailbox, a host and an ending in some way.

Both patterns also match before a line break that ends the text.

* `Text.IsMailAddress`, `Text.IsIdentifier`: what the patterns ask for.
* `Regex.answers_emailPattern`, `Regex.hasMatch_objectIdPattern`: what they match.
-/

namespace FieldSchema

namespace Text

/-! ## Mail addresses -/

/-- Letters, digits and the signs `.`, `_`, `%`, `+` and `-`. -/
def isMailboxChar (code : Nat) : Bool :=
  isAsciiLetter code || isAsciiDigit code || [0x2E, 0x5F, 0x25, 0x2B, 0x2D].contains code

/-- Letters, digits, dots and hyphens. -/
def isHostChar (code : Nat) : Bool :=
  isAsciiLetter code || isAsciiDigit code || [0x2E, 0x2D].contains code

/-- A mailbox, an at sign, a host, a dot and an ending of two letters or more. -/
inductive IsMailAddress : List Char → Prop where
  | parts {mailbox host ending : List Char}
    (mailbox_ne : mailbox ≠ []) (mailbox_fits : ∀ c ∈ mailbox, isMailboxChar c.toNat = true)
    (host_ne : host ≠ []) (host_fits : ∀ c ∈ host, isHostChar c.toNat = true)
    (ending_long : 2 ≤ ending.length) (ending_fits : ∀ c ∈ ending, isAsciiLetter c.toNat = true) :
    IsMailAddress (mailbox ++ '@' :: (host ++ '.' :: ending))

/-! ## Identifiers -/

/-- Twenty-four hexadecimal digits, the letters among them in either case. -/
structure IsIdentifier (chars : List Char) : Prop where
  long : chars.length = 24
  digits : ∀ c ∈ chars, ('0' ≤ c ∧ c ≤ '9') ∨ ('a' ≤ c ∧ c ≤ 'f') ∨ ('A' ≤ c ∧ c ≤ 'F')

/-- The codes that have a value as hexadecimal digits. -/
theorem isSome_hexValue?_iff {code : Nat} :
    (hexValue? code).isSome = true ↔
      (0x30 ≤ code ∧ code ≤ 0x39) ∨ (0x61 ≤ code ∧ code ≤ 0x66) ∨ (0x41 ≤ code ∧ code ≤ 0x46) := by
  simp only [hexValue?, isAsciiDigit, Bool.and_eq_true, decide_eq_true_eq]
  split
  · rename_i hdigit
    exact iff_of_true rfl (.inl hdigit)
  · rename_i hdigit
    split
    · rename_i hlower
      exact iff_of_true rfl (.inr (.inl hlower))
    · rename_i hlower
      split
      · rename_i hupper
        exact iff_of_true rfl (.inr (.inr hupper))
      · rename_i hupper
        refine iff_of_false Bool.false_ne_true ?_
        rintro (h | h | h)
        · exact hdigit h
        · exact hlower h
        · exact hupper h

/-- The hexadecimal digits are the three rows of characters. -/
theorem isHexDigit_iff {c : Char} :
    isHexDigit c = true ↔ ('0' ≤ c ∧ c ≤ '9') ∨ ('a' ≤ c ∧ c ≤ 'f') ∨ ('A' ≤ c ∧ c ≤ 'F') :=
  isSome_hexValue?_iff

/-- Digits in the sense of the decoder make an identifier when there are twenty-four. -/
theorem isIdentifier_iff {chars : List Char} :
    IsIdentifier chars ↔ chars.length = 24 ∧ ∀ c ∈ chars, isHexDigit c = true := by
  simp only [isHexDigit_iff]
  exact ⟨fun h => ⟨h.long, h.digits⟩, fun h => ⟨h.1, h.2⟩⟩

end Text

namespace Pattern

/-! ## Sets -/

/-- The characters of hosts as members of a set. -/
def hostMembers : List SetMember :=
  [.range 0x61 0x7A, .range 0x41 0x5A, .range 0x30 0x39, .single 0x2E, .single 0x2D]

/-- The characters of mailboxes as members of a set. -/
def mailboxMembers : List SetMember :=
  [.range 0x61 0x7A, .range 0x41 0x5A, .range 0x30 0x39, .single 0x2E, .single 0x5F, .single 0x25,
    .single 0x2B, .single 0x2D]

/-- Hexadecimal digits as members of a set. -/
def hexMembers : List SetMember := [.range 0x30 0x39, .range 0x61 0x66, .range 0x41 0x46]

theorem setMatches_letter (code : Nat) :
    setMatches textFlags false [.range 0x61 0x7A, .range 0x41 0x5A] code =
      Text.isAsciiLetter code := by
  rw [Text.isAsciiLetter, ← setMatches_lower, ← setMatches_upper]
  simp [setMatches]

theorem setMatches_host (code : Nat) :
    setMatches textFlags false hostMembers code = Text.isHostChar code := by
  rw [Bool.eq_iff_iff]
  simp [setMatches, hostMembers, memberMatches, textFlags, inRange, Text.isHostChar,
    Text.isAsciiLetter, Text.isAsciiLower, Text.isAsciiUpper, Text.isAsciiDigit, or_assoc]

theorem setMatches_mailbox (code : Nat) :
    setMatches textFlags false mailboxMembers code = Text.isMailboxChar code := by
  rw [Bool.eq_iff_iff]
  simp [setMatches, mailboxMembers, memberMatches, textFlags, inRange, Text.isMailboxChar,
    Text.isAsciiLetter, Text.isAsciiLower, Text.isAsciiUpper, Text.isAsciiDigit, or_assoc]

theorem setMatches_hex (c : Char) :
    setMatches textFlags false hexMembers c.toNat = Text.isHexDigit c := by
  rw [Bool.eq_iff_iff, Text.isHexDigit, Text.isSome_hexValue?_iff]
  simp [setMatches, hexMembers, memberMatches, textFlags, inRange]

/-! ## Items -/

/-- A set that is repeated a number of times or more. -/
def runOf (least : Nat) (most : Option Nat) (members : List SetMember) : Pattern :=
  .repeated .greedy least most (.set false members)

/-- The words of a repeated set. -/
theorem fits_runOf_iff {least : Nat} {most : Option Nat} {members : List SetMember}
    {word : List Char} :
    (runOf least most members).Fits textFlags word ↔
      (least ≤ word.length ∧ ∀ m, most = some m → word.length ≤ m) ∧
        ∀ c ∈ word, setMatches textFlags false members c.toNat = true := by
  simp [runOf, Fits, unitTest?]

/-- The only word of a character. -/
theorem fits_literal_iff {c : Char} {word : List Char} :
    (Pattern.literal c.toNat).Fits textFlags word ↔ word = [c] := by
  constructor
  · rintro ⟨hone, test, htest, hfits⟩
    obtain rfl := Option.some.inj htest
    obtain ⟨d, rfl⟩ := List.length_eq_one_iff.mp hone
    have hsame : literalMatches textFlags c.toNat d.toNat = true :=
      hfits d (List.mem_singleton_self d)
    have hcode : d.toNat = c.toNat := by simpa [literalMatches, textFlags] using hsame
    rw [Char.toNat_inj.mp hcode]
  · rintro rfl
    refine ⟨rfl, _, rfl, ?_⟩
    simp [literalMatches, textFlags]

/-- The items of the pattern of mail addresses. -/
def mailItems : List Pattern :=
  [runOf 1 none mailboxMembers, .literal '@'.toNat, runOf 1 none hostMembers, .literal '.'.toNat,
    runOf 2 none [.range 0x61 0x7A, .range 0x41 0x5A]]

/-- The items of the pattern of object identifiers. -/
def identifierItems : List Pattern := [runOf 24 (some 24) hexMembers]

/-- The text of the pattern of mail addresses stands for its items. -/
theorem compile_emailPattern :
    Regex.compile emailPattern .none = .ok (.whole emailPattern mailItems) :=
  Regex.compile_eq_ok (by decide +kernel)

/-- The text of the pattern of object identifiers stands for its items. -/
theorem compile_objectIdPattern :
    Regex.compile objectIdPattern .none = .ok (.whole objectIdPattern identifierItems) :=
  Regex.compile_eq_ok (by decide +kernel)

/-- The items of mail addresses spell mail addresses. -/
theorem spells_mailItems_iff {word : List Char} :
    Spells textFlags mailItems word ↔ Text.IsMailAddress word := by
  simp only [mailItems, Spells, fits_runOf_iff, fits_literal_iff, setMatches_mailbox,
    setMatches_host, setMatches_letter]
  constructor
  · rintro ⟨mailbox, _, rfl, ⟨⟨hmailbox, -⟩, hboxFits⟩, _, _, rfl, rfl, host, _, rfl,
      ⟨⟨hhost, -⟩, hhostFits⟩, _, _, rfl, rfl, ending, _, rfl, ⟨⟨hending, -⟩, hendFits⟩, rfl⟩
    have haddress : Text.IsMailAddress (mailbox ++ '@' :: (host ++ '.' :: ending)) :=
      .parts (List.length_pos_iff.mp hmailbox) hboxFits (List.length_pos_iff.mp hhost) hhostFits
        hending hendFits
    simpa using haddress
  · rintro ⟨hmailbox, hboxFits, hhost, hhostFits, hending, hendFits⟩
    rename_i mailbox host ending
    exact ⟨mailbox, _, rfl, ⟨⟨List.length_pos_iff.mpr hmailbox, nofun⟩, hboxFits⟩,
      ['@'], _, rfl, rfl, host, _, rfl, ⟨⟨List.length_pos_iff.mpr hhost, nofun⟩, hhostFits⟩,
      ['.'], _, rfl, rfl, ending, [], (List.append_nil ending).symm,
      ⟨⟨hending, nofun⟩, hendFits⟩, rfl⟩

/-- The items of identifiers spell identifiers. -/
theorem spells_identifierItems_iff {word : List Char} :
    Spells textFlags identifierItems word ↔ Text.IsIdentifier word := by
  simp only [identifierItems, Spells, fits_runOf_iff, setMatches_hex, Text.isIdentifier_iff]
  constructor
  · rintro ⟨digits, _, rfl, ⟨⟨hleast, hmost⟩, hdigits⟩, rfl⟩
    rw [List.append_nil]
    exact ⟨Nat.le_antisymm (hmost 24 rfl) hleast, hdigits⟩
  · rintro ⟨hlong, hdigits⟩
    refine ⟨word, [], (List.append_nil word).symm, ⟨⟨Nat.le_of_eq hlong.symm, ?_⟩, hdigits⟩, rfl⟩
    rintro m hm
    obtain rfl := Option.some.inj hm
    exact Nat.le_of_eq hlong

end Pattern

/-! ## What the patterns match -/

namespace Regex

/-- **What the pattern of mail addresses matches**, from the start or anywhere: mail addresses, also
before a line break that ends the text. -/
theorem answers_emailPattern (text : String) :
    ∃ found, hasMatch emailPattern .none text = .ok found ∧
      startsWithMatch emailPattern text = .ok found ∧
      (found = true ↔ ∃ address rest, text.toList = address ++ rest ∧
        (rest = [] ∨ rest = ['\n']) ∧ Text.IsMailAddress address) := by
  have hruns : ∀ item ∈ Pattern.mailItems, item.isRun = true := by decide
  obtain ⟨found, hsearch, hstart, hfound⟩ := answers_whole emailPattern hruns text
  simp only [Pattern.spells_mailItems_iff] at hfound
  refine ⟨found, ?_, ?_, hfound⟩
  · rw [hasMatch, Pattern.compile_emailPattern]
    exact hsearch
  · rw [startsWithMatch, Pattern.compile_emailPattern]
    exact hstart

/-- **What the pattern of object identifiers matches**: identifiers, also before a line break that
ends the text. -/
theorem hasMatch_objectIdPattern (text : String) :
    ∃ found, hasMatch objectIdPattern .none text = .ok found ∧
      (found = true ↔ ∃ digits rest, text.toList = digits ++ rest ∧
        (rest = [] ∨ rest = ['\n']) ∧ Text.IsIdentifier digits) := by
  have hruns : ∀ item ∈ Pattern.identifierItems, item.isRun = true := by decide
  obtain ⟨found, hsearch, -, hfound⟩ := answers_whole objectIdPattern hruns text
  simp only [Pattern.spells_identifierItems_iff] at hfound
  refine ⟨found, ?_, hfound⟩
  rw [hasMatch, Pattern.compile_objectIdPattern]
  exact hsearch

end Regex

end FieldSchema
