import FieldSchema.Pattern.Named
import FieldSchema.Proofs.Pattern.WholeText

/-!
# Strong passwords

The pattern of passwords looks ahead from the start of a text, once for each kind of character
that has to occur, and then takes up the whole text in characters of these kinds.  The dot of a look
ahead stops at a line break, but the characters that are taken up hold none, so nothing that is
looked for is missed.  The end of the text includes the place before a line break that ends it: a
text has a match if it is a strong password or one with a line break after it
(`Regex.hasMatch_passwordPattern`).

* `Text.IsStrongPassword`: what the pattern asks for.
* `Pattern.password`: the usable pattern, whose tree is `Pattern.passwordBody` after the start.
-/

namespace FieldSchema

/-! ## Passwords -/

namespace Text

/-- The symbols of passwords: `@`, `$`, `!`, `%`, `*`, `?`, `&` and `#`. -/
def passwordSymbols : List Nat := [0x40, 0x24, 0x21, 0x25, 0x2A, 0x3F, 0x26, 0x23]

/-- A character that passwords may hold. -/
def isPasswordChar (code : Nat) : Bool :=
  isAsciiLetter code || isDecimalDigit code || passwordSymbols.contains code

/-- Eight characters or more that are letters, digits and symbols, with a letter in either case, a
digit and a symbol among them. -/
structure IsStrongPassword (chars : List Char) : Prop where
  long : 8 ≤ chars.length
  fits : ∀ c ∈ chars, isPasswordChar c.toNat = true
  lower : ∃ c ∈ chars, isAsciiLower c.toNat = true
  upper : ∃ c ∈ chars, isAsciiUpper c.toNat = true
  digit : ∃ c ∈ chars, isDecimalDigit c.toNat = true
  symbol : ∃ c ∈ chars, passwordSymbols.contains c.toNat = true

/-- A line break is no character of passwords. -/
theorem isPasswordChar_lineBreak : isPasswordChar '\n'.toNat = false := by decide

end Text

namespace Pattern

/-! ## The tree of the pattern -/

/-- Looks for a member of a set on the line. -/
def onLine (members : List SetMember) : Pattern :=
  .ahead false (.cat (.repeated .greedy 0 none .any) (.set false members))

/-- The symbols as members of a set. -/
def symbolMembers : List SetMember := Text.passwordSymbols.map .single

/-- All characters of passwords as members of a set. -/
def passwordMembers : List SetMember :=
  [.range 0x41 0x5A, .range 0x61 0x7A, .category .digit] ++ symbolMembers

/-- The pattern of strong passwords after the start of a text. -/
def passwordBody : Pattern :=
  .ofItems [onLine [.range 0x61 0x7A], onLine [.range 0x41 0x5A], onLine [.category .digit],
    onLine symbolMembers, .repeated .greedy 8 none (.set false passwordMembers), .anchor .stop]

/-- The usable pattern of strong passwords. -/
def password : Regex where
  source := passwordPattern
  flags := textFlags
  body := .cat (.anchor .start) passwordBody
  groups := 0
  least := 8

/-- The text of the pattern stands for this tree. -/
theorem compile_passwordPattern :
    Regex.compile passwordPattern .none = .ok password :=
  Regex.compile_eq_ok (by decide +kernel)

/-! ## Sets -/

theorem setMatches_digit (code : Nat) :
    setMatches textFlags false [.category .digit] code = Text.isDecimalDigit code := by
  simp [setMatches, memberMatches, textFlags, categoryMatches, isDigitFor]

theorem setMatches_symbol (code : Nat) :
    setMatches textFlags false symbolMembers code = Text.passwordSymbols.contains code := by
  have hsingle : ∀ symbol, memberMatches textFlags code (.single symbol) = (code == symbol) :=
    fun _ => rfl
  rw [setMatches, symbolMembers, List.any_map, Bool.bne_false, List.contains_eq_any_beq]
  simp only [Function.comp_def, hsingle]

theorem setMatches_password (code : Nat) :
    setMatches textFlags false passwordMembers code = Text.isPasswordChar code := by
  have hparts : setMatches textFlags false passwordMembers code =
      (setMatches textFlags false [.range 0x41 0x5A] code ||
        (setMatches textFlags false [.range 0x61 0x7A] code ||
          (setMatches textFlags false [.category .digit] code ||
            setMatches textFlags false symbolMembers code))) := by
    simp [setMatches, passwordMembers]
  rw [hparts, setMatches_upper, setMatches_lower, setMatches_digit, setMatches_symbol,
    Text.isPasswordChar, Text.isAsciiLetter, Bool.or_assoc, Bool.or_assoc, Bool.or_left_comm]

/-! ## Where the pattern leads -/

/-- The dot matches the characters of passwords. -/
theorem anyMatches_of_isPasswordChar {code : Nat} (h : Text.isPasswordChar code = true) :
    anyMatches textFlags code = true := by
  refine bne_iff_ne.mpr ?_
  rintro rfl
  exact Bool.false_ne_true (Text.isPasswordChar_lineBreak.symm.trans h)

/-- Looking for a character finds it after characters that the dot matches. -/
theorem onLine_leads_iff {members : List SetMember} {p q : Place} :
    (onLine members).Leads textFlags p q ↔
      (∃ line c rest, p.after = line ++ c :: rest ∧
        (∀ d ∈ line, anyMatches textFlags d.toNat = true) ∧
          setMatches textFlags false members c.toNat = true) ∧ q = p := by
  constructor
  · rintro ⟨hlooks, rfl⟩
    obtain ⟨r, between, ⟨test, htest, count, -, -, hpassed⟩, hone⟩ := hlooks.mpr rfl
    obtain rfl := Option.some.inj htest
    obtain ⟨line, after, hline, -, hdots, rfl⟩ := Place.passes_iff.mp hpassed
    obtain ⟨found, rest, hfound, hlength, hmember, -⟩ := Place.passes_iff.mp hone
    obtain ⟨c, rfl⟩ := List.length_eq_one_iff.mp hlength
    dsimp only at hfound
    rw [hfound] at hline
    exact ⟨⟨line, c, rest, hline, hdots, hmember c (List.mem_singleton_self c)⟩, rfl⟩
  · rintro ⟨⟨line, c, rest, hafter, hdots, hmember⟩, rfl⟩
    have hpassed : q.Passes (anyMatches textFlags) line.length
        ⟨line.reverse ++ q.before, c :: rest⟩ :=
      Place.passes_iff.mpr ⟨line, c :: rest, hafter, rfl, hdots, rfl⟩
    have hone : Place.Passes (setMatches textFlags false members) 1
        ⟨line.reverse ++ q.before, c :: rest⟩ ⟨c :: (line.reverse ++ q.before), rest⟩ :=
      Place.passes_iff.mpr ⟨[c], rest, rfl, rfl, List.forall_mem_singleton.mpr hmember, rfl⟩
    exact ⟨iff_of_true ⟨_, _, ⟨_, rfl, _, Nat.zero_le _, nofun, hpassed⟩, hone⟩ rfl, rfl⟩

/-- What is looked for in a password is found wherever it stands, also if a line break follows the
password. -/
theorem onLine_leads_of_password {members : List SetMember} {test : Nat → Bool}
    (hmembers : ∀ code, setMatches textFlags false members code = test code)
    (hbreak : test '\n'.toNat = false) {run rest : List Char}
    (hrun : ∀ c ∈ run, Text.isPasswordChar c.toNat = true) (hrest : rest = [] ∨ rest = ['\n'])
    {q : Place} :
    (onLine members).Leads textFlags (.start (run ++ rest)) q ↔
      (∃ c ∈ run, test c.toNat = true) ∧ q = .start (run ++ rest) := by
  refine onLine_leads_iff.trans (and_congr_left fun _ => ?_)
  simp only [hmembers]
  constructor
  · rintro ⟨line, c, more, hafter, -, hc⟩
    have hmem : c ∈ run ++ rest := by
      rw [show run ++ rest = line ++ c :: more from hafter]
      exact List.mem_append_right _ List.mem_cons_self
    rcases List.mem_append.mp hmem with hmem | hmem
    · exact ⟨c, hmem, hc⟩
    · rcases hrest with rfl | rfl
      · cases hmem
      · obtain rfl := List.mem_singleton.mp hmem
        exact absurd (hbreak.symm.trans hc) Bool.false_ne_true
  · rintro ⟨c, hmem, hc⟩
    obtain ⟨line, more, rfl⟩ := List.append_of_mem hmem
    exact ⟨line, c, more ++ rest, by simp [Place.start], fun d hd =>
      anyMatches_of_isPasswordChar (hrun d (List.mem_append_left _ hd)), hc⟩

/-- The pattern of passwords leads on from the start of a text that consists of a strong password
and at most a line break. -/
theorem passwordBody_leads_iff {chars : List Char} :
    (∃ q, passwordBody.Leads textFlags (.start chars) q) ↔
      ∃ run rest, chars = run ++ rest ∧ (rest = [] ∨ rest = ['\n']) ∧
        Text.IsStrongPassword run := by
  constructor
  · rintro ⟨q, p, hlower, p, hupper, p, hdigit, p, hsymbol, between,
      ⟨test, htest, count, hlong, -, hpassed⟩, hstop, rfl⟩
    obtain rfl := hlower.2
    obtain rfl := hupper.2
    obtain rfl := hdigit.2
    obtain rfl := hsymbol.2
    obtain rfl := Option.some.inj htest
    obtain ⟨run, rest, hchars, rfl, hrun, rfl⟩ := Place.passes_iff.mp hpassed
    obtain rfl : chars = run ++ rest := hchars
    simp only [setMatches_password] at hrun
    have hrest := anchorHolds_stop_iff.mp hstop
    exact ⟨run, rest, rfl, hrest, hlong, hrun,
      ((onLine_leads_of_password setMatches_lower (by decide) hrun hrest).mp hlower).1,
      ((onLine_leads_of_password setMatches_upper (by decide) hrun hrest).mp hupper).1,
      ((onLine_leads_of_password setMatches_digit (by decide) hrun hrest).mp hdigit).1,
      ((onLine_leads_of_password setMatches_symbol (by decide) hrun hrest).mp hsymbol).1⟩
  · rintro ⟨run, rest, rfl, hrest, hstrong⟩
    have hrun := hstrong.fits
    have hpassed : (Place.start (run ++ rest)).Passes
        (setMatches textFlags false passwordMembers) run.length ⟨run.reverse ++ [], rest⟩ := by
      refine Place.passes_iff.mpr ⟨run, rest, rfl, rfl, ?_, rfl⟩
      simpa only [setMatches_password] using hrun
    have hstop : anchorHolds textFlags ⟨run.reverse ++ [], rest⟩ .stop = true :=
      anchorHolds_stop_iff.mpr hrest
    exact ⟨_,
      _, (onLine_leads_of_password setMatches_lower (by decide) hrun hrest).mpr
        ⟨hstrong.lower, rfl⟩,
      _, (onLine_leads_of_password setMatches_upper (by decide) hrun hrest).mpr
        ⟨hstrong.upper, rfl⟩,
      _, (onLine_leads_of_password setMatches_digit (by decide) hrun hrest).mpr
        ⟨hstrong.digit, rfl⟩,
      _, (onLine_leads_of_password setMatches_symbol (by decide) hrun hrest).mpr
        ⟨hstrong.symbol, rfl⟩,
      _, ⟨_, rfl, _, hstrong.long, nofun, hpassed⟩, hstop, rfl⟩

end Pattern

/-- **What the pattern of passwords matches**: strong passwords, also before a line break that ends
the text. -/
theorem Regex.hasMatch_passwordPattern (text : String) :
    ∃ found, hasMatch passwordPattern .none text = .ok found ∧
      (found = true ↔ ∃ run rest, text.toList = run ++ rest ∧ (rest = [] ∨ rest = ['\n']) ∧
        Text.IsStrongPassword run) := by
  obtain ⟨found, hfound, hanswer⟩ :=
    search_of_isPlain (r := Pattern.password) rfl rfl rfl (fun _ => .zero) rfl text
  refine ⟨found, ?_, ?_⟩
  · rw [hasMatch, Pattern.compile_passwordPattern]
    exact hfound
  · exact hanswer.trans ((Pattern.occursIn_start_iff rfl).trans Pattern.passwordBody_leads_iff)

end FieldSchema
