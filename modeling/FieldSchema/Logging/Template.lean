import FieldSchema.Number.Rounded
import FieldSchema.Text.Hex
import FieldSchema.Value.Call
import FieldSchema.Value.Display

/-!
# Templates of log messages

A log message may be a template: marks that start with a percent sign are replaced by arguments,
one after the other, or by the entries of a mapping.  A mark states how its argument is shown, in
how many columns and with how many digits; both numbers may be arguments themselves.

* `FormatMark`: a mark; `FormatMark.shown`: an argument as the mark says.
* `FormatArguments`: what is left to be shown.
* `Template.fill`: a template with its marks replaced.
-/

namespace FieldSchema

/-- A mark of a template. -/
structure FormatMark where
  /-- Signs between the percent sign and the width. -/
  signs : List Char := []
  width : Nat := 0
  precision? : Option Nat := none
  conversion : Char
  deriving Inhabited

/-- What the marks of a template are replaced by. -/
inductive FormatArguments where
  /-- Values one after the other. -/
  | listed (values : List Value)
  /-- The entries of a mapping, and the value that comes next, if there is one. -/
  | named (entries : Entries) (next? : Option Value)
  deriving Inhabited

namespace FormatArguments

/-- The next argument, and what is left. -/
def next : FormatArguments → Except Raised (Value × FormatArguments)
  | .listed (v :: rest) => .ok (v, .listed rest)
  | .named entries (some v) => .ok (v, .named entries none)
  | _ => .error .wrongType

/-- The arguments with the entry of a name as the next one. -/
def select (name : String) : FormatArguments → Except Raised FormatArguments
  | .listed _ => .error .wrongType
  | .named entries _ =>
    match Entries.getText? entries name with
    | some v => .ok (.named entries (some v))
    | none => .error { kind := "KeyError", text := name }

/-- Whether nothing is left over; the entries of a mapping need not all be shown. -/
def areUsed : FormatArguments → Bool
  | .listed values => values.isEmpty
  | .named _ _ => true

end FormatArguments

namespace FormatMark

/-- Whether a mark has a sign. -/
def has (mark : FormatMark) (sign : Char) : Bool := mark.signs.contains sign

/-- A shown argument in the width of a mark. -/
def padded (mark : FormatMark) (shown : String) : String :=
  let missing := mark.width - shown.length
  let blanks := String.ofList (List.replicate missing ' ')
  if mark.has '-' then shown ++ blanks else blanks ++ shown

/-- A text argument: at most as many characters as the precision says. -/
def ofText (mark : FormatMark) (shown : String) : String :=
  mark.padded (match mark.precision? with
    | some precision => String.ofList (shown.toList.take precision)
    | none => shown)

/-- The sign in front of a number. -/
def signOf (mark : FormatMark) (isNegative : Bool) : String :=
  if isNegative then "-" else if mark.has '+' then "+" else if mark.has ' ' then " " else ""

/-- A number argument by its sign and what follows. -/
def ofNumber (mark : FormatMark) (isNegative : Bool) (start digits : String) : String :=
  let sign := mark.signOf isNegative ++ start
  if mark.has '0' && !mark.has '-' then
    let missing := mark.width - (sign.length + digits.length)
    sign ++ String.ofList (List.replicate missing '0') ++ digits
  else mark.padded (sign ++ digits)

/-- Digits with zeros in front up to the precision. -/
def atLeast (mark : FormatMark) (digits : String) : String :=
  let missing := mark.precision?.getD 0 - digits.length
  String.ofList (List.replicate missing '0') ++ digits

/-- The whole number that an argument is cut to. -/
def wholePart (v : Value) : Except Raised Int :=
  match v.numeric? with
  | some _ => v.toInt
  | none => .error .wrongType

/-- A whole number argument in another base. -/
def inBase (mark : FormatMark) (base : Nat) (start : String) (upper : Bool) (v : Value) :
    Except Raised String :=
  match v.numeric? with
  | some (.int n) =>
    let digits := Nat.toDigits base n.natAbs
    let digits := if upper then digits.map Char.toUpper else digits
    .ok (mark.ofNumber (n < 0) (if mark.has '#' then start else "")
      (mark.atLeast (String.ofList digits)))
  | _ => .error .wrongType

/-- A number argument as a double in words that a precision and a point that is kept decide. -/
def real (mark : FormatMark) (upper : Bool) (write : Binary64 → Nat → Bool → List Char)
    (v : Value) : Except Raised String := do
  let x ← v.double?.getD (.error .wrongType)
  let chars := write x (mark.precision?.getD 6) (mark.has '#')
  let chars := if upper then chars.map Char.toUpper else chars
  pure (mark.ofNumber x.isNegative "" (String.ofList chars))

/-- A character in ASCII. -/
def asciiChar (c : Char) : List Char :=
  if c.toNat < 0x80 then [c]
  else if c.toNat < 0x100 then ['\\', 'x'] ++ Text.hexFixed 2 c.toNat
  else if c.toNat < 0x10000 then ['\\', 'u'] ++ Text.hexFixed 4 c.toNat
  else ['\\', 'U'] ++ Text.hexFixed 8 c.toNat

/-- An argument as a single character. -/
def character (v : Value) : Except Raised String :=
  match v.asIndex?, v.asText? with
  | some n, _ =>
    if 0 ≤ n && n < 0x110000 then .ok (Char.ofNat n.toNat).toString else .error .outOfRange
  | none, some s => if s.length == 1 then .ok s else .error .wrongType
  | none, none => .error .wrongType

/-- The failure of a mark whose conversion is not known; what is not ASCII shows as a question
mark. -/
def unknownConversion (mark : FormatMark) (position : Nat) : Raised :=
  let code := mark.conversion.toNat
  let c := if 31 ≤ code && code ≤ 126 then mark.conversion else '?'
  .badValue ("unsupported format character '" ++ c.toString ++ "' (0x" ++
    String.ofList (Nat.toDigits 16 code) ++ ") at index " ++ toString position)

/-- An argument as the mark says, which ends at a position of the template. -/
def shown (mark : FormatMark) (position : Nat) (v : Value) : Except Raised String :=
  match mark.conversion with
  | 's' => .ok (mark.ofText v.displayed)
  | 'r' => .ok (mark.ofText v.written)
  | 'a' => .ok (mark.ofText (String.ofList (v.written.toList.flatMap asciiChar)))
  | 'x' => mark.inBase 16 "0x" false v
  | 'X' => mark.inBase 16 "0X" true v
  | 'o' => mark.inBase 8 "0o" false v
  | 'f' => mark.real false Binary64.fixedText v
  | 'F' => mark.real true Binary64.fixedText v
  | 'e' => mark.real false Binary64.exponentText v
  | 'E' => mark.real true Binary64.exponentText v
  | 'g' => mark.real false Binary64.generalText v
  | 'G' => mark.real true Binary64.generalText v
  | 'c' => (character v).map mark.padded
  | _ =>
    if "diu".toList.contains mark.conversion then do
      let n ← wholePart v
      pure (mark.ofNumber (n < 0) "" (mark.atLeast (toString n.natAbs)))
    else .error (mark.unknownConversion position)

end FormatMark

/-! ## Reading marks -/

namespace Template

/-- A mark that ends too early. -/
def incomplete : Raised := .badValue "incomplete format"

/-- The name up to the parenthesis that closes the one before it, and the rest. -/
def readName : Nat → List Char → Except Raised (List Char × List Char)
  | _, [] => .error (.badValue "incomplete format key")
  | opened, c :: rest =>
    if c == ')' && opened == 0 then .ok ([], rest)
    else do
      let opened := if c == '(' then opened + 1 else if c == ')' then opened - 1 else opened
      let (name, rest) ← readName opened rest
      pure (c :: name, rest)

/-- The greatest width of a mark. -/
def widthLimit : Int := 0x7FFFFFFFFFFFFFFF

/-- The greatest precision of a mark. -/
def precisionLimit : Int := 0x7FFFFFFF

/-- A number of a mark: digits, or a star for the next argument, which has to be a whole number
between a limit and its negative.  Nothing stands for no number. -/
def readCount (limit : Int) (tooBig : String) (chars : List Char) (arguments : FormatArguments) :
    Except Raised (Option Int × List Char × FormatArguments) :=
  match chars with
  | '*' :: rest => do
    let (v, arguments) ← arguments.next
    match v.asIndex? with
    | none => throw .wrongType
    | some n =>
      if n > limit || n < -limit - 1 then throw .outOfRange else pure (some n, rest, arguments)
  | chars =>
    let digits := chars.takeWhile Char.isDigit
    let n := digits.foldl (fun n c => n * 10 + Int.ofNat (c.toNat - 0x30)) 0
    if digits.isEmpty then .ok (none, chars, arguments)
    else if n > limit then .error (.badValue tooBig)
    else .ok (some n, chars.dropWhile Char.isDigit, arguments)

/-- The precision of a mark, after its point. -/
def readPrecision (chars : List Char) (arguments : FormatArguments) :
    Except Raised (Option Nat × List Char × FormatArguments) :=
  match chars with
  | '.' :: rest => do
    let (count, rest, arguments) ← readCount precisionLimit "precision too big" rest arguments
    pure (some (count.getD 0).toNat, rest, arguments)
  | chars => .ok (none, chars, arguments)

/-- The mark after a percent sign, the rest, and the arguments that are left.  A negative width
turns the sides. -/
def readMark (chars : List Char) (arguments : FormatArguments) :
    Except Raised (FormatMark × List Char × FormatArguments) := do
  let (chars, arguments) ←
    match chars, arguments with
    | '(' :: _, .listed _ => throw .wrongType
    | '(' :: rest, arguments => do
      let (name, rest) ← readName 0 rest
      pure (rest, ← arguments.select (String.ofList name))
    | chars, arguments => pure (chars, arguments)
  let isSign := fun c => "#0- +".toList.contains c
  let signs := chars.takeWhile isSign
  let (width, chars, arguments) ←
    readCount widthLimit "width too big" (chars.dropWhile isSign) arguments
  let width := width.getD 0
  let signs := if width < 0 then '-' :: signs else signs
  let (precision?, chars, arguments) ← readPrecision chars arguments
  let chars :=
    match chars with
    | c :: rest => if "hlL".toList.contains c then rest else c :: rest
    | [] => []
  match chars with
  | conversion :: rest => pure (⟨signs, width.natAbs, precision?, conversion⟩, rest, arguments)
  | [] => throw incomplete

/-! ## Whole templates -/

/-- Replaces marks one after the other; `fuel` bounds their number.  Two percent signs stand for
one. -/
def fillChars (length fuel : Nat) (chars : List Char) (arguments : FormatArguments) :
    Except Raised (String × FormatArguments) :=
  match fuel with
  | 0 => .ok (String.ofList chars, arguments)
  | fuel + 1 =>
    let plain := String.ofList (chars.takeWhile (· != '%'))
    match chars.dropWhile (· != '%') with
    | [] => .ok (plain, arguments)
    | _ :: '%' :: rest => do
      let (filled, arguments) ← fillChars length fuel rest arguments
      pure (plain ++ "%" ++ filled, arguments)
    | _ :: rest => do
      let (mark, rest, arguments) ← readMark rest arguments
      let (v, arguments) ← arguments.next
      let shown ← mark.shown (length - rest.length - 1) v
      let (filled, arguments) ← fillChars length fuel rest arguments
      pure (plain ++ shown ++ filled, arguments)

/-- What arguments stand for: a single mapping that is not empty names its values. -/
def argumentsOf : List Value → FormatArguments
  | [.map (entry :: entries)] => .named (entry :: entries) (some (.map (entry :: entries)))
  | values => .listed values

/-- A template with its marks replaced.  Without arguments it is a plain text; listed arguments
have to be used up. -/
def fill (template : String) (arguments : List Value) : Except Raised String :=
  if arguments.isEmpty then .ok template
  else do
    let chars := template.toList
    let (text, left) ← fillChars chars.length (chars.length + 1) chars (argumentsOf arguments)
    if left.areUsed then pure text else throw .wrongType

@[simp] theorem fill_nil (template : String) : fill template [] = .ok template := rfl

end Template

end FieldSchema
