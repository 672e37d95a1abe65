import LinkShortener.Numeral.Binary64
import LinkShortener.Text.Blank
import LinkShortener.Text.WordClass

/-!
The written numbers that settings, records and query results admit. All of them allow a sign and
single underscores. A whole number is lenient or plain: a lenient one has ASCII digits and may end
in a point and zeros, a plain one has decimal digits of any script. A real one is a decimal
fraction with an optional exponent, or a word for a special value.

Whole numbers of more than `digitLimit` digits are refused as such, and not as misspelled: the
length is looked at before what follows the digits.
-/

namespace LinkShortener.Numeral

/-- The most digits that a written whole number may have. -/
def digitLimit : Nat := 4300

/-- Why a written whole number is refused: it has too many digits. -/
structure Oversized where
  digits : Nat
  deriving DecidableEq, Repr

/-- The text that tells of a whole number with too many digits. -/
def Oversized.text (flaw : Oversized) : String :=
  let digits := flaw.digits
  s!"Exceeds the limit ({digitLimit} digits) for integer string conversion: " ++
    s!"value has {digits} digits; use sys.set_int_max_str_digits() to increase the limit"

/-- Whether a run of digits is too long for a whole number. -/
def oversized? (digits : List Char) : Option Oversized :=
  if digits.length > digitLimit then some ⟨digits.length⟩ else none

def signed (negative : Bool) (n : Nat) : Int := if negative then -n else n

/-- A sign and the text after it. -/
def splitSign : List Char → Bool × List Char
  | '-' :: rest => (true, rest)
  | '+' :: rest => (false, rest)
  | rest => (false, rest)

/-- The number that ASCII digits stand for. -/
def digitsValue (digits : List Char) : Nat :=
  digits.foldl (fun n c => 10 * n + (c.toNat - 48)) 0

/-- A text without its underscores, if none of them stands at an end or beside another. -/
def joined? (text : List Char) : Option (List Char) :=
  if text.head? = some '_' ∨ text.getLast? = some '_' ∨ ('_', '_') ∈ text.zip text.tail then none
  else some (text.filter (· != '_'))

/-! ### Lenient whole numbers -/

/-- What comes of reading a lenient whole number. -/
inductive Lenient
  | number (n : Int)
  | flawed
  | tooLong
  deriving DecidableEq, Repr

/-- Reads a whole number in strict form: an optional minus sign and ASCII digits, no zero before
another digit. The sign counts toward the length. -/
def readStrict (text : List Char) : Lenient :=
  let (negative, body) := match text with
    | '-' :: rest => (true, rest)
    | rest => (false, rest)
  let (digits, rest) := match body with
    | '0' :: rest => (['0'], rest)
    | body => body.span Char.isDigit
  if digits.length + (if negative then 1 else 0) > digitLimit then .tooLong
  else if digits.isEmpty || !rest.isEmpty then .flawed
  else .number (signed negative (digitsValue digits))

/-- A text without the zeros that lead it, single underscores after them allowed. The last zero
stays before a point and at the end; what comes next must be a digit or a minus sign. -/
def dropZeros? : List Char → Option (List Char)
  | '0' :: '_' :: rest => dropZeros? rest
  | ['0'] => some ['0']
  | '0' :: '.' :: rest => some ('0' :: '.' :: rest)
  | '0' :: c :: rest => dropZeros? (c :: rest)
  | c :: rest => if c.isDigit || c == '-' then some (c :: rest) else none
  | [] => none

/-- A text without a point and the zeros after it; other text after a point is not allowed. -/
def dropZeroFraction? (text : List Char) : Option (List Char) :=
  match text.span (· != '.') with
  | (whole, []) => some whole
  | (whole, _ :: frac) => if !frac.isEmpty && frac.all (· == '0') then some whole else none

/-- A lenient whole number brought to strict form: white space, a plus sign, zeros in front, a
fraction of zeros and underscores are taken away. -/
def tidied? (text : List Char) : Option (List Char) := do
  let text := Text.trimBy Text.isWhiteSpace text
  let text ← match text with
    | '+' :: '-' :: _ => none
    | '+' :: rest => some rest
    | rest => some rest
  let (minus, body) := match text with
    | '-' :: rest => (['-'], rest)
    | rest => ([], rest)
  let digits ← joined? (← dropZeroFraction? (← dropZeros? body))
  return minus ++ digits

/-- Reads a lenient whole number. The text is read as it is first, so that one in strict form
keeps all its digits. -/
def readLenient (text : String) : Lenient :=
  match readStrict text.toList with
  | .flawed => (tidied? text.toList).elim .flawed readStrict
  | outcome => outcome

/-! ### Plain whole numbers -/

/-- What comes of reading a plain whole number. -/
inductive Plain
  | number (n : Int)
  | flawed
  | tooLong (flaw : Oversized)
  deriving DecidableEq, Repr

/-- The number that decimal digits of any script stand for. -/
def digitsValue? (digits : List Char) : Option Nat :=
  if digits.isEmpty then none
  else digits.foldlM (fun n c => (Text.decimalValue? c).map (10 * n + ·)) 0

/-- Reads a plain whole number, white space around it allowed. -/
def readPlain (text : String) : Plain :=
  let (negative, body) := splitSign (text.toList.dropWhile Text.isWhiteSpace)
  let (run, rest) := body.span fun c => Text.isDecimal c || c == '_'
  match joined? run with
  | none => .flawed
  | some digits =>
    match oversized? digits with
    | some flaw => .tooLong flaw
    | none =>
      if !rest.all Text.isWhiteSpace then .flawed
      else (digitsValue? digits).elim .flawed fun n => .number (signed negative n)

/-! ### Real numbers -/

def special? (negative : Bool) (word : List Char) : Option Binary64 :=
  if word = "inf".toList ∨ word = "infinity".toList then some (.infinite negative)
  else if word = "nan".toList then some .nan
  else none

/-- A decimal fraction with an optional exponent, in ASCII digits; those on one side of the point
suffice. -/
def fraction? (negative : Bool) (body : List Char) : Option Decimal :=
  let (whole, rest) := body.span Char.isDigit
  let (frac, rest) := match rest with
    | '.' :: rest => rest.span Char.isDigit
    | rest => ([], rest)
  let digits := whole ++ frac
  let decimal (power : Int) : Decimal := ⟨negative, digitsValue digits, power - frac.length⟩
  if digits.isEmpty then none
  else
    match rest with
    | [] => some (decimal 0)
    | c :: rest =>
      let (down, power) := splitSign rest
      if (c = 'e' ∨ c = 'E') ∧ !power.isEmpty ∧ power.all Char.isDigit then
        some (decimal (signed down (digitsValue power)))
      else none

/-- The real number that a whole text is, without blanks and underscores. -/
def real? (text : List Char) : Option Binary64 :=
  let (negative, body) := splitSign text
  (special? negative (body.map Char.toLower)).or ((fraction? negative body).map Binary64.ofDecimal)

/-- Reads a real number. It may have white space around it or underscores in it, not both. -/
def readReal? (text : String) : Option Binary64 :=
  (real? (Text.trimBy Text.isWhiteSpace text.toList)).or ((joined? text.toList).bind real?)

end LinkShortener.Numeral
