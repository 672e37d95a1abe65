import LinkShortener.Text.Percent

/-!
Byte strings whose encoding shows in their first bytes: by a mark, or by where zero bytes stand
among the first four, since a text of data begins with two ASCII characters. Half a surrogate
pair is let pass in every encoding, and stands apart from the characters.
-/

namespace LinkShortener.Text.Encoded

/-- How the code points of a text are laid out in bytes. -/
inductive Form
  | octets
  | units (bigEndian : Bool)
  | words (bigEndian : Bool)
  deriving DecidableEq, Repr

/-- The form of a text without a mark. -/
def unmarked : List UInt8 → Form
  | a :: b :: c :: d :: _ =>
    if a = 0 then if b = 0 then .words true else .units true
    else if b = 0 then if c = 0 ∧ d = 0 then .words false else .units false
    else .octets
  | [a, b] => if a = 0 then .units true else if b = 0 then .units false else .octets
  | _ => .octets

/-- The form of a text, and its bytes after the mark. -/
def detect : List UInt8 → Form × List UInt8
  | 0 :: 0 :: 0xfe :: 0xff :: rest => (.words true, rest)
  | 0xff :: 0xfe :: 0 :: 0 :: rest => (.words false, rest)
  | 0xfe :: 0xff :: rest => (.units true, rest)
  | 0xff :: 0xfe :: rest => (.units false, rest)
  | 0xef :: 0xbb :: 0xbf :: rest => (.octets, rest)
  | bytes => (unmarked bytes, bytes)

/-! ### Surrogates -/

/-- The first half of a surrogate pair. -/
def isHigh (n : Nat) : Bool := 0xd800 ≤ n && n < 0xdc00

/-- The second half of a surrogate pair. -/
def isLow (n : Nat) : Bool := 0xdc00 ≤ n && n < 0xe000

/-- The code point of a surrogate pair. -/
def pair (high low : Nat) : Nat := 0x10000 + (high - 0xd800) * 0x400 + (low - 0xdc00)

/-- A code point as a character; half a pair is none. -/
def scalar (n : Nat) : Option Char := if isHigh n || isLow n then none else some (Char.ofNat n)

/-! ### Code points -/

/-- The number that two bytes are in an order. -/
def unit (bigEndian : Bool) (a b : UInt8) : Nat :=
  if bigEndian then 256 * a.toNat + b.toNat else 256 * b.toNat + a.toNat

/-- The sixteen-bit units of a byte string. -/
def units? (bigEndian : Bool) : List UInt8 → Option (List Nat)
  | [] => some []
  | [_] => none
  | a :: b :: rest => (units? bigEndian rest).map (unit bigEndian a b :: ·)

/-- The code points of sixteen-bit units. -/
def joined : List Nat → List Nat
  | high :: low :: rest =>
    if isHigh high && isLow low then pair high low :: joined rest
    else high :: joined (low :: rest)
  | rest => rest

/-- The code points of thirty-two-bit words. -/
def words? (bigEndian : Bool) : List UInt8 → Option (List Nat)
  | [] => some []
  | a :: b :: c :: d :: rest =>
    let n :=
      if bigEndian then 65536 * unit true a b + unit true c d
      else 65536 * unit false c d + unit false a b
    if n < 0x110000 then (words? bigEndian rest).map (n :: ·) else none
  | _ => none

/-- What the first byte of a code point says; the range of surrogates is let pass. -/
def lead? (b : Nat) : Option (Nat × Nat × Nat × Nat) :=
  if b = 0xed then some (2, 0x80, 0xbf, 0xd) else Percent.lead? b

/-- The code points of bytes in UTF-8, begun in the middle of one. -/
def octets? : Option Percent.Partial → List UInt8 → Option (List Nat)
  | none, [] => some []
  | some _, [] => none
  | none, b :: rest =>
    match lead? b.toNat with
    | none => none
    | some (0, _, _, bits) => (octets? none rest).map (bits :: ·)
    | some (owed, low, high, bits) => octets? (some ⟨owed, low, high, bits⟩) rest
  | some s, b :: rest =>
    if s.low ≤ b.toNat ∧ b.toNat ≤ s.high then
      let bits := s.bits * 64 + (b.toNat - 0x80)
      if s.owed ≤ 1 then (octets? none rest).map (bits :: ·)
      else octets? (some ⟨s.owed - 1, 0x80, 0xbf, bits⟩) rest
    else none

/-- The characters of a byte string, with a gap for every half of a surrogate pair. -/
def read? (bytes : List UInt8) : Option (List (Option Char)) :=
  let (form, rest) := detect bytes
  let points :=
    match form with
    | .octets => octets? none rest
    | .units bigEndian => (units? bigEndian rest).map joined
    | .words bigEndian => words? bigEndian rest
  points.map (·.map scalar)

end LinkShortener.Text.Encoded
