/-!
Hexadecimal numerals: the value of a digit, fixed-width numerals in either case, and
byte strings written as pairs of digits.
-/

namespace LinkShortener.Text.Hex

/-- The value of a hexadecimal digit of either case. -/
def value? (c : Char) : Option Nat :=
  if '0' ≤ c ∧ c ≤ '9' then some (c.toNat - 48)
  else if 'a' ≤ c ∧ c ≤ 'f' then some (c.toNat - 87)
  else if 'A' ≤ c ∧ c ≤ 'F' then some (c.toNat - 55)
  else none

/-- The number that a nonempty run of hexadecimal digits stands for. -/
def toNat? : List Char → Option Nat
  | [] => none
  | c :: cs => (c :: cs).foldlM (fun n d => (value? d).map (16 * n + ·)) 0

def lowerDigit (v : Nat) : Char := "0123456789abcdef".toList.getD v '0'

/-- The upper-case digit of a value below sixteen. -/
def upperDigit (v : Nat) : Char := "0123456789ABCDEF".toList.getD v '0'

/-- The last `width` hexadecimal digits of a number, in lower case. -/
def lower : (width : Nat) → Nat → List Char
  | 0, _ => []
  | width + 1, n => lower width (n / 16) ++ [lowerDigit (n % 16)]

/-- The last `width` hexadecimal digits of a number, in upper case. -/
def upper : (width : Nat) → Nat → List Char
  | 0, _ => []
  | width + 1, n => upper width (n / 16) ++ [upperDigit (n % 16)]

theorem length_lower (width n : Nat) : (lower width n).length = width := by
  induction width generalizing n with
  | zero => rfl
  | succ width ih => simp [lower, ih]

/-- The bytes that pairs of hexadecimal digits stand for. -/
def bytes? : List Char → Option (List UInt8)
  | [] => some []
  | [_] => none
  | a :: b :: rest => do
    let high ← value? a
    let low ← value? b
    let tail ← bytes? rest
    return UInt8.ofNat (16 * high + low) :: tail

end LinkShortener.Text.Hex
