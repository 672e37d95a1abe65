/-!
Binary floating-point numbers of 53 significant bits, held exactly: a finite number is a
signed whole number times a power of two. Rounding is to nearest, a tie to the even
neighbour; numbers of magnitude at least 2^1024 round to infinity.
-/

namespace LinkShortener.Numeral

/-- A number written in decimal: plus or minus `digits` times ten to the `exponent`. -/
structure Decimal where
  negative : Bool
  digits : Nat
  exponent : Int
  deriving DecidableEq, Repr

inductive Binary64
  | nan
  | infinite (negative : Bool)
  | finite (negative : Bool) (mantissa : Nat) (exponent : Int)
  deriving DecidableEq, Repr

namespace Binary64

/-- A quotient rounded to the nearest whole number, a tie to the even one. -/
def roundDiv (num den : Nat) : Nat :=
  let q := num / den
  let twice := 2 * (num % den)
  if twice < den then q
  else if den < twice then q + 1
  else q + q % 2

/-- A quotient scaled by a power of two, as numerator and denominator. -/
def scale (num den : Nat) (shift : Int) : Nat × Nat :=
  match shift with
  | .ofNat k => (num * Nat.pow 2 k, den)
  | .negSucc k => (num, den * Nat.pow 2 (k + 1))

/-- The exponent of the leading bit of a positive quotient. -/
def leadingBit (num den : Nat) : Int :=
  let guess : Int := (num.log2 : Int) - den.log2
  let (n, d) := scale num den (-guess)
  if n < d then guess - 1 else guess

/-- The number nearest to a quotient, whose denominator is not zero. -/
def ofRatio (negative : Bool) (num den : Nat) : Binary64 :=
  if num = 0 then .finite negative 0 0
  else
    let q := max (leadingBit num den - 52) (-1074)
    let (n, d) := scale num den (-q)
    let m := roundDiv n d
    let (m, q) := if m = 9007199254740992 then (4503599627370496, q + 1) else (m, q)
    if q > 971 then .infinite negative else .finite negative m q

/-- The number nearest to a decimal one. Exponents far outside the range are settled by the
number of digits alone. -/
def ofDecimal (d : Decimal) : Binary64 :=
  let magnitude : Int := d.exponent + (toString d.digits).length
  if d.digits = 0 || magnitude < -400 then .finite d.negative 0 0
  else if magnitude > 400 then .infinite d.negative
  else
    match d.exponent with
    | .ofNat e => ofRatio d.negative (d.digits * Nat.pow 10 e) 1
    | .negSucc e => ofRatio d.negative d.digits (Nat.pow 10 (e + 1))

/-- The magnitude of a finite number as a quotient. -/
def ratio (mantissa : Nat) (exponent : Int) : Nat × Nat := scale mantissa 1 exponent

/-- The whole number that a finite number has before the point, toward zero; nothing for the
others. -/
def truncate? : Binary64 → Option Int
  | .finite negative m q =>
    let (n, d) := ratio m q
    let whole : Int := (n / d : Nat)
    some (if negative then -whole else whole)
  | _ => none

/-- The value of a number without fraction. -/
def whole? : Binary64 → Option Int
  | .finite negative m q =>
    let (n, d) := ratio m q
    if n % d = 0 then some (if negative then -((n / d : Nat) : Int) else (n / d : Nat)) else none
  | _ => none

end Binary64

end LinkShortener.Numeral
