import LinkShortener.Numeral.Binary64

/-!
The shortest decimal text of a binary floating-point number: the fewest digits that read back
as the same number, and of those the nearest. Exponents from -4 to 15 are written
positionally, with at least one digit after the point; the others with a mantissa of one digit
before the point and a signed exponent of at least two digits.
-/

namespace LinkShortener.Numeral.Binary64

/-- The exponent of the leading decimal digit of a positive quotient, found by counting up
from a lower estimate. -/
def leadingDecimal (num den : Nat) : Int :=
  let low : Int := ((toString num).length : Int) - (toString den).length - 1
  let atLeast (e : Int) : Bool := match e with
    | .ofNat k => den * Nat.pow 10 k ≤ num
    | .negSucc k => den ≤ num * Nat.pow 10 (k + 1)
  if atLeast (low + 1) then (if atLeast (low + 2) then low + 2 else low + 1) else low

/-- The two neighbours of a quotient on the grid of multiples of ten to the `exponent`, the
nearer first; of two equally near ones the even one is first. -/
def neighbours (num den : Nat) (exponent : Int) : List Nat :=
  let (n, d) := match exponent with
    | .ofNat k => (num, den * Nat.pow 10 k)
    | .negSucc k => (num * Nat.pow 10 (k + 1), den)
  let below := n / d
  let near := roundDiv n d
  if near = below then [below, below + 1] else [below + 1, below]

/-- The decimal of fewest digits, from `count` on, that rounds to the number. -/
def shortestFrom (m : Nat) (q : Int) (top : Int) : (tries count : Nat) → Decimal
  | 0, _ => ⟨false, m, q⟩
  | tries + 1, count =>
    let (n, d) := ratio m q
    let e : Int := top - count + 1
    match (neighbours n d e).find? (fun k => ofDecimal ⟨false, k, e⟩ == .finite false m q) with
    | some k => ⟨false, k, e⟩
    | none => shortestFrom m q top tries (count + 1)

/-- The shortest decimal of a finite positive number; seventeen digits always suffice. -/
def shortest (m : Nat) (q : Int) : Decimal :=
  let (n, d) := ratio m q
  shortestFrom m q (leadingDecimal n d) 17 1

def dropZeros (digits : List Char) : List Char :=
  (digits.reverse.dropWhile (· == '0')).reverse

/-- The text of digits whose first one has the decimal exponent `top`. -/
def layout (digits : List Char) (top : Int) : List Char :=
  if -4 ≤ top ∧ top < 16 then
    match top with
    | .ofNat k =>
      let padded := digits ++ List.replicate (k + 1 - digits.length) '0'
      let rest := padded.drop (k + 1)
      padded.take (k + 1) ++ '.' :: (if rest.isEmpty then ['0'] else rest)
    | .negSucc k => '0' :: '.' :: (List.replicate k '0' ++ digits)
  else
    let mantissa := match digits with
      | [d] => [d]
      | d :: rest => d :: '.' :: rest
      | [] => ['0']
    let power := (toString top.natAbs).toList
    let power := if power.length < 2 then '0' :: power else power
    mantissa ++ 'e' :: (if top < 0 then '-' else '+') :: power

def text : Binary64 → String
  | .nan => "nan"
  | .infinite negative => if negative then "-inf" else "inf"
  | .finite negative m q =>
    let sign := if negative then ['-'] else []
    if m = 0 then String.ofList (sign ++ "0.0".toList)
    else
      let d := shortest m q
      let digits := (toString d.digits).toList
      let top : Int := d.exponent + digits.length - 1
      String.ofList (sign ++ layout (dropZeros digits) top)

end LinkShortener.Numeral.Binary64
