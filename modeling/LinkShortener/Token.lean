import LinkShortener.Fault

/-!
Tokens, the public names of links: positional numerals in base 62, most significant digit
first. Zero is written as the single zero digit, so no token is empty and length never falls
as ids grow. Reading accepts leading zero digits as well.
-/

namespace LinkShortener.Token

/-- The digits in the order of their values: lower case, upper case, decimal. -/
def alphabet : List Char :=
  "abcdefghijklmnopqrstuvwxyzABCDEFGHIJKLMNOPQRSTUVWXYZ0123456789".toList

/-- The number of digits. -/
def radix : Nat := 62

/-- The digit of a value below the radix. -/
def digit (value : Nat) : Char := alphabet.getD value 'a'

def value? (c : Char) : Option Nat := alphabet.idxOf? c

/-- The digits of a number, most significant first. -/
def digits (n : Nat) : List Char :=
  if n < radix then [digit n] else digits (n / radix) ++ [digit (n % radix)]
termination_by n
decreasing_by
  simp only [radix] at *
  omega

def encode (id : Nat) : String := String.ofList (digits id)

/-- The token of an id, which must not be negative. -/
def ofId : Int → Except Fault String
  | .ofNat id => .ok (encode id)
  | .negSucc n => .error (.negativeId (.negSucc n))

/-- The number that a run of digits continues, or the first character that is no digit. -/
def accumulate : Nat → List Char → Except Char Nat
  | n, [] => .ok n
  | n, c :: rest =>
    match value? c with
    | some v => accumulate (n * radix + v) rest
    | none => .error c

/-- The id that a token was made from. -/
def decode (token : String) : Except Fault Nat :=
  if token.isEmpty then .error .emptyToken
  else (accumulate 0 token.toList).mapError (.strayCharacter · token)

end LinkShortener.Token
