import LinkShortener.Text.Hex

/-!
Sets of code points as lists of inclusive ranges, with a compact written form: ranges
separated by blanks, each one hexadecimal number or two joined by a hyphen.
-/

namespace LinkShortener.Text

/-- The code points from `first` to `last`, both included. -/
structure CodeRange where
  first : Nat
  last : Nat
  deriving DecidableEq, Repr

namespace CodeRange

def holds (r : CodeRange) (n : Nat) : Bool := r.first ≤ n && n ≤ r.last

/-- Reads one written range; a number alone is the range of that one code point. -/
def read? (text : List Char) : Option CodeRange :=
  match text.span (· != '-') with
  | (low, []) => (Hex.toNat? low).map fun n => ⟨n, n⟩
  | (low, _ :: high) => do return ⟨← Hex.toNat? low, ← Hex.toNat? high⟩

/-- Reads the lines of a written set, leaving out what is no range. -/
def readAll (lines : List String) : List CodeRange :=
  lines.flatMap fun line => (line.toList.splitOn ' ').filterMap read?

def member (ranges : List CodeRange) (c : Char) : Bool :=
  ranges.any (·.holds c.toNat)

end CodeRange

end LinkShortener.Text
