import LinkShortener.Net.Address

/-!
Networks, blocks of addresses that share their leading bits. Addresses are numbers of 128 bits;
a version 4 address is the number with 96 leading zero bits.
-/

namespace LinkShortener.Net

/-- The addresses that agree with `base` in the leading `bits` of 128 bits. -/
structure Network where
  base : Nat
  bits : Nat
  deriving DecidableEq, Repr

namespace Network

def contains (n : Network) (address : Nat) : Bool :=
  address / Nat.pow 2 (128 - n.bits) == n.base / Nat.pow 2 (128 - n.bits)

def ofText? (text : List Char) : Option Network :=
  match text.span (· != '/') with
  | (address, '/' :: width) =>
    if width.isEmpty || !width.all Char.isDigit then none
    else
      match four? address, six? address with
      | some a, _ => if decimal width ≤ 32 then some ⟨a, 96 + decimal width⟩ else none
      | none, some a => if decimal width ≤ 128 then some ⟨a, decimal width⟩ else none
      | none, none => none
  | _ => none

end Network

end LinkShortener.Net
