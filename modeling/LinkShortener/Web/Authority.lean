import LinkShortener.Net.Address
import LinkShortener.Text.Hex

/-!
The host and port that a request names. A host is a registered name, which may hold percent
triples, or an address in brackets; a port may follow it. A text of another form names nothing.
-/

namespace LinkShortener.Web.Authority

/-- A character that stands for itself in a registered name. -/
def isNameChar (c : Char) : Bool := c.isAlphanum || "-._~!$&'()*+,;=".toList.contains c

/-- Whether a text is made of the characters of names and of percent triples. -/
def isName : List Char → Bool
  | [] => true
  | '%' :: a :: b :: rest =>
    (Text.Hex.value? a).isSome && (Text.Hex.value? b).isSome && isName rest
  | c :: rest => isNameChar c && isName rest

/-- Whether a text after a host is a port, or nothing at all; the digits of a port may be
missing. -/
def isPortPart : List Char → Bool
  | [] => true
  | ':' :: digits => digits.all Char.isDigit && Net.decimal digits ≤ 65535
  | _ => false

/-- Whether a text names a host. -/
def isValid (text : List Char) : Bool :=
  match text with
  | '[' :: rest =>
    match rest.span (· != ']') with
    | (address, _ :: rest) => (Net.six? address).isSome && isPortPart rest
    | _ => false
  | _ =>
    let (name, rest) := text.span (· != ':')
    !name.isEmpty && isName name && isPortPart rest

end LinkShortener.Web.Authority
