import LinkShortener.Idna.Ascii
import LinkShortener.Url.Split

/-!
Which authorities name a host. An authority is a host, or userinfo and a host around a single
at sign; a host may end in a port, and is a simple name, a domain, or a numeric address.
-/

namespace LinkShortener.Url

/-- Letters beyond ASCII that equal an ASCII letter when case is ignored: the two Turkish
ones, the long s and the kelvin sign. -/
def foldsToLetter (c : Char) : Bool := [0x130, 0x131, 0x17f, 0x212a].contains c.toNat

/-- A letter or a decimal digit, ignoring case. -/
def isNameChar (c : Char) : Bool :=
  isLetter c || ('0' ≤ c && c ≤ '9') || foldsToLetter c

/-- Letters, digits and hyphens, with no hyphen at either end. -/
def isHyphenated (text : List Char) : Bool :=
  text.head?.any isNameChar && text.getLast?.any isNameChar &&
    text.all fun c => isNameChar c || c == '-'

/-- A name of one label with at most sixty-one characters. -/
def isSimpleName (host : List Char) : Bool := host.length ≤ 61 && isHyphenated host

/-- The last label of a domain: two to sixty-three characters that end in a letter. -/
def isTopLabel (label : List Char) : Bool :=
  2 ≤ label.length && label.length ≤ 63 && label.getLast?.any isLetter &&
    label.head?.any isNameChar && label.all fun c => isNameChar c || c == '-'

/-- A label of a domain before the last one. -/
def isInnerLabel (label : List Char) : Bool := label.length ≤ 63 && isHyphenated label

/-- Whether two underscores stand side by side. -/
def hasDoubleUnderscore : List Char → Bool
  | '_' :: '_' :: _ => true
  | _ :: rest => hasDoubleUnderscore rest
  | [] => false

/-- A domain name of at least two labels, judged in its ASCII form. -/
def isDomain (host : List Char) : Bool :=
  !hasDoubleUnderscore host &&
    match Idna.encode? host with
    | none => false
    | some name =>
      let labels := name.splitOn '.'
      name.length ≤ 253 && 2 ≤ labels.length && labels.dropLast.all isInnerLabel &&
        labels.getLast?.any isTopLabel

/-- A port from 1 to 65535 without leading zero. -/
def isPort (text : List Char) : Bool :=
  !text.isEmpty && text.all Char.isDigit && text.head? != some '0' && text.length ≤ 5 &&
    Net.decimal text ≤ 65535

/-- How often a character occurs. -/
def occurrences (c : Char) (text : List Char) : Nat := text.countP (· == c)

/-- How often a closing bracket is followed by a colon. -/
def closings : List Char → Nat
  | ']' :: ':' :: rest => closings rest + 1
  | _ :: rest => closings rest
  | [] => 0

/-- The host before a valid port, its brackets cut off; nothing when there is no such port. -/
def beforePort? (host : List Char) : Option (List Char) :=
  if (closings host == 1 || occurrences ':' host == 1) && isPort (afterLast ':' host) then
    some (((beforeLast ':' host).dropWhile (· == '[')).reverse.dropWhile (· == ']')).reverse
  else none

def isHost (sixAllowed : Bool) (host : List Char) : Bool :=
  isSimpleName host || isDomain host || (Net.four? host).isSome ||
    (sixAllowed && (Net.zonedSix? host).isSome)

/-- Whether an IPv6 address may stand in a host: it starts with a bracket and has colons. -/
def mayBeSix (host : List Char) : Bool :=
  host.head? == some '[' && 2 ≤ occurrences ':' host

/-- A host without the brackets that open it and the first one that closes. -/
def dropBrackets (host : List Char) : List Char := (host.dropWhile (· == '[')).erase ']'

/-- A host with an optional port, in an authority that holds it. -/
def isHostPort (authority host : List Char) : Bool :=
  let sixAllowed := mayBeSix host
  let judged := if sixAllowed && closings authority == 0 then dropBrackets host else host
  !judged.isEmpty && isHost sixAllowed ((beforePort? judged).getD judged)

/-! ### Userinfo -/

/-- Letters from U+0100 to U+024F, and those that equal one when case is ignored. -/
def isExtendedLatin (c : Char) : Bool :=
  (0x100 ≤ c.toNat && c.toNat ≤ 0x24f) || (0x288 ≤ c.toNat && c.toNat ≤ 0x28c) ||
    [0x49, 0x53, 0x69, 0x73, 0xff, 0x253, 0x254, 0x256, 0x257, 0x259, 0x25b, 0x260, 0x263,
      0x268, 0x269, 0x26f, 0x272, 0x275, 0x280, 0x283, 0x292, 0x2c65, 0x2c66, 0x2c7e,
      0x2c7f].contains c.toNat

/-- A character of a dotted user name. -/
def isAtomChar (c : Char) : Bool :=
  isNameChar c || "-!#$%&'*+/=?^_`\x7b|\x7d~".toList.contains c

/-- A text without one line end at its end. -/
def dropFinalBreak (text : List Char) : List Char :=
  if text.getLast? == some '\n' then text.dropLast else text

/-- A user name of groups with dots between them. -/
def isDotted (text : List Char) : Bool :=
  (text.splitOn '.').all fun group => !group.isEmpty && group.all isAtomChar

/-- A user name of the characters that a quoted one admits, and of backslashes before a tab
or a full stop. -/
def isQuotedName : List Char → Bool
  | [] => true
  | c :: rest =>
    if c = '\\' then
      match rest with
      | e :: tail => (e == '\t' || e == '.') && isQuotedName tail
      | [] => false
    else
      let n := c.toNat
      ((1 ≤ n && n ≤ 127 && n != 9 && n != 10 && n != 13 && n != 32 && c != '"') ||
        foldsToLetter c) && isQuotedName rest

def isUserName (text : List Char) : Bool :=
  text.head?.any isExtendedLatin || isDotted (dropFinalBreak text) ||
    isQuotedName (dropFinalBreak text)

end LinkShortener.Url
