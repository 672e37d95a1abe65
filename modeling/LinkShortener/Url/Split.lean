import LinkShortener.Net.Address

/-!
Splitting an address text into scheme, authority, path, query and fragment. Leading controls
and blanks are dropped and tabs and line ends removed before the split; an authority is then
checked for its brackets and for characters that hide a delimiter.
-/

namespace LinkShortener.Url

/-- The parts of an address; a part that is absent is empty. -/
structure Parts where
  scheme : List Char
  authority : List Char
  path : List Char
  query : List Char
  fragment : List Char
  deriving DecidableEq, Repr

/-- Why a text cannot be split. -/
inductive SplitFlaw
  | bracket
  | notAddress (host : List Char)
  | futureAddress
  | fourInBrackets
  | hiddenDelimiter (authority : List Char)
  deriving DecidableEq, Repr

def clean (text : List Char) : List Char :=
  (text.dropWhile (·.toNat ≤ 32)).filter fun c => c ≠ '\t' ∧ c ≠ '\n' ∧ c ≠ '\r'

def isLetter (c : Char) : Bool := ('a' ≤ c && c ≤ 'z') || ('A' ≤ c && c ≤ 'Z')

/-- A character of a scheme. -/
def isSchemeChar (c : Char) : Bool :=
  isLetter c || ('0' ≤ c && c ≤ '9') || c == '+' || c == '-' || c == '.'

/-- The scheme in lower case, and what follows its colon; without a scheme, nothing and the
whole text. -/
def splitScheme (text : List Char) : List Char × List Char :=
  match text.span (· != ':') with
  | (name, _ :: rest) =>
    if name.head?.any isLetter && name.all isSchemeChar then (name.map Char.toLower, rest)
    else ([], text)
  | _ => ([], text)

/-- A character that ends an authority. -/
def endsAuthority (c : Char) : Bool := c == '/' || c == '?' || c == '#'

/-- The authority after two slashes, and what follows it. -/
def splitAuthority (text : List Char) : List Char × List Char :=
  match text with
  | '/' :: '/' :: rest => rest.span fun c => !endsAuthority c
  | _ => ([], text)

/-- What stands before the first occurrence of a character, and what stands after it. -/
def cut (c : Char) (text : List Char) : List Char × List Char :=
  match text.span (· != c) with
  | (before, _ :: after) => (before, after)
  | (before, []) => (before, [])

/-- What stands after the last occurrence of a character, or the whole text. -/
def afterLast (c : Char) (text : List Char) : List Char :=
  (text.reverse.takeWhile (· != c)).reverse

/-- What stands before the last occurrence of a character; nothing when there is none. -/
def beforeLast (c : Char) (text : List Char) : List Char :=
  (text.take (text.length - (afterLast c text).length)).dropLast

/-! ### Checks of the authority -/

/-- An address of a future version: `v`, hexadecimal digits, a full stop, and a text. -/
def isFutureAddress (host : List Char) : Bool :=
  match host with
  | 'v' :: rest =>
    match rest.span fun c => (Text.Hex.value? c).isSome with
    | (_ :: _, '.' :: _ :: _) => true
    | _ => false
  | _ => false

/-- Checks the text between the brackets of a host. -/
def checkBracketed (host : List Char) : Except SplitFlaw Unit :=
  if host.head? == some 'v' then
    if isFutureAddress host then .ok () else .error .futureAddress
  else if (Net.zonedSix? host).isSome then .ok ()
  else if (Net.four? host).isSome then .error .fourInBrackets
  else .error (.notAddress host)

/-- Checks the brackets of an authority. -/
def checkBrackets (authority : List Char) : Except SplitFlaw Unit :=
  let opened := authority.contains '['
  let closed := authority.contains ']'
  if opened != closed then .error .bracket
  else if !opened then .ok ()
  else
    let host := afterLast '@' authority
    match host.span (· != '[') with
    | (before, _ :: bracketed) =>
      let (inner, after) := cut ']' bracketed
      if !before.isEmpty then .error .bracket
      else if !after.isEmpty && after.head? != some ':' then .error .bracket
      else checkBracketed inner
    | (_, []) => checkBracketed (cut ':' host).1

/-- The characters beyond ASCII whose compatibility form holds one of the five delimiters of
an authority. -/
def hidesDelimiter (c : Char) : Bool :=
  [0x2047, 0x2048, 0x2049, 0x2100, 0x2101, 0x2105, 0x2106, 0x2a74, 0xfe13, 0xfe16, 0xfe55,
    0xfe56, 0xfe5f, 0xfe6b, 0xff03, 0xff0f, 0xff1a, 0xff1f, 0xff20].contains c.toNat

def split (text : List Char) : Except SplitFlaw Parts := do
  let (scheme, rest) := splitScheme (clean text)
  let (authority, rest) := splitAuthority rest
  checkBrackets authority
  if authority.any hidesDelimiter then throw (.hiddenDelimiter authority)
  let (rest, fragment) := cut '#' rest
  let (path, query) := cut '?' rest
  return ⟨scheme, authority, path, query, fragment⟩

end LinkShortener.Url
