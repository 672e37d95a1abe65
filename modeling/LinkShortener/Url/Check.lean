import LinkShortener.Fault
import LinkShortener.Text.Blank
import LinkShortener.Text.Percent
import LinkShortener.Url.Host

/-!
Which texts are links: absolute addresses of the two web schemes with an authority that names
a host, no blank anywhere, and a path, query and fragment in their character sets.
-/

namespace LinkShortener.Url

/-- Userinfo: nothing, a user name, or a user name and a password around a colon; with more
colons the whole is one percent-encoded user name. -/
def isUserinfo (text : List Char) : Bool :=
  text.isEmpty ||
    match occurrences ':' text with
    | 0 => isUserName text
    | 1 =>
      let (name, password) := cut ':' text
      isUserName name && !password.any fun c => c == '/' || c == '?' || c == '#' || c == '@'
    | _ => isUserName (Text.Percent.decode text)

/-- An authority that names a host. -/
def isAuthority (authority : List Char) : Bool :=
  match occurrences '@' authority with
  | 0 => isHostPort authority authority
  | 1 =>
    let (userinfo, host) := cut '@' authority
    isHostPort authority host && isUserinfo userinfo
  | _ => false

/-- A character of a path. -/
def isPathChar (c : Char) : Bool :=
  let n := c.toNat
  isNameChar c || "/-._~!$&'()*+,;=:@%".toList.contains c ||
    (0xa0 ≤ n && n ≤ 0xd7ff) || (0xf900 ≤ n && n ≤ 0xfdcf) || (0xfdf0 ≤ n && n ≤ 0xffef) ||
    (0x1f300 ≤ n && n ≤ 0x1f5ff) || (0x1f600 ≤ n && n ≤ 0x1f64f)

/-- A character of a fragment. -/
def isFragmentChar (c : Char) : Bool :=
  isNameChar c || "?/:@-._~%!$&'()*+,;=#".toList.contains c

/-- The fields of a query; every one must have an equals sign. -/
def isFieldList (separator : Char) (query : List Char) : Bool :=
  (query.splitOn separator).all (·.contains '=')

/-- Whether some field of a query has a value. -/
def hasValue (query : List Char) : Bool :=
  (query.splitOn '&').any fun field => !(cut '=' field).2.isEmpty

/-- A query: fields between ampersands, and between semicolons as well when one of the former
has a value. -/
def isQuery (query : List Char) : Bool :=
  query.isEmpty || (isFieldList '&' query && (!hasValue query || isFieldList ';' query))

def isLinkParts (parts : Parts) : Bool :=
  isAuthority parts.authority && parts.path.all isPathChar && isQuery parts.query &&
    parts.fragment.all isFragmentChar

def schemes : List (List Char) := ["http".toList, "https".toList]

/-- Accepts a link and names the fault of any other text. -/
def check (url : String) : Except Fault Unit :=
  match split url.toList with
  | .error _ => .error (.invalidUrl url)
  | .ok parts =>
    if parts.scheme.isEmpty || parts.authority.isEmpty then .error (.invalidUrl url)
    else if !schemes.contains parts.scheme then
      .error (.unsupportedScheme (String.ofList parts.scheme))
    else if url.toList.any Text.isBlank || !isLinkParts parts then .error (.invalidUrl url)
    else .ok ()

end LinkShortener.Url
