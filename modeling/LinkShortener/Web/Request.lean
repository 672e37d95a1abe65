import LinkShortener.Text.Blank
import LinkShortener.Text.Search

/-!
Requests over the web and the caller behind one. The address of a caller is the first hop that
proxies report if it is not blank, else the address that a single proxy reports, else the peer
that the request came from.
-/

namespace LinkShortener.Web

structure Request where
  method : String
  path : String
  query : Option String
  headers : List (String × String)
  peer : Option String
  body : List UInt8
  deriving DecidableEq, Repr

namespace Request

/-- The value of a header, whose name is given in lower case; of equal names the first counts. -/
def header? (r : Request) (name : String) : Option String :=
  (r.headers.find? fun (n, _) => n.toLower == name).map (·.2)

/-- The first hop that proxies report, blanks taken off. -/
def firstHop? (r : Request) : Option String :=
  match r.header? "x-forwarded-for" with
  | none => none
  | some hops =>
    let hop := String.ofList (Text.trimChars (Text.upTo ',' hops.toList))
    if hop.isEmpty then none else some hop

/-- The address that a single proxy reports, if it is not empty, blanks taken off. -/
def realAddress? (r : Request) : Option String :=
  match r.header? "x-real-ip" with
  | none => none
  | some address => if address.isEmpty then none else some (Text.trim address)

def address (r : Request) : String :=
  match r.firstHop? with
  | some hop => hop
  | none =>
    match r.realAddress? with
    | some address => address
    | none => r.peer.getD ""

end Request

/-- Who makes a request. -/
structure Caller where
  request : String
  address : String
  agent : String
  referrer : String
  deriving DecidableEq, Repr

/-- The caller of a request, given the name for a request that brings none. -/
def Caller.ofRequest (fresh : String) (r : Request) : Caller where
  request :=
    match r.header? "x-request-id" with
    | some name => if name.isEmpty then fresh else name
    | none => fresh
  address := r.address
  agent := (r.header? "user-agent").getD ""
  referrer := (r.header? "referer").getD ""

end LinkShortener.Web
