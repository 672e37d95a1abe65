import LinkShortener.Json.Value
import LinkShortener.Routine.Call
import LinkShortener.Text.Percent

/-!
Responses over the web.
-/

namespace LinkShortener.Web

inductive Body
  | nothing
  | text (s : String)
  | record (v : Json.Value)

/-- A response; names of headers are in lower case. -/
structure Response where
  status : Nat
  headers : List (String × String)
  body : Body

namespace Response

/-- A response with a record. -/
def ofRecord (status : Nat) (v : Json.Value) : Response :=
  ⟨status, [("content-type", "application/json")], .record v⟩

/-- A response with a plain text. -/
def ofText (status : Nat) (s : String) : Response :=
  ⟨status, [("content-type", "text/plain; charset=utf-8")], .text s⟩

def ofPage (page : Page) : Response := ⟨200, [("content-type", page.kind)], .text page.text⟩

def empty (status : Nat) : Response := ⟨status, [], .nothing⟩

/-- A response that gives a reason. -/
def ofDetail (status : Nat) (detail : String) : Response :=
  ofRecord status (.object [("detail", .text detail)])

def adding (r : Response) (headers : List (String × String)) : Response :=
  { r with headers := r.headers ++ headers }

/-- A character that a place to go to may hold as it is. -/
def isPlaceChar (c : Char) : Bool :=
  c.isAlphanum || "_.-~:/%#?=@[]!$&'()*+,;".toList.contains c

/-- The place to go to, as a header carries it. -/
def place (url : String) : String :=
  String.ofList (Text.Percent.encode isPlaceChar url.toList)

/-- A response that sends the caller elsewhere for now. -/
def redirect (url : String) : Response := ⟨307, [("location", place url)], .nothing⟩

/-- The response to a request that the service broke down on. -/
def breakdown : Response := ofText 500 "Internal Server Error"

end Response

end LinkShortener.Web
