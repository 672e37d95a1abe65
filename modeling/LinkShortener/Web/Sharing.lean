import LinkShortener.Web.Request
import LinkShortener.Web.Response

/-!
Sharing with pages of other origins. Every origin may use the service with credentials and with
every common method; none may reach into a private network. A request that asks for leave
beforehand is answered without reaching a route; the responses to other requests repeat the
origin.
-/

namespace LinkShortener.Web.Sharing

/-- The methods that pages of other origins may use. -/
def methods : List String := ["DELETE", "GET", "HEAD", "OPTIONS", "PATCH", "POST", "PUT", "QUERY"]

/-- The headers that give leave to an origin. -/
def leave (origin : String) : List (String × String) :=
  [("access-control-allow-origin", origin), ("access-control-allow-credentials", "true")]

/-- The headers that tell what is allowed; the headers asked for are repeated. -/
def terms (r : Request) : List (String × String) :=
  ("access-control-allow-methods", String.intercalate ", " methods) ::
    ("access-control-max-age", "600") ::
    ((r.header? "access-control-request-headers").map fun asked =>
      ("access-control-allow-headers", asked)).toList

/-- What a request asks leave for in vain: a method that is none of the common ones, and access
to a private network, which asking for by any value of the header is enough. -/
def refused (r : Request) (method : String) : List String :=
  (if methods.contains method then [] else ["method"]) ++
    ((r.header? "access-control-request-private-network").map fun _ => "private-network").toList

/-- The answer to a request that asks for leave. -/
def preflight? (r : Request) : Option Response :=
  match r.header? "origin", r.header? "access-control-request-method" with
  | some origin, some method =>
    if r.method == "OPTIONS" then
      let answer :=
        match refused r method with
        | [] => Response.ofText 200 "OK"
        | flaws => Response.ofText 400 ("Disallowed CORS " ++ String.intercalate ", " flaws)
      some (answer.adding (leave origin ++ terms r))
    else none
  | _, _ => none

/-- A response with leave for the origin of the request. -/
def share (r : Request) (response : Response) : Response :=
  match r.header? "origin" with
  | some origin => response.adding (leave origin)
  | none => response

end LinkShortener.Web.Sharing
