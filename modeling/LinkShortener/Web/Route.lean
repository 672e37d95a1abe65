import LinkShortener.Web.Request

/-!
The routes of the service. A path is matched segment by segment, and a line end after the last
segment is let pass. Routes are tried in their order; the pages and the health report stand
before the routes that take any single segment for a token.
-/

namespace LinkShortener.Web

/-- What the service answers to. -/
inductive Route
  | page (path : String)
  | health
  | shorten
  | statistics
  | redirect
  | update
  | delete
  deriving DecidableEq, Repr

namespace Route

/-- Every route in the order of trial. -/
def all : List Route :=
  [.page "/openapi.json", .page "/docs", .page "/docs/oauth2-redirect", .page "/redoc",
   .page "/metrics", .health, .shorten, .statistics, .redirect, .update, .delete]

def method : Route → String
  | page _ | health | statistics | redirect => "GET"
  | shorten => "POST"
  | update => "PUT"
  | delete => "DELETE"

/-- Whether a path is the given one, up to a line end after it. -/
def isPath (wanted path : List Char) : Bool := path == wanted || path == wanted ++ ['\n']

/-- The single segment that a path consists of. -/
def onlySegment? (path : List Char) : Option String :=
  match path.splitOn '/' with
  | [[], segment] => if segment.isEmpty then none else some (String.ofList segment)
  | _ => none

/-- The token in a path of statistics. -/
def statisticsToken? (path : List Char) : Option String :=
  match path.splitOn '/' with
  | [[], head, token, last] =>
    if head == "shorten".toList && !token.isEmpty && isPath "stats".toList last then
      some (String.ofList token)
    else none
  | _ => none

def token? (r : Route) (path : List Char) : Option String :=
  match r with
  | page wanted => if isPath wanted.toList path then some "" else none
  | health => if isPath "/health".toList path then some "" else none
  | shorten => if isPath "/shorten".toList path then some "" else none
  | statistics => statisticsToken? path
  | redirect | update | delete => onlySegment? path

/-- Whether some route takes a path, by whatever method. -/
def knows (path : List Char) : Bool := all.any fun r => (r.token? path).isSome

def slashed (path : List Char) : List Char :=
  if path.getLast? == some '/' then (path.reverse.dropWhile (· == '/')).reverse else path ++ ['/']

/-- What a path and a method lead to. -/
inductive Match
  | found (route : Route) (token : String)
  | otherMethod (allowed : String)
  | elsewhere (path : String)
  | nowhere
  deriving DecidableEq, Repr

/-- The first route for a path and a method; else the first one for the path alone; else the
path with its last slash changed, if there is a route for that. -/
def find (method : String) (path : List Char) : Match :=
  let takers := all.filterMap fun r => (r.token? path).map (r, ·)
  match takers.find? (·.1.method == method) with
  | some (route, token) => .found route token
  | none =>
    match takers with
    | (first, _) :: _ => .otherMethod first.method
    | [] =>
      if path != ['/'] && knows (slashed path) then .elsewhere (String.ofList (slashed path))
      else .nowhere

end Route

end LinkShortener.Web
