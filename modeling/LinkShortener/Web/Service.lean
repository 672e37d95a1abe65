import LinkShortener.Click.Statistics
import LinkShortener.Health
import LinkShortener.Link.Directory
import LinkShortener.Visit.Intake
import LinkShortener.Visit.Publisher
import LinkShortener.Web.Authority
import LinkShortener.Web.Payload
import LinkShortener.Web.Route
import LinkShortener.Web.Sharing

/-!
The service over the web. A fault of the service is told by its family: what the caller sent is
refused with 400, what is absent is 404, and everything else that the service knows is 500
without details. A fault that is foreign to the service breaks the request down. A redirect
publishes a visit after its response; that the visit could not be published is only noted.
-/

namespace LinkShortener.Web

open Routine

/-- A response and what is done after it. -/
structure Answer where
  response : Response
  after : Routine Unit

/-- A response after which nothing is done. -/
def Answer.plain (response : Response) : Answer := ⟨response, .done ()⟩

def note (level : Log.Level) (text : String) : Routine Unit := log level .routes text

def isKnown (fault : Fault) : Bool := fault.family != .foreign

/-- The status that tells a fault. -/
def statusOf (fault : Fault) : Nat :=
  match fault.family with
  | .refusal => 400
  | .absence => 404
  | _ => 500

/-- Notes a fault and makes a response of it; the details of what is not the fault of the
caller are kept back. -/
def report (operation : String) (fault : Fault) : Routine Answer := do
  let text := fault.message
  if statusOf fault < 500 then
    note .warning s!"{operation} failed: {text}"
    return .plain (.ofDetail (statusOf fault) text)
  else
    note .error s!"{operation} failed: {text}"
    return .plain (.ofDetail 500 "Internal server error")

/-- Tells the known faults of an operation and goes on with its value. -/
def reporting {α : Type} (operation : String) (body : Routine α) (next : α → Routine Answer) :
    Routine Answer := do
  match ← body.outcome with
  | .ok value => next value
  | .error fault => if isKnown fault then report operation fault else .fail fault

/-- Answers that a body is no request for a link. -/
def rejectPayload : PayloadFlaw → Answer
  | .refused => .plain (.ofDetail 400 "Invalid request payload")
  | .unreadable => .plain (.ofDetail 400 "There was an error parsing the body")

def condition (name : String) (ping : Routine Unit) : Routine Condition := do
  match ← ping.outcome with
  | .ok () => return .healthy
  | .error fault =>
    let text := fault.message
    note .error s!"{name} health check failed: {text}"
    return .unhealthy

def health : Routine Answer := do
  let database ← condition "Database" Catalog.ping
  let copies ← condition "Cache" Copies.ping
  return .plain (.ofRecord 200 (Health.ofStores database copies).toJson)

def shorten (settings : Settings) (r : Request) : Routine Answer :=
  match Payload.linkRequest r with
  | .error flaw => return rejectPayload flaw
  | .ok wanted => do
    let url := wanted.url
    note .info s!"URL shortening requested: {url}"
    reporting "shorten" (Directory.shorten settings.keyValue url) fun link => do
      let token := link.token
      note .info s!"URL shortened successfully: {token}"
      return .plain (.ofRecord 201 link.toJson)

def statistics (settings : Settings) (token : String) : Routine Answer := do
  note .info s!"Stats requested for token: {token}"
  reporting "stats" (Statistics.tally settings.clicks.backend token) fun tally =>
    return .plain (.ofRecord 200 tally.toJson)

/-- The visit that a caller pays to a token. -/
def visit (caller : Caller) (token : String) : Routine Visit := do
  let event ← freshEvent
  let time ← now
  return ⟨event, token, time, caller.address, caller.agent, caller.referrer⟩

/-- Publishes a visit; that the bus is not available is only noted. -/
def publish (settings : Settings) (visit : Visit) : Routine Unit :=
  (Publisher.publish settings.bus visit).rescue
    (fun fault => fault.family = .unavailability) fun fault => do
      let token := visit.token
      let text := fault.message
      note .warning s!"Failed to publish stats event for {token}: {text}"

/-- Sends the caller to the address of a token, and publishes the visit afterwards. -/
def redirect (settings : Settings) (caller : Caller) (token : String) : Routine Answer :=
  reporting "redirect" (Directory.resolve settings.keyValue token) fun url => do
    let visit ← visit caller token
    note .info s!"Redirect successful: {token} -> {url}"
    return ⟨.redirect url, publish settings visit⟩

def update (settings : Settings) (r : Request) (token : String) : Routine Answer :=
  match Payload.linkRequest r with
  | .error flaw => return rejectPayload flaw
  | .ok wanted => do
    let url := wanted.url
    note .info s!"URL update requested: {token} -> {url}"
    reporting "update" (Directory.update settings.keyValue token url) fun link =>
      return .plain (.ofRecord 200 link.toJson)

def delete (settings : Settings) (token : String) : Routine Answer := do
  note .info s!"URL deletion requested: {token}"
  reporting "delete" (Directory.delete settings.keyValue token) fun _ =>
    return .plain (.empty 204)

def caller (r : Request) : Routine Caller := do
  return Caller.ofRequest (← call (.process .freshRequest)) r

def answerOn (settings : Settings) (r : Request) : Route → String → Routine Answer
  | .page path, _ => do return .plain (.ofPage (← call (.process (.page path))))
  | .health, _ => health
  | .shorten, _ => shorten settings r
  | .statistics, token => statistics settings token
  | .redirect, token => do redirect settings (← caller r) token
  | .update, token => update settings r token
  | .delete, token => delete settings token

/-- The host and port that a request is meant for; a name stands in for what is no host. -/
def authority (r : Request) : String :=
  match r.header? "host" with
  | some host => if Authority.isValid host.toList then host else "testserver"
  | none => "testserver"

/-- A path as it stands in an address: what would end it there is written as a triple. -/
def pathText (path : String) : String :=
  String.ofList (path.toList.flatMap fun
    | '?' => "%3F".toList
    | '#' => "%23".toList
    | c => [c])

/-- The address of a path on the host that a request names. -/
def addressOf (r : Request) (path : String) : String :=
  "http://" ++ authority r ++ pathText path ++ (r.query.map ("?" ++ ·)).getD ""

def answer (settings : Settings) (r : Request) : Routine Answer :=
  match Route.find r.method r.path.toList with
  | .found route token => answerOn settings r route token
  | .otherMethod allowed =>
    return .plain ((Response.ofDetail 405 "Method Not Allowed").adding [("allow", allowed)])
  | .elsewhere path => return .plain (.redirect (addressOf r path))
  | .nowhere => return .plain (.ofDetail 404 "Not Found")

/-- A response, and the fault that the request broke down on, if it did. -/
structure Exchange where
  response : Response
  fault : Option Fault

/-- Serves a request to its end. A breakdown before the response replaces it; one after it
leaves it as it is. -/
def serve (settings : Settings) (r : Request) : Routine Exchange :=
  match Sharing.preflight? r with
  | some response => return ⟨response, none⟩
  | none => do
    match ← (answer settings r).outcome with
    | .error fault => return ⟨.breakdown, some fault⟩
    | .ok answer =>
      let response := Sharing.share r answer.response
      match ← answer.after.outcome with
      | .ok () => return ⟨response, none⟩
      | .error fault => return ⟨response, some fault⟩

end LinkShortener.Web
