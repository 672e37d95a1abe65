import LinkShortener.Link.Copies
import LinkShortener.Link.Counter
import LinkShortener.Token
import LinkShortener.Url.Check

/-!
The directory of links: shortening, resolving, updating and deleting. The catalog is written
before copies are touched, so that a failure of the catalog leaves the copies alone. Making a
link never copies it; the first reading does. Updating and deleting drop the copy after the
catalog has changed. Failures of copies are noted and absorbed.
-/

namespace LinkShortener.Directory

open Routine

/-- Counts an operation by its ending. -/
def measured {α : Type} (operation : Operation) (ending : Fault → Ending) (body : Routine α) :
    Routine α :=
  body.concluding fun outcome => do
    count (.operations operation (match outcome with
      | .ok _ => .success
      | .error fault => ending fault))
    count (.durations operation)

/-- A refusal counts as such, an absence as not found, anything else as failed. -/
def endingOf (fault : Fault) : Ending :=
  match fault.family with
  | .refusal => .refused
  | .absence => .notFound
  | _ => .failed

/-- When shortening, only refusals count as such. -/
def shortenEnding (fault : Fault) : Ending :=
  if fault.family = .refusal then .refused else .failed

/-- When resolving, only a token without a link counts as not found. -/
def resolveEnding : Fault → Ending
  | .unknownUrl _ => .notFound
  | _ => .failed

/-- When deleting, only absences count as not found. -/
def deleteEnding (fault : Fault) : Ending :=
  if fault.family = .absence then .notFound else .failed

/-- Makes a link to an address. The address is checked first, so a refused one costs no id. -/
def shorten (settings : Settings.KeyValue) (url : String) : Routine Link :=
  measured .shorten shortenEnding do
    ofOutcome (Url.check url)
    let id ← Counter.next settings
    let token ← ofOutcome (Token.ofId id)
    let link ← Catalog.insert id url token
    let made := link.token
    log .info .directory s!"Created mapping {made} -> {url}"
    return link

/-- Copies a link that was read from the catalog, if the copies are available. -/
def refill (settings : Settings.KeyValue) (link : Link) (token : String) : Routine Unit :=
  (Copies.fill settings link.url token).rescue Fault.isCopyFault fun _ =>
    log .warning .directory s!"Failed to cache token {token}"

/-- The address of a token: the copy if there is one, else what the catalog says. -/
def resolve (settings : Settings.KeyValue) (token : String) : Routine String :=
  measured .resolve resolveEnding do
    match ← Copies.read settings token with
    | some url =>
      count (.lookups true)
      return url
    | none =>
      count (.lookups false)
      match ← Catalog.find token with
      | none => .fail (.unknownUrl token)
      | some link =>
        refill settings link token
        return link.url

/-- Drops the copy for a token after the catalog has changed; that there was none is noted at
the given level. -/
def invalidate (settings : Settings.KeyValue) (token : String) (level : Log.Level) :
    Routine Unit :=
  (Copies.drop settings token).rescue
    (fun fault => fault.isCopyAbsence || fault.isCopyFault) fun fault =>
      if fault.isCopyAbsence then log level .directory s!"Token {token} was not cached"
      else log .warning .directory s!"Failed to invalidate cached token {token}"

def update (settings : Settings.KeyValue) (token url : String) : Routine Link :=
  measured .update endingOf do
    ofOutcome (Url.check url)
    let link ← Catalog.retarget token url
    invalidate settings token .debug
    log .info .directory s!"Updated mapping {token} -> {url}"
    return link

def delete (settings : Settings.KeyValue) (token : String) : Routine Unit :=
  measured .delete deleteEnding do
    Catalog.delete token
    invalidate settings token .warning
    log .info .directory s!"Deleted mapping {token}"

end LinkShortener.Directory
