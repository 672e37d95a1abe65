import LinkShortener.Routine.Basic

/-!
The catalog, the durable store of links and the truth about them. Every operation opens a
session of its own. A link that is not there is told apart from a link that could not be read.
-/

namespace LinkShortener.Catalog

open Routine

def database (c : DatabaseCall) : Routine c.Reply := call (.database c)

/-- Does something in a session of its own. -/
def session {α : Type} (body : Routine α) : Routine α := do
  database .connect
  body

/-- Stores a new link and reads it back with its times. -/
def insert (id : Int) (url token : String) : Routine Link :=
  (session do
    database (.insertLink id url token)
    database (.readBack id)).rescue Fault.isDatabaseOutage fun fault =>
      if fault.isKeyConflict then .fail (.duplicateLink id token)
      else do
        log .error .catalog s!"Failed to insert mapping id={id} token={token}"
        .fail (.catalog (.insert token))

def find (token : String) : Routine (Option Link) :=
  (session (database (.findLink token))).rescue Fault.isDatabaseOutage fun _ => do
    log .error .catalog s!"Failed to read mapping for token {token}"
    .fail (.catalog (.read token))

/-- Points a link at another address and stamps the time of it. -/
def retarget (token url : String) : Routine Link := do
  let time ← now
  let link? ← (session (database (.retargetLink token url time))).rescue
    Fault.isDatabaseOutage fun _ => do
      log .error .catalog s!"Failed to update mapping for token {token}"
      .fail (.catalog (.update token))
  match link? with
  | some link => return link
  | none => .fail (.unknownToken token)

def delete (token : String) : Routine Unit := do
  let found ← (session (database (.deleteLink token))).rescue Fault.isDatabaseOutage fun _ => do
    log .error .catalog s!"Failed to delete mapping for token {token}"
    .fail (.catalog (.delete token))
  if found = 0 then .fail (.unknownToken token)

/-- The greatest id in the catalog, zero when it is empty. -/
def lastId : Routine Int := do
  let last? ← (session (database .lastId)).rescue Fault.isDatabaseOutage fun _ =>
    .fail (.catalog .lastId)
  match last? with
  | some id => return id
  | none =>
    log .info .catalog "No mappings stored yet, ids start from 0"
    return 0

def ping : Routine Unit := session (database .probe)

end LinkShortener.Catalog
