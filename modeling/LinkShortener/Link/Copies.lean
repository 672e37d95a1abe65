import LinkShortener.Routine.Basic

/-!
Copies of links in the key-value server, each the address of a token under a marked key. They
speed reading up and are never the truth: where there is no copy, the catalog is asked.
-/

namespace LinkShortener.Copies

open Routine

def server (c : KeysCall) : Routine c.Reply := call (.keys c)

/-- The key of the copy for a token. -/
def key (settings : Settings.KeyValue) (token : String) : String := settings.copyMark ++ token

/-- How long a copy lives; zero seconds stand for ever. -/
def lifetime (settings : Settings.KeyValue) : Option Int :=
  if settings.copySeconds = 0 then none else some settings.copySeconds

/-- The address copied for a token. A failure is noted and counts as no copy. -/
def read (settings : Settings.KeyValue) (token : String) : Routine (Option String) :=
  (server (.get (key settings token))).rescue Fault.isKeyValueOutage fun _ => do
    log .error .copies s!"Cache read failed for token {token}"
    return none

def fill (settings : Settings.KeyValue) (url token : String) : Routine Unit :=
  (server (.set (key settings token) url (lifetime settings))).rescue
    Fault.isKeyValueOutage fun _ => .fail (.copies (.fill token))

def drop (settings : Settings.KeyValue) (token : String) : Routine Unit := do
  let found ← (server (.delete (key settings token))).rescue
    Fault.isKeyValueOutage fun _ => .fail (.copies (.drop token))
  if found = 0 then .fail (.notCopied token)

def ping : Routine Unit := server .ping

end LinkShortener.Copies
