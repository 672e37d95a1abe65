import LinkShortener.Link.Catalog

/-!
The counter of ids in the key-value server. It is seeded with the greatest id of the catalog
before links are made and advanced for each of them, so that ids grow across restarts.
-/

namespace LinkShortener.Counter

open Routine

/-- Seeds the counter from the catalog. -/
def seed (settings : Settings.KeyValue) : Routine Unit := do
  let last ← Catalog.lastId
  (call (.keys (.set settings.counterKey (toString last) none))).rescue
    Fault.isKeyValueOutage fun _ => .fail (.counter .seed)
  let key := settings.counterKey
  log .info .counter s!"Id counter {key} seeded at {last}"

def next (settings : Settings.KeyValue) : Routine Int :=
  (call (.keys (.increment settings.counterKey))).rescue
    Fault.isKeyValueOutage fun _ => .fail (.counter (.advance settings.counterKey))

end LinkShortener.Counter
