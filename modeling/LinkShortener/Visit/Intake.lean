import LinkShortener.Click.Store
import LinkShortener.Visit.Enrichment

/-!
The intake of published visits: a payload is read, enriched and stored. A payload that is no
visit is refused with a sample of it.
-/

namespace LinkShortener.Visit

open Routine

/-- Reads a document as a visit; one that brings no event id is given a fresh one. -/
def ofDocument (document : Json.Value) : Routine (Record.Checked Visit) := do
  let fresh ← if needsEvent document then freshEvent else pure ""
  return ofJson fresh (← now) document

/-- How much of a refused payload is shown. -/
def sampleSize : Nat := 200

/-- Reads a payload as a visit. -/
def receive (payload : List UInt8) : Routine Visit :=
  match Record.document payload with
  | .error _ => .fail (.malformedEvent (payload.take sampleSize))
  | .ok document => do
    match ← ofDocument document with
    | .error _ => .fail (.malformedEvent (payload.take sampleSize))
    | .ok visit => return visit

def process (backend : Backend) (payload : List UInt8) : Routine Click := do
  let visit ← receive payload
  let click ← visit.enrich
  ClickStore.add backend click
  let event := click.event
  let token := click.token
  log .debug .intake s!"Stored stats event {event} for token {token}"
  return click

end LinkShortener.Visit
