import LinkShortener.Json.Writer
import LinkShortener.Routine.Basic

/-!
The publisher of visits. Without a running producer visits are dropped, and each one dropped is
reported to whoever publishes it.
-/

namespace LinkShortener.Publisher

open Routine

def producer (c : ProducerCall) : Routine c.Reply := call (.producer c)

/-- Makes a publisher, which does not run yet. -/
def create (settings : Settings.Bus) : Routine Unit := do
  producer (.create settings)
  modify fun memory => { memory with publishing := false }

/-- Starts the publisher. If the bus is not there, it stays stopped. -/
def start : Routine Unit := do
  let started ← (do producer .start; return true : Routine Bool).rescue Fault.isBusOutage fun _ => do
    log .warning .publisher "Kafka producer failed to start, stats events will be dropped"
    producer .stop
    return false
  if started then modify fun memory => { memory with publishing := true }

def stop : Routine Unit := do
  let memory ← recollect
  if memory.publishing then
    producer .stop
    modify fun memory => { memory with publishing := false }

/-- The message that a visit is published as. -/
def message (visit : Visit) : String := Json.write visit.toJson

/-- Publishes a visit under its token and waits until the bus has it. -/
def publish (settings : Settings.Bus) (visit : Visit) : Routine Unit := do
  let memory ← recollect
  if memory.publishing then
    (producer (.send settings.topic visit.token (message visit))).rescue
      Fault.isBusOutage fun _ => do
        count .publishFailures
        .fail (.publisher (.publish visit.token))
    count .published
  else
    count .publishFailures
    .fail (.publisher .idle)

end LinkShortener.Publisher
