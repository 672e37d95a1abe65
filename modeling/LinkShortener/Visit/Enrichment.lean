import LinkShortener.Agent.Classify
import LinkShortener.Routine.Basic

/-!
Enrichment makes a click of a visit: it looks the address up in the atlas and classifies the
device. An address without a place does not fail a visit; what is not known is called so. A user
agent that cannot be classified fails it.
-/

namespace LinkShortener

/-- The name of a place that is not known. -/
def Place.unknownName : String := "Unknown"

/-- A name that may be missing; an empty one counts as missing. -/
def Place.known (name : Option String) : String :=
  match name with
  | some name => if name.isEmpty then unknownName else name
  | none => unknownName

/-- Whether an address has no place, and why. -/
def Fault.unplaced? : Fault → Option Unplaced
  | .unplaced _ why => some why
  | _ => none

namespace Visit

/-- The click that a visit from a place with a device is. -/
def placed (v : Visit) (place : Place) (device : Device) : Click where
  event := v.event
  token := v.token
  time := v.time
  country := Place.known place.country
  city := Place.known place.city
  device := device
  referrer := v.referrer

/-- Notes that an address has no place. -/
def noteUnplaced (v : Visit) (fault : Fault) : Routine Place := do
  let address := Text.Quoted.text v.address
  let token := v.token
  let why := (fault.unplaced?.map Unplaced.text).getD fault.message
  Routine.log .warning .enrichment s!"Failed to locate ip {address} for token {token}: {why}"
  return Place.nowhere

def enrich (v : Visit) : Routine Click := do
  let place ← (Routine.call (.atlas (.locate v.address))).rescue
    (fun fault => fault.unplaced?.isSome) v.noteUnplaced
  let device ← Routine.ofOutcome ((Agent.classify v.agent).mapError .oversized)
  return v.placed place device

end Visit

end LinkShortener
