import LinkShortener.Device
import LinkShortener.Moment.Printer
import LinkShortener.Record.Field

/-!
Visits, published once per redirect, and the clicks that enrichment makes of them for the
store. A visit is known by its event id, so that a repeated delivery is recognised.
-/

namespace LinkShortener

open Json (Value)

/-- A redirect as it is published. -/
structure Visit where
  event : String
  token : String
  time : Moment
  address : String
  agent : String
  referrer : String
  deriving DecidableEq, Repr

namespace Visit

/-- Whether a document is an object without an event id, which is then given a fresh one. -/
def needsEvent (v : Value) : Bool :=
  match v with
  | .object ms => (Value.member? ms "event_id").isNone
  | _ => false

def ofJson (fresh : String) (now : Moment) (v : Value) : Record.Checked Visit := do
  let ms ← Record.members v
  (((((Record.Checked.ap (.ok Visit.mk) (Record.optional ms "event_id" Record.text fresh)).ap
    (Record.required ms "url_token" Record.text)).ap
    (Record.optional ms "timestamp" Record.moment now)).ap
    (Record.optional ms "ip" Record.text "")).ap
    (Record.optional ms "user_agent" Record.text "")).ap
    (Record.optional ms "referrer" Record.text "")

def toJson (v : Visit) : Value := .object
  [("event_id", .text v.event), ("url_token", .text v.token), ("timestamp", .text v.time.text),
   ("ip", .text v.address), ("user_agent", .text v.agent), ("referrer", .text v.referrer)]

end Visit

/-- What clicks are counted along. -/
inductive Dimension
  | country
  | city
  | device
  | referrer
  deriving DecidableEq, Repr

def Dimension.column : Dimension → String
  | .country => "country"
  | .city => "city"
  | .device => "device_type"
  | .referrer => "referrer"

/-- A visit with its place and device class, as it is stored. -/
structure Click where
  event : String
  token : String
  time : Moment
  country : String
  city : String
  device : Device
  referrer : String
  deriving DecidableEq, Repr

namespace Click

def along (c : Click) : Dimension → String
  | .country => c.country
  | .city => c.city
  | .device => c.device.text
  | .referrer => c.referrer

def ofJson (v : Value) : Record.Checked Click := do
  let ms ← Record.members v
  ((((((Record.Checked.ap (.ok Click.mk) (Record.required ms "event_id" Record.text)).ap
    (Record.required ms "url_token" Record.text)).ap
    (Record.required ms "timestamp" Record.moment)).ap
    (Record.required ms "country" Record.text)).ap
    (Record.required ms "city" Record.text)).ap
    (Record.required ms "device_type" (Record.choice Device.options))).ap
    (Record.optional ms "referrer" Record.text "")

def toJson (c : Click) : Value := .object
  [("event_id", .text c.event), ("url_token", .text c.token), ("timestamp", .text c.time.text),
   ("country", .text c.country), ("city", .text c.city), ("device_type", .text c.device.text),
   ("referrer", .text c.referrer)]

/-- The short description of a click in the store; what is not set yet reads `None`. -/
def describe (event token : Option String) : String :=
  let event := event.getD "None"
  let token := token.getD "None"
  s!"<StatsEventRecord(event_id='{event}', url_token='{token}')>"

end Click

end LinkShortener
