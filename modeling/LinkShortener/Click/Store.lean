import LinkShortener.Routine.Basic
import LinkShortener.Url.Endpoint

/-!
The store of clicks, in one of two backends. Rows of the relational database are kept apart by
their event ids, so a repeated click is refused there and counted as repeated. The column store
takes every click; repeated ones are told apart when they are counted.
-/

namespace LinkShortener

namespace ColumnStore

open Routine

def server (c : ColumnsCall) : Routine c.Reply := call (.columns c)

/-- The host that is asked when the address names none. -/
def standardHost : String := "localhost"

/-- The port that is asked when the address names none, or zero. -/
def standardPort : Nat := 8123

/-- The port that is asked. -/
def port (endpoint : Endpoint) : Nat :=
  match endpoint.port with
  | some 0 => standardPort
  | some port => port
  | none => standardPort

def connect (settings : Settings.Clicks) : Routine Unit :=
  match Endpoint.ofUrl settings.url with
  | .error flaw => .fail (.endpoint flaw)
  | .ok endpoint =>
    server (.connect (endpoint.host.getD standardHost) (port endpoint) settings)

/-- Makes the table of clicks if there is none. -/
def createTable : Routine Unit :=
  (server .createTable).rescue Fault.isColumnOutage fun _ => .fail (.clicks .create)

def close : Routine Unit := server .close

def table : String := "stats_events"

def columns : List String :=
  ["event_id", "url_token", "timestamp", "country", "city", "device_type", "referrer"]

/-- The statement that makes the table of clicks. -/
def tableStatement : String := String.intercalate "\n"
  ["",
   "CREATE TABLE IF NOT EXISTS stats_events (",
   "    event_id String,",
   "    url_token String,",
   "    timestamp DateTime64(3, 'UTC'),",
   "    country String,",
   "    city String,",
   "    device_type LowCardinality(String),",
   "    referrer String",
   ") ENGINE = ReplacingMergeTree",
   "ORDER BY (url_token, event_id)",
   ""]

/-- The row of a click, cell by cell. -/
def row (c : Click) : List String :=
  [c.event, c.token, c.time.offsetText, c.country, c.city, c.device.text, c.referrer]

/-- The statement that counts the clicks of a token. -/
def countStatement : String :=
  "SELECT uniqExact(event_id) FROM stats_events WHERE url_token = \x7btoken:String\x7d"

/-- The statement that counts the clicks of a token along a dimension. -/
def groupStatement (dimension : Dimension) : String :=
  let column := dimension.column
  "SELECT " ++ column ++
    ", uniqExact(event_id) FROM stats_events WHERE url_token = \x7btoken:String\x7d GROUP BY " ++
    column

end ColumnStore

namespace ClickStore

open Routine

/-- Notes that a click is in the store already. -/
def noteRepeated (click : Click) : Routine Unit := do
  count .clicksRepeated
  let event := click.event
  log .info .clicks s!"Stats event {event} already stored, skipping"

def addRow (click : Click) : Routine Bool :=
  (do
    call (.database .connect)
    call (.database (.insertClick click))
    return true : Routine Bool).rescue Fault.isDatabaseOutage fun fault =>
      if fault.isKeyConflict then do
        noteRepeated click
        return false
      else .fail (.clicks (.store click.event))

def add (backend : Backend) (click : Click) : Routine Unit :=
  match backend with
  | .rows => do
    if ← addRow click then count (.clicksStored .rows)
  | .columns => do
    (call (.columns (.insert click))).rescue Fault.isColumnOutage fun _ =>
      .fail (.clicks (.store click.event))
    count (.clicksStored .columns)

end ClickStore

end LinkShortener
