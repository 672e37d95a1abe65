import LinkShortener.Click.Table
import LinkShortener.Feed.Basic
import LinkShortener.KeyValue.Keyspace
import LinkShortener.Link.Table
import LinkShortener.Text.Hex

/-!
A bench for the service: machinery held in memory that answers its calls. Faults can be
switched on for single kinds of calls, the consumer of the bus follows a script, and everything
the service does is kept in a log, a list of metered events and a trace of calls.
-/

namespace LinkShortener.Bench

/-- The kinds of calls that can be made to fail. -/
inductive Target
  | session
  | commit
  | keyGet
  | keySet
  | keyDelete
  | keyIncrement
  | keyPing
  | producerStart
  | producerStop
  | producerSend
  | columns
  | atlas
  deriving DecidableEq, Repr

/-- A fault that is switched on, for a number of uses or for good. -/
structure Switch where
  target : Target
  fault : Fault
  uses : Option Nat
  deriving DecidableEq, Repr

/-- What a scripted call comes to: it may ask the feed to stop, and it may fail. -/
structure Cue where
  stops : Bool
  fault : Option Fault
  deriving DecidableEq, Repr

def Cue.ok : Cue := ⟨false, none⟩

/-- What a poll does when the script has no more: it asks the feed to stop, waits until the
feed is asked to, or waits for ever. -/
inductive Idle
  | stop
  | wait
  | stuck
  deriving DecidableEq, Repr

/-- The script of the consumer of the bus. Where it has run out, calls succeed. -/
structure Script where
  starts : List Cue
  polls : List (Cue × List Message)
  commits : List Cue
  handOffs : List Cue
  close : Cue
  idle : Idle
  deriving DecidableEq, Repr

def Script.empty : Script := ⟨[], [], [], [], .ok, .stop⟩

/-- How many turns of the loop the polls of a script can feed: one for each poll and each
message, and one to find that a poll has no more. -/
def Script.pollTurns (s : Script) : Nat :=
  s.polls.foldl (fun n (_, messages) => n + messages.length + 2) 0

/-- Fixed answers of the column store. -/
structure Replies where
  total : Datum
  groups : List (Dimension × Datum)
  deriving Repr

/-- A call that was made, and whether it was answered. -/
structure Traced where
  call : Call
  answered : Bool
  deriving DecidableEq, Repr

/-- The machinery and what the service did to it. The log, the meters and the trace have the
latest entry first. What the pages of the process show is fixed, but for the one with the
meters. -/
structure World where
  step : Nat := 0
  links : Link.Table := .empty
  clicks : Click.Table := .empty
  keys : KeyValue.Keyspace := .empty
  columns : List Click := []
  replies : Option Replies := none
  places : String → Except Fault Place := fun _ => .ok .nowhere
  documents : String → Page := fun _ => ⟨"text/html; charset=utf-8", ""⟩
  exposition : List Meter → String := Meter.exposition
  switches : List Switch := []
  script : Script := .empty
  memory : Daemon.Memory := {}
  events : Nat := 0
  sent : List String := []
  log : List Log.Entry := []
  meters : List Meter := []
  trace : List Traced := []

/-- The start of a civil year in universal time. -/
def newYear (year : Nat) (h : 1 ≤ year ∧ year ≤ 9999) : Moment where
  day := ⟨year, 1, 1⟩
  time := ⟨0, 0, 0, 0⟩
  offset := some 0
  inCalendar := ⟨h.2, Nat.le_refl 1, Nat.le_add_left 1 11, Nat.le_refl 1, by simp [daysInMonth]⟩
  afterYearZero := h.1
  inDay := by decide
  offsetInRange := by decide

/-- The clock of the service: so many seconds into the year 2100. -/
def clock (seconds : Nat) : Moment :=
  (Moment.ofUnix? (4102444800 + seconds) 0).getD (newYear 2100 (by decide))

/-- The clock of the database, which stamps new links. -/
def databaseClock : Moment := newYear 2000 (by decide)

/-- The event id that is given by its number. -/
def eventId (n : Nat) : String :=
  "00000000-0000-4000-8000-" ++ String.ofList (Text.Hex.lower 12 n)

/-- The name of every request that brings none. -/
def requestId : String := "11111111-1111-4111-8111-111111111111"

namespace World

/-- The world with a fault switched on or off. -/
def turn (w : World) (target : Target) (fault : Option (Fault × Option Nat)) : World :=
  let rest := w.switches.filter (·.target != target)
  match fault with
  | some (fault, uses) => { w with switches := rest ++ [⟨target, fault, uses⟩] }
  | none => { w with switches := rest }

/-- The fault that a call of some kind meets, used up once. -/
def meet (w : World) (target : Target) : Option Fault × World :=
  match w.switches.find? (·.target == target) with
  | none => (none, w)
  | some s =>
    match s.uses with
    | none => (some s.fault, w)
    | some 0 => (none, w)
    | some (n + 1) => (some s.fault, w.turn target (some (s.fault, some n)))

/-- Answers, barring a fault of some kind. -/
def barring {α : Type} (w : World) (target : Target) (answer : World → Except Fault α × World) :
    Except Fault α × World :=
  match w.meet target with
  | (some fault, w) => (.error fault, w)
  | (none, w) => answer w

def askToStop (w : World) : World := { w with memory := { w.memory with stopping := true } }

/-- Does what a cue says and answers if it lets the call succeed. -/
def follow {α : Type} (w : World) (cue : Cue) (answer : α) : Except Fault α × World :=
  let w := if cue.stops then w.askToStop else w
  match cue.fault with
  | some fault => (.error fault, w)
  | none => (.ok answer, w)

/-! ### Answers by machine -/

def database (c : DatabaseCall) (w : World) : Except Fault c.Reply × World :=
  match c with
  | .prepare => (.ok (), w)
  | .connect => w.barring .session fun w => (.ok (), w)
  | .insertLink id url token => w.barring .commit fun w =>
    match w.links.insert ⟨id, url, token, databaseClock, databaseClock⟩ with
    | .ok links => (.ok (), { w with links := links })
    | .error fault => (.error fault, w)
  | .readBack id =>
    match w.links.findId? id with
    | some link => (.ok link, w)
    | none => (.error (.outage .database "The row is gone"), w)
  | .findLink token => (.ok (w.links.find? token), w)
  | .retargetLink token url time => w.barring .commit fun w =>
    let links := w.links.retarget token url time
    (.ok (links.find? token), { w with links := links })
  | .deleteLink token => w.barring .commit fun w =>
    (.ok (w.links.count token), { w with links := w.links.delete token })
  | .lastId => (.ok w.links.lastId?, w)
  | .probe => (.ok (), w)
  | .insertClick click => w.barring .commit fun w =>
    match w.clicks.insert click with
    | .ok clicks => (.ok (), { w with clicks := clicks })
    | .error fault => (.error fault, w)
  | .countClicks token => (.ok (w.clicks.count token), w)
  | .groupClicks token dimension => (.ok (w.clicks.group token dimension), w)
  | .dispose => (.ok (), w)

def server (c : KeysCall) (w : World) : Except Fault c.Reply × World :=
  match c with
  | .connect _ => (.ok (), w)
  | .get key => w.barring .keyGet fun w => (.ok (w.keys.get? key), w)
  | .set key text seconds => w.barring .keySet fun w =>
    (.ok (), { w with keys := w.keys.set key text seconds })
  | .delete key => w.barring .keyDelete fun w =>
    (.ok (w.keys.count key), { w with keys := w.keys.delete key })
  | .increment key => w.barring .keyIncrement fun w =>
    match w.keys.increment key with
    | .ok (n, keys) => (.ok n, { w with keys := keys })
    | .error fault => (.error fault, w)
  | .ping => w.barring .keyPing fun w => (.ok (), w)
  | .close => (.ok (), w)

def producer (c : ProducerCall) (w : World) : Except Fault c.Reply × World :=
  match c with
  | .create _ => (.ok (), w)
  | .start => w.barring .producerStart fun w => (.ok (), w)
  | .stop => w.barring .producerStop fun w => (.ok (), w)
  | .send _ _ value => w.barring .producerSend fun w =>
    (.ok (), { w with sent := w.sent ++ [value] })

def consumer (c : ConsumerCall) (w : World) : Except Fault c.Reply × World :=
  match c with
  | .create .. => (.ok (), w)
  | .start =>
    match w.script.starts with
    | cue :: rest => { w with script := { w.script with starts := rest } }.follow cue ()
    | [] => (.ok (), w)
  | .poll .. =>
    match w.script.polls with
    | (cue, messages) :: rest =>
      { w with script := { w.script with polls := rest } }.follow cue messages
    | [] => (.ok [], if w.script.idle = .stop then w.askToStop else w)
  | .commit _ =>
    match w.script.commits with
    | cue :: rest => { w with script := { w.script with commits := rest } }.follow cue ()
    | [] => (.ok (), w)
  | .stop => w.follow w.script.close ()

/-- What the column store answers to a count. -/
def countRows (w : World) (token : String) : Datum :=
  match w.replies with
  | some replies => replies.total
  | none =>
    let events := (w.columns.filter (·.token == token)).map (·.event)
    .list [.list [.ofInt events.eraseDups.length]]

/-- What the column store answers to a count along a dimension. -/
def groupRows (w : World) (token : String) (dimension : Dimension) : Datum :=
  match w.replies with
  | some replies => (replies.groups.lookup dimension).getD (.list [])
  | none =>
    let pairs := (w.columns.filter (·.token == token)).map fun c => (c.along dimension, c.event)
    .list ((pairs.map (·.1)).eraseDups.map fun value =>
      .list [.ofText value, .ofInt (pairs.filter (·.1 == value)).eraseDups.length])

def store (c : ColumnsCall) (w : World) : Except Fault c.Reply × World :=
  match c with
  | .connect .. => (.ok (), { w with columns := [], replies := none })
  | .createTable => w.barring .columns fun w => (.ok (), w)
  | .insert click => w.barring .columns fun w => (.ok (), { w with columns := w.columns ++ [click] })
  | .countClicks token => w.barring .columns fun w => (.ok (w.countRows token), w)
  | .groupClicks token dimension => w.barring .columns fun w =>
    (.ok (w.groupRows token dimension), w)
  | .close => (.ok (), w)

def atlas (c : AtlasCall) (w : World) : Except Fault c.Reply × World :=
  match c with
  | .create _ => w.barring .atlas fun w => (.ok (), w)
  | .locate address => (w.places address, w)
  | .close => (.ok (), w)

def page (w : World) (path : String) : Page :=
  if path = "/metrics" then ⟨"text/plain; version=0.0.4; charset=utf-8", w.exposition w.meters⟩
  else w.documents path

def process (c : ProcessCall) (w : World) : Except Fault c.Reply × World :=
  match c with
  | .log entry => (.ok (), { w with log := entry :: w.log })
  | .count meter => (.ok (), { w with meters := meter :: w.meters })
  | .now => (.ok (clock w.step), w)
  | .freshEvent => (.ok (eventId (w.events + 1)), { w with events := w.events + 1 })
  | .freshRequest => (.ok requestId, w)
  | .recollect => (.ok w.memory, w)
  | .remember memory => (.ok (), { w with memory := memory })
  | .awaitStop _ => (.ok w.memory.stopping, w)
  | .handOff _ =>
    match w.script.handOffs with
    | cue :: rest => { w with script := { w.script with handOffs := rest } }.follow cue ()
    | [] => (.ok (), w)
  | .spawnFeed .. => (.ok (), w)
  | .joinFeed _ => (.ok true, w)
  | .serveMeters _ => (.ok (), w)
  | .page path => (.ok (w.page path), w)

/-- Whether a call is kept in the trace: all but those to the process itself, except for handing
off and serving meters. -/
def isTraced : Call → Bool
  | .process (.handOff _) => true
  | .process (.serveMeters _) => true
  | .process _ => false
  | _ => true

/-- The world with a call kept in the trace. -/
def keep (w : World) (c : Call) (answered : Bool) : World :=
  if isTraced c then { w with trace := ⟨c, answered⟩ :: w.trace } else w

def answer (c : Call) (w : World) : Except Fault c.Reply × World :=
  match c with
  | .database c => w.database c
  | .keys c => w.server c
  | .producer c => w.producer c
  | .consumer c => w.consumer c
  | .columns c => w.store c
  | .atlas c => w.atlas c
  | .process c => w.process c

/-- Answers a call and keeps it in the trace. -/
def perform : Routine.Performer World := fun c w =>
  let (reply, w) := w.answer c
  (reply, w.keep c reply.isOk)

def run {α : Type} (w : World) (r : Routine α) : Except Fault α × World := r.run perform w

/-- The world with the log and the trace cleared. -/
def cleared (w : World) : World := { w with log := [], trace := [] }

end World

end LinkShortener.Bench
