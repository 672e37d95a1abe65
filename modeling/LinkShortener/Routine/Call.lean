import LinkShortener.Fault
import LinkShortener.Link.Basic
import LinkShortener.Log
import LinkShortener.Meter
import LinkShortener.Place.Atlas
import LinkShortener.Daemon.Memory
import LinkShortener.Tally
import LinkShortener.Visit.Basic

/-!
The calls that the service makes to the machinery around it: the relational database, the
key-value server, the message bus with its producer and its consumer, the column store, the
atlas, and the process that it runs in. Every call has a type of reply; any of them may fail
with a fault instead.
-/

namespace LinkShortener

/-- Calls to the relational database. The writing ones commit what they write. -/
inductive DatabaseCall
  | prepare
  | connect
  | insertLink (id : Int) (url token : String)
  | readBack (id : Int)
  | findLink (token : String)
  | retargetLink (token url : String) (time : Moment)
  | deleteLink (token : String)
  | lastId
  | probe
  | insertClick (click : Click)
  | countClicks (token : String)
  | groupClicks (token : String) (dimension : Dimension)
  | dispose
  deriving DecidableEq, Repr

/-- What the relational database replies: deleting tells how many links there were, counting
and grouping how many clicks. -/
@[reducible] def DatabaseCall.Reply : DatabaseCall → Type
  | readBack _ => Link
  | findLink _ => Option Link
  | retargetLink .. => Option Link
  | deleteLink _ => Nat
  | lastId => Option Int
  | countClicks _ => Nat
  | groupClicks .. => List (String × Nat)
  | _ => Unit

/-- Calls to the key-value server. -/
inductive KeysCall
  | connect (settings : Settings.KeyValue)
  | get (key : String)
  | set (key text : String) (seconds : Option Int)
  | delete (key : String)
  | increment (key : String)
  | ping
  | close
  deriving DecidableEq, Repr

/-- What the key-value server replies: deleting tells how many keys there were. -/
@[reducible] def KeysCall.Reply : KeysCall → Type
  | get _ => Option String
  | delete _ => Nat
  | increment _ => Int
  | _ => Unit

/-- Calls to the producer of the message bus. -/
inductive ProducerCall
  | create (settings : Settings.Bus)
  | start
  | stop
  | send (topic key value : String)
  deriving DecidableEq, Repr

@[reducible] def ProducerCall.Reply : ProducerCall → Type := fun _ => Unit

/-- The place of a message on the bus. -/
structure Position where
  topic : String
  partition : Int
  offset : Int
  deriving DecidableEq, Repr

/-- A message as the consumer gets it. -/
structure Message where
  position : Position
  payload : List UInt8
  deriving DecidableEq, Repr

/-- Calls to the consumer of the message bus. -/
inductive ConsumerCall
  | create (bus : Settings.Bus) (client : String)
  | start
  | poll (millis limit : Int)
  | commit (next : Position)
  | stop
  deriving DecidableEq, Repr

/-- What the consumer replies: polling brings messages, partition by partition. -/
@[reducible] def ConsumerCall.Reply : ConsumerCall → Type
  | poll .. => List Message
  | _ => Unit

/-- Calls to the column store. -/
inductive ColumnsCall
  | connect (host : String) (port : Nat) (settings : Settings.Clicks)
  | createTable
  | insert (click : Click)
  | countClicks (token : String)
  | groupClicks (token : String) (dimension : Dimension)
  | close
  deriving DecidableEq, Repr

/-- What the column store replies: counting and grouping bring what should be rows of cells. -/
@[reducible] def ColumnsCall.Reply : ColumnsCall → Type
  | countClicks _ => Datum
  | groupClicks .. => Datum
  | _ => Unit

/-- Calls to the atlas of places. -/
inductive AtlasCall
  | create (settings : Settings.Places)
  | locate (address : String)
  | close
  deriving DecidableEq, Repr

@[reducible] def AtlasCall.Reply : AtlasCall → Type
  | locate _ => Place
  | _ => Unit

/-- A page that the process keeps ready, with the type of its content. -/
structure Page where
  kind : String
  text : String
  deriving DecidableEq, Repr

/-- Calls to the process that the service runs in. Handing off gives a payload to a processor
outside of the service; joining waits for the background task and tells whether it ended in
time; a wait until the feed is asked to stop tells whether it was asked in time. -/
inductive ProcessCall
  | log (entry : Log.Entry)
  | count (meter : Meter)
  | now
  | freshEvent
  | freshRequest
  | recollect
  | remember (memory : Daemon.Memory)
  | awaitStop (seconds : Numeral.Binary64)
  | handOff (payload : List UInt8)
  | spawnFeed (consumer : Settings.Consumer) (backend : Backend)
  | joinFeed (limited : Bool)
  | serveMeters (port : Int)
  | page (path : String)
  deriving DecidableEq, Repr

@[reducible] def ProcessCall.Reply : ProcessCall → Type
  | now => Moment
  | freshEvent => String
  | freshRequest => String
  | recollect => Daemon.Memory
  | awaitStop _ => Bool
  | joinFeed _ => Bool
  | page _ => Page
  | _ => Unit

/-- A call to the machinery around the service. -/
inductive Call
  | database (call : DatabaseCall)
  | keys (call : KeysCall)
  | producer (call : ProducerCall)
  | consumer (call : ConsumerCall)
  | columns (call : ColumnsCall)
  | atlas (call : AtlasCall)
  | process (call : ProcessCall)
  deriving DecidableEq, Repr

namespace Call

@[reducible] def Reply : Call → Type
  | database c => c.Reply
  | keys c => c.Reply
  | producer c => c.Reply
  | consumer c => c.Reply
  | columns c => c.Reply
  | atlas c => c.Reply
  | process c => c.Reply

/-- Whether other routines may go on while a call is answered. The others are answered on the
spot: what lies between two suspending calls happens in one piece. -/
def suspends : Call → Bool
  | database _ => true
  | keys (.connect _) => false
  | keys _ => true
  | producer (.create _) => false
  | producer _ => true
  | consumer (.create ..) => false
  | consumer _ => true
  | columns (.connect ..) => false
  | columns .close => false
  | columns _ => true
  | atlas _ => false
  | process (.awaitStop _) => true
  | process (.handOff _) => true
  | process (.joinFeed _) => true
  | process _ => false

end Call

end LinkShortener
