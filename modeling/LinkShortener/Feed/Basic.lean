import LinkShortener.Routine.Basic

/-!
The feed, the loop that consumes visits from the bus. It connects, polls for messages, hands
each one to a processor and commits the position after it, until it is asked to stop; then it
leaves the bus. Failures of the bus are noted and tried again after a pause, a message that
fails to be processed is passed over, and no other failure is survived.

The loop is a machine of phases. `advance` takes one turn, a finite routine; a message that is
being handled is finished before the flag to stop is looked at again.
-/

namespace LinkShortener.Feed

open Routine

/-- Where the loop stands. `handling` has the messages that are still to be handled, `closing`
and `ended` the fault that the loop ends with. -/
inductive Phase
  | connecting
  | polling
  | handling (messages : List Message)
  | closing (fault : Option Fault)
  | ended (fault : Option Fault)
  deriving DecidableEq, Repr

/-- What is done with the payload of a message. -/
abbrev Processor := List UInt8 → Routine Unit

def consumer (c : ConsumerCall) : Routine c.Reply := call (.consumer c)

/-- The name that a feed goes by on the bus. -/
def client (program : Settings.Program) : String := program.name ++ "-stats-consumer"

/-- Makes a feed, which nobody has asked to stop yet. -/
def create (settings : Settings) : Routine Unit := do
  consumer (.create settings.bus (client settings.program))
  modify fun memory => { memory with stopping := false }

def stop : Routine Unit := modify fun memory => { memory with stopping := true }

/-- Counts and notes a failure at a stage. -/
def noteFailure (stage : Stage) (text : String) : Routine Unit := do
  count (.feedFailures stage)
  log .error .feed text

/-- Waits before the next attempt, for a time that is cut short when the feed is asked to stop.
Either way it goes on. -/
def pause (settings : Settings.Consumer) : Routine Unit := do
  match ← call (.process (.awaitStop settings.retrySeconds)) with
  | true => return
  | false => return

/-- Notes a failure of the bus and pauses before the phase is taken again; any other fault ends
the loop. -/
def retry (settings : Settings.Consumer) (stage : Stage) (text : String) (again : Phase)
    (fault : Fault) : Routine Phase := do
  if fault.isBusOutage then
    noteFailure stage text
    pause settings
    return again
  else return .closing (some fault)

def connect (settings : Settings.Consumer) : Routine Phase := do
  match ← (consumer .start).outcome with
  | .ok () =>
    log .info .feed "Stats consumer started"
    return .polling
  | .error fault =>
    retry settings .connect "Failed to start stats consumer, retrying" .connecting fault

def poll (settings : Settings.Consumer) : Routine Phase := do
  match ← (consumer (.poll settings.pollMillis settings.maxRecords)).outcome with
  | .ok messages => return .handling messages
  | .error fault => retry settings .fetch "Failed to fetch stats events" .polling fault

/-- Commits the position after a message. -/
def commit (position : Position) (rest : List Message) : Routine Phase := do
  match ← (consumer (.commit { position with offset := position.offset + 1 })).outcome with
  | .ok () =>
    count .consumed
    return .handling rest
  | .error fault =>
    if fault.isBusOutage then
      let offset := position.offset
      noteFailure .commit s!"Failed to commit offset {offset}"
      return .handling rest
    else return .closing (some fault)

def handle (processor : Processor) (message : Message) (rest : List Message) :
    Routine Phase := do
  match ← (processor message.payload).outcome with
  | .ok () => commit message.position rest
  | .error .cancelled => return .closing (some .cancelled)
  | .error _ =>
    let topic := message.position.topic
    let partition := message.position.partition
    let offset := message.position.offset
    noteFailure .process s!"Failed to process stats event at {topic}[{partition}]@{offset}"
    return .handling rest

/-- Leaves the bus. -/
def close (fault : Option Fault) : Routine Phase := do
  match ← (consumer .stop).outcome with
  | .ok () =>
    log .info .feed "Stats consumer stopped"
    return .ended fault
  | .error late =>
    if late.isBusOutage then
      log .error .feed "Failed to close stats consumer"
      log .info .feed "Stats consumer stopped"
      return .ended fault
    else return .ended (some late)

/-- Goes on unless the feed is asked to stop. -/
def unlessStopping (stopped : Phase) (next : Routine Phase) : Routine Phase := do
  let memory ← recollect
  if memory.stopping then return stopped else next

/-- One turn of the loop. -/
def advance (settings : Settings.Consumer) (processor : Processor) : Phase → Routine Phase
  | .connecting => unlessStopping (.closing none) (connect settings)
  | .polling => unlessStopping (.closing none) (poll settings)
  | .handling [] => return .polling
  | .handling (message :: rest) =>
    unlessStopping (.handling rest) (handle processor message rest)
  | .closing fault => close fault
  | .ended fault => return .ended fault

/-- The first turns of the loop. -/
def turns (settings : Settings.Consumer) (processor : Processor) : Nat → Phase → Routine Phase
  | 0, phase => return phase
  | n + 1, phase => advance settings processor phase >>= turns settings processor n

/-- The fault that the loop has ended with; a loop that has not ended has none. -/
def Phase.fault? : Phase → Option Fault
  | .ended fault => fault
  | _ => none

/-- What the loop has ended with. -/
def Phase.outcome (phase : Phase) : Except Fault Unit :=
  match phase.fault? with
  | some fault => .error fault
  | none => .ok ()

end LinkShortener.Feed
