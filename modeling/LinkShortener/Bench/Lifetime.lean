import LinkShortener.Bench.World
import LinkShortener.Link.Directory
import LinkShortener.Daemon.Lifespan
import LinkShortener.Visit.Intake

/-!
The lifetime of the process on the bench, with its feed in the background. The feed takes its
turns when the process waits for the database or the column store, when it is waited for, and
when it is let settle; it stands still in a poll or a pause until it is asked to stop. A feed
that does not stop then is cancelled.
-/

namespace LinkShortener.Bench

open Routine

/-- How far the feed in the background is: between two turns, in a call that waits, or at its
end. -/
inductive Progress
  | ready (phase : Feed.Phase)
  | waiting (call : Call) (next : Except Fault call.Reply → Routine Feed.Phase)
  | ended (fault : Option Fault)

/-- The feed in the background. -/
structure Task where
  consumer : Settings.Consumer
  backend : Backend
  progress : Progress

/-- A world with its feed in the background, if it was started. -/
structure Running where
  world : World
  task : Option Task := none
  /-- whether a server has started and not been stopped since -/
  serving : Bool := false

/-- Whether a call of the feed waits. A patient observer waits until a pause is over. -/
def World.holds (w : World) (patient : Bool) : Call → Bool
  | .consumer (.poll ..) =>
    w.script.polls.isEmpty &&
      (w.script.idle = .stuck || (w.script.idle = .wait && !w.memory.stopping))
  | .process (.awaitStop _) => !patient && !w.memory.stopping
  | _ => false

/-- Takes a turn until it is done or waits. -/
def takeTurn (patient : Bool) : Routine Feed.Phase → World → Progress × World
  | .done phase, w => (.ready phase, w)
  | .fail fault, w => (.ended (some fault), w)
  | .ask call next, w =>
    if w.holds patient call then (.waiting call next, w.keep call true)
    else
      let (reply, w) := w.perform call
      takeTurn patient (next reply) w

namespace Task

def processor (t : Task) : Feed.Processor := fun payload => do
  let _ ← Visit.process t.backend payload

/-- Goes on from where the feed stands. -/
def goOn (patient : Bool) (t : Task) (w : World) : Progress × World :=
  match t.progress with
  | .ready (.ended fault) => (.ended fault, w)
  | .ready phase => takeTurn patient (Feed.advance t.consumer t.processor phase) w
  | .waiting call next =>
    if w.holds patient call then (.waiting call next, w)
    else
      let (reply, w) := w.answer call
      takeTurn patient (next reply) w
  | .ended fault => (.ended fault, w)

/-- Goes on a number of times. -/
def drive (patient : Bool) : Nat → Task → World → Task × World
  | 0, t, w => (t, w)
  | n + 1, t, w =>
    let (progress, w) := t.goOn patient w
    drive patient n { t with progress } w

/-- How often the feed can go on before it stands still. -/
def patience (w : World) : Nat :=
  2 * (w.script.starts.length + w.script.pollTurns) + 10

def settle (patient : Bool) (t : Task) (w : World) : Task × World :=
  drive patient (patience w) t w

def cancel (t : Task) (w : World) : Task × World :=
  match t.progress with
  | .waiting _ next =>
    let (progress, w) := takeTurn false (next (.error .cancelled)) w
    settle false { t with progress } w
  | _ => (t, w)

/-- What the feed has come to; a cancelled one did not end in time. -/
def verdict (t : Task) : Except Fault Bool :=
  match t.progress with
  | .ended (some .cancelled) => .ok false
  | .ended (some fault) => .error fault
  | _ => .ok true

end Task

namespace Running

def settle (patient : Bool) (s : Running) : Running :=
  match s.task with
  | some t =>
    let (t, w) := t.settle patient s.world
    { s with world := w, task := some t }
  | none => s

/-- Waits for the feed, patiently or for a limited time, after which it is cancelled. -/
def join (s : Running) (limited : Bool) : Except Fault Bool × Running :=
  let s := s.settle !limited
  match s.task with
  | some t =>
    let (t, w) := if limited then t.cancel s.world else (t, s.world)
    (t.verdict, { s with world := w, task := some t })
  | none => (.ok true, s)

/-- Whether the background goes on while a call is answered. -/
def givesWay : Call → Bool
  | .database _ => true
  | .columns (.connect ..) => false
  | .columns .close => false
  | .columns _ => true
  | _ => false

def perform : Routine.Performer Running := fun c s =>
  match c with
  | .process (.spawnFeed consumer backend) =>
    (.ok (), { s with task := some ⟨consumer, backend, .ready .connecting⟩ })
  | .process (.joinFeed limited) => s.join limited
  | c =>
    let (reply, w) := s.world.perform c
    let s := { s with world := w }
    (reply, if givesWay c then s.settle false else s)

def run {α : Type} (s : Running) (r : Routine α) : Except Fault α × Running := r.run perform s

/-- The world with another way of idling. -/
def idling (s : Running) (idle : Idle) : Running :=
  { s with world := { s.world with script := { s.world.script with idle := idle } } }

end Running

/-! ### Steps -/

/-- A step in the life of the process. -/
inductive LifeStep
  | buildAll
  | buildPipeline
  | release
  | settle
  | meetAgain
  | provide
  | shorten (url : String)
  | resolve (token : String)
  | startUp
  | shutDown
  | work
  | shareKeys
  | closeKeys
  | setLogUp
  deriving DecidableEq, Repr

/-- What a step in the life of the process comes to. -/
inductive LifeAnswer
  | nothing
  | truth (b : Bool)
  | truths (bs : List Bool)
  | link (l : Link)
  | url (s : String)
  | logs (first second : Daemon.LogSetup)

/-- Opens the shared connection twice; whether it is open all the while. -/
def shareKeys (settings : Settings) : Routine Bool := do
  Daemon.openKeys settings
  let first ← recollect
  Daemon.openKeys settings
  let second ← recollect
  return first.keysOpen && second.keysOpen

/-- Notes how the log is set up. -/
def setLog (log : Daemon.LogSetup) : Routine Unit :=
  modify fun memory => { memory with log := log }

/-- Sets a bare log up twice. Afterwards it is as it was. -/
def setLogUp (settings : Settings) (before : Daemon.LogSetup) : Routine LifeAnswer :=
  (do
    setLog .bare
    Daemon.setUpLog settings.program
    let first ← recollect
    Daemon.setUpLog settings.program
    let second ← recollect
    return .logs first.log second.log : Routine LifeAnswer).concluding fun _ => setLog before

/-- Asks for the parts; whether they are built then, and whether each part that was given is the
manager's. -/
def askForParts (settings : Settings) : Routine (List Bool) := do
  let parts ← Daemon.provide settings
  let memory ← recollect
  return memory.ready :: parts.map fun (part, n) => memory.has part && memory.serial part == n

namespace LifeStep

def routine (settings : Settings) : LifeStep → Routine LifeAnswer
  | buildAll => (fun _ => .nothing) <$> Daemon.buildAll settings
  | buildPipeline => (fun _ => .nothing) <$> Daemon.buildPipeline settings
  | release => (fun _ => .nothing) <$> Daemon.release
  | settle => .done .nothing
  | meetAgain => .done (.truth true)
  | provide => .truths <$> askForParts settings
  | shorten url => Daemon.withPart .directory fun settings =>
      .link <$> Directory.shorten settings.keyValue url
  | resolve token => Daemon.withPart .directory fun settings =>
      .url <$> Directory.resolve settings.keyValue token
  | startUp => (fun _ => .nothing) <$> Daemon.startUp settings
  | shutDown => (fun _ => .nothing) <$> Daemon.shutDown
  | work => (fun _ => .nothing) <$> Daemon.work settings
  | shareKeys => .truth <$> Bench.shareKeys settings
  | closeKeys => (fun _ => .nothing) <$> Daemon.closeKeys
  | setLogUp => do
    let memory ← recollect
    match memory.settings with
    | some settings => Bench.setLogUp settings memory.log
    | none => .fail .unbuilt

/-- Takes a step. A worker is asked to stop once it polls. Only a server that has started can be
stopped, and it is stopped once, whether that succeeds or not. -/
def take (settings : Settings) (step : LifeStep) (s : Running) :
    Except Fault LifeAnswer × Running :=
  match step with
  | settle => (.ok .nothing, s.settle false)
  | work =>
    let idle := s.world.script.idle
    let (outcome, s) := (s.idling .stop).run (routine settings .work)
    (outcome, s.idling idle)
  | startUp =>
    let (outcome, s) := s.run (routine settings .startUp)
    (outcome, { s with serving := outcome.isOk })
  | shutDown =>
    if s.serving then { s with serving := false }.run (routine settings .shutDown)
    else (.ok .nothing, s)
  | step => s.run (step.routine settings)

end LifeStep

/-- What a step in the life of the process came to, and the world after it. -/
structure LifeReport where
  outcome : Except Fault LifeAnswer
  world : World

def lifetime (settings : Settings) : List LifeStep → Running → List LifeReport
  | [], _ => []
  | step :: rest, s =>
    let (outcome, s) := step.take settings { s with world := s.world.cleared }
    ⟨outcome, s.world⟩ :: lifetime settings rest s

end LinkShortener.Bench
