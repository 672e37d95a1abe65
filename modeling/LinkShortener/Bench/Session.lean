import LinkShortener.Bench.World
import LinkShortener.Web.Service

/-!
Sessions on the bench: the service is started and then takes one step after another. While a
token is resolved whose link is not copied, other steps may run right after the catalog was
read, so that a race with them can be watched.
-/

namespace LinkShortener.Bench

open Routine

inductive Step
  | shorten (url : String)
  | resolve (token : String) (race : List Step)
  | update (token url : String)
  | delete (token : String)
  | insertLink (id : Int) (url token : String)
  | findLink (token : String)
  | retargetLink (token url : String)
  | deleteLink (token : String)
  | lastId
  | pingDatabase
  | pingKeys
  | readCopy (token : String)
  | fillCopy (token url : String)
  | dropCopy (token : String)
  | nextIds (n : Nat)
  | restart
  | setKey (key text : String)
  | flushKeys
  | turn (target : Target) (fault : Option (Fault × Option Nat))
  | startPublisher
  | stopPublisher
  | publish (event : Json.Value)
  | process (payload : List UInt8)
  | deliver
  | addClick (event : Json.Value)
  | tally (token : String)
  | serve (request : Web.Request)
  | connectStore (settings : Settings.Clicks)
  | createTable
  | closeStore
  | fixReplies (replies : Replies)
  deriving Inhabited

inductive Answer
  | nothing
  | link (l : Link)
  | url (s : String)
  | number (n : Int)
  | numbers (ns : List Int)
  | click (c : Click)
  | clicks (cs : List Click)
  | tally (t : Tally)
  | exchange (e : Web.Exchange)

/-- A record, or the fault that it has flaws. -/
def ofChecked {α : Type} : Record.Checked α → Routine α
  | .ok a => .done a
  | .error flaws => .fail (.unfitRecord flaws)

def Step.routine (settings : Settings) : Step → Routine Answer
  | .shorten url => .link <$> Directory.shorten settings.keyValue url
  | .resolve token _ => .url <$> Directory.resolve settings.keyValue token
  | .update token url => .link <$> Directory.update settings.keyValue token url
  | .delete token => (fun _ => .nothing) <$> Directory.delete settings.keyValue token
  | .insertLink id url token => .link <$> Catalog.insert id url token
  | .findLink token => (fun l => l.elim .nothing .link) <$> Catalog.find token
  | .retargetLink token url => .link <$> Catalog.retarget token url
  | .deleteLink token => (fun _ => .nothing) <$> Catalog.delete token
  | .lastId => .number <$> Catalog.lastId
  | .pingDatabase => (fun _ => .nothing) <$> Catalog.ping
  | .pingKeys => (fun _ => .nothing) <$> Copies.ping
  | .readCopy token => (fun u => u.elim .nothing .url) <$> Copies.read settings.keyValue token
  | .fillCopy token url => (fun _ => .nothing) <$> Copies.fill settings.keyValue url token
  | .dropCopy token => (fun _ => .nothing) <$> Copies.drop settings.keyValue token
  | .restart => (fun _ => .nothing) <$> Counter.seed settings.keyValue
  | .startPublisher => (fun _ => .nothing) <$> Publisher.start
  | .stopPublisher => (fun _ => .nothing) <$> Publisher.stop
  | .publish event => do
    let visit ← ofChecked (← Visit.ofDocument event)
    Publisher.publish settings.bus visit
    return .nothing
  | .process payload => .click <$> Visit.process settings.clicks.backend payload
  | .addClick event => do
    let click ← ofChecked (Click.ofJson event)
    ClickStore.add settings.clicks.backend click
    return .nothing
  | .tally token => .tally <$> Statistics.tally settings.clicks.backend token
  | .serve request => .exchange <$> Web.serve settings request
  | .connectStore settings => (fun _ => .nothing) <$> ColumnStore.connect settings
  | .createTable => (fun _ => .nothing) <$> ColumnStore.createTable
  | .closeStore => (fun _ => .nothing) <$> ColumnStore.close
  | _ => .done .nothing

/-- Something that may run once while a routine runs. -/
abbrev Interlude := World → Except Fault Unit × World

/-- Answers calls and, after the first link that is looked up, lets an interlude run. The
interlude ends the routine if it fails. -/
def performWith (interlude : Interlude) : Routine.Performer (World × Bool) := fun c (w, waiting) =>
  let (reply, w) := w.perform c
  match c, waiting, reply with
  | .database (.findLink _), true, .ok link =>
    match interlude w with
    | (.ok (), w) => (.ok link, w, false)
    | (.error fault, w) => (.error (.interrupted fault), w, false)
  | _, waiting, reply => (reply, w, waiting)

def runWith {α : Type} (interlude : Interlude) (r : Routine α) (w : World) :
    Except Fault α × World :=
  let (outcome, w, _) := r.run (performWith interlude) (w, true)
  match outcome with
  | .error (.interrupted fault) => (.error fault, w)
  | outcome => (outcome, w)

/-- Takes ids until there are enough; a failure does not keep others from being taken. -/
def takeIds (settings : Settings.KeyValue) : Nat → World → List (Except Fault Int) × World
  | 0, w => ([], w)
  | n + 1, w =>
    let (id, w) := w.run (Counter.next settings)
    let (ids, w) := takeIds settings n w
    (id :: ids, w)

/-- Processes payloads in their order, up to the first that fails. -/
def processAll (backend : Backend) : List String → World → Except Fault (List Click) × World
  | [], w => (.ok [], w)
  | payload :: rest, w =>
    match w.run (Visit.process backend payload.toUTF8.toList) with
    | (.error fault, w) => (.error fault, w)
    | (.ok click, w) =>
      let (clicks, w) := processAll backend rest w
      (clicks.map (click :: ·), w)

mutual

def Step.take (settings : Settings) : Step → World → Except Fault Answer × World
  | .resolve token race, w =>
    runWith (fun w => takeAll settings race w) (.url <$> Directory.resolve settings.keyValue token) w
  | .nextIds n, w =>
    let (ids, w) := takeIds settings.keyValue n w
    (ids.mapM id |>.map fun ids => .numbers (ids.mergeSort (· ≤ ·)), w)
  | .setKey key text, w => (.ok .nothing, { w with keys := w.keys.set key text none })
  | .flushKeys, w => (.ok .nothing, { w with keys := w.keys.flush })
  | .turn target fault, w => (.ok .nothing, w.turn target fault)
  | .fixReplies replies, w => (.ok .nothing, { w with replies := some replies })
  | .deliver, w =>
    let (clicks, w) := processAll settings.clicks.backend w.sent { w with sent := [] }
    (clicks.map .clicks, w)
  | step, w => w.run (step.routine settings)

/-- Takes steps one after the other, up to the first that fails. -/
def takeAll (settings : Settings) : List Step → World → Except Fault Unit × World
  | [], w => (.ok (), w)
  | step :: rest, w =>
    match step.take settings w with
    | (.ok _, w) => takeAll settings rest w
    | (.error fault, w) => (.error fault, w)

end

/-- What a step came to, and the world after it with the log and the trace of the step. -/
structure Report where
  outcome : Except Fault Answer
  world : World

/-- Starts the service: the counter is seeded and, if asked for, the publisher started. -/
def boot (settings : Settings) (publishing : Bool) : Routine Answer := do
  Counter.seed settings.keyValue
  if publishing then Publisher.start
  return .nothing

def reports (settings : Settings) : Nat → List Step → World → List Report
  | _, [], _ => []
  | n, step :: rest, w =>
    let (outcome, w) := step.take settings { w.cleared with step := n }
    ⟨outcome, w⟩ :: reports settings (n + 1) rest w

/-- Starts the service as step zero and takes the steps if that succeeds. -/
def session (settings : Settings) (publishing : Bool) (steps : List Step) (w : World) :
    List Report :=
  let (outcome, w) := w.run (boot settings publishing)
  let first : Report := ⟨outcome, w⟩
  match outcome with
  | .ok _ => first :: reports settings 1 steps w
  | .error _ => [first]

end LinkShortener.Bench
