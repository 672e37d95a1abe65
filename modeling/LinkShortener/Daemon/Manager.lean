import LinkShortener.Click.Store
import LinkShortener.Feed.Basic
import LinkShortener.Link.Counter
import LinkShortener.Visit.Publisher

/-!
The manager of the process builds its parts once, in order, and releases them. A part that is
built stays built when a later one fails. Release stops the feed first, waits for it, and then
gives the connections up; parts that hold no connection of their own stay.
-/

namespace LinkShortener.Daemon

open Routine

/-- Notes that a part is built. -/
def build (p : Part) : Routine Unit := modify (·.build p)

def drop (p : Part) : Routine Unit := modify (·.drop p)

/-! ### The connection to the key-value server -/

/-- Opens the connection that all parts share, if it is not open. -/
def openKeys (settings : Settings) : Routine Unit := do
  let memory ← recollect
  if !memory.keysOpen then
    call (.keys (.connect settings.keyValue))
    modify fun memory => { memory with keysOpen := true }

/-- Closes the connection that all parts share, if it is open. -/
def closeKeys : Routine Unit := do
  let memory ← recollect
  if memory.keysOpen then
    call (.keys .close)
    modify fun memory => { memory with keysOpen := false }

/-! ### The log -/

/-- Sets the log up, unless it has a handler. It has one already by the time that the name of its
level turns out to be unknown. -/
def setUpLog (settings : Settings.Program) : Routine Unit := do
  let memory ← recollect
  if memory.log.handlers.isEmpty then
    modify fun memory => { memory with log := memory.log.attach }
    match LogSetup.levels.lookup settings.logLevel with
    | some level => modify fun memory => { memory with log := { memory.log with level := level } }
    | none => .fail (.unknownLevel settings.logLevel)

/-! ### Building -/

/-- Builds the store of clicks and the statistics. In the column store each has a connection of
its own, and the table is made before the second one is opened. -/
def buildClicks (settings : Settings.Clicks) : Routine Unit :=
  match settings.backend with
  | .rows => do
    build (.clickStore .rows)
    build (.statistics .rows)
  | .columns => do
    ColumnStore.connect settings
    build (.clickStore .columns)
    ColumnStore.createTable
    ColumnStore.connect settings
    build (.statistics .columns)

/-- Opens the atlas and starts the feed in the background. -/
def buildFeed (settings : Settings) : Routine Unit := do
  let path := settings.places.path
  log .info .atlas s!"Opening GeoIP database {path}"
  call (.atlas (.create settings.places))
  build .atlas
  Feed.create settings
  build .feed
  call (.process (.spawnFeed settings.consumer settings.clicks.backend))
  build .task

/-- Notes the settings that parts are built from. -/
def configure (settings : Settings) : Routine Unit :=
  modify fun memory => { memory with settings := some settings }

def setReady (ready : Bool) : Routine Unit := modify fun memory => { memory with ready := ready }

/-- Builds all parts, unless they are. -/
def buildAll (settings : Settings) : Routine Unit := do
  let memory ← recollect
  if !memory.ready then
    configure settings
    setUpLog settings.program
    openKeys settings
    build .keys
    build .catalog
    build .copies
    Counter.seed settings.keyValue
    build .counter
    build .directory
    Publisher.create settings.bus
    build .publisher
    Publisher.start
    buildClicks settings.clicks
    if settings.consumer.enabled then buildFeed settings
    setReady true
    log .info .process "Service manager initialized"

/-- Builds only what consumes visits. -/
def buildPipeline (settings : Settings) : Routine Unit := do
  configure settings
  setUpLog settings.program
  buildClicks settings.clicks
  buildFeed settings
  setReady true

/-! ### Releasing -/

/-- Stops the feed and waits for it; it is cancelled when it does not stop in time. -/
def releaseFeed : Routine Unit := do
  let memory ← recollect
  if memory.has .feed then
    Feed.stop
    let inTime ← call (.process (.joinFeed true))
    if !inTime then log .warning .process "Stats consumer did not stop in time, cancelled"
    drop .feed

def releaseAtlas : Routine Unit := do
  let memory ← recollect
  if memory.has .atlas then
    call (.atlas .close)
    drop .atlas

/-- Closes the connections to the column store; the parts that hold them stay. -/
def releaseClicks : Routine Unit := do
  let memory ← recollect
  if memory.has (.clickStore .columns) then ColumnStore.close
  if memory.has (.statistics .columns) then ColumnStore.close

def releasePublisher : Routine Unit := do
  let memory ← recollect
  if memory.has .publisher then Publisher.stop

def releaseKeys : Routine Unit := do
  let memory ← recollect
  if memory.has .keys then
    closeKeys
    drop .keys

def release : Routine Unit := do
  releaseFeed
  releaseAtlas
  releaseClicks
  releasePublisher
  releaseKeys
  setReady false

/-! ### Handing parts out -/

/-- The parts that requests are given. -/
def provided (backend : Backend) : List Part :=
  [.directory, .publisher, .statistics backend, .catalog, .copies]

/-- Parts that are given out, each with its number among those of its kind. -/
abbrev Given := List (Part × Nat)

/-- What requests are given. -/
def given (settings : Settings) (memory : Memory) : Given :=
  (provided settings.clicks.backend).map fun part => (part, memory.serial part)

/-- Gives the parts out; a part that was not built cannot be given. -/
def handOut (settings : Settings) : Routine Given := do
  let memory ← recollect
  if (provided settings.clicks.backend).all memory.has then return given settings memory
  else .fail .unbuilt

/-- Builds the parts if they are not, and gives out what requests are given. -/
def provide (settings : Settings) : Routine Given := do
  let memory ← recollect
  if !memory.ready then buildAll settings
  handOut settings

/-- Uses the settings of a part, which must be built. -/
def withPart {α : Type} (part : Part) (body : Settings → Routine α) : Routine α := do
  let memory ← recollect
  match memory.settings with
  | some settings => if memory.has part then body settings else .fail .unbuilt
  | none => .fail .unbuilt

end LinkShortener.Daemon
