import LinkShortener.Bench.World
import LinkShortener.Visit.Intake

/-!
The feed on the bench: it runs over a script of the consumer until it has ended. A payload is
handed to the script and, if asked for, to the intake of visits after it.
-/

namespace LinkShortener.Bench

open Routine

/-- A message with the cue for its processing. -/
structure Cued where
  message : Message
  cue : Cue
  deriving DecidableEq, Repr

/-- Where a message came from, its offset aside. -/
def Cued.source (c : Cued) : String × Int :=
  (c.message.position.topic, c.message.position.partition)

/-- Messages source by source, the sources in the order of their first messages. -/
def bySource (messages : List Cued) : List Cued :=
  (messages.map Cued.source).eraseDups.flatMap fun source =>
    messages.filter (·.source == source)

namespace Script

def adding (s : Script) (cue : Cue) (messages : List Cued) : Script :=
  let messages := bySource messages
  { s with
    polls := s.polls ++ [(cue, messages.map (·.message))]
    handOffs := s.handOffs ++ messages.map (·.cue) }

/-- How many turns of the loop a script can feed. -/
def turns (s : Script) : Nat := s.starts.length + s.pollTurns + 5

end Script

/-- Hands a payload over and, if asked for, takes it in. -/
def processor (takesIn : Bool) : Feed.Processor := fun payload => do
  call (.process (.handOff payload))
  if takesIn then
    let _ ← Visit.process .rows payload

/-- Makes a feed and runs it; it may be asked to stop before. -/
def listen (settings : Settings) (takesIn stopped : Bool) (turns : Nat) : Routine Feed.Phase := do
  Feed.create settings
  if stopped then Feed.stop
  Feed.turns settings.consumer (processor takesIn) turns .connecting

/-- Runs a feed over the script of a world. -/
def listening (settings : Settings) (takesIn stopped : Bool) (w : World) :
    Except Fault Unit × World :=
  let (phase, w) := w.run (listen settings takesIn stopped w.script.turns)
  (phase.bind Feed.Phase.outcome, w)

end LinkShortener.Bench
