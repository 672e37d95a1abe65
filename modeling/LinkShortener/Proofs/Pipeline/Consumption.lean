import LinkShortener.Feed.Basic
import LinkShortener.Proofs.Pipeline.Intake

/-!
What feeds do for the pipeline. A turn of the loop handles one message at most; to speak of the
messages that were handled, the turns are told here together with them, which changes nothing about
what they do (`fst_tended`).

Main statement: the messages that a feed has handled are as many as it has counted as consumed or as
failed to be processed or committed; it has counted each failed attempt to connect or to fetch; and
the messages whose processing came out well are as many as the clicks that were counted. A click is
added or counted in the processing of a message only (`performs_tended`).
-/

namespace LinkShortener.Feed

open Routine

/-- A message that was handled, with what came of processing it. -/
abbrev Handling := Message × Except Fault Unit

/-- What is done about a message once it was processed. -/
def settle (message : Message) (rest : List Message) : Except Fault Unit → Routine Phase
  | .ok () => commit message.position rest
  | .error .cancelled => return .closing (some .cancelled)
  | .error _ => do
    let topic := message.position.topic
    let partition := message.position.partition
    let offset := message.position.offset
    noteFailure .process s!"Failed to process stats event at {topic}[{partition}]@{offset}"
    return .handling rest

/-- One turn of the loop, and the message that it handles, if it does. -/
def tend (settings : Settings.Consumer) (processor : Processor) :
    Phase → Routine (Phase × List Handling)
  | .handling (message :: rest) => do
    let memory ← recollect
    if memory.stopping then return (.handling rest, [])
    else
      let outcome ← (processor message.payload).outcome
      let phase ← settle message rest outcome
      return (phase, [(message, outcome)])
  | phase => do
    let next ← advance settings processor phase
    return (next, [])

/-- The first turns of the loop, and the messages that they handle. -/
def tended (settings : Settings.Consumer) (processor : Processor) :
    Nat → Phase → Routine (Phase × List Handling)
  | 0, phase => return (phase, [])
  | n + 1, phase => do
    let (next, handled) ← tend settings processor phase
    let (last, later) ← tended settings processor n next
    return (last, handled ++ later)

variable {settings : Settings.Consumer} {processor : Processor}

/-- To handle a message is to process its payload and to settle the outcome. -/
theorem handle_eq (message : Message) (rest : List Message) :
    handle processor message rest = (processor message.payload).outcome >>= settle message rest :=
  rfl

/-- Tending is advancing with an account of what was handled. -/
theorem fst_tend (phase : Phase) :
    Prod.fst <$> tend settings processor phase = advance settings processor phase := by
  unfold tend
  split
  · rename_i message rest
    simp only [advance, unlessStopping, handle_eq, map_eq_pure_bind, bind_assoc]
    congr 1
    funext memory
    split <;> simp only [pure_bind, bind_assoc, bind_pure]
  · simp only [map_eq_pure_bind, bind_assoc, pure_bind, bind_pure]

/-- Apart from the messages that they tell, these are the turns of the loop. -/
theorem fst_tended (n : Nat) (phase : Phase) :
    Prod.fst <$> tended settings processor n phase = turns settings processor n phase := by
  induction n generalizing phase with
  | zero => rfl
  | succ n ih =>
      simp only [tended, turns, ← fst_tend, ← ih, map_eq_pure_bind, bind_assoc, pure_bind]

end LinkShortener.Feed

namespace LinkShortener.Pipeline

open Routine
open Feed (Made Phase)

variable {fails : Call → Fault → Prop} {settings : Settings.Consumer} {processor : Feed.Processor}

/-! ### Handling -/

/-- Whether a call adds a click or counts one. -/
def concernsClicks : Call → Bool
  | .database (.insertClick _) | .process (.count (.clicksStored _))
  | .process (.count .clicksRepeated) => true
  | _ => false

/-- Calls of which none adds a click or counts one. -/
abbrev Clickless (calls : List Made) : Prop :=
  calls.all (fun made => !concernsClicks made.call) = true

theorem Clickless.append {past calls : List Made} (first : Clickless past)
    (later : Clickless calls) : Clickless (calls ++ past) := by
  rw [Clickless, List.all_append, later, first, Bool.and_self]

/-- The calls in which messages were handled: those in which each of them was processed, one message
after the other, and between them calls that have nothing to do with clicks. -/
inductive Handles (due : List Made → Except Fault Unit → Prop) :
    List Made → List Feed.Handling → Prop
  | none {calls : List Made} (clickless : Clickless calls) : Handles due calls []
  | message {before during after : List Made} {m : Message} {came : Except Fault Unit}
      {rest : List Feed.Handling} (clickless : Clickless before) (processed : due during came)
      (later : Handles due after rest) : Handles due (after ++ during ++ before) ((m, came) :: rest)

section Handles

variable {due : List Made → Except Fault Unit → Prop}

/-- Calls that have nothing to do with clicks may come before. -/
theorem Handles.after {past calls : List Made} {handled : List Feed.Handling}
    (handles : Handles due calls handled) (clickless : Clickless past) :
    Handles due (calls ++ past) handled := by
  cases handles with
  | none clickless' => exact .none (clickless.append clickless')
  | message clickless' processed later =>
      rw [List.append_assoc]
      exact .message (clickless.append clickless') processed later

theorem Handles.append {past calls : List Made} {handled handled' : List Feed.Handling}
    (first : Handles due past handled) (later : Handles due calls handled') :
    Handles due (calls ++ past) (handled ++ handled') := by
  induction first with
  | none clickless => exact later.after clickless
  | message clickless processed _ ih =>
      rw [← List.append_assoc, ← List.append_assoc]
      exact .message clickless processed ih

end Handles

/-! ### Turns -/

/-- A turn goes on somewhere, and in it so many messages were handled, whose clicks are added
elsewhere. -/
def GoesOn (handled : Nat) (calls : List Made) (o : Except Fault Phase) : Prop :=
  (∃ phase, o = .ok phase) ∧ Balances calls 0 handled 0 ∧ Clickless calls

theorem performs_note (steady : Steady fails) (stage : Stage) (text : String) :
    Performs fails (fun calls o => o = .ok () ∧
      calls = [⟨.process (.log ⟨.error, .feed, text⟩), .ok ()⟩,
        ⟨.process (.count (.feedFailures stage)), .ok ()⟩]) (Feed.noteFailure stage text) :=
  performs_process_bind (c := .count _) steady fun _ => performs_process (c := .log _) steady
    fun _ => ⟨rfl, rfl⟩

/-- A retry notes the failure and pauses once. -/
theorem performs_retry (steady : Steady fails) {stage : Stage} {text : String} {again : Phase}
    {fault : Fault} (outage : fault.isBusOutage = true) :
    Performs fails (fun calls o => (∃ phase, o = .ok phase) ∧
      ∃ inTime, calls = [⟨.process (.awaitStop settings.retrySeconds), .ok inTime⟩,
        ⟨.process (.log ⟨.error, .feed, text⟩), .ok ()⟩,
        ⟨.process (.count (.feedFailures stage)), .ok ()⟩])
      (Feed.retry settings stage text again fault) := by
  rw [Feed.retry, if_pos outage]
  refine performs_bind ((performs_note steady stage text).mono ?_)
  rintro _ _ ⟨rfl, rfl⟩
  rw [Feed.pause, bind_assoc]
  refine performs_process_bind (c := .awaitStop _) steady fun inTime => ?_
  cases inTime <;> exact performs_done ⟨⟨_, rfl⟩, _, rfl⟩

/-- A call to the bus is answered, or there is an outage. -/
theorem performs_consumer_bind {c : ConsumerCall} {due : List Made → Except Fault Phase → Prop}
    {f : Except Fault c.Reply → Routine Phase} (orderly : Orderly fails)
    (answered : ∀ a, Performs fails (fun later o => due (later ++ [⟨.consumer c, .ok a⟩]) o)
      (f (.ok a)))
    (lost : ∀ fault : Fault, fault.isBusOutage = true →
      Performs fails (fun later o => due (later ++ [⟨.consumer c, .error fault⟩]) o)
        (f (.error fault))) :
    Performs fails due ((Feed.consumer c).outcome >>= f) := by
  refine performs_bind (performs_outcome ?_)
  refine performs_call (c := .consumer c) fun reply expected => ?_
  cases reply with
  | ok a => exact answered a
  | error fault => exact lost fault (orderly.consumer _ _ (expected fault rfl))

theorem performs_connect (orderly : Orderly fails) :
    Performs fails (GoesOn 0) (Feed.connect settings) := by
  refine performs_consumer_bind (c := .start) orderly (fun _ => ?_) fun fault outage => ?_
  · refine performs_process_bind (c := .log _) orderly.steady fun _ => performs_done ?_
    exact ⟨⟨_, rfl⟩, balances_of_shown rfl, rfl⟩
  · refine (performs_retry orderly.steady outage).mono ?_
    rintro _ _ ⟨came, _, rfl⟩
    exact ⟨came, balances_of_shown rfl, rfl⟩

theorem performs_poll (orderly : Orderly fails) :
    Performs fails (GoesOn 0) (Feed.poll settings) := by
  refine performs_consumer_bind (c := .poll _ _) orderly (fun _ => ?_) fun fault outage => ?_
  · exact performs_done ⟨⟨_, rfl⟩, balances_of_shown rfl, rfl⟩
  · refine (performs_retry orderly.steady outage).mono ?_
    rintro _ _ ⟨came, _, rfl⟩
    exact ⟨came, balances_of_shown rfl, rfl⟩

theorem performs_close (orderly : Orderly fails) (fault : Option Fault) :
    Performs fails (GoesOn 0) (Feed.close fault) := by
  refine performs_consumer_bind (c := .stop) orderly (fun _ => ?_) fun late outage => ?_
  · refine performs_process_bind (c := .log _) orderly.steady fun _ => performs_done ?_
    exact ⟨⟨_, rfl⟩, balances_of_shown rfl, rfl⟩
  · dsimp only
    rw [if_pos outage]
    refine performs_process_bind (c := .log _) orderly.steady fun _ => ?_
    refine performs_process_bind (c := .log _) orderly.steady fun _ => performs_done ?_
    exact ⟨⟨_, rfl⟩, balances_of_shown rfl, rfl⟩

/-- A commit goes on, and one message was handled. -/
theorem performs_commit (orderly : Orderly fails) (position : Position) (rest : List Message) :
    Performs fails (GoesOn 1) (Feed.commit position rest) := by
  refine performs_consumer_bind (c := .commit _) orderly (fun _ => ?_) fun fault outage => ?_
  · refine performs_process_bind (c := .count _) orderly.steady fun _ => performs_done ?_
    exact ⟨⟨_, rfl⟩, balances_of_shown rfl, rfl⟩
  · dsimp only
    rw [if_pos outage]
    refine performs_bind ((performs_note orderly.steady .commit _).mono ?_)
    rintro _ _ ⟨rfl, rfl⟩
    exact performs_done ⟨⟨_, rfl⟩, balances_of_shown rfl, rfl⟩

/-- A message that was processed is counted as consumed, as failed to be committed or as failed to
be processed. -/
theorem performs_settle (orderly : Orderly fails) (message : Message) (rest : List Message)
    {o : Except Fault Unit} (unbroken : o ≠ .error .cancelled) :
    Performs fails (GoesOn 1) (Feed.settle message rest o) := by
  unfold Feed.settle
  split
  · exact performs_commit orderly message.position rest
  · exact absurd rfl unbroken
  · refine performs_bind ((performs_note orderly.steady .process _).mono ?_)
    rintro _ _ ⟨rfl, rfl⟩
    exact performs_done ⟨⟨_, rfl⟩, balances_of_shown rfl, rfl⟩

/-- A processor that does what is due, and counts one click if it comes out well and none
otherwise. -/
def Delivers (fails : Call → Fault → Prop) (due : List Made → Except Fault Unit → Prop)
    (processor : Feed.Processor) : Prop :=
  ∀ payload, Performs fails (fun calls o => Balances calls 0 0 o.isOk.toNat ∧
    o ≠ .error .cancelled ∧ due calls o) (processor payload)

/-- The turns go on somewhere, and the messages that were handled are counted. -/
def Tends (due : List Made → Except Fault Unit → Prop) (calls : List Made)
    (o : Except Fault (Phase × List Feed.Handling)) : Prop :=
  ∃ phase handled, o = .ok (phase, handled) ∧
    Balances calls 0 handled.length (handled.countP fun (_, came) => came.isOk) ∧
    Handles due calls handled

variable {due : List Made → Except Fault Unit → Prop}

/-- One round of tending handles what is due. -/
theorem performs_tend (orderly : Orderly fails) (delivers : Delivers fails due processor)
    (phase : Phase) : Performs fails (Tends due) (Feed.tend settings processor phase) := by
  have asked (memory : Daemon.Memory) : Balances [⟨.process .recollect, .ok memory⟩] 0 0 0 :=
    balances_of_shown rfl
  -- A turn that handles no message, and one that is taken unless the feed is to stop.
  have idle {r : Routine Phase} (turns : Performs fails (GoesOn 0) r) :
      Performs fails (Tends due) (r >>= fun next => pure (next, [])) := by
    refine performs_bind (turns.mono ?_)
    rintro calls _ ⟨⟨next, rfl⟩, balances, clickless⟩
    exact performs_done ⟨next, [], rfl, balances, .none clickless⟩
  have unlessStopping {stopped : Phase} {next : Routine Phase}
      (turns : Performs fails (GoesOn 0) next) :
      Performs fails (GoesOn 0) (Feed.unlessStopping stopped next) := by
    refine performs_process_bind (c := .recollect) orderly.steady fun memory => ?_
    split
    · exact performs_done ⟨⟨stopped, rfl⟩, asked memory, rfl⟩
    · exact turns.mono fun _ _ ⟨came, balances, clickless⟩ =>
        ⟨came, balances.after (asked memory), Clickless.append rfl clickless⟩
  cases phase with
  | connecting => exact idle (unlessStopping (performs_connect orderly))
  | polling => exact idle (unlessStopping (performs_poll orderly))
  | closing fault => exact idle (performs_close orderly fault)
  | ended fault => exact idle (performs_done ⟨⟨_, rfl⟩, balances_nil, rfl⟩)
  | handling messages =>
      cases messages with
      | nil => exact idle (performs_done ⟨⟨_, rfl⟩, balances_nil, rfl⟩)
      | cons message rest =>
          refine performs_process_bind (c := .recollect) orderly.steady fun memory => ?_
          split
          · exact performs_done ⟨.handling rest, [], rfl, asked memory, .none rfl⟩
          · refine performs_bind (performs_outcome ((delivers message.payload).mono ?_))
            rintro calls o ⟨balances, unbroken, processed⟩
            rw [ofOutcome_ok, bind_done]
            refine performs_bind ((performs_settle orderly message rest unbroken).mono ?_)
            rintro later _ ⟨⟨next, rfl⟩, balances', clickless⟩
            refine performs_done ⟨next, [(message, o)], rfl, ?_, ?_⟩
            · have counted : [(message, o)].countP (fun (_, came) => came.isOk) = o.isOk.toNat := by
                cases o <;> rfl
              rw [counted]
              exact (balances.append balances').after (asked memory)
            · exact .message rfl processed (.none clickless)

/-- Any number of rounds handle what is due. -/
theorem performs_tended (orderly : Orderly fails) (delivers : Delivers fails due processor)
    (n : Nat) (phase : Phase) :
    Performs fails (Tends due) (Feed.tended settings processor n phase) := by
  induction n generalizing phase with
  | zero => exact performs_done ⟨phase, [], rfl, balances_nil, .none rfl⟩
  | succ n ih =>
      refine performs_bind ((performs_tend orderly delivers phase).mono ?_)
      rintro calls _ ⟨next, handled, rfl, balances, handles⟩
      rw [ofOutcome_ok, bind_done]
      refine performs_bind ((ih next).mono ?_)
      rintro calls' _ ⟨last, handled', rfl, balances', handles'⟩
      refine performs_done ⟨last, handled ++ handled', rfl, ?_, handles.append handles'⟩
      rw [List.length_append, List.countP_append]
      exact balances.append balances'

end LinkShortener.Pipeline
