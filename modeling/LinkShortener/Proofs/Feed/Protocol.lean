import LinkShortener.Bench.Listening
import LinkShortener.Proofs.Routine.Protocol

/-!
Where the feed stands between its calls. The phases of the loop are looked at between turns; the
stands here say, call by call, what the loop has in hand: the messages that it still has to
handle, the message whose payload is with the processor, or nothing any more. `Feeds` is the
protocol of the loop over that of its processor.

Main statement: as many turns of the loop as you like follow the protocol from every phase
(`follows_turns`).
-/

namespace LinkShortener.Feed

open Routine

/-! ### Processors -/

/-- The position after a message, which is committed once the message is processed. -/
def next (message : Message) : Position :=
  { message.position with offset := message.position.offset + 1 }

/-- Calls that are none of the feed's own: they bring no messages, hand none over, commit
nothing, count no failure to process and do not read the memory. -/
def Foreign : Call → Prop
  | .consumer (.poll _ _) | .consumer (.commit _) => False
  | .process (.handOff _) | .process .recollect => False
  | .process (.count (.feedFailures .process)) => False
  | _ => True

/-- How a processor conducts itself once a payload was handed over: its protocol with the phase
that the reply leads to and the phases that fit its outcomes. -/
structure Conduct (φ : Type) where
  protocol : Protocol φ
  first : List UInt8 → Except Fault Unit → φ
  ends : φ → Except Fault Unit → Prop
  foreign : ∀ {p c reply q}, protocol p c reply q → Foreign c

/-- A processor hands each payload over first and keeps to its conduct then. -/
def Conduct.Suits {φ : Type} (conduct : Conduct φ) (processor : Processor) : Prop :=
  ∀ payload, ∃ rest, processor payload = .ask (.process (.handOff payload)) rest ∧
    ∀ reply, Follows conduct.protocol conduct.ends (rest reply) (conduct.first payload reply)

/-! ### The protocol -/

/-- Where the loop stands. -/
inductive Stand (φ : Type)
  /-- these messages are still to be handled; the memory is looked at first -/
  | ready (pending : List Message)
  /-- nothing is in hand and nobody has asked to stop; the bus is turned to next -/
  | fetching
  /-- a message is to be handed over -/
  | facing (message : Message) (rest : List Message)
  /-- a message was handed over, and the processor is in a phase -/
  | within (message : Message) (rest : List Message) (phase : φ)
  /-- no message is touched any more -/
  | leaving

/-- Calls that change nothing about what is in hand. -/
inductive Aside : Call → Prop
  | log (entry : Log.Entry) : Aside (.process (.log entry))
  | count (meter : Meter) (other : meter ≠ .feedFailures .process) :
      Aside (.process (.count meter))
  | awaitStop (seconds : Numeral.Binary64) : Aside (.process (.awaitStop seconds))
  | start : Aside (.consumer .start)
  | stop : Aside (.consumer .stop)

variable {φ : Type}

/-- The protocol of the loop. A position is committed only where the processor has succeeded, a
failure to process is counted only where it has failed, and both leave the rest of the messages
to be handled. -/
inductive Feeds (conduct : Conduct φ) : Protocol (Stand φ)
  | aside (pending : List Message) (c : Call) (aside : Aside c) (reply : Except Fault c.Reply) :
      Feeds conduct (.ready pending) c reply (.ready pending)
  | leave (p : Stand φ) (c : Call) (aside : Aside c) (reply : Except Fault c.Reply) :
      Feeds conduct p c reply .leaving
  | forget (p : Stand φ) (fault : Fault) :
      Feeds conduct p (.process .recollect) (.error fault) .leaving
  | stopping (pending : List Message) (memory : Daemon.Memory)
      (asked : memory.stopping = true) :
      Feeds conduct (.ready pending) (.process .recollect) (.ok memory) (.ready pending.tail)
  | fetch (memory : Daemon.Memory) (unasked : memory.stopping = false) :
      Feeds conduct (.ready []) (.process .recollect) (.ok memory) .fetching
  | face (message : Message) (rest : List Message) (memory : Daemon.Memory)
      (unasked : memory.stopping = false) :
      Feeds conduct (.ready (message :: rest)) (.process .recollect) (.ok memory)
        (.facing message rest)
  | start (reply : Except Fault Unit) :
      Feeds conduct .fetching (.consumer .start) reply (.ready [])
  | poll (millis limit : Int) (messages : List Message) :
      Feeds conduct .fetching (.consumer (.poll millis limit)) (.ok messages) (.ready messages)
  | unpolled (millis limit : Int) (fault : Fault) :
      Feeds conduct .fetching (.consumer (.poll millis limit)) (.error fault) (.ready [])
  | hand (message : Message) (rest : List Message) (reply : Except Fault Unit) :
      Feeds conduct (.facing message rest) (.process (.handOff message.payload)) reply
        (.within message rest (conduct.first message.payload reply))
  | work (message : Message) (rest : List Message) (p q : φ) (c : Call)
      (reply : Except Fault c.Reply) (works : conduct.protocol p c reply q) :
      Feeds conduct (.within message rest p) c reply (.within message rest q)
  | commit (message : Message) (rest : List Message) (p : φ) (ends : conduct.ends p (.ok ()))
      (reply : Except Fault Unit) :
      Feeds conduct (.within message rest p) (.consumer (.commit (next message))) reply
        (.ready rest)
  | failure (message : Message) (rest : List Message) (p : φ) (fault : Fault)
      (ends : conduct.ends p (.error fault)) :
      Feeds conduct (.within message rest p) (.process (.count (.feedFailures .process)))
        (.ok ()) (.ready rest)
  | uncounted (message : Message) (rest : List Message) (p : φ) (fault : Fault) :
      Feeds conduct (.within message rest p) (.process (.count (.feedFailures .process)))
        (.error fault) .leaving

/-- The stands that a phase of the loop can be taken up in. -/
def At : Phase → Stand φ → Prop
  | .connecting, p | .polling, p => p = .ready []
  | .handling messages, p => p = .ready messages
  | .closing _, _ | .ended _, _ => True

/-- A part of the loop that leaves it in a phase. -/
abbrev Leaves (q : Stand φ) (o : Except Fault Phase) : Prop := ∀ phase, o = .ok phase → At phase q

/-! ### What follows it -/

section Turns

variable {α : Type} {conduct : Conduct φ} {post : Stand φ → Except Fault α → Prop}

theorem leaves_error (q : Stand φ) (fault : Fault) : Leaves q (.error fault) :=
  fun phase is => by cases is

theorem follows_return {phase : Phase} {p : Stand φ} (stands : At phase p) :
    Follows (Feeds conduct) Leaves (pure phase) p := by
  refine follows_done.mpr fun phase' is => ?_
  cases is
  exact stands

theorem follows_aside_bind {c : Call} {f : c.Reply → Routine Phase} {pending : List Message}
    (aside : Aside c)
    (rest : ∀ a, Follows (Feeds conduct) Leaves (f a) (.ready pending)) :
    Follows (Feeds conduct) Leaves (call c >>= f) (.ready pending) := by
  refine follows_ask.mpr fun reply => ⟨_, .aside pending c aside reply, ?_⟩
  cases reply with
  | ok a => exact rest a
  | error fault => exact follows_fail.mpr (leaves_error _ fault)

theorem follows_pause_bind {settings : Settings.Consumer} {f : Unit → Routine Phase}
    {pending : List Message} (rest : Follows (Feeds conduct) Leaves (f ()) (.ready pending)) :
    Follows (Feeds conduct) Leaves (pause settings >>= f) (.ready pending) := by
  rw [pause, bind_assoc]
  refine follows_aside_bind (.awaitStop _) fun inTime => ?_
  cases inTime <;> exact rest

/-- A failure of the bus is noted and the phase taken again with nothing in hand. -/
theorem follows_retry {settings : Settings.Consumer} {stage : Stage} {text : String}
    {again : Phase} {fault : Fault} (stands : At again (.ready [] : Stand φ))
    (other : stage ≠ .process) :
    Follows (Feeds conduct) Leaves (retry settings stage text again fault) (.ready []) := by
  unfold retry noteFailure
  split
  · rw [bind_assoc]
    refine follows_aside_bind (.count _ fun same => other ?_) fun _ => ?_
    · cases same
      rfl
    · refine follows_aside_bind (.log _) fun _ => ?_
      exact follows_pause_bind (follows_return stands)
  · exact follows_return trivial

/-- Whatever the bus replies to a call, the loop goes on from where the reply leads. -/
theorem follows_consumer {c : ConsumerCall} {f : Except Fault c.Reply → Routine Phase}
    {p : Stand φ} (answers : ∀ reply, ∃ q, Feeds conduct p (.consumer c) reply q ∧
      Follows (Feeds conduct) Leaves (f reply) q) :
    Follows (Feeds conduct) Leaves ((consumer c).outcome >>= f) p := by
  refine follows_ask.mpr fun reply => ?_
  obtain ⟨q, feeds, rest⟩ := answers reply
  refine ⟨q, feeds, ?_⟩
  cases reply with
  | ok a => exact rest
  | error fault => exact rest

theorem follows_connect (settings : Settings.Consumer) :
    Follows (Feeds conduct) Leaves (connect settings) .fetching := by
  refine follows_consumer (c := .start) fun reply => ⟨_, .start reply, ?_⟩
  cases reply with
  | ok a => exact follows_aside_bind (.log _) fun _ => follows_return rfl
  | error fault => exact follows_retry rfl (by decide)

theorem follows_poll (settings : Settings.Consumer) :
    Follows (Feeds conduct) Leaves (poll settings) .fetching := by
  refine follows_consumer (c := .poll _ _) fun reply => ?_
  cases reply with
  | ok messages => exact ⟨_, .poll _ _ messages, follows_return rfl⟩
  | error fault => exact ⟨_, .unpolled _ _ fault, follows_retry rfl (by decide)⟩

/-- A position is committed where the processor has succeeded; a failure of the bus is noted. -/
theorem follows_commit {message : Message} {rest : List Message} {p : φ}
    (ends : conduct.ends p (.ok ())) :
    Follows (Feeds conduct) Leaves (commit message.position rest) (.within message rest p) := by
  refine follows_consumer (c := .commit _) fun reply =>
    ⟨_, .commit message rest p ends reply, ?_⟩
  cases reply with
  | ok a => exact follows_aside_bind (.count _ (by decide)) fun _ => follows_return rfl
  | error fault =>
      simp only [noteFailure]
      split
      · rw [bind_assoc]
        refine follows_aside_bind (.count _ (by decide)) fun _ => ?_
        exact follows_aside_bind (.log _) fun _ => follows_return rfl
      · exact follows_return trivial

/-- What the processor does, it does within its message. -/
theorem follows_within {post : φ → Except Fault α → Prop} {r : Routine α} {p : φ}
    (message : Message) (rest : List Message) (follows : Follows conduct.protocol post r p) :
    Follows (Feeds conduct) (fun q o => ∃ p', q = .within message rest p' ∧ post p' o) r
      (.within message rest p) :=
  follows.embed (Stand.within message rest) fun p c reply q works =>
    Feeds.work message rest p q c reply works

/-- A failure to process is counted and noted, and the message is passed over. -/
theorem follows_failure {message : Message} {rest : List Message} {p : φ} {fault : Fault}
    {text : String} (ends : conduct.ends p (.error fault)) :
    Follows (Feeds conduct) Leaves
      (noteFailure .process text >>= fun _ => pure (.handling rest))
      (.within message rest p) := by
  unfold noteFailure
  rw [bind_assoc]
  refine follows_ask.mpr fun reply => ?_
  cases reply with
  | ok a =>
      refine ⟨_, .failure message rest p fault ends, ?_⟩
      exact follows_aside_bind (.log _) fun _ => follows_return rfl
  | error fault =>
      exact ⟨_, .uncounted message rest p fault, follows_fail.mpr (leaves_error _ fault)⟩

/-- A message is handed over and processed; then its position is committed or its failure is
counted, unless it was cancelled. -/
theorem follows_handle {processor : Processor} (suits : conduct.Suits processor)
    (message : Message) (rest : List Message) :
    Follows (Feeds conduct) Leaves (handle processor message rest) (.facing message rest) := by
  obtain ⟨work, same, keeps⟩ := suits message.payload
  unfold handle
  rw [follows_bind, follows_outcome, same]
  refine follows_ask.mpr fun reply => ⟨_, .hand message rest reply, ?_⟩
  refine (follows_within message rest (keeps reply)).mono ?_
  rintro q o ⟨p, rfl, ends⟩
  rw [ofOutcome_ok, bind_done]
  split
  · exact follows_commit ends
  · exact follows_return trivial
  · exact follows_failure ends

/-- The memory is looked at: asked to stop, the loop passes on without a call. -/
theorem follows_unlessStopping {stopped : Phase} {body : Routine Phase} {pending : List Message}
    {q : Stand φ} (stops : At stopped (.ready pending.tail : Stand φ))
    (goes : ∀ memory, memory.stopping = false →
      Feeds conduct (.ready pending) (.process .recollect) (.ok memory) q)
    (follows : Follows (Feeds conduct) Leaves body q) :
    Follows (Feeds conduct) Leaves (unlessStopping stopped body) (.ready pending) := by
  refine follows_ask.mpr fun reply => ?_
  cases reply with
  | error fault => exact ⟨_, .forget _ fault, follows_fail.mpr (leaves_error _ fault)⟩
  | ok memory =>
      cases asked : memory.stopping with
      | true =>
          refine ⟨_, .stopping pending memory asked, ?_⟩
          change Follows _ _ (if memory.stopping = true then pure stopped else body) _
          rw [if_pos asked]
          exact follows_return stops
      | false =>
          refine ⟨_, goes memory asked, ?_⟩
          change Follows _ _ (if memory.stopping = true then pure stopped else body) _
          rw [if_neg (by simp [asked])]
          exact follows

theorem follows_leaving_bind {c : Call} {f : c.Reply → Routine Phase}
    (aside : Aside c) (rest : ∀ a, Follows (Feeds conduct) Leaves (f a) .leaving)
    (p : Stand φ) : Follows (Feeds conduct) Leaves (call c >>= f) p := by
  refine follows_ask.mpr fun reply => ⟨_, .leave p c aside reply, ?_⟩
  cases reply with
  | ok a => exact rest a
  | error fault => exact follows_fail.mpr (leaves_error _ fault)

/-- Leaving the bus touches no message, whatever comes of it. -/
theorem follows_close (fault : Option Fault) (p : Stand φ) :
    Follows (Feeds conduct) Leaves (close fault) p := by
  refine follows_consumer (c := .stop) fun reply => ⟨_, .leave p _ .stop reply, ?_⟩
  cases reply with
  | ok a =>
      refine follows_leaving_bind (.log _) (fun _ => ?_) _
      exact follows_return trivial
  | error late =>
      simp only
      split
      · refine follows_leaving_bind (.log _) (fun _ => ?_) _
        refine follows_leaving_bind (.log _) (fun _ => ?_) _
        exact follows_return trivial
      · exact follows_return trivial

variable {settings : Settings.Consumer} {processor : Processor}

/-- A round keeps to the protocol and ends where its next phase stands. -/
theorem follows_advance (suits : conduct.Suits processor) {phase : Phase} {p : Stand φ}
    (stands : At phase p) :
    Follows (Feeds conduct) Leaves (advance settings processor phase) p := by
  cases phase with
  | connecting =>
      obtain rfl : p = .ready [] := stands
      exact follows_unlessStopping trivial .fetch (follows_connect settings)
  | polling =>
      obtain rfl : p = .ready [] := stands
      exact follows_unlessStopping trivial .fetch (follows_poll settings)
  | handling messages =>
      obtain rfl : p = .ready messages := stands
      cases messages with
      | nil => exact follows_return rfl
      | cons message rest =>
          exact follows_unlessStopping rfl (.face message rest)
            (follows_handle suits message rest)
  | closing fault => exact follows_close fault p
  | ended fault => exact follows_return trivial

/-- As many turns of the loop as you like follow its protocol. -/
theorem follows_turns (suits : conduct.Suits processor) (n : Nat) {phase : Phase} {p : Stand φ}
    (stands : At phase p) :
    Follows (Feeds conduct) Leaves (turns settings processor n phase) p := by
  induction n generalizing phase p with
  | zero => exact follows_return stands
  | succ n ih =>
      rw [turns, follows_bind]
      refine (follows_advance suits stands).mono fun q o leaves => ?_
      cases o with
      | ok phase' => exact ih (leaves phase' rfl)
      | error fault => exact follows_fail.mpr (leaves_error _ fault)

end Turns

end LinkShortener.Feed
