import LinkShortener.Proofs.Feed.Commit

/-!
The course of the feed, call by call. The stands of the loop say what it has in hand; a course says
besides what the loop must do next: a message that was processed is committed, a failure is counted,
and where the loop leaves the bus it is known for which fault. `Charts` is the protocol of courses.
Unlike the protocol of stands it leaves no choice, but it only goes on after replies that are fair.

Main statements: every turn of the loop follows its course and does not fail (`follows_advance`), and
a course is a way through the stands (`Charts.feeds`).
-/

namespace LinkShortener.Feed

open Routine

/-- Where the loop is. -/
inductive Course
  /-- these messages are still to be handled; the memory is looked at first -/
  | looking (pending : List Message)
  /-- nobody has asked to stop; the bus is turned to next -/
  | turning
  /-- a message is to be handed over -/
  | facing (message : Message) (rest : List Message)
  /-- a message was processed and is to be committed -/
  | processed (message : Message) (rest : List Message)
  /-- a message could not be processed, which is to be counted -/
  | failed (message : Message) (rest : List Message) (fault : Fault)
  /-- the bus is to be left, for this fault or for none -/
  | leaving (cause : Option Fault)
  /-- the bus was left, and this is what the loop ends with -/
  | left (outcome : Option Fault)
  /-- a reply was not fair -/
  | broken

/-- The process answers what it is asked, and processing a payload may fail but is not broken off. -/
def Fair : Made → Prop
  | ⟨.process (.handOff _), reply⟩ => reply ≠ .error .cancelled
  | ⟨.process _, .error _⟩ => False
  | _ => True

/-- Notes that the loop takes between its doings, and pauses. -/
inductive Note : ProcessCall → Prop
  | log (entry : Log.Entry) : Note (.log entry)
  | count (meter : Meter) (other : meter ≠ .feedFailures .process) : Note (.count meter)
  | awaitStop (seconds : Numeral.Binary64) : Note (.awaitStop seconds)

/-- Calls to the bus that end the loop if they fail, but for outages. -/
inductive Risks : Course → ConsumerCall → Prop
  | start : Risks .turning .start
  | poll (millis limit : Int) : Risks .turning (.poll millis limit)
  | commit (message : Message) (rest : List Message) :
      Risks (.processed message rest) (.commit (next message))

/-- What the loop ends with that leaves the bus for a fault or for none. -/
def lastWord (cause : Option Fault) : Except Fault Unit → Option Fault
  | .ok () => cause
  | .error late => if late.isBusOutage then cause else some late

/-- The protocol of courses. -/
inductive Charts : Protocol Course
  | unfair (p : Course) (c : Call) (reply : Except Fault c.Reply) (unfair : ¬ Fair ⟨c, reply⟩) :
      Charts p c reply .broken
  | broken (c : Call) (reply : Except Fault c.Reply) : Charts .broken c reply .broken
  | note (pending : List Message) (c : ProcessCall) (note : Note c) (reply : Except Fault c.Reply) :
      Charts (.looking pending) (.process c) reply (.looking pending)
  | leave (memory : Daemon.Memory) (asked : memory.stopping = true) :
      Charts (.looking []) (.process .recollect) (.ok memory) (.leaving none)
  | skip (message : Message) (rest : List Message) (memory : Daemon.Memory)
      (asked : memory.stopping = true) :
      Charts (.looking (message :: rest)) (.process .recollect) (.ok memory) (.looking rest)
  | turn (memory : Daemon.Memory) (unasked : memory.stopping = false) :
      Charts (.looking []) (.process .recollect) (.ok memory) .turning
  | face (message : Message) (rest : List Message) (memory : Daemon.Memory)
      (unasked : memory.stopping = false) :
      Charts (.looking (message :: rest)) (.process .recollect) (.ok memory) (.facing message rest)
  | start (reply : Except Fault Unit)
      (survives : ∀ fault, reply = .error fault → fault.isBusOutage = true) :
      Charts .turning (.consumer .start) reply (.looking [])
  | poll (millis limit : Int) (messages : List Message) :
      Charts .turning (.consumer (.poll millis limit)) (.ok messages) (.looking messages)
  | unpolled (millis limit : Int) (fault : Fault) (survives : fault.isBusOutage = true) :
      Charts .turning (.consumer (.poll millis limit)) (.error fault) (.looking [])
  | process (message : Message) (rest : List Message) :
      Charts (.facing message rest) (.process (.handOff message.payload)) (.ok ())
        (.processed message rest)
  | fail (message : Message) (rest : List Message) (fault : Fault) :
      Charts (.facing message rest) (.process (.handOff message.payload)) (.error fault)
        (.failed message rest fault)
  | failure (message : Message) (rest : List Message) (fault : Fault) :
      Charts (.failed message rest fault) (.process (.count (.feedFailures .process))) (.ok ())
        (.looking rest)
  | commit (message : Message) (rest : List Message) (reply : Except Fault Unit)
      (survives : ∀ fault, reply = .error fault → fault.isBusOutage = true) :
      Charts (.processed message rest) (.consumer (.commit (next message))) reply (.looking rest)
  | fall (p : Course) (c : ConsumerCall) (fault : Fault) (risks : Risks p c)
      (fatal : fault.isBusOutage = false) :
      Charts p (.consumer c) (.error fault) (.leaving (some fault))
  | close (cause : Option Fault) (reply : Except Fault Unit) :
      Charts (.leaving cause) (.consumer .stop) reply (.left (lastWord cause reply))
  | farewell (outcome : Option Fault) (entry : Log.Entry) (reply : Except Fault Unit) :
      Charts (.left outcome) (.process (.log entry)) reply (.left outcome)

/-- Where the loop is between two turns. -/
def Docks : Phase → Course → Prop
  | .connecting, p | .polling, p => p = .looking []
  | .handling messages, p => p = .looking messages
  | .closing cause, p => p = .leaving cause
  | .ended outcome, p => p = .left outcome

/-- The loop comes to a phase that fits, unless it was broken. -/
def Lands (q : Course) (o : Except Fault Phase) : Prop :=
  q = .broken ∨ ∃ phase, o = .ok phase ∧ Docks phase q

namespace Course

/-! ### Turns -/

section Turns

variable {p : Course}

theorem follows_return {phase : Phase} (docks : Docks phase p) :
    Follows Charts Lands (pure phase) p :=
  follows_done.mpr (.inr ⟨phase, rfl, docks⟩)

/-- Where a reply was not fair, nothing is said any more. -/
theorem follows_broken (r : Routine Phase) : Follows Charts Lands r .broken := by
  induction r with
  | done phase => exact follows_done.mpr (.inl rfl)
  | fail fault => exact follows_fail.mpr (.inl rfl)
  | ask c next ih => exact follows_ask.mpr fun reply => ⟨_, .broken c reply, ih reply⟩

/-- The process answers, and the loop goes on from where the answer leads. -/
theorem follows_process_bind {c : ProcessCall} {f : c.Reply → Routine Phase}
    (sure : ∀ fault, ¬ Fair ⟨.process c, .error fault⟩)
    (goes : ∀ a, ∃ q, Charts p (.process c) (.ok a) q ∧ Follows Charts Lands (f a) q) :
    Follows Charts Lands (call (.process c) >>= f) p := by
  refine follows_ask.mpr fun reply => ?_
  cases reply with
  | ok a => exact goes a
  | error fault => exact ⟨_, .unfair p _ _ (sure fault), follows_fail.mpr (.inl rfl)⟩

theorem follows_note_bind {c : ProcessCall} {f : c.Reply → Routine Phase} {pending : List Message}
    (note : Note c) (rest : ∀ a, Follows Charts Lands (f a) (.looking pending)) :
    Follows Charts Lands (call (.process c) >>= f) (.looking pending) := by
  refine follows_process_bind ?_ fun a => ⟨_, .note pending c note _, rest a⟩
  intro fault fair
  cases note <;> exact fair

/-- A failure is counted and noted; unless it is one to process, that changes nothing. -/
theorem follows_noteFailure_bind {stage : Stage} {text : String} {f : Unit → Routine Phase}
    {pending : List Message} (other : stage ≠ .process)
    (rest : Follows Charts Lands (f ()) (.looking pending)) :
    Follows Charts Lands (noteFailure stage text >>= f) (.looking pending) := by
  rw [noteFailure, bind_assoc]
  refine follows_note_bind (.count _ fun same => other ?_) fun _ => ?_
  · cases same
    rfl
  · exact follows_note_bind (.log _) fun _ => rest

theorem follows_consumer_bind {c : ConsumerCall} {f : Except Fault c.Reply → Routine Phase}
    (answers : ∀ reply, ∃ q, Charts p (.consumer c) reply q ∧ Follows Charts Lands (f reply) q) :
    Follows Charts Lands ((consumer c).outcome >>= f) p := by
  refine follows_ask.mpr fun reply => ?_
  obtain ⟨q, charts, rest⟩ := answers reply
  refine ⟨q, charts, ?_⟩
  cases reply with
  | ok a => exact rest
  | error fault => exact rest

variable {settings : Settings.Consumer}

/-- An outage of the bus is noted and waited out; any other failure of a risky call is fatal. -/
theorem follows_retry {c : ConsumerCall} {stage : Stage} {text : String} {again : Phase}
    {fault : Fault} (risks : Risks p c) (docks : Docks again (.looking []))
    (other : stage ≠ .process)
    (survives : fault.isBusOutage = true → Charts p (.consumer c) (.error fault) (.looking [])) :
    ∃ q, Charts p (.consumer c) (.error fault) q ∧
      Follows Charts Lands (retry settings stage text again fault) q := by
  unfold retry
  by_cases outage : fault.isBusOutage = true
  · refine ⟨_, survives outage, ?_⟩
    rw [if_pos outage]
    refine follows_noteFailure_bind other ?_
    rw [pause, bind_assoc]
    refine follows_note_bind (.awaitStop _) fun inTime => ?_
    cases inTime <;> exact follows_return docks
  · refine ⟨_, .fall p c fault risks (Bool.eq_false_iff.mpr outage), ?_⟩
    rw [if_neg outage]
    exact follows_return rfl

theorem follows_connect : Follows Charts Lands (connect settings) .turning := by
  refine follows_consumer_bind fun reply => ?_
  cases reply with
  | ok a =>
      refine ⟨_, .start _ nofun, ?_⟩
      exact follows_note_bind (.log _) fun _ => follows_return rfl
  | error fault =>
      refine follows_retry .start rfl (by decide) fun outage => .start _ ?_
      rintro _ ⟨⟩
      exact outage

theorem follows_poll : Follows Charts Lands (poll settings) .turning := by
  refine follows_consumer_bind fun reply => ?_
  cases reply with
  | ok messages => exact ⟨_, .poll _ _ messages, follows_return rfl⟩
  | error fault => exact follows_retry (.poll _ _) rfl (by decide) (.unpolled _ _ fault)

theorem follows_commit (message : Message) (rest : List Message) :
    Follows Charts Lands (commit message.position rest) (.processed message rest) := by
  refine follows_consumer_bind fun reply => ?_
  cases reply with
  | ok a =>
      refine ⟨_, .commit message rest _ nofun, ?_⟩
      exact follows_note_bind (.count _ (by decide)) fun _ => follows_return rfl
  | error fault =>
      dsimp only
      by_cases outage : fault.isBusOutage = true
      · refine ⟨_, .commit message rest _ ?_, ?_⟩
        · rintro _ ⟨⟩
          exact outage
        · rw [if_pos outage]
          exact follows_noteFailure_bind (by decide) (follows_return rfl)
      · refine ⟨_, .fall _ _ fault (.commit message rest) (Bool.eq_false_iff.mpr outage), ?_⟩
        rw [if_neg outage]
        exact follows_return rfl

/-- What was processed is committed, and what failed is counted. -/
theorem follows_handle (message : Message) (rest : List Message) :
    Follows Charts Lands (handle (Bench.processor false) message rest) (.facing message rest) := by
  unfold handle
  refine follows_bind.mpr (follows_outcome.mpr (follows_ask.mpr fun reply => ?_))
  cases reply with
  | ok a => exact ⟨_, .process message rest, follows_done.mpr (follows_commit message rest)⟩
  | error fault =>
      by_cases cancelled : fault = .cancelled
      · subst cancelled
        have unfair : ¬ Fair ⟨.process (.handOff message.payload), .error .cancelled⟩ :=
          fun fair => fair rfl
        exact ⟨_, .unfair _ _ _ unfair, follows_fail.mpr (follows_broken _)⟩
      · refine ⟨_, .fail message rest fault, follows_fail.mpr ?_⟩
        rw [ofOutcome_ok, bind_done]
        split
        · contradiction
        · rename_i same
          exact absurd (Except.error.inj same) cancelled
        · simp only [noteFailure, bind_assoc]
          refine follows_process_bind (fun _ => id) fun _ => ⟨_, .failure message rest fault, ?_⟩
          exact follows_note_bind (.log _) fun _ => follows_return rfl

theorem follows_farewell_bind {entry : Log.Entry} {f : Unit → Routine Phase}
    {outcome : Option Fault} (rest : Follows Charts Lands (f ()) (.left outcome)) :
    Follows Charts Lands (call (.process (.log entry)) >>= f) (.left outcome) :=
  follows_process_bind (fun _ => id) fun _ => ⟨_, .farewell outcome entry _, rest⟩

theorem follows_close (cause : Option Fault) :
    Follows Charts Lands (close cause) (.leaving cause) := by
  refine follows_consumer_bind fun reply => ⟨_, .close cause reply, ?_⟩
  cases reply with
  | ok a => exact follows_farewell_bind (follows_return rfl)
  | error late =>
      dsimp only [lastWord]
      by_cases outage : late.isBusOutage = true
      · rw [if_pos outage, if_pos outage]
        exact follows_farewell_bind (follows_farewell_bind (follows_return rfl))
      · rw [if_neg outage, if_neg outage]
        exact follows_return rfl

theorem follows_unlessStopping {stopped : Phase} {body : Routine Phase} {q q' : Course}
    (stops : ∀ memory, memory.stopping = true → Charts p (.process .recollect) (.ok memory) q)
    (docks : Docks stopped q)
    (goes : ∀ memory, memory.stopping = false → Charts p (.process .recollect) (.ok memory) q')
    (follows : Follows Charts Lands body q') :
    Follows Charts Lands (unlessStopping stopped body) p := by
  refine follows_process_bind (fun _ => id) fun memory => ?_
  cases asked : memory.stopping with
  | true => exact ⟨q, stops memory asked, follows_return docks⟩
  | false => exact ⟨q', goes memory asked, follows⟩

/-- A turn of the loop follows its course, and does not fail. -/
theorem follows_advance {phase : Phase} (docks : Docks phase p) :
    Follows Charts Lands (advance settings (Bench.processor false) phase) p := by
  cases phase with
  | connecting =>
      obtain rfl : p = .looking [] := docks
      exact follows_unlessStopping .leave rfl .turn follows_connect
  | polling =>
      obtain rfl : p = .looking [] := docks
      exact follows_unlessStopping .leave rfl .turn follows_poll
  | handling messages =>
      obtain rfl : p = .looking messages := docks
      cases messages with
      | nil => exact follows_return rfl
      | cons message rest =>
          exact follows_unlessStopping (.skip message rest) rfl (.face message rest)
            (follows_handle message rest)
  | closing cause =>
      obtain rfl : p = .leaving cause := docks
      exact follows_close cause
  | ended outcome => exact follows_return docks

end Turns

/-! ### Courses and stands -/

/-- The stands that a course has; where the bus is left, any. -/
def Is : Course → Stand (Except Fault Unit) → Prop
  | .looking pending, s => s = .ready pending
  | .turning, s => s = .fetching
  | .facing message rest, s => s = .facing message rest
  | .processed message rest, s => s = .within message rest (.ok ())
  | .failed message rest fault, s => s = .within message rest (.error fault)
  | .leaving _, _ | .left _, _ | .broken, _ => True

end Course

theorem Note.aside {c : ProcessCall} (note : Note c) : Aside (.process c) := by
  cases note with
  | log entry => exact .log entry
  | count meter other => exact .count meter other
  | awaitStop seconds => exact .awaitStop seconds

/-- A fair reply does not break a course off. -/
theorem Charts.whole {p q : Course} {c : Call} {reply : Except Fault c.Reply}
    (charts : Charts p c reply q) (fair : Fair ⟨c, reply⟩) (whole : p ≠ .broken) : q ≠ .broken := by
  cases charts with
  | unfair _ _ _ unfair => exact absurd fair unfair
  | broken => exact absurd rfl whole
  | _ => nofun

/-- Along a course the loop goes through its stands. -/
theorem Charts.feeds {p q : Course} {c : Call} {reply : Except Fault c.Reply}
    (charts : Charts p c reply q) (fair : Fair ⟨c, reply⟩) (whole : p ≠ .broken)
    {s : Stand (Except Fault Unit)} (is : p.Is s) : ∃ s', Feeds outside s c reply s' ∧ q.Is s' := by
  cases charts with
  | unfair p c reply unfair => exact absurd fair unfair
  | broken => exact absurd rfl whole
  | note pending c note reply =>
      cases is
      exact ⟨_, .aside pending _ note.aside reply, rfl⟩
  | leave memory asked =>
      cases is
      exact ⟨_, .stopping [] memory asked, trivial⟩
  | skip message rest memory asked =>
      cases is
      exact ⟨_, .stopping (message :: rest) memory asked, rfl⟩
  | turn memory unasked =>
      cases is
      exact ⟨_, .fetch memory unasked, rfl⟩
  | face message rest memory unasked =>
      cases is
      exact ⟨_, .face message rest memory unasked, rfl⟩
  | start reply =>
      cases is
      exact ⟨_, .start reply, rfl⟩
  | poll millis limit messages =>
      cases is
      exact ⟨_, .poll millis limit messages, rfl⟩
  | unpolled millis limit fault =>
      cases is
      exact ⟨_, .unpolled millis limit fault, rfl⟩
  | process message rest =>
      cases is
      exact ⟨_, .hand message rest (.ok ()), rfl⟩
  | fail message rest fault =>
      cases is
      exact ⟨_, .hand message rest (.error fault), rfl⟩
  | failure message rest fault =>
      cases is
      exact ⟨_, .failure message rest _ fault rfl, rfl⟩
  | commit message rest reply =>
      cases is
      exact ⟨_, .commit message rest _ rfl reply, rfl⟩
  | fall p c fault risks =>
      cases risks with
      | start =>
          cases is
          exact ⟨_, .start _, trivial⟩
      | poll millis limit =>
          cases is
          exact ⟨_, .unpolled millis limit fault, trivial⟩
      | commit message rest =>
          cases is
          exact ⟨_, .commit message rest _ rfl _, trivial⟩
  | close cause reply => exact ⟨_, .leave s _ .stop reply, trivial⟩
  | farewell outcome entry reply => exact ⟨_, .leave s _ (.log entry) reply, trivial⟩

end LinkShortener.Feed
