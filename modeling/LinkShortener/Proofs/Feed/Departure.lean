import LinkShortener.Proofs.Feed.Shift

/-!
How the feed comes to leave. It may be asked to stop wherever it waits. Nothing new begins from then
on: the call under way is the last that may have turned to the bus for a connection or for messages,
or have handed a message over, and no pause is waited out. What was processed is still to be
committed. Unless it is asked to stop, the feed leaves only for a failure of the bus that is no
outage, and whatever it leaves for, it attempts to leave the bus once, after everything else.

Main statement: `departs_as_asked`.
-/

namespace LinkShortener.Feed

open Routine

/-! ### After the feed is asked to stop -/

/-- Calls that begin something new: they turn to the bus for a connection or for messages, or hand a
message over. -/
inductive Begins : Call → Prop
  | start : Begins (.consumer .start)
  | poll (millis limit : Int) : Begins (.consumer (.poll millis limit))
  | handOff (payload : List UInt8) : Begins (.process (.handOff payload))

/-- Nothing new is about to begin. -/
def Winding : Course → Prop
  | .turning | .facing .. | .broken => False
  | _ => True

section Winding

variable {p q : Course} {c : Call} {reply : Except Fault c.Reply}

/-- While nothing new is about to begin, a fair call begins nothing. -/
theorem Winding.quiet (winding : Winding p) (charts : Charts p c reply q) (fair : Fair ⟨c, reply⟩) :
    ¬ Begins c := by
  intro begins
  cases begins with
  | start =>
      cases charts with
      | unfair _ _ _ unfair => exact unfair fair
      | fall _ _ fault risks =>
          cases risks
          exact winding
      | _ => exact winding
  | poll =>
      cases charts with
      | unfair _ _ _ unfair => exact unfair fair
      | fall _ _ fault risks =>
          cases risks
          exact winding
      | _ => exact winding
  | handOff =>
      cases charts with
      | unfair _ _ _ unfair => exact unfair fair
      | note _ _ note => cases note
      | _ => exact winding

/-- Asked to stop, the feed does not get to anything new. -/
theorem Winding.next (winding : Winding p) (charts : Charts p c reply q) (fair : Fair ⟨c, reply⟩)
    (recalls : Recalls true ⟨c, reply⟩) : Winding q := by
  cases charts with
  | unfair _ _ _ unfair => exact absurd fair unfair
  | turn memory unasked =>
      have asked : memory.stopping = true := recalls
      rw [unasked] at asked
      cases asked
  | face _ _ memory unasked =>
      have asked : memory.stopping = true := recalls
      rw [unasked] at asked
      cases asked
  | process | fail | broken => exact winding.elim
  | _ => trivial

/-- The feed gets to something new from what it reads, not from what it waited for. -/
theorem winding_of_suspends (charts : Charts p c reply q) (fair : Fair ⟨c, reply⟩)
    (whole : p ≠ .broken) (suspends : c.suspends = true) : Winding q := by
  cases charts with
  | unfair _ _ _ unfair => exact absurd fair unfair
  | broken => exact absurd rfl whole
  | turn | face => cases suspends
  | note pending | _ => trivial

end Winding

/-- The call that is under way, if any, and its reply. -/
inductive Flight (σ : Shift) : List Made → Prop
  | none : Flight σ []
  | one (c : Call) (next : Except Fault c.Reply → Routine Phase) (reply : Except Fault c.Reply)
      (left : σ.rest = .ask c next) (suspends : c.suspends = true) : Flight σ [⟨c, reply⟩]

/-- What a shift has done since it was asked to stop: it may have got the reply to the call that was
under way then, and made other calls that begin nothing new; it has waited out no pause. -/
structure Winds (σ σ' : Shift) : Prop where
  calls : ∃ later flight, σ'.past = later ++ flight ++ σ.past ∧ Flight σ flight ∧
    ∀ made ∈ later, ¬ Begins made.call
  waits : σ'.waits = σ.waits

section Stop

variable {settings : Settings.Consumer} {σ σ' : Shift} {past : List Made}

/-- No time runs out after the feed was asked to stop. -/
theorem not_runsOut_of_asked {made : Made} (recalls : Recalls true made) : ¬ made.runsOut := by
  unfold Made.runsOut
  split
  · cases show false = true from recalls
  · exact Bool.false_ne_true

/-- Wherever a feed has come, it follows the chart, and before its first call it is looking. -/
theorem looking_of_unused (reaches : Shift.Reaches settings .begin σ) :
    ∃ p, p ≠ .broken ∧ Follows Charts Lands σ.rest p ∧ (σ.past = [] → p = .looking []) := by
  refine Shift.keeps_calls (fun _ past p => past = [] → p = .looking []) ?_ id ?_ reaches
  · intro _
    rfl
  · intro asked past p c reply q _ _ _ _ _ used
    cases used

/-- Once the feed is asked to stop, nothing new begins, and no pause is waited out. -/
theorem winds_of_stopped (reaches : Shift.Reaches settings .begin σ) (idle : σ.Idle)
    (after : Shift.Reaches settings σ.stopped σ') : Winds σ σ' := by
  obtain ⟨p, whole, follows, unused⟩ := looking_of_unused reaches
  -- Either the call is still under way, or its reply has come and nothing new is about to begin.
  let inv (τ : Shift) (p : Course) : Prop :=
    τ.asked = true ∧ τ.waits = σ.waits ∧
      ((τ = σ.stopped ∧ ∃ c next, σ.rest = .ask c next ∧ c.suspends = true) ∨
        Winding p ∧ ∃ later flight, τ.past = later ++ flight ++ σ.past ∧ Flight σ flight ∧
          ∀ made ∈ later, ¬ Begins made.call)
  have start : inv σ.stopped p := by
    refine ⟨rfl, rfl, ?_⟩
    cases idle with
    | new none =>
        rw [unused none]
        exact .inr ⟨trivial, [], [], rfl, .none, List.forall_mem_nil _⟩
    | suspended c next left suspends => exact .inl ⟨rfl, c, next, left, suspends⟩
  have replies : ∀ {τ p c next reply q}, inv τ p → τ.rest = .ask c next → Charts p c reply q →
      Fair ⟨c, reply⟩ → Recalls τ.asked ⟨c, reply⟩ → p ≠ .broken →
      inv (τ.answered c next reply) q := by
    rintro τ p c next reply q ⟨asked, waits, holds⟩ left charts fair recalls whole
    rw [asked] at recalls
    have waits' : (τ.answered c next reply).waits = σ.waits :=
      (List.countP_cons_of_neg (not_runsOut_of_asked recalls)).trans waits
    refine ⟨asked, waits', .inr ?_⟩
    rcases holds with ⟨rfl, c', next', left', suspends⟩ | ⟨winding, later, flight, made, flies, quiet⟩
    · cases left'.symm.trans left
      refine ⟨winding_of_suspends charts fair whole suspends, [], [⟨c, reply⟩], rfl, ?_, ?_⟩
      · exact .one c next reply left suspends
      · exact List.forall_mem_nil _
    · refine ⟨winding.next charts fair recalls, ⟨c, reply⟩ :: later, flight, ?_, flies, ?_⟩
      · exact congrArg (Made.mk c reply :: ·) made
      · exact List.forall_mem_cons.mpr ⟨winding.quiet charts fair, quiet⟩
  have turns : ∀ {τ p phase}, inv τ p → τ.rest = .done phase →
      inv (τ.turned settings phase) p := by
    rintro τ p phase ⟨asked, waits, ⟨rfl, c, next, left', -⟩ | holds⟩ left
    · cases left'.symm.trans left
    · exact ⟨asked, waits, .inr holds⟩
  have stops : ∀ {τ p}, inv τ p → inv τ.stopped p := by
    rintro τ p ⟨asked, waits, ⟨rfl, holds⟩ | holds⟩
    · exact ⟨rfl, waits, .inl ⟨rfl, holds⟩⟩
    · exact ⟨rfl, waits, .inr holds⟩
  have follows' : Follows Charts Lands σ.stopped.rest p := follows
  obtain ⟨q, -, -, -, waits, holds⟩ :=
    Shift.keeps inv replies turns stops whole follows' start after
  rcases holds with ⟨rfl, -⟩ | ⟨-, calls⟩
  · exact ⟨⟨[], [], rfl, .none, List.forall_mem_nil _⟩, rfl⟩
  · exact ⟨calls, waits⟩

/-! ### What was processed is committed -/

/-- The message that a payload was handed over of: those fetched before it were handed over before,
one after the other. -/
structure InHand (payload : List UInt8) (earlier : List Made) (message : Message) : Prop where
  payload : message.payload = payload
  line : ∃ before after, fetched earlier = before ++ message :: after ∧ HandedOver earlier before

/-- The messages are in line, and what was processed last is the message in hand. -/
structure Tended (asked : Bool) (past : List Made) (p : Course) : Prop where
  lines : ∃ s, p.Is s ∧ Lines asked past s
  processed : ∀ payload earlier, past = ⟨.process (.handOff payload), .ok ()⟩ :: earlier →
    ∃ message rest, p = .processed message rest

/-- Every call keeps the feed tended. -/
theorem Tended.step {asked : Bool} {p q : Course} {c : Call} {reply : Except Fault c.Reply}
    (tended : Tended asked past p) (charts : Charts p c reply q) (fair : Fair ⟨c, reply⟩)
    (recalls : Recalls asked ⟨c, reply⟩) (whole : p ≠ .broken) :
    Tended asked (⟨c, reply⟩ :: past) q := by
  constructor
  case lines =>
    obtain ⟨s, is, lines⟩ := tended.lines
    obtain ⟨s', feeds, is'⟩ := charts.feeds fair whole is
    exact ⟨s', is', lines.step feeds recalls⟩
  case processed =>
    rintro payload earlier ⟨⟩
    cases charts with
    | unfair _ _ _ unfair => exact absurd fair unfair
    | broken => exact absurd rfl whole
    | note _ _ note => cases note
    | process message rest => exact ⟨message, rest, rfl⟩

/-- Wherever a feed has come, it stands at a mark of the chart, and its past is tended there. -/
theorem tended_of_reaches (reaches : Shift.Reaches settings .begin σ) :
    ∃ p, p ≠ .broken ∧ Follows Charts Lands σ.rest p ∧ Tended σ.asked σ.past p := by
  refine Shift.keeps_calls Tended ?_ ?_ Tended.step reaches
  · exact ⟨⟨_, rfl, [], [], rfl, rfl, fun _ => rfl⟩, nofun⟩
  · rintro asked past p ⟨⟨s, is, lines⟩, processed⟩
    exact ⟨⟨s, is, lines.ask⟩, processed⟩

/-- A feed with a processed message in hand can do nothing but commit it. -/
theorem commits_next {message : Message} {rest : List Message} {r : Routine Phase}
    (follows : Follows Charts Lands r (.processed message rest)) :
    ∃ next', r = .ask (.consumer (.commit (next message))) next' := by
  cases r with
  | done phase =>
      rcases follows_done.mp follows with same | ⟨_, ⟨⟩, docks⟩
      · cases same
      · cases phase <;> cases docks
  | fail fault =>
      rcases follows_fail.mp follows with same | ⟨_, ⟨⟩, _⟩
      cases same
  | ask c next' =>
      obtain ⟨a, ok⟩ := Shift.prompt_ok false c
      obtain ⟨q, charts, -⟩ := follows_ask.mp follows (.ok a)
      cases charts with
      | unfair _ _ _ unfair => exact absurd (Shift.fair_ok c a) unfair
      | commit => exact ⟨next', rfl⟩

/-- After a message was processed, the next call is to commit it. -/
theorem commit_follows_success (reaches : Shift.Reaches settings .begin σ)
    {payload : List UInt8} {earlier : List Made}
    (processed : σ.past = ⟨.process (.handOff payload), .ok ()⟩ :: earlier) :
    ∃ message next', InHand payload earlier message ∧
      σ.rest = .ask (.consumer (.commit (next message))) next' := by
  obtain ⟨p, -, follows, tended⟩ := tended_of_reaches reaches
  obtain ⟨message, rest, rfl⟩ := tended.processed payload earlier processed
  obtain ⟨next', left⟩ := commits_next follows
  refine ⟨message, next', ?_, left⟩
  obtain ⟨s, rfl, before, fetched, handed⟩ := tended.lines
  rw [processed] at fetched handed
  have last : (Feed.handed earlier).map Prod.fst ++ [payload] =
      before.map Message.payload ++ [message.payload] := by
    simpa [HandedOver, Feed.handed, gather, Made.hands] using handed
  obtain ⟨before', same⟩ := List.append_inj' last rfl
  constructor
  · exact (List.cons.inj same).1.symm
  · refine ⟨before, rest, ?_, before'⟩
    rwa [fetched_cons_of_eq rfl] at fetched

/-! ### What the feed leaves for -/

/-- Calls to the bus in the course of its work. -/
inductive Serves : ConsumerCall → Prop
  | start : Serves .start
  | poll (millis limit : Int) : Serves (.poll millis limit)
  | commit (position : Position) : Serves (.commit position)

/-- A call to the bus has failed, and not with an outage. -/
inductive Fatal (fault : Fault) : Made → Prop
  | fatal (c : ConsumerCall) (serves : Serves c) (fatal : fault.isBusOutage = false) :
      Fatal fault ⟨.consumer c, .error fault⟩

/-- What the feed leaves for after these calls: it was asked to stop and has just read so, or the
last call has failed fatally. -/
inductive Cause (asked : Bool) : List Made → Option Fault → Prop
  | asked (is : asked = true) (memory : Daemon.Memory) (earlier : List Made) :
      Cause asked (⟨.process .recollect, .ok memory⟩ :: earlier) none
  | fatal (fault : Fault) (made : Made) (is : Fatal fault made) (earlier : List Made) :
      Cause asked (made :: earlier) (some fault)

/-- Attempts to leave the bus. -/
def IsStop (made : Made) : Prop := made.call = .consumer .stop

/-- Lines of the log. -/
def IsLog (made : Made) : Prop := ∃ entry, made.call = .process (.log entry)

/-- How the feed has ended: it had a cause to leave, attempted once to leave the bus, after
everything else but some lines of the log, and ends with the fault that it leaves for, or with that
of the attempt if it is no outage. -/
structure Departed (asked : Bool) (past : List Made) (outcome : Option Fault) : Prop where
  calls : ∃ farewells reply earlier cause,
    past = farewells ++ ⟨.consumer .stop, reply⟩ :: earlier ∧
    (∀ made ∈ farewells, IsLog made) ∧ (∀ made ∈ earlier, ¬ IsStop made) ∧
    Cause asked earlier cause ∧ outcome = lastWord cause reply

/-- What is known of the past on a course. -/
def Known (asked : Bool) (past : List Made) : Course → Prop
  | .leaving cause => (∀ made ∈ past, ¬ IsStop made) ∧ Cause asked past cause
  | .left outcome => Departed asked past outcome
  | _ => ∀ made ∈ past, ¬ IsStop made

theorem Cause.ask {asked : Bool} {cause : Option Fault} (holds : Cause asked past cause) :
    Cause true past cause := by
  cases holds with
  | asked is memory earlier => exact .asked rfl memory earlier
  | fatal fault made is earlier => exact .fatal fault made is earlier

theorem Known.ask {asked : Bool} {p : Course} (known : Known asked past p) : Known true past p := by
  cases p with
  | leaving cause => exact ⟨known.1, known.2.ask⟩
  | left outcome =>
      obtain ⟨farewells, reply, earlier, cause, same, logs, unstopped, holds, word⟩ := known.calls
      exact ⟨⟨farewells, reply, earlier, cause, same, logs, unstopped, holds.ask, word⟩⟩
  | _ => exact known

/-- Every call keeps what is known. -/
theorem Known.step {asked : Bool} {p q : Course} {c : Call} {reply : Except Fault c.Reply}
    (known : Known asked past p) (charts : Charts p c reply q) (fair : Fair ⟨c, reply⟩)
    (recalls : Recalls asked ⟨c, reply⟩) (whole : p ≠ .broken) :
    Known asked (⟨c, reply⟩ :: past) q := by
  have goes (unstopped : ∀ made ∈ past, ¬ IsStop made) (other : c ≠ .consumer .stop) :
      ∀ made ∈ (⟨c, reply⟩ :: past : List Made), ¬ IsStop made :=
    List.forall_mem_cons.mpr ⟨other, unstopped⟩
  cases charts with
  | unfair _ _ _ unfair => exact absurd fair unfair
  | broken => exact absurd rfl whole
  | leave memory asks =>
      have same : memory.stopping = asked := recalls
      exact ⟨goes known nofun, .asked (same ▸ asks) memory past⟩
  | fall _ c fault risks fatal =>
      cases risks with
      | start => exact ⟨goes known nofun, .fatal fault _ (.fatal _ .start fatal) past⟩
      | poll millis limit =>
          exact ⟨goes known nofun, .fatal fault _ (.fatal _ (.poll millis limit) fatal) past⟩
      | commit message rest =>
          exact ⟨goes known nofun, .fatal fault _ (.fatal _ (.commit _) fatal) past⟩
  | close cause reply =>
      obtain ⟨unstopped, holds⟩ := known
      exact ⟨⟨[], reply, past, cause, rfl, List.forall_mem_nil _, unstopped, holds, rfl⟩⟩
  | farewell outcome entry reply =>
      obtain ⟨farewells, reply', earlier, cause, same, logs, unstopped, holds, word⟩ := known.calls
      refine ⟨⟨⟨.process (.log entry), reply⟩ :: farewells, reply', earlier, cause, ?_, ?_, unstopped,
        holds, word⟩⟩
      · rw [same]
        rfl
      · exact List.forall_mem_cons.mpr ⟨⟨entry, rfl⟩, logs⟩
  | _ => exact goes known nofun

/-- Wherever a feed has come, its past is known. -/
theorem known_of_reaches (reaches : Shift.Reaches settings .begin σ) :
    ∃ p, p ≠ .broken ∧ Follows Charts Lands σ.rest p ∧ Known σ.asked σ.past p :=
  Shift.keeps_calls Known (List.forall_mem_nil _) Known.ask Known.step reaches

/-- A feed that has ended has departed. -/
theorem departed_of_ended (reaches : Shift.Reaches settings .begin σ) {outcome : Option Fault}
    (ended : σ.rest = .done (.ended outcome)) : Departed σ.asked σ.past outcome := by
  obtain ⟨p, whole, follows, known⟩ := known_of_reaches reaches
  rw [ended] at follows
  rcases follows_done.mp follows with same | ⟨_, ⟨⟩, docks⟩
  · exact absurd same whole
  · cases docks
    exact known

/-- Where the last call has failed fatally, the feed leaves the bus. -/
def Falls (past : List Made) (p : Course) : Prop :=
  ∀ fault made earlier, Fatal fault made → past = made :: earlier → Shift.Departing p

/-- A fair call that fails fatally leads to the way out. -/
theorem falls_of_charts {p q : Course} {c : Call} {reply : Except Fault c.Reply}
    (charts : Charts p c reply q) (fair : Fair ⟨c, reply⟩) (whole : p ≠ .broken) :
    Falls (⟨c, reply⟩ :: past) q := by
  rintro fault _ earlier ⟨c, serves, fatal⟩ ⟨⟩
  cases charts with
  | unfair _ _ _ unfair => exact absurd fair unfair
  | broken => exact absurd rfl whole
  | start _ survives => exact absurd (survives fault rfl) (Bool.eq_false_iff.mp fatal)
  | unpolled _ _ _ survives => exact absurd survives (Bool.eq_false_iff.mp fatal)
  | commit _ _ _ survives => exact absurd (survives fault rfl) (Bool.eq_false_iff.mp fatal)
  | fall => exact .leaving _
  | close => exact .left _

/-- After a fatal failure, the feed leaves the bus and has ended then. -/
theorem ends_of_fatal (reaches : Shift.Reaches settings .begin σ) {fault : Fault} {made : Made}
    {earlier : List Made} (fatal : Fatal fault made) (last : σ.past = made :: earlier) :
    Shift.Ends settings σ := by
  have start : Falls [] (.looking []) := by
    rintro fault made earlier - ⟨⟩
  obtain ⟨p, -, follows, falls⟩ := Shift.keeps_calls (fun _ => Falls) start (fun falls => falls)
    (fun _ charts fair _ whole => falls_of_charts charts fair whole) reaches
  exact Shift.ends_of_departing (falls fault made earlier fatal last) follows

/-- At every moment of every shift, whatever the bus replies and whatever comes of processing:

* if the feed is asked to stop while it waits, it gets the reply that it waits for, begins nothing
  new, and waits out no pause; and once it was asked it comes to its end;
* a message that was processed is committed in the next call;
* after a failure of the bus that is fatal the feed comes to its end;
* when it has ended, it was asked to stop or its last call had failed fatally; it has attempted once
  to leave the bus, after everything else; and it ends with the fault that it leaves for, or with that
  of the attempt if that is fatal. It never fails in any other way. -/
theorem departs_as_asked (reaches : Shift.Reaches settings .begin σ) :
    (σ.Idle → ∀ σ', Shift.Reaches settings σ.stopped σ' → Winds σ σ') ∧
    (σ.asked = true → Shift.Ends settings σ) ∧
    (∀ payload earlier, σ.past = ⟨.process (.handOff payload), .ok ()⟩ :: earlier →
      ∃ message next', InHand payload earlier message ∧
        σ.rest = .ask (.consumer (.commit (next message))) next') ∧
    (∀ fault made earlier, Fatal fault made → σ.past = made :: earlier → Shift.Ends settings σ) ∧
    (∀ outcome, σ.rest = .done (.ended outcome) → Departed σ.asked σ.past outcome) ∧
    ∀ fault, σ.rest ≠ .fail fault := by
  obtain ⟨p, whole, follows, -⟩ := looking_of_unused reaches
  refine ⟨?_, ?_, ?_, ?_, ?_, ?_⟩
  · intro idle σ' after
    exact winds_of_stopped reaches idle after
  · intro asked
    exact Shift.ends_of_asked asked whole follows
  · intro payload earlier processed
    exact commit_follows_success reaches processed
  · intro fault made earlier fatal last
    exact ends_of_fatal reaches fatal last
  · intro outcome ended
    exact departed_of_ended reaches ended
  · intro fault failed
    rw [failed] at follows
    rcases follows_fail.mp follows with same | ⟨_, ⟨⟩, _⟩
    exact whole same

end Stop

def twoMessages (asked : Bool) : (c : Call) → Except Fault c.Reply
  | .consumer (.poll _ _) => .ok [⟨⟨"visits", 0, 4⟩, [1]⟩, ⟨⟨"visits", 0, 5⟩, [2]⟩]
  | c => Shift.prompt asked c

theorem fair_twoMessages (asked : Bool) (c : Call) : Fair ⟨c, twoMessages asked c⟩ := by
  unfold twoMessages
  split
  · trivial
  · exact Shift.fair_prompt asked c

theorem recalls_twoMessages (asked : Bool) (c : Call) : Recalls asked ⟨c, twoMessages asked c⟩ := by
  unfold twoMessages
  split
  · trivial
  · exact Shift.recalls_prompt asked c

/-- A feed that is asked to stop while the first message is processed commits it, leaves the second
alone, and leaves the bus. -/
theorem stop_amid_processing :
    let σ := Shift.begin.moves {} twoMessages 9
    let σ' := σ.stopped.moves {} twoMessages 11
    (∃ next', σ.rest = .ask (.process (.handOff [1])) next') ∧ Winds σ σ' ∧
      handed σ'.past = [([1], .ok ())] ∧ commits σ'.past = [⟨"visits", 0, 5⟩] ∧
      Departed true σ'.past none := by
  intro σ σ'
  have reaches : Shift.Reaches {} .begin σ :=
    Shift.reaches_moves fair_twoMessages recalls_twoMessages 9 _
  have after : Shift.Reaches {} σ.stopped σ' :=
    Shift.reaches_moves fair_twoMessages recalls_twoMessages 11 _
  have idle : σ.Idle := .suspended (.process (.handOff [1])) _ rfl rfl
  have stop : Shift.Reaches {} .begin σ.stopped := reaches.tail (.stop idle)
  refine ⟨⟨_, rfl⟩, ?_, rfl, rfl, ?_⟩
  · exact (departs_as_asked reaches).1 idle σ' after
  · exact (departs_as_asked (stop.trans after)).2.2.2.2.1 none rfl

end LinkShortener.Feed
