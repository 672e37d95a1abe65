import LinkShortener.Proofs.Daemon.Steward
import LinkShortener.Visit.Intake

/-!
What ends a feed, and what it leaves behind. A feed is bidden to end when it reads that it should
stop, or when one of its calls is broken off. It attends the bus from the start of its consumer to
the first attempt to stop it. Beside the bus it keeps aloof: it opens and closes nothing that the
process holds, and changes no memory.

Main statements: however its calls turn out, a feed never fails between two phases, it has left the
bus when it has ended, and if the bus only fails with outages, it has not ended unless it was bidden
to (`turns_turns`); and it keeps aloof all the while (`aloof_turns`).
-/

namespace LinkShortener.Feed

open Routine
open Daemon (isRisky isAloof)

/-- Whether the feed was bidden to end, and whether it attends the bus. -/
structure Stint where
  bidden : Bool := false
  attends : Bool := false
  deriving DecidableEq

/-- Whether a reply bids the feed to end. -/
def bids : (c : Call) → Except Fault c.Reply → Bool
  | .process .recollect, .ok memory => memory.stopping
  | _, .error .cancelled => true
  | _, _ => false

/-- The attendance after a call. -/
def attendance (attends : Bool) : (c : Call) → Except Fault c.Reply → Bool
  | .consumer .start, .ok _ => true
  | .consumer .stop, _ => false
  | _, _ => attends

def Stint.after (s : Stint) (c : Call) (reply : Except Fault c.Reply) : Stint :=
  ⟨bids c reply || s.bidden, attendance s.attends c reply⟩

/-- Calls to the bus fail with outages, or because they are broken off. -/
def IsTame : Call → Fault → Prop
  | .consumer _, fault => fault.isBusOutage = true ∨ fault = .cancelled
  | _, _ => True

/-- The feed where the process answers it, and the bus fails with outages if it is tame. -/
def stint (tame : Bool) : Machine Stint where
  admits _ c reply := ∀ fault, reply = .error fault →
    isRisky c = true ∧ (tame = true → IsTame c fault)
  after := Stint.after

variable {tame : Bool} {α β : Type}

/-! ### Processing a payload -/

/-- A routine is honest if it keeps aloof and comes out as broken off only if a call of it was. -/
structure IsHonest (tame : Bool) (r : Routine α) : Prop where
  aloof : OnlyCalls isAloof r
  tells (s : Stint) :
    Secures (stint tame) (fun s o => o = .error .cancelled → s.bidden = true) r s

section Honest

variable {r : Routine α}

theorem honest_done {a : α} : IsHonest tame (.done a) where
  aloof := only_done trivial
  tells _ := secures_done.mpr nofun

theorem honest_fail {fault : Fault} (other : fault ≠ .cancelled) :
    IsHonest tame (.fail fault : Routine α) where
  aloof := only_fail trivial
  tells _ := secures_fail.mpr fun same => absurd (Except.error.inj same) other

theorem honest_call {c : Call} (aloof : isAloof c = true) : IsHonest tame (call c) where
  aloof := onlyCalls_call aloof
  tells s := by
    refine secures_call.mpr fun reply _ broken => ?_
    subst broken
    change (bids c (.error .cancelled) || s.bidden) = true
    have bidden : bids c (.error .cancelled) = true := by
      unfold bids
      split <;> simp_all
    rw [bidden, Bool.true_or]

theorem IsHonest.bind {f : α → Routine β} (first : IsHonest tame r)
    (rest : ∀ a, IsHonest tame (f a)) : IsHonest tame (r >>= f) where
  aloof := first.aloof.bind fun a => (rest a).aloof
  tells s := by
    refine secures_bind.mpr ((first.tells s).mono fun s o broken => ?_)
    cases o with
    | ok a => exact (rest a).tells s
    | error fault =>
        refine secures_fail.mpr fun same => broken ?_
        cases same
        rfl

theorem IsHonest.rescue {kind : Fault → Bool} {handle : Fault → Routine α}
    (first : IsHonest tame r) (handles : ∀ fault, IsHonest tame (handle fault)) :
    IsHonest tame (r.rescue kind handle) where
  aloof := first.aloof.rescue fun fault => (handles fault).aloof
  tells s := by
    refine secures_rescue.mpr ((first.tells s).mono fun s o broken => ?_)
    cases o with
    | ok a => exact secures_done.mpr nofun
    | error fault =>
        rw [ofOutcome_error, rescue_fail]
        split
        · exact (handles fault).tells s
        · exact secures_fail.mpr broken

end Honest

theorem honest_receive (payload : List UInt8) : IsHonest tame (Visit.receive payload) := by
  unfold Visit.receive
  split
  · exact honest_fail nofun
  · rename_i document _
    refine IsHonest.bind ?_ fun checked => ?_
    · have dated (fresh : String) : IsHonest tame
          (now >>= fun time => .done (Visit.ofJson fresh time document)) :=
        (honest_call (c := .process .now) rfl).bind fun _ => honest_done
      unfold Visit.ofDocument
      dsimp only
      split
      · exact (honest_call (c := .process .freshEvent) rfl).bind fun fresh => dated fresh
      · exact dated ""
    · split
      · exact honest_fail nofun
      · exact honest_done

theorem honest_enrich (v : Visit) : IsHonest tame v.enrich := by
  have located : IsHonest tame (call (.atlas (.locate v.address))) := honest_call rfl
  refine (located.rescue fun fault => ?_).bind fun place => ?_
  · exact (honest_call (c := .process (.log _)) rfl).bind fun _ => honest_done
  · cases Agent.classify v.agent with
    | error flaw => exact honest_fail nofun
    | ok device => exact honest_done

theorem honest_add (backend : Backend) (click : Click) :
    IsHonest tame (ClickStore.add backend click) := by
  have meters (meter : Meter) : IsHonest tame (count meter) :=
    honest_call (c := .process (.count meter)) rfl
  cases backend with
  | rows =>
      refine IsHonest.bind (IsHonest.rescue ?_ fun fault => ?_) fun new => ?_
      · refine (honest_call (c := .database .connect) rfl).bind fun _ => ?_
        exact (honest_call (c := .database (.insertClick click)) rfl).bind fun _ => honest_done
      · split
        · refine IsHonest.bind ?_ fun _ => honest_done
          exact (meters _).bind fun _ => honest_call (c := .process (.log _)) rfl
        · exact honest_fail nofun
      · split
        · exact meters _
        · exact honest_done
  | columns =>
      refine IsHonest.bind ?_ fun _ => meters _
      exact (honest_call (c := .columns (.insert click)) rfl).rescue fun _ => honest_fail nofun

/-- Processing a payload is honest. -/
theorem honest_process (backend : Backend) (payload : List UInt8) :
    IsHonest tame (do let _ ← Visit.process backend payload) := by
  refine IsHonest.bind ?_ fun _ => honest_done
  refine (honest_receive payload).bind fun v => (honest_enrich v).bind fun click => ?_
  refine (honest_add backend click).bind fun _ => ?_
  exact (honest_call (c := .process (.log _)) rfl).bind fun _ => honest_done

/-! ### The phases -/

/-- A feed that was bidden to end ends with no fault but that it was broken off. -/
def Obeys (s : Stint) (fault : Option Fault) : Prop :=
  s.bidden = true ∧ ∀ f, fault = some f → f = .cancelled

/-- What holds of a stint in a phase. -/
def Stands (tame : Bool) (s : Stint) : Phase → Prop
  | .closing fault => tame = true → Obeys s fault
  | .ended fault => s.attends = false ∧ (tame = true → Obeys s fault)
  | _ => True

/-- A turn does not fail and leads to a phase that fits. -/
def Turns (tame : Bool) (r : Routine Phase) (s : Stint) : Prop :=
  Secures (stint tame) (fun s o => ∃ phase, o = .ok phase ∧ Stands tame s phase) r s

section Turns

variable {s : Stint} {settings : Settings.Consumer} {phase : Phase}

theorem turns_done (stands : Stands tame s phase) : Turns tame (.done phase) s :=
  secures_done.mpr ⟨phase, rfl, stands⟩

/-- The process answers, and its answer does not matter to the feed. -/
theorem turns_process_bind {c : ProcessCall} {f : c.Reply → Routine Phase}
    (sure : isRisky (.process c) = false)
    (rest : ∀ a, Turns tame (f a) (s.after (.process c) (.ok a))) :
    Turns tame (call (.process c) >>= f) s := by
  refine secures_call_bind.mpr fun reply admits => ?_
  cases reply with
  | ok a => exact rest a
  | error fault =>
      have risky := (admits fault rfl).1
      rw [sure] at risky
      cases risky

theorem turns_note_bind {stage : Stage} {text : String} {f : Unit → Routine Phase}
    (rest : Turns tame (f ()) s) : Turns tame (noteFailure stage text >>= f) s := by
  rw [noteFailure, bind_assoc]
  exact turns_process_bind (c := .count _) rfl fun _ =>
    turns_process_bind (c := .log _) rfl fun _ => rest

theorem turns_log_bind {level : Log.Level} {source : Log.Source} {text : String}
    {f : Unit → Routine Phase} (rest : Turns tame (f ()) s) :
    Turns tame (log level source text >>= f) s :=
  turns_process_bind (c := .log _) rfl fun _ => rest

theorem turns_pause_bind {f : Unit → Routine Phase} (rest : Turns tame (f ()) s) :
    Turns tame (pause settings >>= f) s := by
  rw [pause, bind_assoc]
  refine turns_process_bind (c := .awaitStop _) rfl fun inTime => ?_
  cases inTime <;> exact rest

/-- A call to the bus is answered, or it fails; if the bus is tame and that is no outage, then the
call was broken off. -/
theorem turns_consumer_bind {c : ConsumerCall}
    {f : Except Fault c.Reply → Routine Phase}
    (answered : ∀ a, Turns tame (f (.ok a)) (s.after (.consumer c) (.ok a)))
    (failed : ∀ fault (s' : Stint), s' = s.after (.consumer c) (.error fault) →
      (tame = true → fault.isBusOutage = false → Obeys s' (some fault)) →
      Turns tame (f (.error fault)) s') :
    Turns tame ((consumer c).outcome >>= f) s := by
  refine secures_bind.mpr (secures_outcome.mpr ((secures_call (c := .consumer c)).mpr ?_))
  intro reply admits
  cases reply with
  | ok a => exact answered a
  | error fault =>
      refine failed fault _ rfl fun isTame passes => ?_
      rcases (admits fault rfl).2 isTame with outage | rfl
      · rw [passes] at outage
        cases outage
      · exact ⟨rfl, fun _ same => (Option.some.inj same).symm⟩

/-- A retry stands again where the fault is an outage, and otherwise leaves obediently. -/
theorem turns_retry {stage : Stage} {text : String} {again : Phase} {fault : Fault}
    (stands : Stands tame s again)
    (obeys : tame = true → fault.isBusOutage = false → Obeys s (some fault)) :
    Turns tame (retry settings stage text again fault) s := by
  unfold retry
  split
  · exact turns_note_bind (turns_pause_bind (turns_done stands))
  · rename_i passes
    exact turns_done fun isTame => obeys isTame (Bool.eq_false_iff.mpr passes)

theorem turns_connect : Turns tame (connect settings) s :=
  turns_consumer_bind (c := .start) (fun _ => turns_log_bind (turns_done trivial))
    fun _ _ _ obeys => turns_retry trivial obeys

theorem turns_poll : Turns tame (poll settings) s :=
  turns_consumer_bind (c := .poll _ _) (fun _ => turns_done trivial)
    fun _ _ _ obeys => turns_retry trivial obeys

theorem turns_commit {position : Position} {rest : List Message} :
    Turns tame (commit position rest) s := by
  refine turns_consumer_bind (c := .commit _) (fun _ => ?_) fun fault _ _ obeys => ?_
  · exact turns_process_bind (c := .count _) rfl fun _ => turns_done trivial
  · dsimp only
    split
    · exact turns_note_bind (turns_done trivial)
    · rename_i passes
      exact turns_done fun isTame => obeys isTame (Bool.eq_false_iff.mpr passes)

theorem turns_handle {processor : Processor} (honest : ∀ payload, IsHonest tame (processor payload))
    {message : Message} {rest : List Message} : Turns tame (handle processor message rest) s := by
  refine secures_bind.mpr (secures_outcome.mpr (((honest message.payload).tells s).mono ?_))
  intro s o broken
  rw [ofOutcome_ok, bind_done]
  split
  · exact turns_commit
  · exact turns_done fun _ => ⟨broken rfl, fun _ same => (Option.some.inj same).symm⟩
  · exact turns_note_bind (turns_done trivial)

/-- Leaving the bus ends the feed, whether it succeeds or not. -/
theorem turns_close {fault : Option Fault} (obeys : tame = true → Obeys s fault) :
    Turns tame (close fault) s := by
  refine turns_consumer_bind (c := .stop) (fun _ => ?_) fun late _ after broken => ?_
  · exact turns_log_bind (turns_done ⟨rfl, obeys⟩)
  · subst after
    dsimp only
    split
    · refine turns_log_bind (turns_log_bind (turns_done ⟨rfl, fun isTame => ?_⟩))
      exact ⟨Bool.or_eq_true_iff.mpr (.inr (obeys isTame).1), (obeys isTame).2⟩
    · rename_i passes
      exact turns_done ⟨rfl, fun isTame => broken isTame (Bool.eq_false_iff.mpr passes)⟩

/-- The flag to stop bids the feed to end. -/
theorem turns_unlessStopping {stopped : Phase} {next : Routine Phase}
    (stands : ∀ s : Stint, s.bidden = true → Stands tame s stopped)
    (goes : ∀ s, Turns tame next s) : Turns tame (unlessStopping stopped next) s := by
  refine turns_process_bind (c := .recollect) rfl fun memory => ?_
  cases asked : memory.stopping with
  | true => exact turns_done (stands _ (Bool.or_eq_true_iff.mpr (.inl asked)))
  | false => exact goes _

/-- Each phase turns into one that stands where the stop has it. -/
theorem turns_advance {processor : Processor}
    (honest : ∀ payload, IsHonest tame (processor payload)) (stands : Stands tame s phase) :
    Turns tame (advance settings processor phase) s := by
  unfold advance
  split
  · exact turns_unlessStopping (fun _ bidden _ => ⟨bidden, nofun⟩) fun _ => turns_connect
  · exact turns_unlessStopping (fun _ bidden _ => ⟨bidden, nofun⟩) fun _ => turns_poll
  · exact turns_done trivial
  · exact turns_unlessStopping (fun _ _ => trivial) fun _ => turns_handle honest
  · exact turns_close stands
  · exact turns_done stands

/-- However its calls turn out, the feed does not fail between two phases; when it has ended, it has
left the bus; and if the bus is tame, it has not ended unless it was bidden to. -/
theorem turns_turns {processor : Processor} (honest : ∀ payload, IsHonest tame (processor payload))
    (n : Nat) (stands : Stands tame s phase) : Turns tame (turns settings processor n phase) s := by
  induction n generalizing s phase with
  | zero => exact turns_done stands
  | succ n ih =>
      refine secures_bind.mpr ((turns_advance honest stands).mono ?_)
      rintro s _ ⟨phase, rfl, stands⟩
      exact ih stands

end Turns

/-! ### Keeping aloof -/

section Aloof

variable {settings : Settings.Consumer}

theorem aloof_note (stage : Stage) (text : String) : OnlyCalls isAloof (noteFailure stage text) :=
  (onlyCalls_call (c := .process (.count _)) rfl).bind fun _ =>
    onlyCalls_call (c := .process (.log _)) rfl

theorem aloof_log (level : Log.Level) (source : Log.Source) (text : String) :
    OnlyCalls isAloof (log level source text) := onlyCalls_call (c := .process (.log _)) rfl

theorem aloof_retry (stage : Stage) (text : String) (again : Phase) (fault : Fault) :
    OnlyCalls isAloof (retry settings stage text again fault) := by
  unfold retry
  split
  · refine (aloof_note stage text).bind fun _ => ?_
    refine Only.bind ((onlyCalls_call (c := .process (.awaitStop _)) rfl).bind fun inTime => ?_)
      fun _ => only_done trivial
    cases inTime <;> exact only_done trivial
  · exact only_done trivial

theorem aloof_connect : OnlyCalls isAloof (connect settings) := by
  refine (onlyCalls_call (c := .consumer .start) rfl).outcome.bind fun o => ?_
  cases o with
  | ok a => exact (aloof_log _ _ _).bind fun _ => only_done trivial
  | error fault => exact aloof_retry _ _ _ fault

theorem aloof_poll : OnlyCalls isAloof (poll settings) := by
  refine (onlyCalls_call (c := .consumer (.poll _ _)) rfl).outcome.bind fun o => ?_
  cases o with
  | ok messages => exact only_done trivial
  | error fault => exact aloof_retry _ _ _ fault

theorem aloof_commit (position : Position) (rest : List Message) :
    OnlyCalls isAloof (commit position rest) := by
  refine (onlyCalls_call (c := .consumer (.commit _)) rfl).outcome.bind fun o => ?_
  cases o with
  | ok a => exact (onlyCalls_call (c := .process (.count _)) rfl).bind fun _ => only_done trivial
  | error fault =>
      dsimp only
      split
      · exact (aloof_note _ _).bind fun _ => only_done trivial
      · exact only_done trivial

theorem aloof_close (fault : Option Fault) : OnlyCalls isAloof (close fault) := by
  refine (onlyCalls_call (c := .consumer .stop) rfl).outcome.bind fun o => ?_
  cases o with
  | ok a => exact (aloof_log _ _ _).bind fun _ => only_done trivial
  | error late =>
      dsimp only
      split
      · refine (aloof_log _ _ _).bind fun _ => ?_
        exact (aloof_log _ _ _).bind fun _ => only_done trivial
      · exact only_done trivial

theorem aloof_unlessStopping (stopped : Phase) {next : Routine Phase}
    (goes : OnlyCalls isAloof next) : OnlyCalls isAloof (unlessStopping stopped next) := by
  refine (onlyCalls_call (c := .process .recollect) rfl).bind fun memory => ?_
  split
  · exact only_done trivial
  · exact goes

variable {processor : Processor} (aloof : ∀ payload, OnlyCalls isAloof (processor payload))

include aloof

theorem aloof_handle (message : Message) (rest : List Message) :
    OnlyCalls isAloof (handle processor message rest) := by
  refine (aloof message.payload).outcome.bind fun o => ?_
  split
  · exact aloof_commit _ _
  · exact only_done trivial
  · exact (aloof_note _ _).bind fun _ => only_done trivial

/-- The feed opens and closes nothing that the process holds, and changes no memory. -/
theorem aloof_turns (n : Nat) (phase : Phase) :
    OnlyCalls isAloof (turns settings processor n phase) := by
  induction n generalizing phase with
  | zero => exact only_done trivial
  | succ n ih =>
      refine Only.bind ?_ ih
      unfold advance
      split
      · exact aloof_unlessStopping _ aloof_connect
      · exact aloof_unlessStopping _ aloof_poll
      · exact only_done trivial
      · exact aloof_unlessStopping _ (aloof_handle aloof _ _)
      · exact aloof_close _
      · exact only_done trivial

end Aloof

end LinkShortener.Feed
