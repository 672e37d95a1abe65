import LinkShortener.Proofs.Daemon.Process

/-!
What is left when the process exits. The server makes the tables and builds its parts, serves, and
releases them; the worker builds what consumes visits, waits for its feed and releases everything,
whatever came of the feed. Here anything may fail at any call of theirs, and a feed may end with any
fault; only what merely closes something does not fail.

A deed that fails passes over whatever it was to release after the failure, so nothing is left
behind only if nothing failed, or if nothing had been opened yet.

Main statement: `exits_clean_iff`.
-/

namespace LinkShortener.Daemon

open Routine
open Feed (Made)

/-! ### The deeds of a life -/

section Lives

variable {fails : Call → Fault → Prop} {settings : Settings} {s : Steward}

/-- A start from an idle state leaves the memory in step with what is held. -/
theorem secures_startUp (idle : Idle s) : Secures (steward fails)
    (Ends fails settings fun s' _ => Accounts s') (startUp settings) s := by
  refine ends_call_bind (c := .database .prepare) nofun (fun _ => .of_database rfl) fun _ => ?_
  refine (secures_buildAll ?_ (.of_database rfl)).mono fun s' o ends => ?_
  · exact { idle with held := congrArg (fun h : Holdings => { h with database := true }) idle.held }
  · cases o with
    | ok a => exact ends.accounts
    | error fault => exact ends

/-- Nothing is left after a release but the database, which is given up last. -/
theorem secures_shutDown {settings : Settings} (accounts : Accounts s) :
    Secures (steward fails) (Ends fails settings fun s' _ => s'.held = {}) shutDown s := by
  refine ends_bind (secures_release accounts) ?_
  rintro s' _ ⟨idle, -⟩
  refine secures_sure (c := .database .dispose) rfl fun _ _ => ?_
  change { s'.held with database := false } = ({} : Holdings)
  rw [idle.held]

/-- The worker releases everything when its feed has ended; but if that was with a fault, the
release meets the fault again. -/
theorem secures_conclude {database : Bool} (consuming : Consuming database s) :
    Secures (steward fails) (Ends fails settings fun s' _ => s'.held = {})
      ((do let _ ← call (.process (.joinFeed false)) : Routine Unit).concluding fun _ => shutDown)
      s := by
  refine secures_concluding.mpr (secures_call_bind.mpr fun reply ⟨falls, _⟩ => ?_)
  have accounts : Accounts (s.after (.process (.joinFeed false)) reply) :=
    { consuming.accounts with
      feeds := by
        have feeds := consuming.accounts.feeds
        change (if s.held.feeds ≤ 1 then 0 else s.held.feeds) ≤ _
        split
        · exact Nat.zero_le _
        · exact feeds }
  cases reply with
  | ok inTime =>
      refine secures_done.mpr (ends_bind (secures_shutDown accounts) ?_)
      rintro s' _ clean
      exact secures_done.mpr clean
  | error fault =>
      refine secures_fail.mpr (ends_bind_of_never (ends_bind_of_never ?_))
      exact secures_release_of_failed accounts consuming.feed rfl

theorem secures_work (idle : Idle s) (sunk : s.Sunk) : Secures (steward fails)
    (Ends fails settings fun s' _ => s'.held = {}) (work settings) s := by
  have goes {s : Steward} (idle : Idle s) (sunk : s.Sunk) : Secures (steward fails)
      (Ends fails settings fun s' _ => s'.held = {}) (do
        buildPipeline settings
        let port := settings.consumer.metricsPort
        log .info .worker s!"Stats worker running, metrics on port {port}"
        (do let _ ← call (.process (.joinFeed false)) : Routine Unit).concluding fun _ => shutDown)
      s := by
    refine ends_bind (secures_buildPipeline idle sunk) fun s' _ consuming => ?_
    exact secures_log_bind (secures_conclude consuming)
  refine ends_aloof_bind (c := .process (.serveMeters _)) nofun
    (fun _ => Steward.after_of_aloof rfl) sunk fun _ => ?_
  dsimp only
  split
  · refine ends_call_bind (c := .database .prepare) nofun (fun _ => .of_database rfl) fun _ => ?_
    refine goes ?_ (.of_database rfl)
    exact { idle with held := congrArg (fun h : Holdings => { h with database := true }) idle.held }
  · exact goes idle sunk

end Lives

/-! ### Lives -/

/-- A server is started and, if it has started, stopped; a worker is run. -/
def isLife : History → Deed → Bool
  | [], .startUp | [], .work | [(.startUp, .ok ())], .shutDown => true
  | _, _ => false

/-- A life in which anything may fail. -/
def risky (settings : Settings) (patience : Nat) : Regime where
  settings := settings
  admits past d := isLife past d = true
  fails _ _ := True
  tame := false
  patience := patience

/-- What a life has come to when it is over. -/
def exit? : History → Option (Except Fault Unit)
  | [(.startUp, .error fault)] => some (.error fault)
  | [(.shutDown, o), (.startUp, _)] | [(.work, o)] => some o
  | _ => none

/-- What the process has exited with, if it has. -/
def Process.exit? (p : Process) : Option (Except Fault Unit) :=
  match p.current with
  | none => Daemon.exit? p.finished
  | some _ => none

/-- Whether a feed attends the bus. -/
def Background.attends (b : Background) : Bool :=
  b.past.foldr (fun made attends => Feed.attendance attends made.call made.reply) false

/-- Nothing is open or running: neither what the process holds, nor a feed or its part in the
bus. -/
def Process.Clean (p : Process) : Prop :=
  p.held = {} ∧ ∀ b ∈ p.feeds, b.verdict?.isSome = true ∧ b.attends = false

/-- What holds of the steward between the deeds of a life. -/
structure Lived (past : History) (s : Steward) : Prop where
  fresh : past = [] → Idle s ∧ s.Sunk
  serving : past = [(.startUp, .ok ())] → Accounts s
  cleared : exit? past = some (.ok ()) → s.held = {}
  failed : ∀ fault, exit? past = some (.error fault) → s.Sunk

section Lived

variable {settings : Settings} {patience : Nat} {s : Steward}

/-- Before the first deed nothing was opened. -/
theorem lived_nil : Lived [] {} where
  fresh _ := ⟨⟨rfl, rfl, rfl, rfl, rfl, rfl, rfl⟩, nofun⟩
  serving := nofun
  cleared := nofun
  failed := nofun

/-- At the end of the last deed everything is released, or something is left behind. -/
theorem lived_of_ends {fails : Call → Fault → Prop} {settings : Settings} {d : Deed}
    {past : History} {o : Except Fault Unit} (last : exit? ((d, o) :: past) = some o)
    (ends : Ends fails settings (fun s _ => s.held = {}) s o) : Lived ((d, o) :: past) s where
  fresh := nofun
  serving same := by
    cases same
    cases last
  cleared came := by
    cases last.symm.trans came
    exact ends
  failed fault came := by
    cases last.symm.trans came
    exact ends.2

/-- Every deed of a life secures what is to hold after it. -/
theorem secures_lived (past : History) (d : Deed) (s : Steward)
    (admitted : (risky settings patience).admits past d) (lived : Lived past s) :
    Secures (steward (risky settings patience).grants) (fun s o => Lived ((d, o) :: past) s)
      (d.routine settings) s := by
  change isLife past d = true at admitted
  unfold isLife at admitted
  split at admitted
  · refine (secures_startUp (lived.fresh rfl).1).mono fun s o ends => ?_
    cases o with
    | ok a => exact ⟨nofun, fun _ => ends, nofun, nofun⟩
    | error fault => exact ⟨nofun, nofun, nofun, fun _ _ => ends.2⟩
  · obtain ⟨idle, sunk⟩ := lived.fresh rfl
    exact (secures_work idle sunk).mono fun s o => lived_of_ends rfl
  · exact (@secures_shutDown _ _ settings (lived.serving rfl)).mono fun s o =>
      lived_of_ends rfl
  · cases admitted

end Lived

theorem Background.attends_eq (tame : Bool) (b : Background) :
    ((Feed.stint tame).reached {} b.past).attends = b.attends := by
  obtain ⟨rest, past⟩ := b
  induction past with
  | nil => rfl
  | cons made past ih => exact congrArg (Feed.attendance · made.call made.reply) ih

/-- Where nothing is held, no feed runs, and none attends the bus. -/
theorem Linked.clean {ρ : Regime} {p : Process} (linked : Linked ρ p.feeds p.signalled p.steward)
    (held : p.held = {}) : p.Clean := by
  refine ⟨held, fun b mem => ?_⟩
  have none : p.steward.held.feeds = 0 := by rw [p.held_steward, held]
  have ended := linked.ended none b mem
  obtain ⟨v, halted⟩ := Option.isSome_iff_exists.mp ended
  refine ⟨ended, ?_⟩
  rw [← b.attends_eq ρ.tame]
  exact (Background.of_verdict (linked.turns b mem) halted).1

def Process.opened (p : Process) : Bool := p.past.any fun made => opens made.call made.reply

/-- When the server or the worker has exited, whatever failed and whenever: everything that was
opened or started is closed or stopped again exactly if the exit was without a fault, or nothing had
been opened or started. -/
theorem exits_clean_iff (settings : Settings) (patience : Nat) {p : Process}
    (reaches : Process.Reaches (risky settings patience) {} p) {o : Except Fault Unit}
    (exits : p.exit? = some o) : p.Clean ↔ o = .ok () ∨ p.opened = false := by
  obtain ⟨linked, stage⟩ := keeps_of_reaches secures_lived reaches linked_nil lived_nil
  unfold Process.exit? at exits
  split at exits
  · rename_i idle
    rw [idle] at stage
    have lived : Lived p.finished p.steward := stage
    have touched : p.steward.touched = p.opened := touched_reached p.past
    constructor
    · rintro ⟨held, -⟩
      cases o with
      | ok a => exact .inl rfl
      | error fault =>
          refine .inr (Bool.eq_false_iff.mpr fun opened => ?_)
          exact lived.failed fault exits (touched.trans opened) (p.held_steward.trans held)
    · rintro (rfl | unopened)
      · exact linked.clean (p.held_steward.symm.trans (lived.cleared exits))
      · exact linked.clean (holdings_of_unopened unopened)
  · cases exits

/-- Clicks are kept as rows. -/
def inRows : Settings := { clicks := { backend := .rows } }

/-- The worker is signalled to stop once its feed has connected to the bus. -/
def signalledWorker : Process :=
  let working := (Process.advance (risky inRows 4) smooth)^[60]
    (({} : Process).take (risky inRows 4) .work)
  let polling := (Process.advanceFeed smooth)^[3] working
  let stopped := (Process.advanceFeed smooth)^[4] polling.interrupt
  (Process.advance (risky inRows 4) smooth)^[40] stopped

/-- A worker that is signalled to stop exits well and leaves nothing open or running. -/
theorem signalled_worker_exits_clean :
    signalledWorker.exit? = some (.ok ()) ∧ signalledWorker.Clean := by
  have exits : signalledWorker.exit? = some (.ok ()) := by decide +kernel
  refine ⟨exits, (exits_clean_iff inRows 4 ?_ exits).mpr (.inl rfl)⟩
  have begun : Process.Reaches (risky inRows 4) {} (({} : Process).take (risky inRows 4) .work) :=
    Process.Reaches.take .refl rfl rfl
  have working := begun.advances of_smooth_error 60
  have signalled := (working.advanceFeeds of_smooth_error 3).interrupt
  exact (signalled.advanceFeeds of_smooth_error 4).advances of_smooth_error 40

/-- The bus breaks down when the feed turns to it. -/
def breaking : (c : Call) → Except Fault c.Reply
  | .consumer .start => .error (.outage .crash "boom")
  | c => smooth c

/-- The feed of a server dies, and then the server is stopped. -/
def deadFeed : Process :=
  let serving := (Process.advance (risky inRows 4) smooth)^[56]
    (({} : Process).take (risky inRows 4) .startUp)
  let dead := (Process.advanceFeed breaking)^[4] serving
  (Process.advance (risky inRows 4) smooth)^[10] (dead.take (risky inRows 4) .shutDown)

/-- The server exits with the fault of its feed, and leaves everything else open and running. -/
theorem dead_feed_leaves_parts :
    Process.Reaches (risky inRows 4) {} deadFeed ∧
      deadFeed.exit? = some (.error (.outage .crash "boom")) ∧
      deadFeed.held = ⟨1, 1, 1, 0, 0, true⟩ := by
  have breaks (c : Call) (fault : Fault) (failed : breaking c = .error fault) : isRisky c = true ∧
      (false = true → Feed.IsTame c fault) ∧ fault ≠ .cancelled := by
    unfold breaking at failed
    split at failed
    · cases failed
      exact ⟨rfl, nofun, nofun⟩
    · exact of_smooth_error (P := fun c fault => isRisky c = true ∧ _ ∧ _) c fault failed
  have begun : Process.Reaches (risky inRows 4) {}
      (({} : Process).take (risky inRows 4) .startUp) := Process.Reaches.take .refl rfl rfl
  have serving := begun.advances of_smooth_error 56
  have dead := serving.advanceFeeds breaks 4
  have stops := dead.take (d := .shutDown) (by decide +kernel)
    (show isLife _ _ = true by decide +kernel)
  exact ⟨stops.advances of_smooth_error 10, by decide +kernel, by decide +kernel⟩

end LinkShortener.Daemon
