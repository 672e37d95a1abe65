import LinkShortener.Daemon.Lifespan
import LinkShortener.Proofs.Daemon.Holdings
import LinkShortener.Proofs.Routine.Machine

/-!
The manager as the steward of what the process holds. The steward's state is the memory of the
process beside its holdings; calls change both, and the manager is to keep the one in step with the
other. A call may fail unless it only closes something or asks the process itself; which failures
there are is left open, and everything is said for all of them at once.

Main statements: from an idle state the parts are built, each held thing accounted for in memory
(`secures_buildAll`, `secures_buildPipeline`); from accounted holdings a release that succeeds
leaves nothing (`secures_release`); and a failure that ends one of them leaves something behind,
unless nothing was opened before.
-/

namespace LinkShortener.Daemon

open Routine
open Feed (Made)

/-! ### The steward -/

/-- What is known of the feed that was started last: what it has come to, once somebody has waited
for it, and whether it was asked to stop since it was started. -/
structure Course where
  verdict : Option (Except Fault Bool) := none
  asked : Bool := false

/-- The memory of the process, its holdings, whether a call has opened anything, and the course of
the feed. -/
structure Steward where
  memory : Memory := {}
  held : Holdings := {}
  touched : Bool := false
  course : Course := {}

def Course.after (course : Course) (m : Memory) : (c : Call) → Except Fault c.Reply → Course
  | .process (.spawnFeed ..), _ => ⟨none, m.stopping⟩
  | .process (.joinFeed _), verdict => { course with verdict := some verdict }
  | .process (.remember memory), _ =>
    { course with asked := course.asked || (!m.stopping && memory.stopping) }
  | _, _ => course

def Steward.after (s : Steward) (c : Call) (reply : Except Fault c.Reply) : Steward where
  memory := s.memory.after c reply
  held := s.held.after c reply
  touched := opens c reply || s.touched
  course := s.course.after s.memory c reply

/-- Memory is recalled as it is, and a feed that is waited for again has come to the same. -/
def Steward.Recalls (s : Steward) : (c : Call) → Except Fault c.Reply → Prop
  | .process .recollect, reply => reply = .ok s.memory
  | .process (.joinFeed _), verdict =>
    ∀ earlier, s.course.verdict = some earlier → verdict = earlier
  | _, _ => True

/-- Calls that may fail: all but those that close something and those that the process answers
itself. -/
def isRisky : Call → Bool
  | .keys .close | .atlas .close | .columns .close | .database .dispose => false
  | .process (.serveMeters _) | .process (.joinFeed _) => true
  | .process _ => false
  | _ => true

/-- The steward where risky calls may fail as said. -/
def steward (fails : Call → Fault → Prop) : Machine Steward where
  admits s c reply :=
    (∀ fault, reply = .error fault → isRisky c = true ∧ fails c fault) ∧ s.Recalls c reply
  after := Steward.after

section Reached

variable {fails : Call → Fault → Prop} (past : List Made)

theorem memory_reached : ((steward fails).reached {} past).memory = remembered past := by
  induction past with
  | nil => rfl
  | cons made past ih => exact congrArg (Memory.after · made.call made.reply) ih

theorem held_reached : ((steward fails).reached {} past).held = holdings past := by
  induction past with
  | nil => rfl
  | cons made past ih => exact congrArg (Holdings.after · made.call made.reply) ih

theorem touched_reached : ((steward fails).reached {} past).touched =
    past.any fun made => opens made.call made.reply := by
  induction past with
  | nil => rfl
  | cons made past ih => exact congrArg (opens made.call made.reply || ·) ih

/-- Aloof calls leave the steward as it is. -/
theorem Steward.after_of_aloof {s : Steward} {c : Call} {reply : Except Fault c.Reply}
    (aloof : isAloof c = true) : s.after c reply = s := by
  have memory : s.memory.after c reply = s.memory := by
    unfold Memory.after
    split <;> first | rfl | cases aloof
  have course : s.course.after s.memory c reply = s.course := by
    unfold Course.after
    split <;> first | rfl | cases aloof
  have unopened : opens c reply = false := by
    unfold opens
    split <;> first | rfl | cases aloof
  rw [Steward.after, memory, course, unopened, Holdings.after_of_aloof aloof, Bool.false_or]

end Reached

section Calls

variable {fails : Call → Fault → Prop} {α : Type} {post : Steward → Except Fault α → Prop}
  {s : Steward}

/-- A call that may not fail. -/
theorem secures_sure_bind {c : Call} {f : c.Reply → Routine α} (sure : isRisky c = false)
    (rest : ∀ a, s.Recalls c (.ok a) → Secures (steward fails) post (f a) (s.after c (.ok a))) :
    Secures (steward fails) post (call c >>= f) s := by
  refine secures_call_bind.mpr fun reply ⟨falls, recalls⟩ => ?_
  cases reply with
  | ok a => exact rest a recalls
  | error fault =>
      have risky := (falls fault rfl).1
      rw [sure] at risky
      cases risky

theorem secures_sure {c : Call} {post : Steward → Except Fault c.Reply → Prop}
    (sure : isRisky c = false)
    (rest : ∀ a, s.Recalls c (.ok a) → post (s.after c (.ok a)) (.ok a)) :
    Secures (steward fails) post (call c) s := by
  rw [← bind_pure (call c)]
  exact secures_sure_bind sure fun a recalls => secures_done.mpr (rest a recalls)

/-- Memory is recalled as it is. -/
theorem secures_recollect_bind {f : Memory → Routine α}
    (rest : Secures (steward fails) post (f s.memory) s) :
    Secures (steward fails) post (recollect >>= f) s := by
  refine secures_sure_bind rfl fun memory recalls => ?_
  cases recalls
  exact rest

/-- A change of the memory, which may ask the feed to stop. -/
theorem secures_change_bind {m : Memory} {h : Holdings} {t : Bool} {course : Course}
    {change : Memory → Memory} {f : Unit → Routine α}
    (rest : Secures (steward fails) post (f ()) ⟨change m, h, t,
      { course with asked := course.asked || (!m.stopping && (change m).stopping) }⟩) :
    Secures (steward fails) post (modify change >>= f) ⟨m, h, t, course⟩ := by
  rw [Routine.modify, bind_assoc]
  exact secures_recollect_bind (secures_sure_bind rfl fun _ _ => rest)

/-- A change of the memory that does not concern the feed. -/
theorem secures_modify_bind {m : Memory} {h : Holdings} {t : Bool} {course : Course}
    {change : Memory → Memory} {f : Unit → Routine α} (kept : (change m).stopping = m.stopping)
    (rest : Secures (steward fails) post (f ()) ⟨change m, h, t, course⟩) :
    Secures (steward fails) post (modify change >>= f) ⟨m, h, t, course⟩ := by
  refine secures_change_bind ?_
  rw [kept, Bool.not_and_self, Bool.or_false]
  exact rest

theorem secures_modify {m : Memory} {h : Holdings} {t : Bool} {course : Course}
    {change : Memory → Memory} {post : Steward → Except Fault Unit → Prop}
    (kept : (change m).stopping = m.stopping)
    (rest : post ⟨change m, h, t, course⟩ (.ok ())) :
    Secures (steward fails) post (modify change) ⟨m, h, t, course⟩ := by
  rw [← bind_pure (Routine.modify change)]
  exact secures_modify_bind kept (secures_done.mpr rest)

theorem secures_log_bind {level : Log.Level} {source : Log.Source} {text : String}
    {f : Unit → Routine α} (rest : Secures (steward fails) post (f ()) s) :
    Secures (steward fails) post (log level source text >>= f) s :=
  secures_sure_bind rfl fun _ _ => rest

end Calls

/-! ### Failures -/

/-- A failure of the bus when the producer is started is absorbed. -/
def isAbsorbed (c : Call) (fault : Fault) : Bool := c = .producer .start && fault.isBusOutage

/-- The column store, if it is used, has an address, and there is a level for the log by the name
that is given. -/
structure Sound (settings : Settings) : Prop where
  placed : settings.clicks.backend = .columns →
    ∀ flaw, Endpoint.ofUrl settings.clicks.url ≠ .error flaw
  leveled : LogSetup.levels.lookup settings.program.logLevel ≠ none

/-- Something may fail that is not absorbed: a call, or the settings are not sound. -/
def Flawed (fails : Call → Fault → Prop) (settings : Settings) : Prop :=
  (∃ c fault, fails c fault ∧ isAbsorbed c fault = false) ∨ ¬ Sound settings

/-- Something is left behind, unless nothing was opened. -/
def Steward.Sunk (s : Steward) : Prop := s.touched = true → s.held ≠ {}

/-- What holds when a routine is done; if it fails, something was flawed, and something is left
behind. -/
def Ends {α : Type} (fails : Call → Fault → Prop) (settings : Settings)
    (done : Steward → α → Prop) (s : Steward) : Except Fault α → Prop
  | .ok a => done s a
  | .error _ => Flawed fails settings ∧ s.Sunk

section Failures

variable {fails : Call → Fault → Prop} {settings : Settings} {α β : Type}
  {done : Steward → α → Prop} {s : Steward}

theorem Ends.mono {done' : Steward → α → Prop} {o : Except Fault α}
    (ends : Ends fails settings done s o) (weaker : ∀ a, done s a → done' s a) :
    Ends fails settings done' s o := by
  cases o with
  | ok a => exact weaker a ends
  | error _ => exact ends

/-- Failures end a sequence, and otherwise it goes on from what its first part leaves. -/
theorem ends_bind {between : Steward → β → Prop} {r : Routine β} {f : β → Routine α}
    (first : Secures (steward fails) (Ends fails settings between) r s)
    (rest : ∀ s b, between s b → Secures (steward fails) (Ends fails settings done) (f b) s) :
    Secures (steward fails) (Ends fails settings done) (r >>= f) s := by
  refine secures_bind.mpr (first.mono fun s o => ?_)
  cases o with
  | ok b => exact rest s b
  | error fault => exact fun ends => secures_fail.mpr ends

/-- What comes after something that never succeeds does not matter. -/
theorem ends_bind_of_never {r : Routine β} {f : β → Routine α}
    (never : Secures (steward fails) (Ends fails settings fun _ _ => False) r s) :
    Secures (steward fails) (Ends fails settings done) (r >>= f) s :=
  ends_bind never fun _ _ => False.elim

/-- A routine may give up where something is flawed and something was left behind. -/
theorem ends_fail {fault : Fault} (flawed : Flawed fails settings) (sunk : s.Sunk) :
    Secures (steward fails) (Ends fails settings done) (.fail fault) s :=
  secures_fail.mpr ⟨flawed, sunk⟩

/-- A call that may fail, and not in an absorbed way. -/
theorem ends_call {c : Call} (unabsorbed : c ≠ .producer .start)
    (sunk : ∀ fault, (s.after c (.error fault)).Sunk) : Secures (steward fails)
      (Ends fails settings fun s' a => s' = s.after c (.ok a)) (call c) s := by
  refine secures_call.mpr fun reply ⟨falls, _⟩ => ?_
  cases reply with
  | ok a => exact rfl
  | error fault =>
      have loose : isAbsorbed c fault = false := by simp [isAbsorbed, unabsorbed]
      exact ⟨.inl ⟨c, fault, (falls fault rfl).2, loose⟩, sunk fault⟩

theorem ends_call_bind {c : Call} {f : c.Reply → Routine α} (unabsorbed : c ≠ .producer .start)
    (sunk : ∀ fault, (s.after c (.error fault)).Sunk)
    (rest : ∀ a, Secures (steward fails) (Ends fails settings done) (f a) (s.after c (.ok a))) :
    Secures (steward fails) (Ends fails settings done) (call c >>= f) s := by
  refine ends_bind (ends_call unabsorbed sunk) ?_
  rintro _ a rfl
  exact rest a

/-- A call that may fail and leaves the steward as it is. -/
theorem ends_aloof_bind {c : Call} {f : c.Reply → Routine α} (unabsorbed : c ≠ .producer .start)
    (aloof : ∀ reply, s.after c reply = s) (sunk : s.Sunk)
    (rest : ∀ a, Secures (steward fails) (Ends fails settings done) (f a) s) :
    Secures (steward fails) (Ends fails settings done) (call c >>= f) s := by
  refine ends_call_bind unabsorbed (fun fault => (aloof (.error fault)).symm ▸ sunk) fun a => ?_
  rw [aloof]
  exact rest a

/-- What is handled is a flaw. -/
theorem ends_rescue {r : Routine α} {kind : Fault → Bool} {handle : Fault → Routine α}
    (first : Secures (steward fails) (Ends fails settings done) r s)
    (handles : ∀ s fault, Flawed fails settings → s.Sunk →
      Secures (steward fails) (Ends fails settings done) (handle fault) s) :
    Secures (steward fails) (Ends fails settings done) (r.rescue kind handle) s := by
  refine secures_rescue.mpr (first.mono fun s o ends => ?_)
  cases o with
  | ok a => exact secures_done.mpr ends
  | error fault =>
      rw [ofOutcome_error, rescue_fail]
      split
      · exact handles s fault ends.1 ends.2
      · exact ends_fail ends.1 ends.2

/-- A connection that is open is left behind. -/
theorem Steward.Sunk.of_keys (held : s.held.keys ≠ 0) : s.Sunk :=
  fun _ none => held (congrArg Holdings.keys none)

theorem Steward.Sunk.of_atlases (held : s.held.atlases ≠ 0) : s.Sunk :=
  fun _ none => held (congrArg Holdings.atlases none)

theorem Steward.Sunk.of_columns (held : s.held.columns ≠ 0) : s.Sunk :=
  fun _ none => held (congrArg Holdings.columns none)

theorem Steward.Sunk.of_database (used : s.held.database = true) : s.Sunk := by
  intro _ none
  rw [none] at used
  cases used

end Failures

/-! ### Building -/

section Building

variable {fails : Call → Fault → Prop} {settings : Settings} {m : Memory} {h : Holdings}
  {t : Bool} {course : Course}

/-- Asking for the last id opens nothing. -/
theorem secures_lastId {s : Steward} (sunk : s.Sunk) :
    Secures (steward fails) (Ends fails settings fun s' _ => s' = s) Catalog.lastId s := by
  have asked : Secures (steward fails) (Ends fails settings fun s' _ => s' = s)
      (Catalog.session (Catalog.database .lastId)) s :=
    ends_aloof_bind (c := .database .connect) nofun (fun _ => rfl) sunk fun _ =>
      ends_call (c := .database .lastId) nofun fun _ => sunk
  refine ends_bind (ends_rescue asked fun _ _ => ends_fail) ?_
  rintro _ (_ | id) rfl
  · exact secures_log_bind (secures_done.mpr rfl)
  · exact secures_done.mpr rfl

/-- Seeding the counter opens nothing. -/
theorem secures_seed {s : Steward} (keyValue : Settings.KeyValue) (sunk : s.Sunk) :
    Secures (steward fails) (Ends fails settings fun s' _ => s' = s) (Counter.seed keyValue) s := by
  refine ends_bind (secures_lastId sunk) ?_
  rintro _ last rfl
  refine ends_bind (ends_rescue (ends_call (c := .keys (.set _ _ _)) nofun fun _ => sunk)
    fun _ _ => ends_fail) ?_
  rintro _ _ rfl
  exact secures_sure (c := .process (.log _)) rfl fun _ _ => rfl

/-- The log is set up, if there is a level by its name. -/
theorem secures_setUpLog (sunk : Steward.Sunk ⟨m, h, t, course⟩) :
    Secures (steward fails) (Ends fails settings fun s' _ => ∃ log, s' =
      ⟨{ m with log := log }, h, t, course⟩) (setUpLog settings.program) ⟨m, h, t, course⟩ := by
  refine secures_recollect_bind ?_
  split
  · refine secures_modify_bind rfl ?_
    split
    · exact secures_modify rfl ⟨_, rfl⟩
    · rename_i unknown
      exact ends_fail (.inr fun sound => sound.leveled unknown) sunk
  · exact secures_done.mpr ⟨m.log, rfl⟩

/-- The connection of all parts is opened. -/
theorem secures_openKeys (closed : m.keysOpen = false)
    (sunk : Steward.Sunk ⟨m, h, t, course⟩) :
    Secures (steward fails) (Ends fails settings fun s' _ => s' =
      ⟨{ m with keysOpen := true }, { h with keys := h.keys + 1 }, true, course⟩)
      (openKeys settings) ⟨m, h, t, course⟩ := by
  refine secures_recollect_bind ?_
  rw [closed]
  refine ends_call_bind (c := .keys (.connect _)) nofun (fun _ => sunk) fun _ => ?_
  exact secures_modify rfl rfl

/-- The publisher runs or not; a producer that the bus refused is stopped. -/
theorem secures_start {k a c n : Nat} {d : Bool} (stopped : m.publishing = false) (keys : k ≠ 0) :
    Secures (steward fails) (Ends fails settings fun s' _ => ∃ running t', s' =
      ⟨{ m with publishing := running }, ⟨k, running.toNat, a, c, n, d⟩, t', course⟩)
      Publisher.start ⟨m, ⟨k, 0, a, c, n, d⟩, t, course⟩ := by
  obtain ⟨_, _, _, _, _, publishing, _, _⟩ := m
  subst stopped
  unfold Publisher.start
  refine secures_bind.mpr (secures_rescue.mpr (secures_call_bind.mpr fun reply ⟨falls, _⟩ => ?_))
  cases reply with
  | ok _ => exact secures_done.mpr (secures_done.mpr (secures_modify rfl ⟨true, true, rfl⟩))
  | error fault =>
      refine secures_fail.mpr ?_
      rw [ofOutcome_error, rescue_fail]
      split
      · refine secures_log_bind (secures_call_bind.mpr fun reply ⟨falls, _⟩ => ?_)
        cases reply with
        | ok _ => exact secures_done.mpr (secures_done.mpr ⟨false, t, rfl⟩)
        | error fault =>
            exact secures_fail.mpr (secures_fail.mpr
              ⟨.inl ⟨_, fault, (falls fault rfl).2, rfl⟩, .of_keys keys⟩)
      · rename_i passes
        refine secures_fail.mpr (secures_fail.mpr
          ⟨.inl ⟨_, fault, (falls fault rfl).2, ?_⟩, .of_keys keys⟩)
        simp [isAbsorbed, passes]

/-- A connection to the column store is opened, if its address is one. -/
theorem secures_connect (columns : settings.clicks.backend = .columns)
    (sunk : Steward.Sunk ⟨m, h, t, course⟩) :
    Secures (steward fails) (Ends fails settings fun s' _ => s' =
      ⟨m, { h with columns := h.columns + 1 }, true, course⟩)
      (ColumnStore.connect settings.clicks) ⟨m, h, t, course⟩ := by
  unfold ColumnStore.connect
  split
  · rename_i flaw parsed
    exact ends_fail (.inr fun sound => sound.placed columns flaw parsed) sunk
  · exact ends_call (s := ⟨m, h, t, course⟩) (c := .columns (.connect ..)) nofun fun _ => sunk

/-- How many connections a backend needs. -/
def connections : Backend → Nat
  | .rows => 0
  | .columns => 2

/-- The store of clicks and the statistics are built, in the column store with a connection each. -/
theorem secures_buildClicks (sunk : Steward.Sunk ⟨m, h, t, course⟩) :
    Secures (steward fails) (Ends fails settings fun s' _ => ∃ t', s' =
      ⟨(m.build (.clickStore settings.clicks.backend)).build (.statistics settings.clicks.backend),
        { h with columns := h.columns + connections settings.clicks.backend }, t', course⟩ ∧ s'.Sunk)
      (buildClicks settings.clicks) ⟨m, h, t, course⟩ := by
  unfold buildClicks
  cases backend : settings.clicks.backend with
  | rows => exact secures_modify_bind rfl (secures_modify rfl ⟨t, rfl, sunk⟩)
  | columns =>
      refine ends_bind (secures_connect backend sunk) ?_
      rintro _ _ rfl
      refine secures_modify_bind rfl ?_
      refine ends_bind (ends_rescue (ends_call (c := .columns .createTable) nofun fun _ => ?_)
        fun _ _ => ends_fail) ?_
      · exact .of_columns (Nat.succ_ne_zero _)
      rintro _ _ rfl
      refine ends_bind (secures_connect backend (.of_columns (Nat.succ_ne_zero _))) ?_
      rintro _ _ rfl
      exact secures_modify rfl ⟨true, rfl, .of_columns (Nat.succ_ne_zero _)⟩

/-- The atlas is opened and the feed is started. -/
theorem secures_buildFeed (sunk : Steward.Sunk ⟨m, h, t, course⟩) :
    Secures (steward fails) (Ends fails settings fun s' _ => s' =
      ⟨({ m.build .atlas with stopping := false }.build .feed).build .task,
        { h with atlases := h.atlases + 1, feeds := h.feeds + 1 }, true, {}⟩)
      (buildFeed settings) ⟨m, h, t, course⟩ := by
  refine secures_log_bind (ends_call_bind (c := .atlas (.create _)) nofun (fun _ => sunk)
    fun _ => secures_modify_bind rfl ?_)
  rw [Feed.create, bind_assoc]
  refine ends_aloof_bind (c := .consumer (.create ..)) nofun (fun _ => rfl) ?_ fun _ => ?_
  · exact .of_atlases (Nat.succ_ne_zero _)
  · exact secures_change_bind (secures_modify_bind rfl (secures_sure_bind rfl fun _ _ =>
      secures_modify rfl rfl))

/-! ### States of rest -/

/-- Nothing is held beside the database, and the memory tells about nothing that is open. -/
structure Idle (s : Steward) : Prop where
  unready : s.memory.ready = false
  closed : s.memory.keysOpen = false
  silent : s.memory.publishing = false
  keyless : s.memory.has .keys = false
  placeless : s.memory.has .atlas = false
  feedless : s.memory.has .feed = false
  held : s.held = { database := s.held.database }

/-- The memory accounts for what is held: each thing that is open is told of, by the part or the
flag that a release goes by. -/
structure Accounts (s : Steward) : Prop where
  keys : s.held.keys = s.memory.keysOpen.toNat
  shared : s.memory.keysOpen = true → s.memory.has .keys = true
  producers : s.held.producers = s.memory.publishing.toNat
  publisher : s.memory.publishing = true →
    s.memory.has .publisher = true ∧ s.memory.keysOpen = true
  atlases : s.held.atlases = (s.memory.has .atlas).toNat
  columns : s.held.columns ≤ (s.memory.has (.clickStore .columns)).toNat +
    (s.memory.has (.statistics .columns)).toNat
  feed : s.memory.has .feed = true → s.memory.has .atlas = true
  feeds : s.held.feeds ≤ (s.memory.has .feed).toNat

/-- All parts are built, and each thing that they need is held once. -/
structure Stocked (settings : Settings) (database : Bool) (s : Steward) : Prop where
  accounts : Accounts s
  ready : s.memory.ready = true
  opened : s.memory.keysOpen = true
  columns : s.held.columns = connections settings.clicks.backend
  atlases : s.held.atlases = settings.consumer.enabled.toNat
  feeds : s.held.feeds = settings.consumer.enabled.toNat
  unasked : settings.consumer.enabled = true → s.course.asked = false
  provided : (provided settings.clicks.backend).all s.memory.has = true
  database : s.held.database = database

theorem Idle.accounts {s : Steward} (idle : Idle s) : Accounts s where
  keys := by rw [idle.closed, congrArg Holdings.keys idle.held]; rfl
  shared opened := by rw [idle.closed] at opened; cases opened
  producers := by rw [idle.silent, congrArg Holdings.producers idle.held]; rfl
  publisher publishing := by rw [idle.silent] at publishing; cases publishing
  atlases := by rw [idle.placeless, congrArg Holdings.atlases idle.held]; rfl
  columns := by rw [congrArg Holdings.columns idle.held]; exact Nat.zero_le _
  feed built := by rw [idle.feedless] at built; cases built
  feeds := by rw [congrArg Holdings.feeds idle.held]; exact Nat.zero_le _

/-- As long as the feed is not given up, its atlas is open. -/
theorem Accounts.atlas_of_feed {s : Steward} (accounts : Accounts s)
    (built : s.memory.has .feed = true) : s.held.atlases ≠ 0 := by
  rw [accounts.atlases, accounts.feed built]
  exact Nat.one_ne_zero

/-- Giving up a feed that was waited for keeps the accounts. -/
theorem Accounts.without_feed {m : Memory} {k p a c n : Nat} {d t t' : Bool}
    {course course' : Course} (accounts : Accounts ⟨m, ⟨k, p, a, c, n, d⟩, t, course⟩) :
    Accounts ⟨{ m with stopping := true }.drop .feed, ⟨k, p, a, c, 0, d⟩, t', course'⟩ where
  keys := accounts.keys
  shared := by simpa using accounts.shared
  producers := accounts.producers
  publisher := by simpa using accounts.publisher
  atlases := by
    simp only [Memory.has_drop, Memory.has_mk]
    exact accounts.atlases
  columns := by
    simp only [Memory.has_drop, Memory.has_mk]
    exact accounts.columns
  feed := by simp
  feeds := by simp

/-- All parts are built but those that consume visits. -/
structure Prepared (settings : Settings) (database : Bool) (s : Steward) : Prop where
  opened : s.memory.keysOpen = true
  keys : s.memory.has .keys = true
  provided : (provided settings.clicks.backend).all s.memory.has = true
  store : s.memory.has (.clickStore settings.clicks.backend) = true
  placeless : s.memory.has .atlas = false
  feedless : s.memory.has .feed = false
  held : s.held =
    ⟨1, s.memory.publishing.toNat, 0, connections settings.clicks.backend, 0, database⟩

section Prepared

variable {settings : Settings} {s : Steward} {d : Bool}

theorem Prepared.publisher (prepared : Prepared settings d s) :
    s.memory.has .publisher = true :=
  List.all_eq_true.mp prepared.provided .publisher (by simp [Daemon.provided])

/-- The parts that hold connections to the column store account for them. -/
theorem Prepared.columns (prepared : Prepared settings d s) :
    connections settings.clicks.backend ≤ (s.memory.has (.clickStore .columns)).toNat +
      (s.memory.has (.statistics .columns)).toNat := by
  have store := prepared.store
  have statistics : s.memory.has (.statistics settings.clicks.backend) = true :=
    List.all_eq_true.mp prepared.provided _ (by simp [Daemon.provided])
  cases backend : settings.clicks.backend with
  | rows => exact Nat.zero_le _
  | columns =>
      rw [backend] at store statistics
      rw [store, statistics]
      exact Nat.le_refl _

/-- With the feed all parts are there. -/
theorem Prepared.stocked_of_enabled (prepared : Prepared settings d s)
    (enabled : settings.consumer.enabled = true) : Stocked settings d
      ⟨{ ({ s.memory.build .atlas with stopping := false }.build .feed).build .task with
          ready := true },
        { s.held with atlases := s.held.atlases + 1, feeds := s.held.feeds + 1 }, true, {}⟩ where
  accounts :=
    { keys := by simp [prepared.held, prepared.opened]
      shared _ := by simp [prepared.keys]
      producers := by simp [prepared.held]
      publisher _ := by simp [prepared.publisher, prepared.opened]
      atlases := by simp [prepared.held]
      columns := by
        simp only [Memory.has_mk, Memory.has_build, prepared.held]
        exact prepared.columns
      feed _ := by simp
      feeds := by simp [prepared.held] }
  ready := rfl
  opened := prepared.opened
  columns := by simp [prepared.held]
  atlases := by simp [prepared.held, enabled]
  feeds := by simp [prepared.held, enabled]
  unasked _ := rfl
  provided := List.all_eq_true.mpr fun p mem => by
    simp [List.all_eq_true.mp prepared.provided p mem]
  database := by simp [prepared.held]

/-- Without the feed all parts are there as well. -/
theorem Prepared.stocked_of_disabled (prepared : Prepared settings d s)
    (disabled : settings.consumer.enabled = false) :
    Stocked settings d { s with memory := { s.memory with ready := true } } where
  accounts :=
    { keys := by simp [prepared.held, prepared.opened]
      shared _ := by simp [prepared.keys]
      producers := by simp [prepared.held]
      publisher _ := by simp [prepared.publisher, prepared.opened]
      atlases := by simp [prepared.held, prepared.placeless]
      columns := by simpa [prepared.held] using prepared.columns
      feed built := by simp [prepared.feedless] at built
      feeds := by simp [prepared.held] }
  ready := rfl
  opened := prepared.opened
  columns := by simp [prepared.held]
  atlases := by simp [prepared.held, disabled]
  feeds := by simp [prepared.held, disabled]
  unasked enabled := by simp [disabled] at enabled
  provided := prepared.provided
  database := by simp [prepared.held]

end Prepared

/-- Building the feed, where it is wanted, after all other parts. -/
theorem secures_finish {s : Steward} {d : Bool}
    (prepared : Prepared settings d s) :
    Secures (steward fails) (Ends fails settings fun s' _ => Stocked settings d s')
      (do
        if settings.consumer.enabled then buildFeed settings
        setReady true
        log .info .process "Service manager initialized") s := by
  dsimp only
  split
  · rename_i enabled
    refine ends_bind (secures_buildFeed (.of_keys ?_)) ?_
    · rw [prepared.held]
      exact Nat.succ_ne_zero _
    rintro _ _ rfl
    refine secures_modify_bind rfl (secures_sure (c := .process (.log _)) rfl fun _ _ => ?_)
    exact prepared.stocked_of_enabled enabled
  · rename_i disabled
    refine secures_modify_bind rfl (secures_sure (c := .process (.log _)) rfl fun _ _ => ?_)
    exact prepared.stocked_of_disabled (Bool.not_eq_true _ ▸ disabled)

/-- Building all parts from an idle state. -/
theorem secures_buildAll {s : Steward} (idle : Idle s) (sunk : s.Sunk) :
    Secures (steward fails) (Ends fails settings fun s' _ =>
      Stocked settings s.held.database s') (buildAll settings) s := by
  obtain ⟨m, ⟨k, p, a, c, n, d⟩, t, course⟩ := s
  obtain ⟨unready, closed, silent, keyless, placeless, feedless, ⟨⟩⟩ := idle
  refine secures_recollect_bind ?_
  rw [unready]
  refine secures_modify_bind rfl (ends_bind (secures_setUpLog sunk) ?_)
  rintro _ _ ⟨log, rfl⟩
  refine ends_bind (secures_openKeys closed sunk) ?_
  rintro _ _ rfl
  refine secures_modify_bind rfl (secures_modify_bind rfl (secures_modify_bind rfl ?_))
  refine ends_bind (secures_seed _ (.of_keys (Nat.succ_ne_zero _))) ?_
  rintro _ _ rfl
  refine secures_modify_bind rfl (secures_modify_bind rfl ?_)
  rw [Publisher.create, bind_assoc]
  refine ends_aloof_bind (c := .producer (.create _)) nofun (fun _ => rfl) ?_ fun _ => ?_
  · exact .of_keys (Nat.succ_ne_zero _)
  refine secures_modify_bind rfl (secures_modify_bind rfl (ends_bind (secures_start rfl ?_) ?_))
  · exact Nat.succ_ne_zero _
  rintro _ _ ⟨running, touched, rfl⟩
  refine ends_bind (secures_buildClicks (.of_keys (Nat.succ_ne_zero _))) ?_
  rintro _ _ ⟨touched, rfl, sunk⟩
  refine secures_finish ?_
  constructor
  · rfl
  · simp
  · simp [provided]
  · simp
  · simp [placeless]
  · simp [feedless]
  · simp

/-- Nothing is built twice. -/
theorem secures_buildAll_of_ready {s : Steward}
    {post : Steward → Except Fault Unit → Prop} (ready : s.memory.ready = true)
    (same : post s (.ok ())) : Secures (steward fails) post (buildAll settings) s := by
  refine secures_recollect_bind ?_
  rw [ready]
  exact secures_done.mpr same

/-- The parts that consume visits are built, and what they hold is accounted for. -/
structure Consuming (database : Bool) (s : Steward) : Prop where
  accounts : Accounts s
  feed : s.memory.has .feed = true
  database : s.held.database = database

/-- Building what consumes visits, from an idle state. -/
theorem secures_buildPipeline {s : Steward} (idle : Idle s)
    (sunk : s.Sunk) : Secures (steward fails) (Ends fails settings fun s' _ =>
      Consuming s.held.database s') (buildPipeline settings) s := by
  obtain ⟨m, ⟨k, p, a, c, n, d⟩, t, course⟩ := s
  obtain ⟨unready, closed, silent, keyless, placeless, feedless, ⟨⟩⟩ := idle
  refine secures_modify_bind rfl (ends_bind (secures_setUpLog sunk) ?_)
  rintro _ _ ⟨log, rfl⟩
  refine ends_bind (secures_buildClicks sunk) ?_
  rintro _ _ ⟨touched, rfl, sunk⟩
  refine ends_bind (secures_buildFeed sunk) ?_
  rintro _ _ rfl
  dsimp only at closed silent
  refine secures_modify rfl ⟨?_, by simp, rfl⟩
  exact
    { keys := by simp [closed]
      shared opened := by simp [closed] at opened
      producers := by simp [silent]
      publisher publishing := by simp [silent] at publishing
      atlases := by simp
      columns := by
        cases backend : settings.clicks.backend with
        | rows => exact Nat.zero_le _
        | columns => simp [connections]
      feed _ := by simp
      feeds := by simp }

end Building

/-! ### Releasing -/

section Releasing

variable {fails : Call → Fault → Prop} {settings : Settings} {m : Memory}
  {k p a c n : Nat} {d t : Bool} {course : Course}

/-- The feed is stopped and waited for. It may have ended with a fault, which then leaves its atlas
open. -/
theorem secures_releaseFeed {s : Steward} (accounts : Accounts s) :
    Secures (steward fails) (Ends fails settings fun s' _ => Accounts s' ∧
      s'.memory.has .feed = false ∧ s'.held = { s.held with feeds := 0 }) releaseFeed s := by
  obtain ⟨m, ⟨k, p, a, c, n, d⟩, t, course⟩ := s
  refine secures_recollect_bind ?_
  cases built : m.has .feed with
  | false =>
      have feeds := accounts.feeds
      simp only [built] at feeds
      cases Nat.le_zero.mp feeds
      exact secures_done.mpr ⟨accounts, built, rfl⟩
  | true =>
      have ended : (if n ≤ 1 then 0 else n) = 0 := by
        have feeds := accounts.feeds
        simp only [built, Bool.toNat_true] at feeds
        exact if_pos feeds
      refine secures_change_bind (secures_call_bind.mpr fun reply ⟨falls, _⟩ => ?_)
      cases reply with
      | error fault =>
          exact secures_fail.mpr ⟨.inl ⟨_, fault, (falls fault rfl).2, rfl⟩,
            .of_atlases (accounts.atlas_of_feed built)⟩
      | ok inTime =>
          have left {t : Bool} {course : Course} :
              Secures (steward fails) (Ends fails settings fun s' _ => Accounts s' ∧
                s'.memory.has .feed = false ∧ s'.held = ⟨k, p, a, c, 0, d⟩) (drop .feed)
                ⟨{ m with stopping := true },
                  ⟨k, p, a, c, if n ≤ 1 then 0 else n, d⟩, t, course⟩ := by
            rw [ended]
            exact secures_modify rfl ⟨accounts.without_feed, by simp, rfl⟩
          cases inTime with
          | true => exact left
          | false => exact secures_log_bind left

/-- A release does not succeed if the feed is known to have ended with a fault. -/
theorem secures_release_of_failed {s : Steward} {fault : Fault} (accounts : Accounts s)
    (built : s.memory.has .feed = true) (known : s.course.verdict = some (.error fault)) :
    Secures (steward fails) (Ends fails settings fun _ _ => False) release s := by
  obtain ⟨m, h, t, course⟩ := s
  refine ends_bind_of_never (secures_recollect_bind ?_)
  rw [built]
  refine secures_change_bind (secures_call_bind.mpr fun reply ⟨falls, recalls⟩ => ?_)
  cases recalls _ known
  exact secures_fail.mpr ⟨.inl ⟨_, fault, (falls fault rfl).2, rfl⟩,
    .of_atlases (accounts.atlas_of_feed built)⟩

/-- The atlas is closed, if there is one. -/
theorem secures_releaseAtlas (atlases : a = (m.has .atlas).toNat) :
    Secures (steward fails) (Ends fails settings fun s' _ =>
      s' = ⟨m.drop .atlas, ⟨k, p, 0, c, n, d⟩, t, course⟩)
      releaseAtlas ⟨m, ⟨k, p, a, c, n, d⟩, t, course⟩ := by
  subst atlases
  refine secures_recollect_bind ?_
  cases built : m.has .atlas with
  | false =>
      rw [Memory.drop_of_absent built]
      exact secures_done.mpr rfl
  | true => exact secures_sure_bind (c := .atlas .close) rfl fun _ _ => secures_modify rfl rfl

/-- As many connections to the column store are closed as there are parts that hold one. -/
theorem secures_releaseClicks (columns : c ≤ (m.has (.clickStore .columns)).toNat +
    (m.has (.statistics .columns)).toNat) :
    Secures (steward fails) (Ends fails settings fun s' _ => s' = ⟨m, ⟨k, p, a, 0, n, d⟩, t, course⟩)
      releaseClicks ⟨m, ⟨k, p, a, c, n, d⟩, t, course⟩ := by
  have last {c : Nat} (columns : c ≤ (m.has (.statistics .columns)).toNat) :
      Secures (steward fails)
        (Ends fails settings fun s' _ => s' = ⟨m, ⟨k, p, a, 0, n, d⟩, t, course⟩)
        (if m.has (.statistics .columns) then ColumnStore.close else pure ())
        ⟨m, ⟨k, p, a, c, n, d⟩, t, course⟩ := by
    cases built : m.has (.statistics .columns) with
    | false =>
        rw [built] at columns
        cases Nat.le_zero.mp columns
        exact secures_done.mpr rfl
    | true =>
        rw [built] at columns
        have closed : c - 1 = 0 := Nat.sub_eq_zero_of_le columns
        refine secures_sure (c := .columns .close) rfl fun _ _ => ?_
        change (⟨m, ⟨k, p, a, c - 1, n, d⟩, t, course⟩ : Steward) = _
        rw [closed]
  refine secures_recollect_bind ?_
  cases built : m.has (.clickStore .columns) with
  | false =>
      rw [built, Bool.toNat_false, Nat.zero_add] at columns
      exact last columns
  | true =>
      rw [built, Bool.toNat_true] at columns
      exact secures_sure_bind (c := .columns .close) rfl fun _ _ => last (c := c - 1) (by omega)

/-- A running producer is stopped. -/
theorem secures_releasePublisher (producers : p = m.publishing.toNat)
    (publisher : m.publishing = true → m.has .publisher = true)
    (keys : m.publishing = true → k ≠ 0) :
    Secures (steward fails) (Ends fails settings fun s' _ =>
      s' = ⟨{ m with publishing := false }, ⟨k, 0, a, c, n, d⟩, t, course⟩)
      releasePublisher ⟨m, ⟨k, p, a, c, n, d⟩, t, course⟩ := by
  subst producers
  refine secures_recollect_bind ?_
  obtain ⟨_, _, _, _, _, publishing, _, _⟩ := m
  cases publishing with
  | false =>
      split
      · exact secures_recollect_bind (secures_done.mpr rfl)
      · exact secures_done.mpr rfl
  | true =>
      rw [publisher rfl]
      refine secures_recollect_bind ?_
      refine ends_call_bind (c := .producer .stop) nofun (fun _ => ?_) fun _ => ?_
      · exact .of_keys (keys rfl)
      · exact secures_modify rfl rfl

/-- The connection to the key-value server is closed, if it is open. -/
theorem secures_closeKeys (keys : k = m.keysOpen.toNat) :
    Secures (steward fails) (Ends fails settings fun s' _ =>
      s' = ⟨{ m with keysOpen := false }, ⟨0, p, a, c, n, d⟩, t, course⟩)
      closeKeys ⟨m, ⟨k, p, a, c, n, d⟩, t, course⟩ := by
  subst keys
  refine secures_recollect_bind ?_
  obtain ⟨_, _, _, _, keysOpen, _, _, _⟩ := m
  cases keysOpen with
  | false => exact secures_done.mpr rfl
  | true => exact secures_sure_bind (c := .keys .close) rfl fun _ _ => secures_modify rfl rfl

/-- The connection to the key-value server is given up. -/
theorem secures_releaseKeys (keys : k = m.keysOpen.toNat)
    (shared : m.keysOpen = true → m.has .keys = true) :
    Secures (steward fails) (Ends fails settings fun s' _ =>
      s' = ⟨{ m with keysOpen := false }.drop .keys, ⟨0, p, a, c, n, d⟩, t, course⟩)
      releaseKeys ⟨m, ⟨k, p, a, c, n, d⟩, t, course⟩ := by
  refine secures_recollect_bind ?_
  cases built : m.has .keys with
  | true =>
      refine ends_bind (secures_closeKeys keys) ?_
      rintro _ _ rfl
      exact secures_modify rfl rfl
  | false =>
      have closed : m.keysOpen = false := by
        refine Bool.eq_false_iff.mpr fun opened => ?_
        rw [shared opened] at built
        cases built
      obtain ⟨_, _, _, _, keysOpen, _, _, _⟩ := m
      subst closed keys
      rw [Memory.drop_of_absent built]
      exact secures_done.mpr rfl

/-- From accounted holdings a release that succeeds leaves nothing but the database. -/
theorem secures_release {s : Steward} (accounts : Accounts s) :
    Secures (steward fails) (Ends fails settings fun s' _ =>
      Idle s' ∧ s'.held.database = s.held.database) release s := by
  refine ends_bind (secures_releaseFeed accounts) ?_
  rintro ⟨m, ⟨k, p, a, c, n, d⟩, t, course⟩ _ ⟨accounts, feedless, held⟩
  have stopped : n = 0 := congrArg Holdings.feeds held
  have database : d = s.held.database := congrArg Holdings.database held
  refine ends_bind (secures_releaseAtlas accounts.atlases) ?_
  rintro _ _ rfl
  refine ends_bind (secures_releaseClicks ?_) ?_
  · simp only [Memory.has_drop]
    exact accounts.columns
  rintro _ _ rfl
  refine ends_bind (secures_releasePublisher accounts.producers ?_ ?_) ?_
  · exact fun publishing => by simp [(accounts.publisher publishing).1]
  · intro publishing
    rw [show k = _ from accounts.keys, (accounts.publisher publishing).2]
    exact Nat.one_ne_zero
  rintro _ _ rfl
  refine ends_bind (secures_releaseKeys accounts.keys ?_) ?_
  · exact fun opened => by simp [accounts.shared opened]
  rintro _ _ rfl
  refine secures_modify rfl ⟨?_, database⟩
  constructor
  · rfl
  · rfl
  · rfl
  · simp
  · simp
  · simp [feedless]
  · rw [stopped]

end Releasing

end LinkShortener.Daemon
