import LinkShortener.Proofs.Link.Phase
import LinkShortener.Proofs.Traffic.Machinery
import Mathlib.Logic.Relation

/-!
Traffic: many requests to the directory at the same time. Every request is a task, a routine that
is suspended before its next call. In one step a request enters, one task makes one call, or a copy
expires. Tasks interleave between any two calls, so every interleaving of suspended operations is a
sequence of steps. The past of a state records every call with its reply and the task that made
it, the latest first. A regime says which requests may enter when, which calls may be made when and
meet which outages, and which calls may be done although they are reported as failed.

Main statement: an `Outline` gives assertions about the machinery and about each task that one
step keeps; then every reachable state has them (`Outline.holds_of_reaches`).
-/

namespace LinkShortener.Traffic

open Routine
open Bench (World Answer)
open Directory (Phase Advances)

/-! ### Requests -/

/-- A request to the directory, or a restart of the service. -/
inductive Request
  | boot
  | shorten (url : String)
  | resolve (token : String)
  | update (token url : String)
  | delete (token : String)
  deriving DecidableEq, Repr

namespace Request

def routine (s : Settings.KeyValue) : Request → Routine Answer
  | boot => (fun _ => .nothing) <$> Counter.seed s
  | shorten url => .link <$> Directory.shorten s url
  | resolve token => .url <$> Directory.resolve s token
  | update token url => .link <$> Directory.update s token url
  | delete token => (fun _ => .nothing) <$> Directory.delete s token

/-- The check of the address of a request, if it has one. -/
def check : Request → Except Fault Unit
  | shorten url | update _ url => Url.check url
  | _ => .ok ()

/-- The first phase of a request that passes its check. -/
def first : Request → Phase
  | boot => .seeding
  | shorten url => .counting url
  | resolve token => .looking token
  | update token url => .retargeting token url
  | delete token => .deleting token

/-- The phase that a request enters in. A refused address leaves nothing to do. -/
def phase (request : Request) : Phase :=
  match request.check with
  | .ok () => request.first
  | .error fault => .refused fault

/-- A request begins with its first phase if it passes the check, and otherwise with the refusal. -/
theorem phase_cases (request : Request) :
    (request.check = .ok () ∧ request.phase = request.first) ∨
      ∃ fault, request.check = .error fault ∧ request.phase = .refused fault := by
  unfold phase
  cases request.check with
  | ok a => exact .inl ⟨rfl, rfl⟩
  | error fault => exact .inr ⟨fault, rfl, rfl⟩

/-- What holds of the first phase and of a refusal holds of the phase that a request enters in. -/
theorem phase_of_first (request : Request) (holds : Phase → Prop) (first : holds request.first)
    (refused : ∀ fault, holds (.refused fault)) : holds request.phase := by
  rcases request.phase_cases with ⟨-, enters⟩ | ⟨fault, -, enters⟩
  · rw [enters]
    exact first
  · rw [enters]
    exact refused fault

/-- A request that seeds the counter or counts on it. -/
def Counts : Request → Prop
  | boot | shorten _ => True
  | _ => False

/-- The phases that a request can be in. -/
def Visits : Request → Phase → Prop
  | boot, .seeding | boot, .measured _ | boot, .seeded => True
  | shorten url, .counting u | shorten url, .numbered u _ _ => u = url
  | shorten _, .inserted _ _ | shorten _, .made _ => True
  | resolve token, .looking t | resolve token, .missed t | resolve token, .holding t _
  | resolve token, .told t _ => t = token
  | update token url, .retargeting t u => t = token ∧ u = url
  | update token _, .owing t link? => t = token ∧ link?.isSome
  | update _ _, .settled link? => link?.isSome
  | delete token, .deleting t => t = token
  | delete token, .owing t link? => t = token ∧ link?.isNone
  | delete _, .settled link? => link?.isNone
  | _, .refused _ | _, .failed _ _ | _, .broken _ => True
  | _, _ => False

attribute [local simp] Visits

theorem visits_phase (request : Request) : request.Visits request.phase := by
  refine request.phase_of_first request.Visits ?_ fun fault => ?_
  · cases request <;> simp [first]
  · cases request <;> trivial

section Visits

variable {request : Request} {token url : String}

theorem visits_looking : request.Visits (.looking token) ↔ request = .resolve token := by
  cases request <;> simp [eq_comm]

theorem visits_missed : request.Visits (.missed token) ↔ request = .resolve token := by
  cases request <;> simp [eq_comm]

theorem visits_holding {link : Link} :
    request.Visits (.holding token link) ↔ request = .resolve token := by
  cases request <;> simp [eq_comm]

theorem visits_retargeting :
    request.Visits (.retargeting token url) ↔ request = .update token url := by
  cases request <;> simp [eq_comm]

theorem visits_deleting : request.Visits (.deleting token) ↔ request = .delete token := by
  cases request <;> simp [eq_comm]

theorem visits_counting : request.Visits (.counting url) ↔ request = .shorten url := by
  cases request <;> simp [eq_comm]

theorem visits_numbered {id : Int} :
    request.Visits (.numbered url id token) ↔ request = .shorten url := by
  cases request <;> simp [eq_comm]

theorem visits_measured {last : Int} : request.Visits (.measured last) ↔ request = .boot := by
  cases request <;> simp

end Visits

/-- A request visits each phase that its operation advances to. -/
theorem Visits.advance {s : Settings.KeyValue} {request : Request} {p q : Phase} {c : Call}
    {reply : Except Fault c.Reply} (visits : request.Visits p)
    (advances : Advances s p c reply q) : request.Visits q := by
  cases advances <;> cases request <;> simp_all

/-- What is done for a request follows the protocol to a phase that tells the outcome. -/
theorem follows_routine (s : Settings.KeyValue) (request : Request) :
    Follows (Advances s) (fun p o => p.outcome? s = some o) (request.routine s)
      request.phase := by
  rcases request.phase_cases with ⟨accepted, enters⟩ | ⟨fault, refused, enters⟩
  · rw [enters]
    cases request with
    | boot => exact follows_map.mpr Directory.follows_seed
    | shorten url => exact follows_map.mpr (Directory.follows_shorten accepted)
    | resolve token => exact follows_map.mpr (Directory.follows_resolve token)
    | update token url => exact follows_map.mpr (Directory.follows_update accepted)
    | delete token => exact follows_map.mpr (Directory.follows_delete token)
  · rw [enters]
    cases request with
    | shorten url => exact follows_map.mpr (Directory.follows_shorten_refused refused)
    | update token url => exact follows_map.mpr (Directory.follows_update_refused refused)
    | boot | resolve | delete => cases refused

end Request

/-! ### States and steps -/

/-- A request in the making: what is left to do for it. -/
structure Task where
  request : Request
  rest : Routine Answer

def Task.outcome? (task : Task) : Option (Except Fault Answer) :=
  match task.rest with
  | .done answer => some (.ok answer)
  | .fail fault => some (.error fault)
  | .ask _ _ => none

theorem Task.rest_of_outcome? {task : Task} {answer : Answer}
    (ended : task.outcome? = some (.ok answer)) : task.rest = .done answer := by
  unfold Task.outcome? at ended
  split at ended
  · rename_i rest
    cases ended
    exact rest
  · cases ended
  · cases ended

/-- A call that was made, with its reply and the task that made it. -/
structure Event where
  task : Nat
  request : Request
  call : Call
  reply : Except Fault call.Reply

/-- The machinery, the tasks that have entered and the calls that were made, the latest first. -/
structure State where
  world : World
  tasks : List Task
  past : List Event

def State.start (w : World) : State := ⟨w, [], []⟩

/-- A world with one link and no copies. -/
def lonely : World where
  links := ⟨[⟨1, "https://a.example/", "b", Bench.databaseClock, Bench.databaseClock⟩],
    List.pairwise_singleton _ _⟩

def State.enter (s : Settings.KeyValue) (σ : State) (request : Request) : State :=
  { σ with tasks := σ.tasks ++ [⟨request, request.routine s⟩] }

/-- Lets a task make its next call, if it has one. -/
def State.advance (σ : State) (n : Nat) (outage : Option Fault) : State :=
  match σ.tasks[n]? with
  | some ⟨request, .ask c next⟩ =>
      let (reply, w) := attempt outage c σ.world
      ⟨w, σ.tasks.set n ⟨request, next reply⟩, ⟨n, request, c, reply⟩ :: σ.past⟩
  | _ => σ

/-- Lets tasks make calls in turn, none of which meets an outage. -/
def State.turns (σ : State) (tasks : List Nat) : State :=
  tasks.foldl (fun σ n => σ.advance n none) σ

/-- Which requests may enter in a state, which call a task may make there with which outage, and
which call may be done there while its reply is lost and a fault comes in its place. -/
structure Regime where
  admits : State → Request → Prop
  lets : State → Nat → Call → Option Fault → Prop
  loses : State → Nat → Call → Fault → Prop

/-- What can come of a call: it is attempted, or it is done and its reply is lost. -/
inductive Comes (regime : Regime) (σ : State) (n : Nat) (c : Call) :
    Except Fault c.Reply → World → Prop
  | attempted {reply : Except Fault c.Reply} {w : World} (outage : Option Fault)
      (lets : regime.lets σ n c outage) (made : attempt outage c σ.world = (reply, w)) :
      Comes regime σ n c reply w
  | lost {reply : Except Fault c.Reply} {w : World} (fault : Fault)
      (loses : regime.loses σ n c fault) (strike : strikes fault c = true)
      (made : attempt none c σ.world = (reply, w)) : Comes regime σ n c (.error fault) w

theorem Comes.calm {regime : Regime} {σ : State} {n : Nat} {c : Call}
    {reply : Except Fault c.Reply} {w : World} (comes : Comes regime σ n c reply w)
    (calm : Calm σ.world) : Calm w := by
  cases comes with
  | attempted outage lets made => exact calm_of_attempt calm made
  | lost fault loses strike made => exact calm_of_attempt calm made

/-- The world once the copy of a token has expired. -/
def lapse (s : Settings.KeyValue) (token : String) (w : World) : World :=
  { w with keys := w.keys.delete (Copies.key s token) }

/-- One step: a request enters, one task makes one call, or a copy expires, at any time. The
counter, which is set for ever, does not expire. -/
inductive Steps (s : Settings.KeyValue) (regime : Regime) : State → State → Prop
  | enter (σ : State) (request : Request) (admitted : regime.admits σ request) :
      Steps s regime σ (σ.enter s request)
  | call (σ : State) (n : Nat) (request : Request) (c : Call)
      (next : Except Fault c.Reply → Routine Answer) (reply : Except Fault c.Reply) (w : World)
      (found : σ.tasks[n]? = some ⟨request, .ask c next⟩)
      (comes : Comes regime σ n c reply w) :
      Steps s regime σ
        ⟨w, σ.tasks.set n ⟨request, next reply⟩, ⟨n, request, c, reply⟩ :: σ.past⟩
  | expire (σ : State) (token : String) (other : Copies.key s token ≠ s.counterKey) :
      Steps s regime σ { σ with world := lapse s token σ.world }

abbrev Reaches (s : Settings.KeyValue) (regime : Regime) : State → State → Prop :=
  Relation.ReflTransGen (Steps s regime)

theorem Reaches.enter {s : Settings.KeyValue} {regime : Regime} {σ₀ σ : State}
    (reaches : Reaches s regime σ₀ σ) {request : Request}
    (admitted : regime.admits σ request) : Reaches s regime σ₀ (σ.enter s request) :=
  reaches.tail (.enter σ request admitted)

theorem Reaches.advance {s : Settings.KeyValue} {regime : Regime} {σ₀ σ : State}
    (reaches : Reaches s regime σ₀ σ) (n : Nat) {outage : Option Fault}
    (lets : ∀ c, regime.lets σ n c outage) : Reaches s regime σ₀ (σ.advance n outage) := by
  unfold State.advance
  split
  · rename_i request c next found
    exact reaches.tail (.call σ n request c next _ _ found (.attempted outage (lets c) rfl))
  · exact reaches

/-- Tasks may take turns in any order where nothing has to fail. -/
theorem Reaches.turns {s : Settings.KeyValue} {regime : Regime} {σ₀ σ : State}
    (lets : ∀ σ n c, regime.lets σ n c none) (reaches : Reaches s regime σ₀ σ)
    (tasks : List Nat) : Reaches s regime σ₀ (σ.turns tasks) := by
  induction tasks generalizing σ with
  | nil => exact reaches
  | cons n rest ih => exact ih (reaches.advance n (lets σ n))

/-- Calls are made by tasks that have entered. -/
theorem task_lt_of_reaches {s : Settings.KeyValue} {regime : Regime} {w : World} {σ : State}
    (reaches : Reaches s regime (State.start w) σ) : ∀ e ∈ σ.past, e.task < σ.tasks.length := by
  induction reaches with
  | refl => exact fun e mem => by cases mem
  | tail _ steps ih =>
      cases steps with
      | enter request =>
          intro e mem
          have before := ih e mem
          simp only [State.enter, List.length_append, List.length_singleton]
          omega
      | call n request c next reply w found =>
          intro e mem
          rw [List.length_set]
          rcases List.mem_cons.mp mem with rfl | mem
          · exact (List.getElem?_eq_some_iff.mp found).1
          · exact ih e mem
      | expire => exact ih

/-! ### Outlines -/

/-- Assertions about the machinery and about every task by the phase it is in. Both may speak of
the past. -/
structure Outline where
  shared : World → List Event → Prop
  stands : Phase → Nat → Request → World → List Event → Prop

namespace Outline

variable {s : Settings.KeyValue} {regime : Regime} {o : Outline} {σ₀ σ σ' : State}

/-- A task is in a phase: what is left of it follows the protocol from there, and the assertion
for the phase holds. -/
structure Places (s : Settings.KeyValue) (o : Outline) (σ : State) (n : Nat) (task : Task)
    (p : Phase) : Prop where
  follows : Follows (Advances s) (fun q outcome => q.outcome? s = some outcome) task.rest p
  visits : task.request.Visits p
  stands : o.stands p n task.request σ.world σ.past

/-- What came of a task that has ended is what its phase tells. -/
theorem Places.outcome? {n : Nat} {task : Task} {p : Phase} (place : Places s o σ n task p)
    {outcome : Except Fault Answer} (ended : task.outcome? = some outcome) :
    p.outcome? s = some outcome := by
  have follows := place.follows
  unfold Task.outcome? at ended
  split at ended
  · rename_i answer rest
    cases ended
    rw [rest] at follows
    exact follows_done.mp follows
  · rename_i fault rest
    cases ended
    rw [rest] at follows
    exact follows_fail.mp follows
  · cases ended

/-- The assertions hold in a state: those about the machinery and that of every task. -/
structure Holds (s : Settings.KeyValue) (o : Outline) (σ : State) : Prop where
  calm : Calm σ.world
  shared : o.shared σ.world σ.past
  places : ∀ n task, σ.tasks[n]? = some task → ∃ p, Places s o σ n task p

/-- A task in a phase makes a call in a reachable state where the assertions hold. -/
structure Turn (s : Settings.KeyValue) (regime : Regime) (o : Outline) (σ₀ σ : State)
    (n : Nat) (request : Request) (p : Phase) (c : Call) (reply : Except Fault c.Reply)
    (q : Phase) (w : World) : Prop where
  reaches : Reaches s regime σ₀ σ
  holds : Holds s o σ
  found : ∃ next, σ.tasks[n]? = some ⟨request, .ask c next⟩
  visits : request.Visits p
  stands : o.stands p n request σ.world σ.past
  answers : ∀ answer, ∃ q', Advances s p c answer q'
  advances : Advances s p c reply q
  comes : Comes regime σ n c reply w

/-- The assertions hold on when a copy has expired. -/
structure Outlasts (s : Settings.KeyValue) (o : Outline) : Prop where
  shared : ∀ {token w past}, Copies.key s token ≠ s.counterKey → o.shared w past →
    o.shared (lapse s token w) past
  stands : ∀ {token p n request w past}, o.stands p n request w past →
    o.stands p n request (lapse s token w) past

/-- The assertions are kept from a state on: they outlast the copies, entering brings about the
assertion of the first phase, and a call keeps the assertions about the machinery, brings about
that of the next phase and spares those of the other tasks. -/
structure Kept (s : Settings.KeyValue) (regime : Regime) (o : Outline) (σ₀ : State) : Prop where
  outlasts : Outlasts s o
  enters : ∀ {σ : State} {request : Request}, Reaches s regime σ₀ σ → Holds s o σ →
    regime.admits σ request →
    o.stands request.phase σ.tasks.length request σ.world σ.past
  shares : ∀ {σ : State} {n request p c reply q w},
    Turn s regime o σ₀ σ n request p c reply q w →
    o.shared w (⟨n, request, c, reply⟩ :: σ.past)
  arrives : ∀ {σ : State} {n request p c reply q w},
    Turn s regime o σ₀ σ n request p c reply q w →
    o.stands q n request w (⟨n, request, c, reply⟩ :: σ.past)
  spares : ∀ {σ : State} {n request p c reply q w m task p'},
    Turn s regime o σ₀ σ n request p c reply q w → m ≠ n →
    σ.tasks[m]? = some task → Places s o σ m task p' →
    o.stands p' m task.request w (⟨n, request, c, reply⟩ :: σ.past)

/-- A call that was answered was attempted. -/
theorem Turn.answered {n : Nat} {request : Request} {p q : Phase} {c : Call} {answer : c.Reply}
    {w : World} (turn : Turn s regime o σ₀ σ n request p c (.ok answer) q w) :
    ∃ outage, regime.lets σ n c outage ∧ attempt outage c σ.world = (.ok answer, w) := by
  cases turn.comes with
  | attempted outage lets made => exact ⟨outage, lets, made⟩

/-- A call that failed was attempted, or it was done and its reply was lost. -/
theorem Turn.failed {n : Nat} {request : Request} {p q : Phase} {c : Call} {fault : Fault}
    {w : World} (turn : Turn s regime o σ₀ σ n request p c (.error fault) q w) :
    (∃ outage, regime.lets σ n c outage ∧ attempt outage c σ.world = (.error fault, w)) ∨
      regime.loses σ n c fault ∧ strikes fault c = true := by
  cases turn.comes with
  | attempted outage lets made => exact .inl ⟨outage, lets, made⟩
  | lost _ loses strike => exact .inr ⟨loses, strike⟩

/-- Where no request has begun, an outline holds by what it says of the machinery alone. -/
theorem holds_start {w : World} (calm : Calm w) (shared : o.shared w []) :
    Holds s o (State.start w) where
  calm := calm
  shared := shared
  places n task found := by simp [State.start] at found

/-- A task that makes its next call takes a turn and goes on from the phase it leads to. -/
theorem Holds.turn (holds : Holds s o σ) (reaches : Reaches s regime σ₀ σ) {n : Nat}
    {request : Request} {c : Call} {next : Except Fault c.Reply → Routine Answer}
    {reply : Except Fault c.Reply} {w : World}
    (found : σ.tasks[n]? = some ⟨request, .ask c next⟩) (comes : Comes regime σ n c reply w) :
    ∃ p q, Turn s regime o σ₀ σ n request p c reply q w ∧
      Follows (Advances s) (fun q outcome => q.outcome? s = some outcome) (next reply) q := by
  obtain ⟨p, follows, visits, stands⟩ := holds.places n _ found
  obtain ⟨q, advances, rest⟩ := follows_ask.mp follows reply
  have answers : ∀ answer, ∃ q', Advances s p c answer q' := fun answer =>
    (follows_ask.mp follows answer).imp fun _ goes => goes.1
  exact ⟨p, q, ⟨reaches, holds, ⟨next, found⟩, visits, stands, answers, advances, comes⟩, rest⟩

/-- One step keeps the assertions if they outlast the copies, entering brings about that of the
first phase, and a call keeps those about the machinery, brings about that of the next phase and
spares those of the other tasks. -/
theorem Holds.step (holds : Holds s o σ) (reaches : Reaches s regime σ₀ σ)
    (steps : Steps s regime σ σ') (outlasts : Outlasts s o)
    (enters : ∀ request, regime.admits σ request →
      o.stands request.phase σ.tasks.length request σ.world σ.past)
    (calls : ∀ {n request p c reply q},
      Turn s regime o σ₀ σ n request p c reply q σ'.world →
      σ'.past = ⟨n, request, c, reply⟩ :: σ.past →
      o.shared σ'.world σ'.past ∧ o.stands q n request σ'.world σ'.past ∧
        ∀ m task p', m ≠ n → σ.tasks[m]? = some task → Places s o σ m task p' →
          o.stands p' m task.request σ'.world σ'.past) : Holds s o σ' := by
  cases steps with
  | enter request admitted =>
      refine ⟨holds.calm, holds.shared, fun n task found => ?_⟩
      simp only [State.enter, List.getElem?_append] at found
      split at found
      · obtain ⟨p, place⟩ := holds.places n task found
        exact ⟨p, place.follows, place.visits, place.stands⟩
      · rename_i beyond
        obtain ⟨at0, rfl⟩ : n - σ.tasks.length = 0 ∧ task = ⟨request, request.routine s⟩ := by
          cases index : n - σ.tasks.length with
          | zero => simp [index] at found; exact ⟨rfl, found.symm⟩
          | succ k => simp [index] at found
        obtain rfl : n = σ.tasks.length := by omega
        exact ⟨request.phase, request.follows_routine s, request.visits_phase,
          enters request admitted⟩
  | call n request c next reply w found comes =>
      obtain ⟨p, q, turn, rest⟩ := holds.turn reaches found comes
      obtain ⟨shares, arrives, spares⟩ := calls turn rfl
      refine ⟨comes.calm holds.calm, shares, fun m task foundM => ?_⟩
      rw [List.getElem?_set] at foundM
      split at foundM
      · rename_i same
        subst same
        split at foundM
        · cases foundM
          exact ⟨q, rest, turn.visits.advance turn.advances, arrives⟩
        · cases foundM
      · rename_i other
        obtain ⟨p', place⟩ := holds.places m task foundM
        exact ⟨p', place.follows, place.visits,
          spares m task p' (Ne.symm other) foundM place⟩
  | expire token other =>
      refine ⟨holds.calm, outlasts.shared other holds.shared, fun n task found => ?_⟩
      obtain ⟨p, place⟩ := holds.places n task found
      exact ⟨p, place.follows, place.visits, outlasts.stands place.stands⟩

/-- A kept outline holds after a step. -/
theorem Kept.step (kept : Kept s regime o σ₀) (reaches : Reaches s regime σ₀ σ)
    (holds : Holds s o σ) (steps : Steps s regime σ σ') : Holds s o σ' := by
  refine holds.step reaches steps kept.outlasts
    (fun request admitted => kept.enters reaches holds admitted) ?_
  intro n request p c reply q turn past
  rw [past]
  exact ⟨kept.shares turn, kept.arrives turn, fun m task p' other found place =>
    kept.spares turn other found place⟩

/-- Assertions that hold at first and are kept hold in every reachable state. -/
theorem holds_of_reaches (kept : Kept s regime o σ₀) (start : Holds s o σ₀)
    (reaches : Reaches s regime σ₀ σ) : Holds s o σ := by
  induction reaches with
  | refl => exact start
  | tail reached steps ih => exact kept.step reached ih steps

/-! ### Two outlines at once -/

/-- The assertions of two outlines. -/
def also (o o' : Outline) : Outline where
  shared w past := o.shared w past ∧ o'.shared w past
  stands p n request w past := o.stands p n request w past ∧ o'.stands p n request w past

variable {o' : Outline} {n : Nat} {task : Task} {request : Request} {p q : Phase} {c : Call}
  {reply : Except Fault c.Reply} {w : World}

/-- Outlines that outlast expiry do so together. -/
theorem Outlasts.also (outlasts : Outlasts s o) (outlasts' : Outlasts s o') :
    Outlasts s (o.also o') where
  shared other holds := ⟨outlasts.shared other holds.1, outlasts'.shared other holds.2⟩
  stands holds := ⟨outlasts.stands holds.1, outlasts'.stands holds.2⟩

theorem Places.left (place : Places s (o.also o') σ n task p) : Places s o σ n task p :=
  ⟨place.follows, place.visits, place.stands.1⟩

theorem Holds.left (holds : Holds s (o.also o') σ) : Holds s o σ where
  calm := holds.calm
  shared := holds.shared.1
  places n task found := (holds.places n task found).imp fun _ place => place.left

theorem Turn.left (turn : Turn s regime (o.also o') σ₀ σ n request p c reply q w) :
    Turn s regime o σ₀ σ n request p c reply q w :=
  { turn with holds := turn.holds.left, stands := turn.stands.1 }

end Outline

end LinkShortener.Traffic
