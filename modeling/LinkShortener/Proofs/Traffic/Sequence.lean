import LinkShortener.Proofs.Traffic.Deed

/-!
Requests that are served one after the other. A request that is served alone enters and makes
all its calls before anything else happens. Each of its calls may meet an outage of its own; no
operation of the directory makes the same call to the catalog or the keys twice, so the outages
of a request are given by the calls they strike.

Main statements: what every call of a request keeps, serving it keeps (`State.serve_keeps`), and
serving a request is one way among others for it to go (`Reaches.serve`).
-/

namespace LinkShortener.Traffic

open Routine
open Bench (World Answer)
open Directory (Phase Advances)

/-- The outages that the calls of a request meet. -/
abbrev Outages := Call → Option Fault

def clear : Outages := fun _ => none

/-- Answers the calls of a task and records them. -/
def serving (n : Nat) (request : Request) (outages : Outages) :
    Performer (World × List Event) := fun c (w, past) =>
  let (reply, w') := attempt (outages c) c w
  (reply, w', ⟨n, request, c, reply⟩ :: past)

def State.serve (s : Settings.KeyValue) (σ : State) (request : Request) (outages : Outages) :
    State :=
  let (outcome, w, past) := (request.routine s).run (serving σ.tasks.length request outages)
    (σ.world, σ.past)
  ⟨w, σ.tasks ++ [⟨request, ofOutcome outcome⟩], past⟩

def State.serveAll (s : Settings.KeyValue) (σ : State) (history : List (Request × Outages)) :
    State :=
  history.foldl (fun σ (request, outages) => σ.serve s request outages) σ

theorem prefix_serve (s : Settings.KeyValue) (σ : State) (request : Request)
    (outages : Outages) : σ.tasks <+: (σ.serve s request outages).tasks :=
  List.prefix_append _ _

theorem serveAll_cons (s : Settings.KeyValue) (σ : State) (request : Request)
    (outages : Outages) (history : List (Request × Outages)) :
    σ.serveAll s ((request, outages) :: history) =
      (σ.serve s request outages).serveAll s history := rfl

theorem serveAll_append (s : Settings.KeyValue) (σ : State)
    (history history' : List (Request × Outages)) :
    σ.serveAll s (history ++ history') = (σ.serveAll s history).serveAll s history' :=
  List.foldl_append

/-- What came of the tasks, in the order in which they entered. -/
def State.outcomes (σ : State) : List (Option (Except Fault Answer)) :=
  σ.tasks.map Task.outcome?

@[simp] theorem outcome?_ofOutcome (request : Request) (outcome : Except Fault Answer) :
    Task.outcome? ⟨request, ofOutcome outcome⟩ = some outcome := by
  cases outcome <;> rfl

/-- Whatever is served has ended. -/
theorem ended_serve {σ : State} (s : Settings.KeyValue) (request : Request) (outages : Outages)
    (ended : ∀ task ∈ σ.tasks, task.outcome?.isSome = true) :
    ∀ task ∈ (σ.serve s request outages).tasks, task.outcome?.isSome = true := by
  intro task mem
  rcases List.mem_append.mp mem with mem | mem
  · exact ended task mem
  · cases List.mem_singleton.mp mem
    rw [outcome?_ofOutcome]
    rfl

/-- A served history leaves nothing unfinished. -/
theorem ended_serveAll {σ : State} (s : Settings.KeyValue)
    (history : List (Request × Outages))
    (ended : ∀ task ∈ σ.tasks, task.outcome?.isSome = true) :
    ∀ task ∈ (σ.serveAll s history).tasks, task.outcome?.isSome = true := by
  induction history generalizing σ with
  | nil => exact ended
  | cons served rest ih => exact ih (ended_serve s served.1 served.2 ended)

variable {s : Settings.KeyValue} {σ : State} {request : Request} {outages : Outages}

/-- What every call of a request keeps, serving it keeps: it ends in a phase that tells its
outcome, and whatever is kept from phase to phase holds there. -/
theorem State.serve_keeps (s : Settings.KeyValue) (outages : Outages)
    (inv : Phase → World → List Event → Prop) (calm : Calm σ.world)
    (start : inv request.phase σ.world σ.past)
    (step : ∀ {p c reply q w w' past}, Calm w → request.Visits p → inv p w past →
      Advances s p c reply q → attempt (outages c) c w = (reply, w') →
      inv q w' (⟨σ.tasks.length, request, c, reply⟩ :: past)) :
    ∃ q outcome, (σ.serve s request outages).tasks = σ.tasks ++ [⟨request, ofOutcome outcome⟩] ∧
      q.outcome? s = some outcome ∧ request.Visits q ∧
      Calm (σ.serve s request outages).world ∧
      inv q (σ.serve s request outages).world (σ.serve s request outages).past := by
  let kept : Phase → Routine Answer → World × List Event → Prop := fun p _ state =>
    Calm state.1 ∧ request.Visits p ∧ inv p state.1 state.2
  have keeps : ∀ p c next state q, kept p (.ask c next) state →
      Advances s p c (serving σ.tasks.length request outages c state).1 q →
      kept q (next (serving σ.tasks.length request outages c state).1)
        (serving σ.tasks.length request outages c state).2 := by
    rintro p c next state q ⟨calm, visits, holds⟩ advances
    exact ⟨calm_of_attempt calm rfl, visits.advance advances,
      step calm visits holds advances rfl⟩
  obtain ⟨q, told, calm', visits, holds⟩ := Follows.run _ kept keeps (request.follows_routine s)
    (s := (σ.world, σ.past)) ⟨calm, request.visits_phase, start⟩
  exact ⟨q, _, rfl, told, visits, calm', holds⟩

theorem State.calm_serve (s : Settings.KeyValue) (request : Request) (outages : Outages)
    (calm : Calm σ.world) : Calm (σ.serve s request outages).world := by
  obtain ⟨-, -, -, -, -, calm', -⟩ := State.serve_keeps s outages (fun _ _ _ => True)
    calm trivial fun _ _ _ _ _ => trivial
  exact calm'

/-- A task may make its calls when it goes on alone from a state. -/
def LetsAlone (regime : Regime) (tasks : List Task) (past : List Event) (request : Request)
    (outages : Outages) : Prop :=
  ∀ w c next recent, (∀ e ∈ recent, e.request = request) →
    regime.lets ⟨w, tasks ++ [⟨request, .ask c next⟩], recent ++ past⟩ tasks.length c (outages c)

/-- A task that goes on alone to its end takes steps. -/
theorem reaches_run {regime : Regime} {σ₀ : State} {w : World} {tasks : List Task}
    {past : List Event} {rest : Routine Answer}
    (lets : LetsAlone regime tasks past request outages) (recent : List Event)
    (own : ∀ e ∈ recent, e.request = request)
    (reaches : Reaches s regime σ₀ ⟨w, tasks ++ [⟨request, rest⟩], recent ++ past⟩) :
    Reaches s regime σ₀
      ⟨(rest.run (serving tasks.length request outages) (w, recent ++ past)).2.1,
        tasks ++ [⟨request,
          ofOutcome (rest.run (serving tasks.length request outages) (w, recent ++ past)).1⟩],
        (rest.run (serving tasks.length request outages) (w, recent ++ past)).2.2⟩ := by
  induction rest generalizing w recent with
  | done answer => exact reaches
  | fail fault => exact reaches
  | ask c next ih =>
      have stepped := reaches.tail (.call _ tasks.length request c next
        (attempt (outages c) c w).1 (attempt (outages c) c w).2 (by simp)
        (.attempted (outages c) (lets w c next recent own) rfl))
      simp only [List.set_append_right, Nat.le_refl, Nat.sub_self, List.set_cons_zero] at stepped
      refine ih (attempt (outages c) c w).1 (_ :: recent) (fun e mem => ?_) stepped
      rcases List.mem_cons.mp mem with rfl | mem
      · rfl
      · exact own e mem

/-- Serving a request is one way for it to go. -/
theorem Reaches.serve {regime : Regime} {σ₀ : State} (reaches : Reaches s regime σ₀ σ)
    (admitted : regime.admits σ request)
    (lets : LetsAlone regime σ.tasks σ.past request outages) :
    Reaches s regime σ₀ (σ.serve s request outages) :=
  reaches_run lets [] (fun _ mem => by cases mem) (reaches.enter admitted)

end LinkShortener.Traffic
