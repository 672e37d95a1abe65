import LinkShortener.Proofs.Routine.Pool

/-!
What routines do, call by call. A run of a routine is the list of the calls that it made, the latest
first, and what it came out with. Where only certain faults come to the calls, a routine performs a
condition if all its runs meet it.

Main statements: performing is composed along `>>=`, `outcome` and `rescue` (`performs_bind`,
`performs_outcome`, `performs_rescue`); and a task that has ended in a pool has met what its program
performs, by its own calls (`Pool.due_of_ended`).
-/

namespace LinkShortener

namespace Routine

open Feed (Made)

variable {α β : Type} {fails : Call → Fault → Prop}

/-- A routine makes these calls, the latest first, and comes out with this. -/
inductive Ran {α : Type} : Routine α → List Made → Except Fault α → Prop
  | done (a : α) : Ran (.done a) [] (.ok a)
  | fail (fault : Fault) : Ran (.fail fault) [] (.error fault)
  | ask (c : Call) (next : Except Fault c.Reply → Routine α) (reply : Except Fault c.Reply)
      {calls : List Made} {o : Except Fault α} (rest : Ran (next reply) calls o) :
      Ran (.ask c next) (calls ++ [⟨c, reply⟩]) o

/-- The record of all calls, the latest first, where calls fail with certain faults only. -/
def record (fails : Call → Fault → Prop) : Machine (List Made) where
  admits _ c reply := ∀ fault, reply = .error fault → fails c fault
  after past c reply := ⟨c, reply⟩ :: past

/-- A record reaches the calls made on top of those before. -/
theorem reached_record (past calls : List Made) :
    (record fails).reached past calls = calls ++ past := by
  induction calls with
  | nil => rfl
  | cons made calls ih => exact congrArg (made :: ·) ih

/-- Whatever was done before, what is due holds of the calls that a routine makes and of what it
comes out with. -/
def Performs (fails : Call → Fault → Prop) (due : List Made → Except Fault α → Prop)
    (r : Routine α) : Prop :=
  ∀ past, Secures (record fails) (fun past' o => ∃ calls, past' = calls ++ past ∧ due calls o)
    r past

/-- Two conditions that are secured hold together. -/
theorem Secures.and {σ : Type} {m : Machine σ} {post post' : σ → Except Fault α → Prop}
    {r : Routine α} {s : σ} (first : Secures m post r s) (second : Secures m post' r s) :
    Secures m (fun s o => post s o ∧ post' s o) r s := by
  induction r generalizing s with
  | done a => exact secures_done.mpr ⟨secures_done.mp first, secures_done.mp second⟩
  | fail fault => exact secures_fail.mpr ⟨secures_fail.mp first, secures_fail.mp second⟩
  | ask c next ih =>
      refine secures_ask.mpr fun reply admits => ih reply ?_ ?_
      · exact secures_ask.mp first reply admits
      · exact secures_ask.mp second reply admits

section Performs

variable {due : List Made → Except Fault α → Prop} {r : Routine α}

theorem performs_done {a : α} (holds : due [] (.ok a)) : Performs fails due (.done a) :=
  fun _ => secures_done.mpr ⟨[], rfl, holds⟩

theorem performs_fail {fault : Fault} (holds : due [] (.error fault)) :
    Performs fails due (.fail fault) :=
  fun _ => secures_fail.mpr ⟨[], rfl, holds⟩

theorem performs_ofOutcome {o : Except Fault α} (holds : due [] o) :
    Performs fails due (ofOutcome o) :=
  fun _ => secures_ofOutcome.mpr ⟨[], rfl, holds⟩

theorem Performs.mono {due' : List Made → Except Fault α → Prop} (performs : Performs fails due r)
    (weaker : ∀ calls o, due calls o → due' calls o) : Performs fails due' r :=
  fun past => (performs past).mono fun _ _ ⟨calls, came, holds⟩ =>
    ⟨calls, came, weaker calls _ holds⟩

/-- A call performs what is due after each reply that may come. -/
theorem performs_ask {c : Call} {next : Except Fault c.Reply → Routine α}
    (rest : ∀ reply, (∀ fault, reply = .error fault → fails c fault) →
      Performs fails (fun calls o => due (calls ++ [⟨c, reply⟩]) o) (next reply)) :
    Performs fails due (.ask c next) := by
  refine fun past => secures_ask.mpr fun reply expected => ?_
  refine (rest reply expected _).mono ?_
  rintro _ o ⟨calls, rfl, holds⟩
  exact ⟨calls ++ [Made.mk c reply], List.append_cons calls ⟨c, reply⟩ past, holds⟩

theorem performs_call {c : Call} {due : List Made → Except Fault c.Reply → Prop}
    (holds : ∀ reply, (∀ fault, reply = .error fault → fails c fault) → due [⟨c, reply⟩] reply) :
    Performs fails due (call c) :=
  performs_ask fun reply expected => performs_ofOutcome (holds reply expected)

/-- What every run of a routine is. -/
theorem performs_ran (r : Routine α) : Performs fails (Ran r) r := by
  induction r with
  | done a => exact performs_done (.done a)
  | fail fault => exact performs_fail (.fail fault)
  | ask c next ih =>
      exact performs_ask fun reply _ => (ih reply).mono fun _ _ => .ask c next reply

/-- Two conditions that a routine performs hold of the same runs. -/
theorem Performs.and {due' : List Made → Except Fault α → Prop} (first : Performs fails due r)
    (second : Performs fails due' r) :
    Performs fails (fun calls o => due calls o ∧ due' calls o) r := by
  refine fun past => ((first past).and (second past)).mono ?_
  rintro _ o ⟨⟨calls, rfl, holds⟩, ⟨calls', same, holds'⟩⟩
  rw [List.append_cancel_right_eq] at same
  exact ⟨calls, rfl, holds, same ▸ holds'⟩

/-- A sequence performs what its second part does after its first part. -/
theorem performs_bind {due : List Made → Except Fault β → Prop} {f : α → Routine β}
    (performs : Performs fails (fun calls o =>
      Performs fails (fun later o' => due (later ++ calls) o') (ofOutcome o >>= f)) r) :
    Performs fails due (r >>= f) := by
  refine fun past => secures_bind.mpr ((performs past).mono ?_)
  rintro _ o ⟨calls, rfl, rest⟩
  refine (rest _).mono ?_
  rintro _ o' ⟨later, rfl, holds⟩
  exact ⟨later ++ calls, (List.append_assoc _ _ _).symm, holds⟩

theorem performs_call_bind {due : List Made → Except Fault β → Prop} {c : Call}
    {f : c.Reply → Routine β}
    (rest : ∀ reply, (∀ fault, reply = .error fault → fails c fault) →
      Performs fails (fun later o => due (later ++ [⟨c, reply⟩]) o) (ofOutcome reply >>= f)) :
    Performs fails due (call c >>= f) :=
  performs_bind (performs_call rest)

theorem performs_map {due : List Made → Except Fault β → Prop} {f : α → β}
    (performs : Performs fails (fun calls o => due calls (o.map f)) r) :
    Performs fails due (f <$> r) :=
  fun past => secures_map.mpr (performs past)

theorem performs_outcome {due : List Made → Except Fault (Except Fault α) → Prop}
    (performs : Performs fails (fun calls o => due calls (.ok o)) r) :
    Performs fails due r.outcome :=
  fun past => secures_outcome.mpr (performs past)

/-- A rescue performs what is due of the rescued outcome. -/
theorem performs_rescue {kind : Fault → Bool} {handle : Fault → Routine α}
    (performs : Performs fails (fun calls o =>
      Performs fails (fun later o' => due (later ++ calls) o')
        ((ofOutcome o).rescue kind handle)) r) :
    Performs fails due (r.rescue kind handle) := by
  refine fun past => secures_rescue.mpr ((performs past).mono ?_)
  rintro _ o ⟨calls, rfl, rest⟩
  refine (rest _).mono ?_
  rintro _ o' ⟨later, rfl, holds⟩
  exact ⟨later ++ calls, (List.append_assoc _ _ _).symm, holds⟩

/-- A routine that makes calls of one kind only makes no others. -/
theorem performs_of_only {kind : Call → Bool} {post : Except Fault α → Prop}
    (only : Only kind post r) :
    Performs fails (fun calls o => (∀ made ∈ calls, kind made.call = true) ∧ post o) r := by
  induction r with
  | done a => exact performs_done ⟨List.forall_mem_nil _, follows_done.mp only⟩
  | fail fault => exact performs_fail ⟨List.forall_mem_nil _, follows_fail.mp only⟩
  | ask c next ih =>
      refine performs_ask fun reply _ => ?_
      obtain ⟨_, allowed, rest⟩ := follows_ask.mp only reply
      refine (ih reply rest).mono fun calls o ⟨same, holds⟩ => ⟨fun made mem => ?_, holds⟩
      rcases List.mem_append.mp mem with mem | mem
      · exact same made mem
      · rwa [List.mem_singleton.mp mem]

end Performs

end Routine

namespace Pool

open Routine
open Feed (Made)

variable {κ α : Type} {program : κ → Routine α} {regime : Regime κ α} {π : Pool κ α}

/-- A task that has ended has met what its program performs. -/
theorem due_of_ended {fails : κ → Call → Fault → Prop}
    {due : κ → List Made → Except Fault α → Prop}
    (performs : ∀ k, Performs (fails k) (due k) (program k))
    (expects : ∀ π n k c next reply, π.tasks[n]? = some ⟨k, .ask c next⟩ →
      regime.lets π n c reply → ∀ fault, reply = .error fault → fails k c fault)
    (reaches : Reaches program regime {} π) {n : Nat} {task : Task κ α}
    (found : π.tasks[n]? = some task) {o : Except Fault α} (ended : task.outcome? = some o) :
    due task.name (own π.past n) o := by
  have secures := secures_of_reaches_named (m := fun k => record (fails k))
    (fun k => performs k [])
    (fun π n k c next reply _ asks lets => expects π n k c next reply asks lets) reaches found
  obtain ⟨calls, came, holds⟩ := Task.post_of_outcome? secures ended
  rw [reached_record, List.append_cancel_right_eq] at came
  rwa [came]

end Pool

end LinkShortener
