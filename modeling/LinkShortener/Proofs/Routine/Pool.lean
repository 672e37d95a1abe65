import LinkShortener.Proofs.Routine.Machine
import Mathlib.Algebra.BigOperators.Fin
import Mathlib.Algebra.BigOperators.Ring.Finset

/-!
Pools of tasks. A task is a routine that is suspended before its next call; it has a name, which
says what it does. In one step of a pool a task enters, or one task makes one call and goes on with
the reply. Tasks interleave between any two calls. A regime says who may enter when, and which
replies may come to which call. The past of a pool is the list of all calls with their replies, the
latest first, each by the number of the task that made it.

Main statements: what a machine is told by the calls of one task alone, the task secures in every
reachable pool (`secures_of_reaches`); and where the calls of a task amount to one or to nothing,
the past amounts to a number of tasks (`eq_tally`).
-/

namespace LinkShortener

open Routine
open Feed (Made)

/-- A task and what is left of it. -/
structure Pool.Task (κ α : Type) where
  name : κ
  rest : Routine α

/-- The tasks that have entered and the calls that they made, the latest first. -/
structure Pool (κ α : Type) where
  tasks : List (Pool.Task κ α) := []
  past : List (Nat × Made) := []

namespace Pool

variable {κ α : Type}

def Task.outcome? (task : Task κ α) : Option (Except Fault α) :=
  match task.rest with
  | .done a => some (.ok a)
  | .fail fault => some (.error fault)
  | .ask _ _ => none

/-- What a task secures holds of what came of it. -/
theorem Task.post_of_outcome? {σ : Type} {m : Machine σ} {task : Task κ α}
    {post : σ → Except Fault α → Prop} {s : σ} (secures : Secures m post task.rest s)
    {o : Except Fault α} (ended : task.outcome? = some o) : post s o := by
  unfold outcome? at ended
  split at ended <;> rename_i rest <;> cases ended
  · rwa [rest, secures_done] at secures
  · rwa [rest, secures_fail] at secures

/-- Who may enter a pool, and which reply may come to a call that a task makes. -/
structure Regime (κ α : Type) where
  admits : Pool κ α → κ → Prop
  lets : Pool κ α → Nat → (c : Call) → Except Fault c.Reply → Prop

def enter (program : κ → Routine α) (π : Pool κ α) (k : κ) : Pool κ α :=
  { π with tasks := π.tasks ++ [⟨k, program k⟩] }

def reply (π : Pool κ α) (n : Nat) (k : κ) (c : Call) (reply : Except Fault c.Reply)
    (rest : Routine α) : Pool κ α :=
  ⟨π.tasks.set n ⟨k, rest⟩, (n, ⟨c, reply⟩) :: π.past⟩

/-- One step: a task enters, or one task makes one call. -/
inductive Steps (program : κ → Routine α) (regime : Regime κ α) : Pool κ α → Pool κ α → Prop
  | enter (π : Pool κ α) (k : κ) (admitted : regime.admits π k) :
      Steps program regime π (π.enter program k)
  | call (π : Pool κ α) (n : Nat) (k : κ) (c : Call) (next : Except Fault c.Reply → Routine α)
      (reply : Except Fault c.Reply) (found : π.tasks[n]? = some ⟨k, .ask c next⟩)
      (lets : regime.lets π n c reply) :
      Steps program regime π (π.reply n k c reply (next reply))

abbrev Reaches (program : κ → Routine α) (regime : Regime κ α) : Pool κ α → Pool κ α → Prop :=
  Relation.ReflTransGen (Steps program regime)

/-- The calls that all tasks made. -/
abbrev whole (past : List (Nat × Made)) : List Made := past.map Prod.snd

/-- The calls that one task made. -/
def own (past : List (Nat × Made)) (n : Nat) : List Made := whole (past.filter (·.1 == n))

/-- Whether others may go before a task: it has not begun or has ended, or it is suspended, be it
that its next call is still to be answered or that its last one was just answered. -/
def rests (π : Pool κ α) (n : Nat) : Bool :=
  match π.tasks[n]? with
  | some ⟨_, .ask c _⟩ => c.suspends || (own π.past n).head?.all fun made => made.call.suspends
  | _ => true

variable {program : κ → Routine α} {regime : Regime κ α} {π : Pool κ α}

theorem own_cons_self (n : Nat) (made : Made) (past : List (Nat × Made)) :
    own ((n, made) :: past) n = made :: own past n := by
  simp [own]

theorem own_cons_of_ne {n m : Nat} (other : n ≠ m) (made : Made) (past : List (Nat × Made)) :
    own ((n, made) :: past) m = own past m := by
  simp [own, other]

/-- Calls are made by tasks that have entered. -/
theorem lt_of_reaches (reaches : Reaches program regime {} π) :
    ∀ e ∈ π.past, e.1 < π.tasks.length := by
  induction reaches with
  | refl => exact fun e mem => by cases mem
  | tail _ steps ih =>
      cases steps with
      | enter k =>
          intro e mem
          have before := ih e mem
          simp only [enter, List.length_append, List.length_singleton]
          omega
      | call n k c next reply found =>
          intro e mem
          simp only [Pool.reply, List.length_set]
          rcases List.mem_cons.mp mem with rfl | mem
          · exact (List.getElem?_eq_some_iff.mp found).1
          · exact ih e mem

theorem own_eq_nil {n : Nat} (entered : ∀ e ∈ π.past, e.1 < π.tasks.length)
    (beyond : π.tasks.length ≤ n) : own π.past n = [] := by
  refine List.map_eq_nil_iff.mpr (List.filter_eq_nil_iff.mpr fun e mem => ?_)
  have := entered e mem
  simp only [beq_iff_eq]
  omega

/-- Who has made a call has entered before whoever enters now. -/
theorem getElem?_enter_of_begun (reaches : Reaches program regime {} π) {n : Nat} {k : κ}
    (begun : own π.past n ≠ []) : (π.enter program k).tasks[n]? = π.tasks[n]? := by
  refine List.getElem?_append_left (Nat.lt_of_not_le fun beyond => begun ?_)
  exact own_eq_nil (lt_of_reaches reaches) beyond

/-- A task that has made no call is as it entered. -/
theorem rest_of_own_nil (reaches : Reaches program regime {} π) {n : Nat} {task : Task κ α}
    (found : π.tasks[n]? = some task) (fresh : own π.past n = []) :
    task.rest = program task.name := by
  induction reaches generalizing n task with
  | refl => simp at found
  | @tail before _ reaches steps ih =>
      cases steps with
      | enter k =>
          simp only [enter] at found fresh
          by_cases old : n < before.tasks.length
          · rw [List.getElem?_append_left old] at found
            exact ih found fresh
          · rw [List.getElem?_append_right (Nat.not_lt.mp old)] at found
            cases (List.mem_singleton.mp (List.mem_of_getElem? found))
            rfl
      | call acts k c next answer asks =>
          simp only [reply] at found fresh
          by_cases same : acts = n
          · subst same
            rw [own_cons_self] at fresh
            cases fresh
          · rw [List.getElem?_set_ne same] at found
            rw [own_cons_of_ne same] at fresh
            exact ih found fresh

/-- A task secures of its own calls what its program does, if the regime lets only those replies
come to it that the machine for its name admits. -/
theorem secures_of_reaches_named {σ : Type} {m : κ → Machine σ} {s : σ}
    {post : κ → σ → Except Fault α → Prop} (first : ∀ k, Secures (m k) (post k) (program k) s)
    (expects : ∀ π n k c next reply, Reaches program regime {} π →
      π.tasks[n]? = some ⟨k, .ask c next⟩ → regime.lets π n c reply →
      (m k).admits ((m k).reached s (own π.past n)) c reply)
    (reaches : Reaches program regime {} π) {n : Nat} {task : Task κ α}
    (found : π.tasks[n]? = some task) :
    Secures (m task.name) (post task.name) task.rest ((m task.name).reached s (own π.past n)) := by
  induction reaches generalizing n task with
  | refl => simp at found
  | @tail before _ reaches steps ih =>
      cases steps with
      | enter k =>
          simp only [enter] at found ⊢
          by_cases old : n < before.tasks.length
          · rw [List.getElem?_append_left old] at found
            exact ih found
          · rw [List.getElem?_append_right (Nat.not_lt.mp old)] at found
            cases (List.mem_singleton.mp (List.mem_of_getElem? found))
            rw [own_eq_nil (lt_of_reaches reaches) (Nat.not_lt.mp old)]
            exact first k
      | call acts k c next answer asks lets =>
          simp only [reply] at found ⊢
          by_cases same : acts = n
          · subst same
            have inside := (List.getElem?_eq_some_iff.mp asks).1
            rw [List.getElem?_set_self inside] at found
            cases found
            rw [own_cons_self]
            exact secures_ask.mp (ih asks) answer (expects _ _ _ _ _ _ reaches asks lets)
          · rw [List.getElem?_set_ne same] at found
            rw [own_cons_of_ne same]
            exact ih found

/-- A task secures of its own calls what its program does, if the regime lets only those replies
come to it that the machine admits. -/
theorem secures_of_reaches {σ : Type} {m : Machine σ} {s : σ}
    {post : κ → σ → Except Fault α → Prop} (first : ∀ k, Secures m (post k) (program k) s)
    (expects : ∀ π n k c next reply, Reaches program regime {} π →
      π.tasks[n]? = some ⟨k, .ask c next⟩ → regime.lets π n c reply →
      m.admits (m.reached s (own π.past n)) c reply)
    (reaches : Reaches program regime {} π) {n : Nat} {task : Task κ α}
    (found : π.tasks[n]? = some task) :
    Secures m (post task.name) task.rest (m.reached s (own π.past n)) :=
  secures_of_reaches_named first expects reaches found

/-! ### Counting -/

/-- How many tasks are of a kind, which may depend on their numbers. -/
def tally (π : Pool κ α) (kind : Nat → Task κ α → Bool) : Nat :=
  π.tasks.zipIdx.countP fun (task, n) => kind n task

/-- What calls amount to adds up from the tasks that made them. -/
def Adds (f : List Made → Nat) : Prop :=
  ∀ (past : List (Nat × Made)) (bound : Nat), (∀ e ∈ past, e.1 < bound) →
    f (whole past) = ∑ n ∈ Finset.range bound, f (own past n)

theorem adds_countP (p : Made → Bool) : Adds (List.countP p) := by
  intro past bound entered
  induction past with
  | nil => simp [own]
  | cons e past ih =>
      have rest := ih fun e' mem => entered e' (List.mem_cons_of_mem _ mem)
      have split : ∀ n, (own (e :: past) n).countP p =
          (own past n).countP p + if n = e.1 then (p e.2).toNat else 0 := by
        intro n
        by_cases same : n = e.1
        · subst same
          cases holds : p e.2 <;> simp [own, holds]
        · simp [own, same, Ne.symm same]
      rw [Finset.sum_congr rfl fun n _ => split n, Finset.sum_add_distrib, ← rest,
        Finset.sum_ite_eq' (Finset.range bound),
        if_pos (Finset.mem_range.mpr (entered e (List.mem_cons_self)))]
      cases holds : p e.2 <;> simp [holds]

theorem Adds.add {f g : List Made → Nat} (first : Adds f) (second : Adds g) :
    Adds fun past => f past + g past := by
  intro past bound entered
  rw [Finset.sum_add_distrib, ← first past bound entered, ← second past bound entered]

/-- A tally is a sum over the tasks. -/
theorem tally_eq_sum (π : Pool κ α) (kind : Nat → Task κ α → Bool) :
    π.tally kind = ∑ n ∈ Finset.range π.tasks.length,
      (π.tasks[n]?.elim 0 fun task => (kind n task).toNat) := by
  obtain ⟨tasks, past⟩ := π
  induction tasks using List.reverseRecOn with
  | nil => rfl
  | append_singleton tasks task ih =>
      simp only [tally] at ih ⊢
      rw [List.zipIdx_append, List.countP_append, ih, List.length_append, List.length_singleton,
        Finset.sum_range_succ]
      congr 1
      · refine Finset.sum_congr rfl fun n mem => ?_
        rw [List.getElem?_append_left (Finset.mem_range.mp mem)]
      · cases holds : kind tasks.length task <;> simp [holds]

/-- If the calls of every task amount to one or to nothing, depending on its kind, then the past
amounts to the number of tasks of that kind. -/
theorem eq_tally {f : List Made → Nat} (adds : Adds f) {kind : Nat → Task κ α → Bool}
    (reaches : Reaches program regime {} π)
    (amounts : ∀ n task, π.tasks[n]? = some task → f (own π.past n) = (kind n task).toNat) :
    f (whole π.past) = π.tally kind := by
  rw [adds π.past _ (lt_of_reaches reaches), tally_eq_sum]
  refine Finset.sum_congr rfl fun n mem => ?_
  have found := List.getElem?_eq_getElem (Finset.mem_range.mp mem)
  rw [amounts n _ found, found]
  rfl

/-- What amounts to the same for every task amounts to the same for the past. -/
theorem eq_of_own {f g : List Made → Nat} (first : Adds f) (second : Adds g)
    (reaches : Reaches program regime {} π)
    (same : ∀ n task, π.tasks[n]? = some task → f (own π.past n) = g (own π.past n)) :
    f (whole π.past) = g (whole π.past) := by
  have entered := lt_of_reaches reaches
  rw [first π.past _ entered, second π.past _ entered]
  refine Finset.sum_congr rfl fun n mem => ?_
  exact same n _ (List.getElem?_eq_getElem (Finset.mem_range.mp mem))

/-- What the tasks come to, each by its weight. -/
def total (π : Pool κ α) (weight : Task κ α → Nat) : Nat := (π.tasks.map weight).sum

/-- If the calls of every task amount to its weight, then the past amounts to the total. -/
theorem eq_total {f : List Made → Nat} (adds : Adds f) {weight : Task κ α → Nat}
    (reaches : Reaches program regime {} π)
    (amounts : ∀ n task, π.tasks[n]? = some task → f (own π.past n) = weight task) :
    f (whole π.past) = π.total weight := by
  rw [adds π.past _ (lt_of_reaches reaches), Finset.sum_range, total,
    ← Fin.sum_univ_fun_getElem]
  exact Finset.sum_congr rfl fun n _ => amounts n _ (List.getElem?_eq_getElem n.isLt)

/-! ### Playing -/

/-- Lets a task make its next call, if it has one, with the reply that is given for it. -/
def answer (replies : (c : Call) → Except Fault c.Reply) (π : Pool κ α) (n : Nat) : Pool κ α :=
  match π.tasks[n]? with
  | some ⟨k, .ask c next⟩ => π.reply n k c (replies c) (next (replies c))
  | _ => π

/-- A task may be answered with any reply that the regime lets come. -/
theorem Reaches.answer {π₀ : Pool κ α} (reaches : Reaches program regime π₀ π)
    {replies : (c : Call) → Except Fault c.Reply} {n : Nat}
    (lets : ∀ c, regime.lets π n c (replies c)) :
    Reaches program regime π₀ (π.answer replies n) := by
  unfold Pool.answer
  split
  · rename_i k c next found
    exact reaches.tail (.call π n k c next _ found (lets c))
  · exact reaches

theorem Reaches.answers {π₀ : Pool κ α} {replies : (c : Call) → Except Fault c.Reply}
    (lets : ∀ π n c, regime.lets π n c (replies c)) (reaches : Reaches program regime π₀ π)
    (tasks : List Nat) : Reaches program regime π₀ (tasks.foldl (Pool.answer replies) π) := by
  induction tasks generalizing π with
  | nil => exact reaches
  | cons n rest ih => exact ih (reaches.answer (lets π n))

theorem Reaches.enter {π₀ : Pool κ α} (reaches : Reaches program regime π₀ π) {k : κ}
    (admitted : regime.admits π k) : Reaches program regime π₀ (π.enter program k) :=
  reaches.tail (.enter π k admitted)

end Pool

end LinkShortener
