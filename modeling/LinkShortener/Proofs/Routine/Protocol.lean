import LinkShortener.Routine.Basic

/-!
Protocols for routines. A protocol says, phase by phase, which calls may be made and which
phases their replies lead to. That a routine follows a protocol is a statement about the routine
alone: it holds whatever the machinery replies, so it serves for a run from beginning to end as
well as for a routine that is suspended between two calls while others go on.

Main statements: following a protocol is composed along `>>=`, `rescue` and `concluding`
(`follows_bind`, `follows_rescue`, `follows_concluding`), and what every allowed call keeps,
a whole run keeps (`Follows.run`).
-/

namespace LinkShortener.Routine

/-- The phases that a call and its reply lead to from a phase. A call that leads nowhere is not
allowed there. -/
abbrev Protocol (φ : Type) := φ → (c : Call) → Except Fault c.Reply → φ → Prop

variable {φ α β : Type} {π : Protocol φ}

/-- A routine follows a protocol from a phase: every call it makes is allowed where it makes it,
whatever came before, and it ends in a phase that fits its outcome. -/
def Follows (π : Protocol φ) (post : φ → Except Fault α → Prop) : Routine α → φ → Prop
  | done a, p => post p (.ok a)
  | fail fault, p => post p (.error fault)
  | ask c next, p => ∀ reply, ∃ q, π p c reply q ∧ Follows π post (next reply) q

@[simp] theorem follows_done {post : φ → Except Fault α → Prop} {a : α} {p : φ} :
    Follows π post (done a) p ↔ post p (.ok a) := Iff.rfl

@[simp] theorem follows_fail {post : φ → Except Fault α → Prop} {fault : Fault} {p : φ} :
    Follows π post (fail fault) p ↔ post p (.error fault) := Iff.rfl

/-- A call follows a protocol if each reply leads on along it. -/
theorem follows_ask {post : φ → Except Fault α → Prop} {c : Call}
    {next : Except Fault c.Reply → Routine α} {p : φ} :
    Follows π post (ask c next) p ↔
      ∀ reply, ∃ q, π p c reply q ∧ Follows π post (next reply) q := Iff.rfl

@[simp] theorem follows_ofOutcome {post : φ → Except Fault α → Prop} {o : Except Fault α}
    {p : φ} : Follows π post (ofOutcome o) p ↔ post p o := by
  cases o <;> rfl

@[simp] theorem follows_call {c : Call} {post : φ → Except Fault c.Reply → Prop} {p : φ} :
    Follows π post (call c) p ↔ ∀ reply, ∃ q, π p c reply q ∧ post q reply := by
  simp only [call, follows_ask, follows_ofOutcome]

/-- A weaker condition at the end is met too. -/
theorem Follows.mono {post post' : φ → Except Fault α → Prop} {r : Routine α}
    (weaker : ∀ q o, post q o → post' q o) {p : φ} (follows : Follows π post r p) :
    Follows π post' r p := by
  induction r generalizing p with
  | done a => exact weaker _ _ follows
  | fail fault => exact weaker _ _ follows
  | ask c next ih =>
      intro reply
      obtain ⟨q, allowed, rest⟩ := follows reply
      exact ⟨q, allowed, ih reply rest⟩

/-- A protocol may be followed as a part of another one. -/
theorem Follows.embed {χ : Type} {ρ : Protocol χ} {post : φ → Except Fault α → Prop}
    {r : Routine α} {p : φ} (follows : Follows π post r p) (embed : φ → χ)
    (allowed : ∀ p c reply q, π p c reply q → ρ (embed p) c reply (embed q)) :
    Follows ρ (fun q o => ∃ p, q = embed p ∧ post p o) r (embed p) := by
  induction r generalizing p with
  | done a => exact ⟨p, rfl, follows⟩
  | fail fault => exact ⟨p, rfl, follows⟩
  | ask c next ih =>
      intro reply
      obtain ⟨q, goes, rest⟩ := follows reply
      exact ⟨embed q, allowed p c reply q goes, ih reply rest⟩

/-! ### Composition -/

/-- A sequence follows a protocol if its first part does and leaves a phase from which the
second part does. -/
theorem follows_bind {post : φ → Except Fault β → Prop} {r : Routine α} {f : α → Routine β}
    {p : φ} : Follows π post (r >>= f) p ↔
      Follows π (fun q o => Follows π post (ofOutcome o >>= f) q) r p := by
  induction r generalizing p with
  | done a => rfl
  | fail fault => rfl
  | ask c next ih =>
      simp only [bind_ask, follows_ask]
      exact forall_congr' fun reply => exists_congr fun q => and_congr_right fun _ => ih reply

theorem follows_call_bind {post : φ → Except Fault β → Prop} {c : Call}
    {f : c.Reply → Routine β} {p : φ} : Follows π post (call c >>= f) p ↔
      ∀ reply, ∃ q, π p c reply q ∧ Follows π post (ofOutcome reply >>= f) q := by
  rw [follows_bind, follows_call]

theorem follows_map {post : φ → Except Fault β → Prop} {r : Routine α} {f : α → β} {p : φ} :
    Follows π post (f <$> r) p ↔ Follows π (fun q o => post q (o.map f)) r p := by
  rw [map_eq_pure_bind, follows_bind]
  constructor <;> refine Follows.mono fun q o => ?_ <;> cases o <;> exact id

theorem follows_outcome {post : φ → Except Fault (Except Fault α) → Prop} {r : Routine α}
    {p : φ} : Follows π post r.outcome p ↔ Follows π (fun q o => post q (.ok o)) r p := by
  induction r generalizing p with
  | done a => rfl
  | fail fault => rfl
  | ask c next ih =>
      simp only [outcome, follows_ask]
      exact forall_congr' fun reply => exists_congr fun q => and_congr_right fun _ => ih reply

/-- A rescue follows a protocol if the rescued outcome does from where the routine came to. -/
theorem follows_rescue {post : φ → Except Fault α → Prop} {r : Routine α} {kind : Fault → Bool}
    {handle : Fault → Routine α} {p : φ} : Follows π post (r.rescue kind handle) p ↔
      Follows π (fun q o => Follows π post ((ofOutcome o).rescue kind handle) q) r p := by
  rw [rescue, follows_bind, follows_outcome]
  constructor <;> refine Follows.mono fun q o => ?_ <;> cases o <;> exact id

/-- A conclusion follows a protocol from where the routine came to. -/
theorem follows_concluding {post : φ → Except Fault α → Prop} {r : Routine α}
    {last : Except Fault α → Routine Unit} {p : φ} : Follows π post (r.concluding last) p ↔
      Follows π (fun q o => Follows π post (last o >>= fun _ => ofOutcome o) q) r p := by
  rw [concluding, follows_bind, follows_outcome]
  rfl

@[simp] theorem rescue_fail (fault : Fault) (kind : Fault → Bool)
    (handle : Fault → Routine α) :
    (fail fault).rescue kind handle = if kind fault then handle fault else fail fault := rfl

@[simp] theorem ofOutcome_ok (a : α) : ofOutcome (.ok a) = done a := rfl

@[simp] theorem ofOutcome_error (fault : Fault) :
    (ofOutcome (.error fault) : Routine α) = fail fault := rfl

/-! ### Calls of one kind -/

/-- A routine makes calls of one kind only, and comes out as said. -/
def Only (kind : Call → Bool) (post : Except Fault α → Prop) (r : Routine α) : Prop :=
  Follows (fun (_ : Unit) c _ _ => kind c = true) (fun _ => post) r ()

/-- A routine makes calls of one kind only. -/
abbrev OnlyCalls (kind : Call → Bool) (r : Routine α) : Prop := Only kind (fun _ => True) r

section Only

variable {kind : Call → Bool} {post : Except Fault α → Prop} {r : Routine α}

theorem only_done {a : α} (holds : post (.ok a)) : Only kind post (done a) :=
  follows_done.mpr holds

theorem only_fail {fault : Fault} (holds : post (.error fault)) : Only kind post (fail fault) :=
  follows_fail.mpr holds

theorem only_ofOutcome {o : Except Fault α} (holds : post o) : Only kind post (ofOutcome o) :=
  follows_ofOutcome.mpr holds

theorem onlyCalls_call {c : Call} (allowed : kind c = true) : OnlyCalls kind (call c) :=
  follows_call.mpr fun _ => ⟨(), allowed, trivial⟩

theorem Only.mono {post' : Except Fault α → Prop} (only : Only kind post r)
    (weaker : ∀ o, post o → post' o) : Only kind post' r :=
  Follows.mono (fun _ => weaker) only

/-- A wider kind of calls is allowed too. -/
theorem Only.widen {kind' : Call → Bool} (only : Only kind post r)
    (wider : ∀ c, kind c = true → kind' c = true) : Only kind' post r :=
  (Follows.embed only id fun _ c _ _ => wider c).mono fun _ _ ⟨_, _, holds⟩ => holds

theorem Only.outcome {post : Except Fault (Except Fault α) → Prop}
    (only : Only kind (fun o => post (.ok o)) r) : Only kind post r.outcome :=
  follows_outcome.mpr only

/-- A sequence comes out as said if its second part does and failures are as said. -/
theorem Only.then {post : Except Fault β → Prop} {f : α → Routine β} (first : OnlyCalls kind r)
    (fails : ∀ fault, post (.error fault)) (rest : ∀ a, Only kind post (f a)) :
    Only kind post (r >>= f) := by
  refine follows_bind.mpr (Follows.mono ?_ first)
  intro _ o _
  cases o with
  | ok a => exact rest a
  | error fault => exact only_fail (fails fault)

theorem Only.bind {f : α → Routine β} (first : OnlyCalls kind r)
    (rest : ∀ a, OnlyCalls kind (f a)) : OnlyCalls kind (r >>= f) :=
  first.then (fun _ => trivial) rest

theorem Only.rescue {kind' : Fault → Bool} {handle : Fault → Routine α}
    (first : OnlyCalls kind r) (handles : ∀ fault, OnlyCalls kind (handle fault)) :
    OnlyCalls kind (r.rescue kind' handle) := by
  refine follows_rescue.mpr (Follows.mono ?_ first)
  intro _ o _
  cases o with
  | ok a => exact only_done trivial
  | error fault =>
      rw [ofOutcome_error, rescue_fail]
      split
      · exact handles fault
      · exact only_fail trivial

end Only

/-! ### Whole runs -/

theorem run_ofOutcome {σ : Type} (perform : Performer σ) (o : Except Fault α) (s : σ) :
    (ofOutcome o).run perform s = (o, s) := by
  cases o <;> rfl

theorem run_call {σ : Type} (perform : Performer σ) (c : Call) (s : σ) :
    (call c).run perform s = perform c s := by
  exact run_ofOutcome perform (perform c s).1 (perform c s).2

/-- A sequence runs its second part from where the first one came to. -/
theorem run_bind {σ : Type} (perform : Performer σ) (r : Routine α) (f : α → Routine β) (s : σ) :
    (r >>= f).run perform s =
      (ofOutcome (r.run perform s).1 >>= f).run perform (r.run perform s).2 := by
  induction r generalizing s with
  | done a => rfl
  | fail fault => rfl
  | ask c next ih => exact ih _ _

theorem run_outcome {σ : Type} (perform : Performer σ) (r : Routine α) (s : σ) :
    r.outcome.run perform s = (.ok (r.run perform s).1, (r.run perform s).2) := by
  induction r generalizing s with
  | done a => rfl
  | fail fault => rfl
  | ask c next ih => exact ih _ _

theorem run_rescue {σ : Type} (perform : Performer σ) (r : Routine α) (kind : Fault → Bool)
    (handle : Fault → Routine α) (s : σ) : (r.rescue kind handle).run perform s =
      ((ofOutcome (r.run perform s).1).rescue kind handle).run perform (r.run perform s).2 := by
  rw [rescue, run_bind, run_outcome, ofOutcome_ok, bind_done]
  cases (r.run perform s).1 <;> rfl

/-- What every allowed call keeps, a run keeps. The invariant may speak of what is left of the
routine; at the end nothing is left but the outcome. -/
theorem Follows.run {σ : Type} {post : φ → Except Fault α → Prop} (perform : Performer σ)
    (inv : φ → Routine α → σ → Prop)
    (step : ∀ p c next s q, inv p (ask c next) s → π p c (perform c s).1 q →
      inv q (next (perform c s).1) (perform c s).2)
    {r : Routine α} {p : φ} (follows : Follows π post r p) {s : σ} (holds : inv p r s) :
    ∃ q, post q (r.run perform s).1 ∧
      inv q (ofOutcome (r.run perform s).1) (r.run perform s).2 := by
  induction r generalizing p s with
  | done a => exact ⟨p, follows, holds⟩
  | fail fault => exact ⟨p, follows, holds⟩
  | ask c next ih =>
      obtain ⟨q, allowed, rest⟩ := follows (perform c s).1
      exact ih _ rest (step p c next s q holds allowed)

-- What a routine follows is settled by the lemmas above, not by running it.
attribute [irreducible] Follows

end LinkShortener.Routine
