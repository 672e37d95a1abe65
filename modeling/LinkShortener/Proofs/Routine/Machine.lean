import LinkShortener.Proofs.Feed.Loop

/-!
Machines that keep account of calls. A machine has a state that every call changes by its reply,
and it says which replies are to be expected in which state. A routine secures a condition on a
machine if the condition holds at its end, whichever of these replies came; nothing is said of a
routine that got another reply.

Main statements: securing is composed along `>>=`, `rescue` and `concluding` (`secures_bind`,
`secures_rescue`, `secures_concluding`).
-/

namespace LinkShortener.Routine

open Feed (Made)

/-- What calls do to a state, and which replies are expected there. -/
structure Machine (σ : Type) where
  admits : σ → (c : Call) → Except Fault c.Reply → Prop
  after : σ → (c : Call) → Except Fault c.Reply → σ

def Machine.reached {σ : Type} (m : Machine σ) (s : σ) (past : List Made) : σ :=
  past.foldr (fun made s => m.after s made.call made.reply) s

variable {σ α β : Type} {m : Machine σ}

/-- The condition holds at the end of a routine, whichever expected replies came. -/
def Secures (m : Machine σ) (post : σ → Except Fault α → Prop) : Routine α → σ → Prop
  | done a, s => post s (.ok a)
  | fail fault, s => post s (.error fault)
  | ask c next, s => ∀ reply, m.admits s c reply → Secures m post (next reply) (m.after s c reply)

section Secures

variable {post : σ → Except Fault α → Prop} {s : σ}

@[simp] theorem secures_done {a : α} : Secures m post (done a) s ↔ post s (.ok a) := Iff.rfl

@[simp] theorem secures_fail {fault : Fault} :
    Secures m post (fail fault) s ↔ post s (.error fault) := Iff.rfl

/-- A call secures what each admitted reply leads to. -/
theorem secures_ask {c : Call} {next : Except Fault c.Reply → Routine α} :
    Secures m post (ask c next) s ↔
      ∀ reply, m.admits s c reply → Secures m post (next reply) (m.after s c reply) := Iff.rfl

@[simp] theorem secures_ofOutcome {o : Except Fault α} :
    Secures m post (ofOutcome o) s ↔ post s o := by
  cases o <;> rfl

theorem secures_call {c : Call} {post : σ → Except Fault c.Reply → Prop} :
    Secures m post (call c) s ↔ ∀ reply, m.admits s c reply → post (m.after s c reply) reply := by
  simp only [call, secures_ask, secures_ofOutcome]

/-- A weaker condition is secured too. -/
theorem Secures.mono {post' : σ → Except Fault α → Prop} {r : Routine α}
    (secures : Secures m post r s) (weaker : ∀ s o, post s o → post' s o) :
    Secures m post' r s := by
  induction r generalizing s with
  | done a => exact weaker _ _ secures
  | fail fault => exact weaker _ _ secures
  | ask c next ih => exact fun reply admits => ih reply (secures reply admits)

/-- What always holds is secured. -/
theorem secures_of_forall {r : Routine α} (always : ∀ s o, post s o) : Secures m post r s := by
  induction r generalizing s with
  | done a => exact always _ _
  | fail fault => exact always _ _
  | ask c next ih => exact fun reply _ => ih reply

end Secures

/-! ### Composition -/

section Composition

variable {s : σ}

/-- A sequence secures what its second part secures after the first one. -/
theorem secures_bind {post : σ → Except Fault β → Prop} {r : Routine α} {f : α → Routine β} :
    Secures m post (r >>= f) s ↔
      Secures m (fun s o => Secures m post (ofOutcome o >>= f) s) r s := by
  induction r generalizing s with
  | done a => rfl
  | fail fault => rfl
  | ask c next ih =>
      simp only [bind_ask, secures_ask]
      exact forall_congr' fun reply => imp_congr_right fun _ => ih reply

theorem secures_call_bind {post : σ → Except Fault β → Prop} {c : Call}
    {f : c.Reply → Routine β} : Secures m post (call c >>= f) s ↔
      ∀ reply, m.admits s c reply → Secures m post (ofOutcome reply >>= f) (m.after s c reply) := by
  rw [secures_bind, secures_call]

theorem secures_map {post : σ → Except Fault β → Prop} {r : Routine α} {f : α → β} :
    Secures m post (f <$> r) s ↔ Secures m (fun s o => post s (o.map f)) r s := by
  rw [map_eq_pure_bind, secures_bind]
  constructor <;> refine fun secures => secures.mono fun s o => ?_ <;> cases o <;> exact id

/-- A routine whose outcome is taken never fails. -/
theorem secures_outcome {post : σ → Except Fault (Except Fault α) → Prop} {r : Routine α} :
    Secures m post r.outcome s ↔ Secures m (fun s o => post s (.ok o)) r s := by
  induction r generalizing s with
  | done a => rfl
  | fail fault => rfl
  | ask c next ih =>
      simp only [outcome, secures_ask]
      exact forall_congr' fun reply => imp_congr_right fun _ => ih reply

/-- A rescue secures what the rescued outcome secures. -/
theorem secures_rescue {post : σ → Except Fault α → Prop} {r : Routine α} {kind : Fault → Bool}
    {handle : Fault → Routine α} : Secures m post (r.rescue kind handle) s ↔
      Secures m (fun s o => Secures m post ((ofOutcome o).rescue kind handle) s) r s := by
  rw [rescue, secures_bind, secures_outcome]
  constructor <;> refine fun secures => secures.mono fun s o => ?_ <;> cases o <;> exact id

/-- A conclusion is secured after whatever came before it. -/
theorem secures_concluding {post : σ → Except Fault α → Prop} {r : Routine α}
    {last : Except Fault α → Routine Unit} : Secures m post (r.concluding last) s ↔
      Secures m (fun s o => Secures m post (last o >>= fun _ => ofOutcome o) s) r s := by
  rw [concluding, secures_bind, secures_outcome]
  rfl

/-- What every call of a kind keeps is kept by a routine that makes no other calls. -/
theorem secures_of_onlyCalls {kind : Call → Bool} {keeps : σ → Prop} {r : Routine α}
    (only : OnlyCalls kind r)
    (step : ∀ s c reply, kind c = true → keeps s → keeps (m.after s c reply)) (holds : keeps s) :
    Secures m (fun s _ => keeps s) r s := by
  induction r generalizing s with
  | done a => exact holds
  | fail fault => exact holds
  | ask c next ih =>
      refine fun reply _ => ?_
      obtain ⟨_, allowed, rest⟩ := follows_ask.mp only reply
      exact ih reply rest (step s c reply allowed holds)

end Composition

/-! ### Smooth replies -/

/-- Nothing fails, nothing is found, and a feed that is waited for has ended in time. -/
def smooth : (c : Call) → Except Fault c.Reply
  | .database (.readBack id) => .ok ⟨id, "", "", Bench.clock 0, Bench.clock 0⟩
  | .database (.findLink _) | .database (.retargetLink ..) | .database .lastId => .ok none
  | .database (.deleteLink _) | .database (.countClicks _) => .ok 0
  | .database (.groupClicks ..) => .ok []
  | .database .prepare | .database .connect | .database (.insertLink ..) | .database .probe
  | .database (.insertClick _) | .database .dispose => .ok ()
  | .keys (.get _) => .ok none
  | .keys (.delete _) => .ok 0
  | .keys (.increment _) => .ok 1
  | .keys (.connect _) | .keys (.set ..) | .keys .ping | .keys .close => .ok ()
  | .producer _ => .ok ()
  | .consumer (.poll ..) => .ok []
  | .consumer (.create ..) | .consumer .start | .consumer (.commit _) | .consumer .stop => .ok ()
  | .columns (.countClicks _) | .columns (.groupClicks ..) => .ok (.list [])
  | .columns (.connect ..) | .columns .createTable | .columns (.insert _) => .ok ()
  | .columns .close => .ok ()
  | .atlas (.locate _) => .ok ⟨none, none⟩
  | .atlas (.create _) | .atlas .close => .ok ()
  | .process .now => .ok (Bench.clock 0)
  | .process .freshEvent | .process .freshRequest => .ok ""
  | .process .recollect => .ok {}
  | .process (.joinFeed _) => .ok true
  | .process (.awaitStop _) => .ok true
  | .process (.page _) => .ok ⟨"", ""⟩
  | .process (.log _) | .process (.count _) | .process (.remember _)
  | .process (.handOff _) | .process (.spawnFeed ..) | .process (.serveMeters _) => .ok ()

theorem of_smooth_error {P : Call → Fault → Prop} (c : Call) (fault : Fault)
    (failed : smooth c = .error fault) : P c fault := by
  unfold smooth at failed
  split at failed <;> cases failed

-- What a routine secures is settled by the lemmas above, not by running it.
attribute [irreducible] Secures

end LinkShortener.Routine
