import LinkShortener.Proofs.Feed.Loop

/-!
What the process holds: the connections and services that its calls have opened and not closed
since. What is held is a matter of the calls alone; what the process remembers of it is the memory
of the process, and the two may differ. The memory accounts for the holdings if nothing is held
that it does not tell about.

Main statements: the parts that are left after one was built or given up (`Memory.has_build`,
`Memory.has_drop`), and which calls leave the holdings as they are (`Holdings.after_of_aloof`).
-/

namespace LinkShortener.Daemon

open Feed (Made)

/-! ### Memory -/

namespace Memory

variable {m : Memory} {p q : Part}

/-- The flags do not tell which parts are built. -/
@[simp] theorem has_mk (settings : Option Settings) (made : List Part)
    (ready keysOpen publishing stopping : Bool) (log : LogSetup) :
    (Memory.mk settings m.parts made ready keysOpen publishing stopping log).has p = m.has p :=
  rfl

/-- Building a part adds it and keeps the others. -/
@[simp] theorem has_build : (m.build q).has p = (p == q || m.has p) := by
  by_cases same : p = q <;> simp [has, build, same]

/-- Giving a part up removes it and keeps the others. -/
@[simp] theorem has_drop : (m.drop q).has p = (p != q && m.has p) := by
  by_cases same : p = q <;> simp [has, drop, same]

/-- There is nothing to give up of a part that was not built. -/
theorem drop_of_absent (absent : m.has p = false) : m.drop p = m := by
  have kept : m.parts.filter (· != p) = m.parts := by
    refine List.filter_eq_self.mpr fun q mem => bne_iff_ne.mpr ?_
    rintro rfl
    rw [has, List.contains_iff_mem.mpr mem] at absent
    cases absent
  rw [drop, kept]

@[simp] theorem keysOpen_build : (m.build p).keysOpen = m.keysOpen := rfl
@[simp] theorem publishing_build : (m.build p).publishing = m.publishing := rfl
@[simp] theorem keysOpen_drop : (m.drop p).keysOpen = m.keysOpen := rfl
@[simp] theorem publishing_drop : (m.drop p).publishing = m.publishing := rfl

/-- The memory after a call. -/
def after (m : Memory) : (c : Call) → Except Fault c.Reply → Memory
  | .process (.remember memory), _ => memory
  | _, _ => m

end Memory

/-- What is remembered after these calls, the latest first. -/
def remembered (past : List Made) : Memory :=
  past.foldr (fun made m => m.after made.call made.reply) {}

/-! ### Holdings -/

/-- What is open or running: connections to the key-value server, producers, atlases, connections to
the column store, feeds, and the database, which is in use from the making of the tables on. -/
structure Holdings where
  keys : Nat := 0
  producers : Nat := 0
  atlases : Nat := 0
  columns : Nat := 0
  feeds : Nat := 0
  database : Bool := false
  deriving DecidableEq, Repr

/-- Whether a call opens or starts something. The database is in use even if the tables could not
be made. -/
def opens : (c : Call) → Except Fault c.Reply → Bool
  | .keys (.connect _), .ok _ | .producer .start, .ok _ | .atlas (.create _), .ok _
  | .columns (.connect ..), .ok _ | .process (.spawnFeed ..), .ok _ | .database .prepare, _ => true
  | _, _ => false

/-- The holdings after a call. Whoever attempts to close something has let it go. Only the feed that
was started last is waited for, so if there are more of them, none is known to have ended. -/
def Holdings.after (h : Holdings) : (c : Call) → Except Fault c.Reply → Holdings
  | .keys (.connect _), .ok _ => { h with keys := h.keys + 1 }
  | .keys .close, _ => { h with keys := h.keys - 1 }
  | .producer .start, .ok _ => { h with producers := h.producers + 1 }
  | .producer .stop, _ => { h with producers := h.producers - 1 }
  | .atlas (.create _), .ok _ => { h with atlases := h.atlases + 1 }
  | .atlas .close, _ => { h with atlases := h.atlases - 1 }
  | .columns (.connect ..), .ok _ => { h with columns := h.columns + 1 }
  | .columns .close, _ => { h with columns := h.columns - 1 }
  | .process (.spawnFeed ..), .ok _ => { h with feeds := h.feeds + 1 }
  | .process (.joinFeed _), _ => { h with feeds := if h.feeds ≤ 1 then 0 else h.feeds }
  | .database .prepare, _ => { h with database := true }
  | .database .dispose, _ => { h with database := false }
  | _, _ => h

/-- Calls that open, close, start or end nothing and are not remembered. -/
def isAloof : Call → Bool
  | .keys (.connect _) | .keys .close | .producer .start | .producer .stop | .atlas (.create _)
  | .atlas .close | .columns (.connect ..) | .columns .close | .database .prepare
  | .database .dispose => false
  | .process (.spawnFeed ..) | .process (.joinFeed _) | .process (.remember _) => false
  | _ => true

/-- The holdings after these calls, the latest first. -/
def holdings (past : List Made) : Holdings :=
  past.foldr (fun made h => h.after made.call made.reply) {}

section After

variable {h : Holdings} {c : Call} {reply : Except Fault c.Reply}

/-- Aloof calls leave the holdings as they are. -/
theorem Holdings.after_of_aloof (aloof : isAloof c = true) : h.after c reply = h := by
  unfold after
  split <;> first | rfl | cases aloof

/-- Where nothing is held, a call that opens nothing leaves it so. -/
theorem Holdings.after_of_opens (closed : opens c reply = false) :
    ({} : Holdings).after c reply = {} := by
  unfold after
  split <;> first | rfl | cases closed

end After

/-- Nothing is held if nothing was opened. -/
theorem holdings_of_unopened {past : List Made}
    (unopened : past.any (fun made => opens made.call made.reply) = false) :
    holdings past = {} := by
  induction past with
  | nil => rfl
  | cons made past ih =>
      rw [List.any_cons, Bool.or_eq_false_iff] at unopened
      change (holdings past).after made.call made.reply = {}
      rw [ih unopened.2]
      exact Holdings.after_of_opens unopened.1

end LinkShortener.Daemon
