import LinkShortener.Bench.Lifetime
import LinkShortener.Proofs.Daemon.Steward
import LinkShortener.Proofs.Feed.Stint
import LinkShortener.Proofs.Web.Conduct

/-!
The process that the service runs in. Its manager does one deed after the other. A feed that a deed
has started runs in the background, and takes its calls between any two calls of the deeds; so do
the requests that are served meanwhile, which keep aloof (`Web.aloof_serve`). A regime says which
deeds there are and what may fail.

The manager knows its feed only from memory and from waiting for it. `Linked` is what ties this to
the feed itself: what is counted as held bounds what may still run, what was learnt by waiting is
what the feed has come to, and a feed that was bidden to end was asked to.

Main statement: what each deed secures of the steward holds between any two deeds of the process,
whatever the background does meanwhile (`keeps_of_reaches`).
-/

namespace LinkShortener

open Routine

/-- Requests open and close nothing that the process holds, and change no memory. -/
theorem Web.aloof_serve (settings : Settings) (r : Web.Request) :
    OnlyCalls Daemon.isAloof (Web.serve settings r) := by
  obtain ⟨p, -, follows⟩ := Web.conducts_serve settings r
  refine (follows.embed (fun _ => ()) fun p c reply q conducts => ?_).mono fun _ _ _ => trivial
  cases conducts with
  | directory advances =>
      cases advances with
      | noted _ _ incidental | unnoted _ _ incidental => cases incidental <;> rfl
      | _ => rfl
  | aside _ c reply aside =>
      unfold Daemon.isAloof
      split <;> first | rfl | cases aside

namespace Daemon

open Feed (Made Phase stint)

/-! ### The process -/

/-- What the manager is made to do. -/
inductive Deed
  | startUp
  | shutDown
  | work
  | buildAll
  | provide
  | release
  deriving DecidableEq, Repr

def Deed.routine (settings : Settings) : Deed → Routine Unit
  | startUp => Daemon.startUp settings
  | shutDown => Daemon.shutDown
  | work => Daemon.work settings
  | buildAll => Daemon.buildAll settings
  | provide => (fun _ => ()) <$> Daemon.provide settings
  | release => Daemon.release

abbrev History := List (Deed × Except Fault Unit)

/-- A feed in the background: what is left of it, and the calls that it made, the latest first. -/
structure Background where
  rest : Routine Phase
  past : List Made := []

/-- What a feed has come to, if it has ended; one that was broken off did not end in time. -/
def Background.verdict? (b : Background) : Option (Except Fault Bool) :=
  match b.rest with
  | .done (.ended none) => some (.ok true)
  | .done (.ended (some .cancelled)) => some (.ok false)
  | .done (.ended (some fault)) => some (.error fault)
  | .fail fault => some (.error fault)
  | _ => none

/-- The process: the deeds that were done, the one that is being done, the feeds in the background,
all calls that were made, and whether the feed was signalled to stop from outside. Of feeds and
calls the latest come first. -/
structure Process where
  finished : History := []
  current : Option (Deed × Routine Unit) := none
  feeds : List Background := []
  past : List Made := []
  signalled : Bool := false

/-- Which deeds are done with which settings, how calls of the deeds fail, whether the bus only
fails with outages where the feed calls it, and how many turns a feed takes at most. -/
structure Regime where
  settings : Settings
  admits : History → Deed → Prop
  fails : Call → Fault → Prop
  tame : Bool
  patience : Nat

namespace Process

def memory (p : Process) : Memory := remembered p.past

def held (p : Process) : Holdings := holdings p.past

def running (p : Process) : Nat := p.feeds.countP fun b => b.verdict?.isNone

/-- The replies that may come to a call of a deed. Who waits for the feed gets to know what the one
that was started last has come to. -/
def Lets (ρ : Regime) (p : Process) : (c : Call) → Except Fault c.Reply → Prop
  | .process .recollect, reply => reply = .ok p.memory
  | .process (.joinFeed _), reply => ∃ b, p.feeds.head? = some b ∧ b.verdict? = some reply
  | c, reply => ∀ fault, reply = .error fault → isRisky c = true ∧ ρ.fails c fault

/-- The replies that may come to a call of a feed, which is broken off only after the feed was asked
to stop. -/
def LetsFeed (ρ : Regime) (p : Process) : (c : Call) → Except Fault c.Reply → Prop
  | .process .recollect, reply =>
    reply = .ok { p.memory with stopping := p.memory.stopping || p.signalled }
  | c, reply => ∀ fault, reply = .error fault → isRisky c = true ∧
    (ρ.tame = true → Feed.IsTame c fault) ∧ (fault = .cancelled → p.memory.stopping = true)

/-- The process after a call of a deed, which may start a feed. -/
def after (ρ : Regime) (p : Process) : Call → Process
  | .process (.spawnFeed consumer backend) =>
    { p with
      feeds := ⟨Feed.turns consumer (Bench.Task.processor ⟨consumer, backend, .ready .connecting⟩)
        ρ.patience .connecting, []⟩ :: p.feeds
      signalled := false }
  | _ => p

/-- One step: a deed is begun, makes a call or is finished, a feed makes a call, a request that is
served meanwhile makes one, or the worker is signalled to stop. -/
inductive Steps (ρ : Regime) : Process → Process → Prop
  | begin (p : Process) (d : Deed) (idle : p.current = none) (admitted : ρ.admits p.finished d) :
      Steps ρ p { p with current := some (d, d.routine ρ.settings) }
  | finish (p : Process) (d : Deed) (o : Except Fault Unit)
      (ended : p.current = some (d, ofOutcome o)) :
      Steps ρ p { p with finished := (d, o) :: p.finished, current := none }
  | call (p : Process) (d : Deed) (c : Call) (next : Except Fault c.Reply → Routine Unit)
      (reply : Except Fault c.Reply) (asks : p.current = some (d, .ask c next))
      (lets : p.Lets ρ c reply) :
      Steps ρ p { p.after ρ c with current := some (d, next reply), past := ⟨c, reply⟩ :: p.past }
  | feed (p : Process) (n : Nat) (past : List Made) (c : Call)
      (next : Except Fault c.Reply → Routine Phase) (reply : Except Fault c.Reply)
      (found : p.feeds[n]? = some ⟨.ask c next, past⟩) (lets : p.LetsFeed ρ c reply) :
      Steps ρ p { p with
        feeds := p.feeds.set n ⟨next reply, ⟨c, reply⟩ :: past⟩, past := ⟨c, reply⟩ :: p.past }
  | request (p : Process) (c : Call) (reply : Except Fault c.Reply) (aloof : isAloof c = true) :
      Steps ρ p { p with past := ⟨c, reply⟩ :: p.past }
  | signal (p : Process) (rest : Routine Unit) (works : p.current = some (.work, rest)) :
      Steps ρ p { p with signalled := true }

abbrev Reaches (ρ : Regime) : Process → Process → Prop := Relation.ReflTransGen (Steps ρ)

/-- The steward after the calls of the process. -/
def steward (p : Process) : Steward := (Daemon.steward fun _ _ => False).reached {} p.past

theorem memory_steward (p : Process) : p.steward.memory = p.memory := memory_reached p.past

theorem held_steward (p : Process) : p.steward.held = p.held := held_reached p.past

end Process

/-! ### The feed and what is known of it -/

variable {ρ : Regime}

/-- A feed that has ended has left the bus; if the bus is tame, it was bidden to end, and nothing is
wrong with it. -/
theorem Background.of_verdict {b : Background} {s : Feed.Stint} {v : Except Fault Bool}
    (turns : Feed.Turns ρ.tame b.rest s) (ended : b.verdict? = some v) :
    s.attends = false ∧ (ρ.tame = true → s.bidden = true ∧ ∃ inTime, v = .ok inTime) := by
  obtain ⟨rest, past⟩ := b
  unfold verdict? at ended
  split at ended <;> cases ended <;> dsimp only at * <;> subst rest
  · obtain ⟨_, ⟨⟩, gone, obeys⟩ := secures_done.mp turns
    exact ⟨gone, fun isTame => ⟨(obeys isTame).1, _, rfl⟩⟩
  · obtain ⟨_, ⟨⟩, gone, obeys⟩ := secures_done.mp turns
    exact ⟨gone, fun isTame => ⟨(obeys isTame).1, _, rfl⟩⟩
  · obtain ⟨_, ⟨⟩, gone, obeys⟩ := secures_done.mp turns
    rename_i fault other
    exact ⟨gone, fun isTame => absurd ((obeys isTame).2 fault rfl) other⟩
  · obtain ⟨_, came, -⟩ := secures_fail.mp turns
    cases came

/-- What ties the feeds to the steward. -/
structure Linked (ρ : Regime) (feeds : List Background) (signalled : Bool) (s : Steward) :
    Prop where
  aloof : ∀ b ∈ feeds, OnlyCalls isAloof b.rest
  turns : ∀ b ∈ feeds, Feed.Turns ρ.tame b.rest ((stint ρ.tame).reached {} b.past)
  ended : s.held.feeds = 0 → ∀ b ∈ feeds, b.verdict?.isSome = true
  earlier : s.held.feeds ≤ 1 → ∀ b ∈ feeds.tail, b.verdict?.isSome = true
  present : s.held.feeds ≠ 0 → feeds ≠ []
  verdict : ∀ v, s.course.verdict = some v → ∃ b, feeds.head? = some b ∧ b.verdict? = some v
  noticed : s.memory.stopping = true → s.course.asked = true
  bidden : ∀ b, feeds.head? = some b → ((stint ρ.tame).reached {} b.past).bidden = true →
    s.course.asked = true ∨ signalled = true

section Linked

variable {feeds : List Background} {signalled : Bool} {s : Steward}

theorem linked_nil : Linked ρ [] false {} where
  aloof := nofun
  turns := nofun
  ended := nofun
  earlier := nofun
  present := (absurd rfl ·)
  verdict := nofun
  noticed := nofun
  bidden := nofun

/-- A new feed has not been asked to stop. -/
theorem Linked.spawn {consumer : Settings.Consumer} {backend : Backend}
    (linked : Linked ρ feeds signalled s) : Linked ρ
      (⟨Feed.turns consumer (Bench.Task.processor ⟨consumer, backend, .ready .connecting⟩)
        ρ.patience .connecting, []⟩ :: feeds) false
      (s.after (.process (.spawnFeed consumer backend)) (.ok ())) where
  aloof b mem := by
    rcases List.mem_cons.mp mem with rfl | mem
    · exact Feed.aloof_turns (fun payload => (@Feed.honest_process true backend payload).aloof) _ _
    · exact linked.aloof b mem
  turns b mem := by
    rcases List.mem_cons.mp mem with rfl | mem
    · exact Feed.turns_turns (fun payload => Feed.honest_process backend payload) _ trivial
    · exact linked.turns b mem
  ended none := by cases none
  earlier single := linked.ended (by simpa [Steward.after, Holdings.after] using single)
  present _ := List.cons_ne_nil _ _
  verdict _ known := by cases known
  noticed asked := asked
  bidden b first asked := by
    cases first
    cases asked

/-- Who has waited for the feed knows what it has come to. -/
theorem Linked.join {b : Background} {v : Except Fault Bool} {limited : Bool}
    (linked : Linked ρ feeds signalled s) (first : feeds.head? = some b)
    (halted : b.verdict? = some v) :
    Linked ρ feeds signalled (s.after (.process (.joinFeed limited)) v) where
  aloof := linked.aloof
  turns := linked.turns
  ended none := by
    have single : s.held.feeds ≤ 1 := by
      by_contra many
      change (if s.held.feeds ≤ 1 then 0 else s.held.feeds) = 0 at none
      rw [if_neg many] at none
      omega
    obtain ⟨rest, rfl⟩ : ∃ rest, feeds = b :: rest := ⟨_, List.eq_cons_of_mem_head? first⟩
    intro b' mem
    rcases List.mem_cons.mp mem with rfl | mem
    · rw [halted]
      rfl
    · exact linked.earlier single b' mem
  earlier single := by
    refine linked.earlier ?_
    by_contra many
    change (if s.held.feeds ≤ 1 then 0 else s.held.feeds) ≤ 1 at single
    rw [if_neg many] at single
    exact many single
  present some := by
    refine linked.present fun none => some ?_
    simp [Steward.after, Holdings.after, none]
  verdict v' known := by
    cases known
    exact ⟨b, first, halted⟩
  noticed := linked.noticed
  bidden := linked.bidden

/-- The feed is asked to stop by a note in memory. -/
theorem Linked.remember {memory : Memory} {reply : Except Fault Unit}
    (linked : Linked ρ feeds signalled s) :
    Linked ρ feeds signalled (s.after (.process (.remember memory)) reply) where
  aloof := linked.aloof
  turns := linked.turns
  ended := linked.ended
  earlier := linked.earlier
  present := linked.present
  verdict := linked.verdict
  noticed stopping := by
    have stops : memory.stopping = true := stopping
    change (s.course.asked || (!s.memory.stopping && memory.stopping)) = true
    cases before : s.memory.stopping with
    | true => rw [linked.noticed before, Bool.true_or]
    | false => simp [stops]
  bidden b first asked := by
    refine (linked.bidden b first asked).imp_left fun asked => ?_
    change (s.course.asked || _) = true
    rw [asked, Bool.true_or]

/-- Other calls do not concern the feeds. -/
theorem Linked.other {c : Call} {reply : Except Fault c.Reply}
    (linked : Linked ρ feeds signalled s)
    (spawns : ∀ consumer backend, c ≠ .process (.spawnFeed consumer backend))
    (joins : ∀ limited, c ≠ .process (.joinFeed limited))
    (remembers : ∀ memory, c ≠ .process (.remember memory)) :
    Linked ρ feeds signalled (s.after c reply) := by
  have count : (s.held.after c reply).feeds = s.held.feeds := by
    unfold Holdings.after
    split <;> first | rfl | exact absurd rfl (spawns _ _) | exact absurd rfl (joins _)
  have memory : s.memory.after c reply = s.memory := by
    unfold Memory.after
    split <;> first | rfl | exact absurd rfl (remembers _)
  have course : s.course.after s.memory c reply = s.course := by
    unfold Course.after
    split <;> first
      | rfl
      | exact absurd rfl (spawns _ _)
      | exact absurd rfl (joins _)
      | exact absurd rfl (remembers _)
  exact
    { aloof := linked.aloof
      turns := linked.turns
      ended none := linked.ended (count.symm.trans none)
      earlier single := linked.earlier (count.symm.le.trans single)
      present held := linked.present fun none => held (count.trans none)
      verdict v known := linked.verdict v ((congrArg Course.verdict course).symm.trans known)
      noticed := by
        simp only [Steward.after, memory, course]
        exact linked.noticed
      bidden := by
        simp only [Steward.after, course]
        exact linked.bidden }

/-- A call of a feed. -/
theorem Linked.feed {n : Nat} {past : List Made} {c : Call}
    {next : Except Fault c.Reply → Routine Phase} {reply : Except Fault c.Reply}
    (linked : Linked ρ feeds signalled s) (found : feeds[n]? = some ⟨.ask c next, past⟩)
    (admits : (stint ρ.tame).admits ((stint ρ.tame).reached {} past) c reply)
    (bids : Feed.bids c reply = true → s.course.asked = true ∨ signalled = true) :
    Linked ρ (feeds.set n ⟨next reply, ⟨c, reply⟩ :: past⟩) signalled s := by
  have asks := List.mem_of_getElem? found
  have aloof : ∀ b ∈ feeds.set n ⟨next reply, ⟨c, reply⟩ :: past⟩, OnlyCalls isAloof b.rest := by
    intro b mem
    rcases List.mem_or_eq_of_mem_set mem with mem | rfl
    · exact linked.aloof b mem
    · obtain ⟨_, -, rest⟩ := follows_ask.mp (linked.aloof _ asks) reply
      exact rest
  have turns : ∀ b ∈ feeds.set n ⟨next reply, ⟨c, reply⟩ :: past⟩,
      Feed.Turns ρ.tame b.rest ((stint ρ.tame).reached {} b.past) := by
    intro b mem
    rcases List.mem_or_eq_of_mem_set mem with mem | rfl
    · exact linked.turns b mem
    · exact secures_ask.mp (linked.turns _ asks) reply admits
  -- A feed that makes a call has not ended.
  have ended (none : s.held.feeds = 0) : ∀ b ∈ feeds.set n ⟨next reply, ⟨c, reply⟩ :: past⟩,
      b.verdict?.isSome = true := by
    cases linked.ended none _ asks
  cases feeds with
  | nil => cases found
  | cons first rest =>
      cases n with
      | zero =>
          cases found
          refine ⟨aloof, turns, ended, linked.earlier, fun _ => List.cons_ne_nil _ _, ?_,
            linked.noticed, ?_⟩
          · intro v known
            obtain ⟨b, ⟨⟩, halted⟩ := linked.verdict v known
            cases halted
          · rintro b ⟨⟩ asked
            rcases Bool.or_eq_true_iff.mp asked with asked | asked
            · exact bids asked
            · exact linked.bidden _ rfl asked
      | succ n =>
          refine ⟨aloof, turns, ended, fun single => ?_, fun _ => List.cons_ne_nil _ _,
            linked.verdict, linked.noticed, linked.bidden⟩
          cases linked.earlier single _ (List.mem_of_getElem? found)

/-- The calls of a feed are aloof. -/
theorem Linked.aloof_of_found {n : Nat} {past : List Made} {c : Call}
    {next : Except Fault c.Reply → Routine Phase}
    (linked : Linked ρ feeds signalled s) (found : feeds[n]? = some ⟨.ask c next, past⟩) :
    isAloof c = true := by
  have only := linked.aloof _ (List.mem_of_getElem? found)
  obtain ⟨_, aloof, -⟩ := follows_ask.mp only (.error .cancelled)
  exact aloof

end Linked

/-! ### From deed to deed -/

/-- Failures that a deed is to expect. A feed that is waited for may have ended with any fault,
unless the bus is tame. -/
def Regime.grants (ρ : Regime) : Call → Fault → Prop
  | .process (.joinFeed _), _ => ρ.tame = false
  | c, fault => ρ.fails c fault

/-- What is to hold between two deeds holds, or the deed that is being done secures it. -/
def Stage (ρ : Regime) (between : History → Steward → Prop) (past : History) (s : Steward) :
    Option (Deed × Routine Unit) → Prop
  | none => between past s
  | some (d, rest) =>
    Secures (Daemon.steward ρ.grants) (fun s o => between ((d, o) :: past) s) rest s

variable {p p' : Process} {between : History → Steward → Prop}

/-- The replies that come to the calls of a deed are those that the steward expects. -/
theorem Linked.admits {c : Call} {reply : Except Fault c.Reply}
    (linked : Linked ρ p.feeds p.signalled p.steward) (lets : p.Lets ρ c reply) :
    (Daemon.steward ρ.grants).admits p.steward c reply := by
  unfold Process.Lets at lets
  split at lets
  · subst lets
    exact ⟨nofun, congrArg Except.ok p.memory_steward.symm⟩
  · obtain ⟨b, first, halted⟩ := lets
    refine ⟨?_, fun earlier known => ?_⟩
    · rintro fault rfl
      refine ⟨rfl, Bool.eq_false_iff.mpr fun isTame => ?_⟩
      have left := Background.of_verdict (linked.turns b (List.mem_of_head? first)) halted
      obtain ⟨-, inTime, failed⟩ := left.2 isTame
      cases failed
    · obtain ⟨b', first', halted'⟩ := linked.verdict earlier known
      cases first.symm.trans first'
      exact Option.some.inj (halted.symm.trans halted')
  · rename_i other other'
    refine ⟨fun fault came => ?_, ?_⟩
    · obtain ⟨risky, fails⟩ := lets fault came
      refine ⟨risky, ?_⟩
      unfold Regime.grants
      split
      · exact (other' _ _ rfl HEq.rfl).elim
      · exact fails
    · unfold Steward.Recalls
      split
      · exact (other _ rfl HEq.rfl).elim
      · exact (other' _ _ rfl HEq.rfl).elim
      · trivial

/-- The replies that come to the calls of a feed are those that it expects. -/
theorem Process.LetsFeed.admits {c : Call} {reply : Except Fault c.Reply}
    (lets : p.LetsFeed ρ c reply) (s : Feed.Stint) : (stint ρ.tame).admits s c reply := by
  unfold LetsFeed at lets
  split at lets
  · subst lets
    exact nofun
  · exact fun fault came => ⟨(lets fault came).1, (lets fault came).2.1⟩

/-- A feed is bidden to end only where it was asked to stop. -/
theorem Linked.asked_of_bids {c : Call} {reply : Except Fault c.Reply}
    (linked : Linked ρ p.feeds p.signalled p.steward) (lets : p.LetsFeed ρ c reply)
    (bids : Feed.bids c reply = true) :
    p.steward.course.asked = true ∨ p.signalled = true := by
  have noticed (stopping : p.memory.stopping = true) : p.steward.course.asked = true :=
    linked.noticed (p.memory_steward ▸ stopping)
  unfold Process.LetsFeed at lets
  split at lets
  · subst lets
    exact (Bool.or_eq_true_iff.mp bids).imp_left noticed
  · rename_i other
    unfold Feed.bids at bids
    split at bids
    · exact (other _ rfl HEq.rfl).elim
    · exact .inl (noticed ((lets _ rfl).2.2 rfl))
    · cases bids

/-- Each step keeps what ties the feeds to the steward. -/
theorem Linked.step (linked : Linked ρ p.feeds p.signalled p.steward)
    (steps : Process.Steps ρ p p') : Linked ρ p'.feeds p'.signalled p'.steward := by
  cases steps with
  | begin | finish => exact linked
  | signal => exact { linked with bidden := fun _ _ _ => .inr rfl }
  | request c reply aloof =>
      change Linked ρ _ _ (p.steward.after c reply)
      rw [Steward.after_of_aloof aloof]
      exact linked
  | feed n past c next reply found lets =>
      change Linked ρ _ _ (p.steward.after c reply)
      rw [Steward.after_of_aloof (linked.aloof_of_found found)]
      exact linked.feed found (lets.admits _) (linked.asked_of_bids lets)
  | call d c next reply asks lets =>
      change Linked ρ (p.after ρ c).feeds (p.after ρ c).signalled (p.steward.after c reply)
      unfold Process.after
      split
      · cases reply with
        | ok a => exact linked.spawn
        | error fault => cases (lets fault rfl).1
      · rename_i spawns
        by_cases joins : ∃ limited, c = .process (.joinFeed limited)
        · obtain ⟨limited, rfl⟩ := joins
          obtain ⟨b, first, halted⟩ := lets
          exact linked.join first halted
        by_cases remembers : ∃ memory, c = .process (.remember memory)
        · obtain ⟨memory, rfl⟩ := remembers
          exact linked.remember
        · exact linked.other spawns (not_exists.mp joins) (not_exists.mp remembers)

section Deeds

variable (deeds : ∀ past d s, ρ.admits past d → between past s →
  Secures (Daemon.steward ρ.grants) (fun s o => between ((d, o) :: past) s)
    (d.routine ρ.settings) s)

include deeds

/-- What holds between two deeds, and is secured by every deed that is admitted there, is kept by
every step. -/
theorem Stage.step (linked : Linked ρ p.feeds p.signalled p.steward)
    (stage : Stage ρ between p.finished p.steward p.current) (steps : Process.Steps ρ p p') :
    Stage ρ between p'.finished p'.steward p'.current := by
  cases steps with
  | begin d idle admitted =>
      rw [idle] at stage
      exact deeds _ d _ admitted stage
  | finish d o ended =>
      rw [ended] at stage
      exact secures_ofOutcome.mp stage
  | call d c next reply asks lets =>
      have finished : (p.after ρ c).finished = p.finished := by
        unfold Process.after
        split <;> rfl
      change Stage ρ between (p.after ρ c).finished (p.steward.after c reply) (some (d, next reply))
      rw [asks] at stage
      rw [finished]
      exact secures_ask.mp stage reply (linked.admits lets)
  | feed n past c next reply found lets =>
      change Stage ρ between p.finished (p.steward.after c reply) p.current
      rw [Steward.after_of_aloof (linked.aloof_of_found found)]
      exact stage
  | request c reply aloof =>
      change Stage ρ between p.finished (p.steward.after c reply) p.current
      rw [Steward.after_of_aloof aloof]
      exact stage
  | signal rest works => exact stage

/-- What each deed secures holds between any two deeds, and while one is done it is being
secured. -/
theorem keeps_of_reaches (reaches : Process.Reaches ρ p p')
    (linked : Linked ρ p.feeds p.signalled p.steward)
    (stage : Stage ρ between p.finished p.steward p.current) :
    Linked ρ p'.feeds p'.signalled p'.steward ∧
      Stage ρ between p'.finished p'.steward p'.current := by
  induction reaches with
  | refl => exact ⟨linked, stage⟩
  | tail _ steps ih => exact ⟨ih.1.step steps, ih.2.step deeds ih.1 steps⟩

end Deeds

/-! ### Playing -/

namespace Process

variable {replies : (c : Call) → Except Fault c.Reply} {p₀ : Process}

/-- The reply to a call of a deed; there is none while the feed that it waits for has not ended. -/
def reply? (replies : (c : Call) → Except Fault c.Reply) (p : Process) :
    (c : Call) → Option (Except Fault c.Reply)
  | .process .recollect => some (.ok p.memory)
  | .process (.joinFeed _) => p.feeds.head?.bind Background.verdict?
  | c => some (replies c)

/-- Lets the deed that is being done make its next call or end. -/
def advance (ρ : Regime) (replies : (c : Call) → Except Fault c.Reply) (p : Process) : Process :=
  match p.current with
  | none => p
  | some (d, .done a) => { p with finished := (d, .ok a) :: p.finished, current := none }
  | some (d, .fail fault) => { p with finished := (d, .error fault) :: p.finished, current := none }
  | some (d, .ask c next) =>
    match p.reply? replies c with
    | none => p
    | some reply =>
      { p.after ρ c with current := some (d, next reply), past := ⟨c, reply⟩ :: p.past }

/-- The reply to a call of a feed. -/
def replyFeed (replies : (c : Call) → Except Fault c.Reply) (p : Process) :
    (c : Call) → Except Fault c.Reply
  | .process .recollect => .ok { p.memory with stopping := p.memory.stopping || p.signalled }
  | c => replies c

/-- Lets the feed that was started last make its next call. -/
def advanceFeed (replies : (c : Call) → Except Fault c.Reply) (p : Process) : Process :=
  match p.feeds with
  | ⟨.ask c next, past⟩ :: rest =>
    let reply := p.replyFeed replies c
    { p with feeds := ⟨next reply, ⟨c, reply⟩ :: past⟩ :: rest, past := ⟨c, reply⟩ :: p.past }
  | _ => p

/-- Begins a deed. -/
def take (ρ : Regime) (d : Deed) (p : Process) : Process :=
  { p with current := some (d, d.routine ρ.settings) }

/-- Signals a worker to stop. -/
def interrupt (p : Process) : Process :=
  match p.current with
  | some (.work, _) => { p with signalled := true }
  | _ => p

theorem Reaches.interrupt (reaches : Reaches ρ p₀ p) : Reaches ρ p₀ p.interrupt := by
  unfold Process.interrupt
  split
  · rename_i rest works
    exact reaches.tail (.signal p rest works)
  · exact reaches

theorem Reaches.take {d : Deed} (reaches : Reaches ρ p₀ p) (idle : p.current = none)
    (admitted : ρ.admits p.finished d) : Reaches ρ p₀ (p.take ρ d) :=
  reaches.tail (.begin p d idle admitted)

theorem Reaches.advance
    (fails : ∀ c fault, replies c = .error fault → isRisky c = true ∧ ρ.fails c fault)
    (reaches : Reaches ρ p₀ p) : Reaches ρ p₀ (p.advance ρ replies) := by
  unfold Process.advance
  split
  · exact reaches
  · rename_i d a ends
    exact reaches.tail (.finish p d (.ok a) ends)
  · rename_i d fault ends
    exact reaches.tail (.finish p d (.error fault) ends)
  · rename_i d c next asks
    split
    · exact reaches
    · rename_i reply came
      refine reaches.tail (.call p d c next reply asks ?_)
      unfold reply? at came
      split at came
      · exact (Option.some.inj came).symm
      · exact Option.bind_eq_some_iff.mp came
      · rename_i other other'
        cases came
        unfold Lets
        split
        · exact (other rfl).elim
        · exact (other' _ rfl).elim
        · exact fails _

theorem Reaches.advances
    (fails : ∀ c fault, replies c = .error fault → isRisky c = true ∧ ρ.fails c fault)
    (reaches : Reaches ρ p₀ p) (n : Nat) : Reaches ρ p₀ ((Process.advance ρ replies)^[n] p) := by
  induction n generalizing p with
  | zero => exact reaches
  | succ n ih => exact ih (reaches.advance fails)

theorem Reaches.advanceFeed
    (fails : ∀ c fault, replies c = .error fault → isRisky c = true ∧
      (ρ.tame = true → Feed.IsTame c fault) ∧ fault ≠ .cancelled)
    (reaches : Reaches ρ p₀ p) : Reaches ρ p₀ (p.advanceFeed replies) := by
  unfold Process.advanceFeed
  split
  · rename_i c next past rest asks
    have found : p.feeds[0]? = some ⟨.ask c next, past⟩ := by rw [asks]; rfl
    have same (b : Background) : p.feeds.set 0 b = b :: rest := by rw [asks]; rfl
    have steps := @Steps.feed ρ p 0 past c next (p.replyFeed replies c) found
    rw [same] at steps
    refine reaches.tail (steps ?_)
    unfold replyFeed LetsFeed
    split
    · rfl
    · rename_i other
      intro fault came
      split at came
      · exact (other _ rfl HEq.rfl).elim
      · obtain ⟨risky, tame, unbroken⟩ := fails _ fault came
        exact ⟨risky, tame, fun broken => absurd broken unbroken⟩
  · exact reaches

theorem Reaches.advanceFeeds
    (fails : ∀ c fault, replies c = .error fault → isRisky c = true ∧
      (ρ.tame = true → Feed.IsTame c fault) ∧ fault ≠ .cancelled)
    (reaches : Reaches ρ p₀ p) (n : Nat) : Reaches ρ p₀ ((Process.advanceFeed replies)^[n] p) := by
  induction n generalizing p with
  | zero => exact reaches
  | succ n ih => exact ih (reaches.advanceFeed fails)

end Process

end Daemon

end LinkShortener
