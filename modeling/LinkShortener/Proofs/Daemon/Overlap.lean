import LinkShortener.Proofs.Daemon.Caller
import LinkShortener.Proofs.Daemon.Draft
import LinkShortener.Proofs.Routine.Pool

/-!
Callers that ask for the parts at the same time. Each of them builds the parts if it finds that they
are not built, and notes at the end that they are. What lies between two calls that suspend the
caller happens in one piece; in between other callers may go on. Nothing fails here.

Whether a caller finds the parts built is settled by the first thing that it does, and noted only by
the last thing that a building does. So all that ask in between build.

Main statement: everything is built as often as there are callers that found the parts not built, and
of what they built a release only stops one; if there is only one such caller, all callers are given
the same parts, and a release stops everything (`built_by_each_finder`).
-/

namespace LinkShortener.Daemon

open Routine
open Feed (Made)
open Pool (Reaches whole own)

/-! ### Callers in turns -/

/-- The steward where nothing fails. -/
abbrev calm : Machine Steward := steward fun _ _ => False

/-- Callers that ask a manager for the parts. -/
abbrev Callers := Pool Unit Given

/-- The steward after the calls of the callers. -/
def tended (s : Steward) (π : Callers) : Steward := calm.reached s (whole π.past)

/-- Callers enter at any time. One goes on where all others rest; nothing fails. -/
def inTurns (s : Steward) : Pool.Regime Unit Given where
  admits _ _ := True
  lets π n c reply := (∀ m, m ≠ n → π.rests m = true) ∧ calm.admits (tended s π) c reply

/-- Any number of callers, each of them as far as it has come. -/
abbrev Calls (settings : Settings) (s : Steward) : Callers → Prop :=
  Reaches (fun _ => provide settings) (inTurns s) {}

/-- The callers that found the parts not built. -/
def finders (π : Callers) : Finset Nat :=
  (Finset.range π.tasks.length).filter fun n => found (own π.past n) = true

section Turns

variable {settings : Settings} {s : Steward} {π : Callers}

theorem reached_caller (past : List Made) : caller.reached [] past = past := by
  induction past with
  | nil => rfl
  | cons made past ih => exact congrArg (made :: ·) ih

/-- Nothing has happened since a caller recalled the memory, as long as it asks for what is answered
on the spot. -/
theorem memory_of_recalled (calls : Calls settings s π) {n : Nat} {c : Call}
    {next : Except Fault c.Reply → Routine Given} {m : Memory}
    (asks : π.tasks[n]? = some ⟨(), .ask c next⟩) (spot : c.suspends = false)
    (last : (own π.past n).head? = some (recalled m)) : (tended s π).memory = m := by
  induction calls generalizing n c with
  | refl => simp at asks
  | @tail before _ calls steps ih =>
      cases steps with
      | enter =>
          have begun : own before.past n ≠ [] := fun fresh => by
            change (own before.past n).head? = _ at last
            rw [fresh] at last
            cases last
          rw [Pool.getElem?_enter_of_begun calls begun] at asks
          exact ih asks spot last
      | call acts k c' next' reply asks' lets =>
          simp only [Pool.reply] at asks last
          by_cases same : acts = n
          · subst same
            rw [Pool.own_cons_self] at last
            cases last
            cases lets.2.2
            rfl
          · rw [List.getElem?_set_ne same] at asks
            rw [Pool.own_cons_of_ne same] at last
            -- Another one went on, so this one would have to rest; but neither its last call nor
            -- its next one suspends it.
            have rests := lets.1 n (Ne.symm same)
            rw [Pool.rests, asks] at rests
            change (c.suspends || (own before.past n).head?.all (·.call.suspends)) = true at rests
            rw [spot, last] at rests
            cases rests

/-- The replies that come to a caller are those that it expects. -/
theorem admits_caller (calls : Calls settings s π) {n : Nat} {c : Call}
    {next : Except Fault c.Reply → Routine Given} {reply : Except Fault c.Reply}
    (asks : π.tasks[n]? = some ⟨(), .ask c next⟩) (lets : (inTurns s).lets π n c reply) :
    caller.admits (caller.reached [] (own π.past n)) c reply := by
  rw [reached_caller]
  refine ⟨?_, ?_⟩
  · cases reply with
    | ok a => exact ⟨a, rfl⟩
    | error fault => exact (lets.2.1 fault rfl).2.elim
  · unfold Repeats
    split
    · intro memory last
      rw [← memory_of_recalled calls asks rfl last]
      exact lets.2.2
    · trivial

/-- What is done of a feat by all callers that have ended. -/
theorem countP_of_ended (sound : Sound settings)
    (calls : Calls settings s π) (ended : ∀ task ∈ π.tasks, task.outcome?.isSome = true)
    (feat : Feat) : (whole π.past).countP (feat.covers settings) =
      (finders π).card * feat.times settings := by
  rw [Pool.adds_countP _ _ _ (Pool.lt_of_reaches calls), finders, Finset.card_filter,
    Finset.sum_mul]
  refine Finset.sum_congr rfl fun n mem => ?_
  have entered := List.getElem?_eq_getElem (Finset.mem_range.mp mem)
  obtain ⟨o, came⟩ := Option.isSome_iff_exists.mp (ended _ (List.mem_of_getElem? entered))
  have secures := Pool.secures_of_reaches (fun _ => counts_provide feat sound)
    (fun _ _ _ _ _ _ calls asks lets => admits_caller calls asks lets) calls entered
  rw [reached_caller] at secures
  rw [Pool.Task.post_of_outcome? secures came]
  cases found (own π.past n) <;> simp

/-- The first call of a caller recalls the memory. -/
theorem recollects_first {c : Call} {next : Except Fault c.Reply → Routine Given}
    (asks : provide settings = .ask c next) : c = .process .recollect := by
  change Routine.ask (.process .recollect) _ = _ at asks
  cases asks
  rfl

/-- Who finds the parts built only hands them out. -/
theorem aloof_of_ready {m : Memory} {next : Except Fault Memory → Routine Given}
    (asks : provide settings = .ask (.process .recollect) next) (ready : m.ready = true) :
    OnlyCalls isAloof (next (.ok m)) := by
  change Routine.ask (.process .recollect) _ = _ at asks
  cases asks
  dsimp only [ofOutcome, andThen]
  rw [ready]
  exact aloof_handOut

/-- What a caller found stays. -/
theorem found_cons {past : List (Nat × Made)} {n : Nat} (e : Nat × Made)
    (finds : found (own past n) = true) : found (own (e :: past) n) = true := by
  obtain ⟨acts, made⟩ := e
  by_cases same : acts = n
  · subst same
    rw [Pool.own_cons_self]
    cases calls : own past acts with
    | nil =>
        rw [calls] at finds
        cases finds
    | cons last calls' =>
        rw [calls] at finds
        rwa [found, List.getLast?_cons_cons]
  · rwa [Pool.own_cons_of_ne same]

/-- Who begins where the parts are not built finds that out. -/
theorem found_of_begun (calls : Calls settings s π) {n : Nat} {k : Unit} {c : Call}
    {next : Except Fault c.Reply → Routine Given} {reply : Except Fault c.Reply}
    (asks : π.tasks[n]? = some ⟨k, .ask c next⟩) (lets : (inTurns s).lets π n c reply)
    (fresh : own π.past n = []) (unready : (tended s π).memory.ready = false) :
    found (own (π.reply n k c reply (next reply)).past n) = true := by
  obtain rfl := recollects_first (Pool.rest_of_own_nil calls asks fresh).symm
  cases lets.2.2
  rw [Pool.reply, Pool.own_cons_self, fresh]
  exact congrArg not unready

/-- The first of all callers found the parts not built. -/
theorem found_of_called (idle : Idle s) (calls : Calls settings s π) (called : π.past ≠ []) :
    ∃ n, found (own π.past n) = true := by
  induction calls with
  | refl => exact absurd rfl called
  | @tail before _ calls steps ih =>
      cases steps with
      | enter => exact ih called
      | call acts k c next reply asks lets =>
          by_cases begun : before.past = []
          · refine ⟨acts, found_of_begun calls asks lets (by rw [begun]; rfl) ?_⟩
            rw [tended, begun]
            exact idle.unready
          · obtain ⟨n, finds⟩ := ih begun
            exact ⟨n, found_cons _ finds⟩

/-- Where nothing fails and the settings are sound, nothing is flawed. -/
theorem flawless_calm (sound : Sound settings) : ¬ Flawed (fun _ _ => False) settings := by
  rintro (⟨_, _, ⟨⟩, -⟩ | unsound)
  exact unsound sound

/-- What is left of a routine leads to all parts being there, and to what is given of them then. -/
def Builds (settings : Settings) (database : Bool) (r : Routine Given) (s : Steward) : Prop :=
  Secures calm (fun s' o => o = .ok (given settings s'.memory) ∧ Stocked settings database s') r s

/-- A single caller builds. -/
theorem builds_provide (sound : Sound settings) (idle : Idle s) :
    Builds settings s.held.database (provide settings) s := by
  refine (secures_of_ends (flawless_calm sound) (fun s t _ ⟨same, stocked⟩ => ?_) (secures_provide
    (s := { s with touched := false }) { idle with } nofun)).mono ?_
  · exact ⟨same, { stocked with accounts := { stocked.accounts with } }⟩
  · rintro s' _ ⟨_, rfl, rfl, stocked⟩
    exact ⟨rfl, stocked⟩

/-- One caller builds, and no other one has begun. -/
structure Alone (settings : Settings) (s : Steward) (f : Nat) (π : Callers) : Prop where
  begun : own π.past f ≠ []
  others : ∀ n, n ≠ f → own π.past n = []
  unready : (tended s π).memory.ready = false
  drafts : ∀ task, π.tasks[f]? = some task → Drafts task.rest .pending
  builds : ∀ task, π.tasks[f]? = some task →
    Builds settings s.held.database task.rest (tended s π)

/-- All parts are there, and whoever has begun changes nothing any more and is given them. -/
structure Settled (settings : Settings) (s : Steward) (π : Callers) : Prop where
  stocked : Stocked settings s.held.database (tended s π)
  gives : ∀ n task, π.tasks[n]? = some task → own π.past n ≠ [] →
    OnlyCalls isAloof task.rest ∧ Builds settings s.held.database task.rest (tended s π)

section Step

variable {f acts : Nat} {k : Unit} {c : Call}
  {next : Except Fault c.Reply → Routine Given} {reply : Except Fault c.Reply}

/-- That another one enters makes no difference to who builds. -/
theorem Alone.enter (calls : Calls settings s π) (alone : Alone settings s f π) :
    Alone settings s f (π.enter (fun _ => provide settings) k) where
  begun := alone.begun
  others := alone.others
  unready := alone.unready
  drafts task entered := by
    rw [Pool.getElem?_enter_of_begun calls alone.begun] at entered
    exact alone.drafts task entered
  builds task entered := by
    rw [Pool.getElem?_enter_of_begun calls alone.begun] at entered
    exact alone.builds task entered

/-- That another one enters makes no difference once all parts are there. -/
theorem Settled.enter (calls : Calls settings s π) (settled : Settled settings s π) :
    Settled settings s (π.enter (fun _ => provide settings) k) where
  stocked := settled.stocked
  gives n task entered begun := by
    rw [Pool.getElem?_enter_of_begun calls begun] at entered
    exact settled.gives n task entered begun

/-- Once nothing is changed any more, all parts are there. -/
theorem Builds.stocked {database : Bool} {r : Routine Given}
    (builds : Builds settings database r s) (aloof : OnlyCalls isAloof r) :
    Stocked settings database s :=
  holds_of_aloof aloof (builds.mono fun _ _ => And.right)

/-- If no other one has begun, it is the one that acts. -/
theorem eq_of_begun {n : Nat} {task : Pool.Task Unit Given}
    (asks : π.tasks[f]? = some ⟨k, .ask c next⟩) (others : ∀ n, n ≠ f → own π.past n = [])
    (entered : (π.reply f k c reply (next reply)).tasks[n]? = some task)
    (begun : own (π.reply f k c reply (next reply)).past n ≠ []) : task = ⟨k, next reply⟩ := by
  obtain rfl : n = f := by
    refine Decidable.byContradiction fun other => begun ?_
    rw [Pool.reply, Pool.own_cons_of_ne (Ne.symm other)]
    exact others n other
  rw [Pool.reply, List.getElem?_set_self (List.getElem?_eq_some_iff.mp asks).1] at entered
  exact (Option.some.inj entered).symm

/-- The one that builds, or begins to, goes on; it may note now that the parts are there. -/
theorem alone_or_settled (asks : π.tasks[f]? = some ⟨k, .ask c next⟩)
    (lets : (inTurns s).lets π f c reply) (others : ∀ n, n ≠ f → own π.past n = [])
    (unready : (tended s π).memory.ready = false) (drafts : Drafts (.ask c next) .pending)
    (builds : Builds settings s.held.database (.ask c next) (tended s π)) :
    Alone settings s f (π.reply f k c reply (next reply)) ∨
      Settled settings s (π.reply f k c reply (next reply)) := by
  have begun : own (π.reply f k c reply (next reply)).past f ≠ [] := by
    rw [Pool.reply, Pool.own_cons_self]
    exact List.cons_ne_nil _ _
  have left : Builds settings s.held.database (next reply)
      (tended s (π.reply f k c reply (next reply))) := secures_ask.mp builds reply lets.2
  obtain ⟨_, ⟨-, rfl⟩, course⟩ := follows_ask.mp drafts reply
  rw [draft_after lets.2 unready] at course
  cases ready : ((tended s π).memory.after c reply).ready with
  | true =>
      rw [if_pos ready] at course
      have aloof := aloof_of_noted course
      exact .inr ⟨left.stocked aloof, fun n task entered begun =>
        eq_of_begun asks others entered begun ▸ ⟨aloof, left⟩⟩
  | false =>
      rw [if_neg (Bool.eq_false_iff.mp ready)] at course
      exact .inl
        { begun := begun
          others := fun n other => by
            rw [Pool.reply, Pool.own_cons_of_ne (Ne.symm other)]
            exact others n other
          unready := ready
          drafts := fun task entered => eq_of_begun asks others entered begun ▸ course
          builds := fun task entered => eq_of_begun asks others entered begun ▸ left }

/-- Whoever goes on where all parts are there has begun before, or finds them there. -/
theorem Settled.gives_first (calls : Calls settings s π) (settled : Settled settings s π)
    (asks : π.tasks[acts]? = some ⟨k, .ask c next⟩) (lets : (inTurns s).lets π acts c reply) :
    isAloof c = true ∧ OnlyCalls isAloof (next reply) ∧
      Builds settings s.held.database (.ask c next) (tended s π) := by
  by_cases fresh : own π.past acts = []
  · have begins : provide settings = .ask c next := (Pool.rest_of_own_nil calls asks fresh).symm
    obtain rfl := recollects_first begins
    cases lets.2.2
    refine ⟨rfl, aloof_of_ready begins settled.stocked.ready, ?_⟩
    rw [← begins]
    exact secures_provide_of_stocked settled.stocked ⟨rfl, settled.stocked⟩
  · obtain ⟨only, builds⟩ := settled.gives acts _ asks fresh
    obtain ⟨_, aloof, rest⟩ := follows_ask.mp only reply
    exact ⟨aloof, rest, builds⟩

/-- Where all parts are there, they stay. -/
theorem Settled.goOn (calls : Calls settings s π) (settled : Settled settings s π)
    (asks : π.tasks[acts]? = some ⟨k, .ask c next⟩) (lets : (inTurns s).lets π acts c reply) :
    Settled settings s (π.reply acts k c reply (next reply)) := by
  obtain ⟨aloof, rest, builds⟩ := settled.gives_first calls asks lets
  have same : tended s (π.reply acts k c reply (next reply)) = tended s π :=
    Steward.after_of_aloof aloof
  refine ⟨same ▸ settled.stocked, fun n task entered begun => ?_⟩
  by_cases acted : acts = n
  · subst acted
    rw [Pool.reply, List.getElem?_set_self (List.getElem?_eq_some_iff.mp asks).1] at entered
    cases entered
    exact ⟨rest, secures_ask.mp builds reply lets.2⟩
  · rw [Pool.reply, List.getElem?_set_ne acted] at entered
    rw [Pool.reply, Pool.own_cons_of_ne acted] at begun
    rw [same]
    exact settled.gives n task entered begun

end Step

/-- As long as no other caller found the parts not built, one of them builds alone, until all parts
are there. -/
theorem alone_of_calls (sound : Sound settings) (idle : Idle s)
    (calls : Calls settings s π) {f : Nat} (only : ∀ n, found (own π.past n) = true → n = f) :
    π.past = [] ∨ Alone settings s f π ∨ Settled settings s π := by
  induction calls with
  | refl => exact .inl rfl
  | @tail before _ calls steps ih =>
      cases steps with
      | enter k =>
          exact (ih only).imp_right (Or.imp (Alone.enter calls) (Settled.enter calls))
      | call acts k c next reply asks lets =>
          right
          -- Whoever begins while the parts are not built finds that out, so it is the one.
          have first (fresh : own before.past acts = [])
              (unready : (tended s before).memory.ready = false) : acts = f :=
            only acts (found_of_begun calls asks lets fresh unready)
          rcases ih fun n finds => only n (found_cons _ finds) with none | alone | settled
          · have none' (n : Nat) : own before.past n = [] := by rw [none]; rfl
            have same : tended s before = s := by rw [tended, none]; rfl
            have begins : provide settings = .ask c next :=
              (Pool.rest_of_own_nil calls asks (none' acts)).symm
            have unready : (tended s before).memory.ready = false := by
              rw [same]
              exact idle.unready
            obtain rfl := first (none' acts) unready
            refine alone_or_settled asks lets (fun n _ => none' n) unready ?_ ?_
            · rw [← begins]
              exact drafts_provide
            · rw [same, ← begins]
              exact builds_provide sound idle
          · by_cases same : acts = f
            · subst same
              exact alone_or_settled asks lets alone.others alone.unready (alone.drafts _ asks)
                (alone.builds _ asks)
            · exact absurd (first (alone.others acts same) alone.unready) same
          · exact .inr (settled.goOn calls asks lets)

/-- Only calls to a producer concern the producers. -/
theorem producers_of_spared {h : Holdings} {c : Call} {reply : Except Fault c.Reply}
    (spared : ∀ asked, c ≠ .producer asked) : (h.after c reply).producers = h.producers := by
  unfold Holdings.after
  split <;> first | rfl | exact absurd rfl (spared _)

/-- A call that stops no producer starts one or leaves them as they are. -/
theorem producers_after {h : Holdings} {c : Call} {reply : Except Fault c.Reply}
    (unstopped : Feat.stop.covers settings ⟨c, reply⟩ = false) :
    (h.after c reply).producers =
      h.producers + if Feat.start.covers settings ⟨c, reply⟩ then 1 else 0 := by
  cases c with
  | producer asked =>
      cases asked with
      | start => cases reply <;> rfl
      | stop => cases unstopped
      | create | send => rfl
  | _ => exact producers_of_spared nofun

/-- Each producer that was started runs, if none was stopped. -/
theorem producers_reached {past : List Made}
    (unstopped : ∀ made ∈ past, Feat.stop.covers settings made = false) :
    (calm.reached s past).held.producers =
      s.held.producers + past.countP (Feat.start.covers settings) := by
  induction past with
  | nil => rfl
  | cons made past ih =>
      obtain ⟨first, rest⟩ := List.forall_mem_cons.mp unstopped
      rw [List.countP_cons, ← Nat.add_assoc, ← ih rest]
      exact producers_after first

def spares : Call → Bool
  | .producer _ => false
  | _ => true

/-- What is said of the producers is kept by routines that make no calls to one. -/
theorem secures_of_spares {α : Type} {P : Nat → Prop} {r : Routine α} {s : Steward}
    (only : OnlyCalls spares r) (holds : P s.held.producers) :
    Secures calm (fun s' _ => P s'.held.producers) r s := by
  refine secures_of_onlyCalls only (fun s c reply spared holds => ?_) holds
  have same : (s.held.after c reply).producers = s.held.producers :=
    producers_of_spared fun _ asked => by
      rw [asked] at spared
      cases spared
  exact same ▸ holds

theorem spares_modify (change : Memory → Memory) : OnlyCalls spares (modify change) :=
  (onlyCalls_call (c := .process .recollect) rfl).bind fun _ =>
    onlyCalls_call (c := .process (.remember _)) rfl

theorem spares_releaseFeed : OnlyCalls spares releaseFeed := by
  refine (onlyCalls_call (c := .process .recollect) rfl).bind fun m => ?_
  split
  · refine (spares_modify _).bind fun _ => ?_
    refine (onlyCalls_call (c := .process (.joinFeed _)) rfl).bind fun inTime => ?_
    cases inTime with
    | true => exact spares_modify _
    | false =>
        exact (onlyCalls_call (c := .process (.log _)) rfl).bind fun _ => spares_modify _
  · exact only_done trivial

theorem spares_releaseAtlas : OnlyCalls spares releaseAtlas := by
  refine (onlyCalls_call (c := .process .recollect) rfl).bind fun m => ?_
  split
  · exact (onlyCalls_call (c := .atlas .close) rfl).bind fun _ => spares_modify _
  · exact only_done trivial

theorem spares_releaseClicks : OnlyCalls spares releaseClicks := by
  refine (onlyCalls_call (c := .process .recollect) rfl).bind fun m => ?_
  have closes : OnlyCalls spares ColumnStore.close := onlyCalls_call (c := .columns .close) rfl
  have last : OnlyCalls spares
      (if m.has (.statistics .columns) then ColumnStore.close else pure ()) := by
    split
    · exact closes
    · exact only_done trivial
  dsimp only
  split
  · exact closes.bind fun _ => last
  · exact last

theorem spares_releaseKeys : OnlyCalls spares releaseKeys := by
  refine (onlyCalls_call (c := .process .recollect) rfl).bind fun m => ?_
  split
  · refine Only.bind ?_ fun _ => spares_modify _
    refine (onlyCalls_call (c := .process .recollect) rfl).bind fun m => ?_
    split
    · exact (onlyCalls_call (c := .keys .close) rfl).bind fun _ => spares_modify _
    · exact only_done trivial
  · exact only_done trivial

/-- One producer is stopped at most. -/
theorem secures_releasePublisher_producers {n : Nat} (kept : n ≤ s.held.producers) :
    Secures calm (fun s' _ => n ≤ s'.held.producers + 1) releasePublisher s := by
  have same {s : Steward} (kept : n ≤ s.held.producers) :
      Secures calm (fun s' _ => n ≤ s'.held.producers + 1) (pure () : Routine Unit) s :=
    secures_done.mpr (Nat.le_succ_of_le kept)
  refine secures_recollect_bind ?_
  split
  · refine secures_recollect_bind ?_
    split
    · refine secures_call_bind.mpr fun reply _ => ?_
      have fewer : n ≤ (s.after (.producer .stop) reply).held.producers + 1 := by
        change n ≤ s.held.producers - 1 + 1
        omega
      cases reply with
      | ok _ => exact secures_of_spares (P := (n ≤ · + 1)) (spares_modify _) fewer
      | error fault => exact secures_fail.mpr fewer
    · exact same kept
  · exact same kept

/-- A release stops one producer at most. -/
theorem secures_release_producers :
    Secures calm (fun s' _ => s.held.producers ≤ s'.held.producers + 1) release s := by
  have step {α : Type} {n : Nat} {r : Routine α} {f : α → Routine Unit} {s' : Steward}
      (kept : n ≤ s'.held.producers) (only : OnlyCalls spares r)
      (rest : ∀ s' a, n ≤ s'.held.producers →
        Secures calm (fun s' _ => n ≤ s'.held.producers + 1) (f a) s') :
      Secures calm (fun s' _ => n ≤ s'.held.producers + 1) (r >>= f) s' := by
    refine secures_bind.mpr ((secures_of_spares only kept).mono ?_)
    rintro s' (fault | a) kept
    · exact secures_fail.mpr (Nat.le_succ_of_le kept)
    · exact rest s' a kept
  refine step (Nat.le_refl _) spares_releaseFeed fun s₁ _ kept => ?_
  refine step kept spares_releaseAtlas fun s₂ _ kept => ?_
  refine step kept spares_releaseClicks fun s₃ _ kept => ?_
  refine secures_bind.mpr ((secures_releasePublisher_producers kept).mono ?_)
  rintro s' (fault | _) kept
  · exact secures_fail.mpr kept
  · refine secures_of_spares (P := (_ ≤ · + 1)) ?_ kept
    exact spares_releaseKeys.bind fun _ => spares_modify _

/-- From accounted holdings everything is released where nothing fails. -/
theorem secures_release_calm {database : Bool} (sound : Sound settings)
    (stocked : Stocked settings database s) :
    Secures calm (fun s' o => o = .ok () ∧ s'.held = { database := database }) release s := by
  refine (@secures_release _ settings _ stocked.accounts).mono ?_
  rintro s' (fault | _) ends
  · exact absurd ends.1 (flawless_calm sound)
  · refine ⟨rfl, ?_⟩
    rw [ends.1.held, ends.2, stocked.database]

/-- The finders are those who found the parts not built. -/
theorem mem_finders (calls : Calls settings s π) {n : Nat} :
    n ∈ finders π ↔ found (own π.past n) = true := by
  refine ⟨fun mem => (Finset.mem_filter.mp mem).2, fun finds => ?_⟩
  refine Finset.mem_filter.mpr ⟨Finset.mem_range.mpr (Nat.lt_of_not_le fun beyond => ?_), finds⟩
  rw [Pool.own_eq_nil (Pool.lt_of_reaches calls) beyond] at finds
  cases finds

/-- If one caller alone found the parts not built, and all have ended, then all parts are there. -/
theorem settled_of_single (sound : Sound settings) (idle : Idle s)
    (calls : Calls settings s π) (ended : ∀ task ∈ π.tasks, task.outcome?.isSome = true)
    (single : (finders π).card = 1) : Settled settings s π := by
  obtain ⟨f, only⟩ := Finset.card_eq_one.mp single
  have mem : f ∈ finders π := only ▸ Finset.mem_singleton_self f
  have finds := (mem_finders calls).mp mem
  rcases alone_of_calls sound idle calls fun n finds' =>
    Finset.mem_singleton.mp (only ▸ (mem_finders calls).mpr finds') with none | alone | settled
  · rw [none] at finds
    cases finds
  · -- The one that builds has ended, so the parts are said to be there.
    have entered := List.getElem?_eq_getElem (Finset.mem_range.mp (Finset.mem_filter.mp mem).1)
    obtain ⟨o, came⟩ := Option.isSome_iff_exists.mp (ended _ (List.mem_of_getElem? entered))
    have stocked := (Pool.Task.post_of_outcome? (alone.builds _ entered) came).2
    cases alone.unready.symm.trans stocked.ready
  · exact settled

/-- Whoever has ended has begun. -/
theorem begun_of_ended (calls : Calls settings s π) {n : Nat} {task : Pool.Task Unit Given}
    (entered : π.tasks[n]? = some task) (ended : task.outcome?.isSome = true) :
    own π.past n ≠ [] := by
  intro none
  have fresh := Pool.rest_of_own_nil calls entered none
  rw [Pool.Task.outcome?, fresh] at ended
  cases ended

/-- Where all parts are there, every caller that has ended was given them. -/
theorem Settled.given_of_ended (settled : Settled settings s π) (calls : Calls settings s π)
    (ended : ∀ task ∈ π.tasks, task.outcome?.isSome = true) :
    ∀ task ∈ π.tasks, task.outcome? = some (.ok (given settings (tended s π).memory)) := by
  intro task mem
  obtain ⟨n, entered⟩ := List.mem_iff_getElem?.mp mem
  obtain ⟨o, came⟩ := Option.isSome_iff_exists.mp (ended task mem)
  have builds := (settled.gives n task entered (begun_of_ended calls entered (ended task mem))).2
  rw [came, (Pool.Task.post_of_outcome? builds came).1]

/-- Callers that ask a manager whose parts are not built for them, at the same time and in any
order, build everything as often as there are callers among them that found the parts not built, and
at least one of them did. Of the producers that they started a release stops only one. Where one
caller alone found the parts not built, all parts are there once, all callers are given the same
ones, and a release stops everything that was started. -/
theorem built_by_each_finder (settings : Settings) (sound : Sound settings)
    (s : Steward) (idle : Idle s) (π : Callers) (calls : Calls settings s π)
    (ended : ∀ task ∈ π.tasks, task.outcome?.isSome = true) :
    (∀ feat : Feat, (whole π.past).countP (feat.covers settings) =
      (finders π).card * feat.times settings) ∧
    (π.tasks ≠ [] → 1 ≤ (finders π).card) ∧
    Secures calm (fun s' _ => (finders π).card ≤ s'.held.producers + 1) release (tended s π) ∧
    ((finders π).card = 1 → Stocked settings s.held.database (tended s π) ∧
      (∀ task ∈ π.tasks, task.outcome? = some (.ok (given settings (tended s π).memory))) ∧
      Secures calm (fun s' o => o = .ok () ∧ s'.held = s.held) release (tended s π)) := by
  have counts := countP_of_ended sound calls ended
  refine ⟨counts, fun entered => ?_, ?_, fun single => ?_⟩
  · obtain ⟨n, finds⟩ : ∃ n, found (own π.past n) = true := by
      refine found_of_called idle calls fun none => ?_
      obtain ⟨task, mem⟩ := List.exists_mem_of_ne_nil _ entered
      obtain ⟨n, at'⟩ := List.mem_iff_getElem?.mp mem
      exact begun_of_ended calls at' (ended task mem) (by rw [none]; rfl)
    exact Finset.card_pos.mpr ⟨n, (mem_finders calls).mpr finds⟩
  · have producers : (tended s π).held.producers = (finders π).card := by
      have unstopped := List.countP_eq_zero.mp (counts .stop)
      rw [tended, producers_reached fun made mem => Bool.eq_false_iff.mpr (unstopped made mem),
        counts .start, congrArg Holdings.producers idle.held]
      exact (Nat.zero_add _).trans (Nat.mul_one _)
    rw [← producers]
    exact secures_release_producers
  · have settled := settled_of_single sound idle calls ended single
    refine ⟨settled.stocked, settled.given_of_ended calls ended, ?_⟩
    rw [idle.held]
    exact secures_release_calm sound settled.stocked

end Turns

/-! ### Two callers -/

section Two

variable {settings : Settings} {s : Steward} {π : Callers}

/-- Lets a caller make its next call, if all others rest. -/
def turn (s : Steward) (π : Callers) (n : Nat) : Callers :=
  match π.tasks[n]? with
  | some ⟨k, .ask c next⟩ =>
    if (List.range π.tasks.length).all fun m => m == n || π.rests m then
      match (tended s π).answer? c with
      | some reply => π.reply n k c reply (next reply)
      | none => π
    else π
  | _ => π

/-- A turn leads to a pool that callers can come to. -/
theorem Calls.turn (calls : Calls settings s π) (n : Nat) : Calls settings s (turn s π n) := by
  unfold Daemon.turn
  split
  · rename_i k c next asks
    split
    · rename_i others
      split
      · rename_i reply came
        refine calls.tail (.call π n k c next reply asks ⟨fun m other => ?_, ?_⟩)
        · by_cases inside : m < π.tasks.length
          · have rests := List.all_eq_true.mp others m (List.mem_range.mpr inside)
            exact (Bool.or_eq_true_iff.mp rests).resolve_left (by simp [other])
          · rw [Pool.rests, List.getElem?_eq_none (Nat.le_of_not_lt inside)]
        · exact Steward.admits_answer came
      · exact calls
    · exact calls
  · exact calls

theorem Calls.turns (calls : Calls settings s π) (tasks : List Nat) :
    Calls settings s (tasks.foldl (Daemon.turn s) π) := by
  induction tasks generalizing π with
  | nil => exact calls
  | cons n rest ih => exact ih (Calls.turn calls n)

/-- Two callers have entered, and go on in this order. -/
def pair (order : List Nat) : Callers :=
  order.foldl (turn {})
    ((({} : Callers).enter (fun _ => provide {}) ()).enter (fun _ => provide {}) ())

theorem calls_pair (order : List Nat) : Calls {} {} (pair order) := by
  have first : Calls {} {} (({} : Callers).enter (fun _ => provide {}) ()) :=
    Pool.Reaches.enter .refl trivial
  exact Calls.turns (first.enter trivial) order

/-- The second one begins when the first one has ended. -/
def inRow : Callers := pair (List.replicate 60 0 ++ List.replicate 60 1)

/-- Of two callers in a row the second one is given what the first one has built, and a release
stops everything. -/
theorem second_caller_served :
    (finders inRow).card = 1 ∧
      (∀ feat : Feat, (whole inRow.past).countP (feat.covers {}) = feat.times {}) ∧
      (∀ task ∈ inRow.tasks, task.outcome? = some (.ok [(.directory, 1), (.publisher, 1),
        (.statistics .columns, 1), (.catalog, 1), (.copies, 1)])) ∧
      Secures calm (fun s' o => o = .ok () ∧ s'.held = {}) release (tended {} inRow) := by
  have single : (finders inRow).card = 1 := by decide +kernel
  have idle : Idle {} := ⟨rfl, rfl, rfl, rfl, rfl, rfl, rfl⟩
  obtain ⟨counts, -, -, alone⟩ := built_by_each_finder {} sound_default {} idle inRow
    (calls_pair _) (by decide +kernel)
  obtain ⟨-, same, releases⟩ := alone single
  have ones : given {} (tended {} inRow).memory = [(.directory, 1), (.publisher, 1),
    (.statistics .columns, 1), (.catalog, 1), (.copies, 1)] := by decide +kernel
  refine ⟨single, fun feat => ?_, ones ▸ same, releases⟩
  rw [counts feat, single, Nat.one_mul]

/-- The second one begins while the first one waits for the last id. -/
def overlap : Callers := pair (List.replicate 19 0 ++ List.replicate 60 1 ++ List.replicate 60 0)

/-- Settings in which the address of the column store is none. -/
def misplaced : Settings := { clicks := { url := "http://clickhouse:99999" } }

/-- The parts are asked for twice where they cannot be built, and released. -/
def askedTwice : Process :=
  carry misplaced smooth .release (carry misplaced smooth .provide
    (carry misplaced smooth .provide {}))

/-- Two callers at the same time build everything twice, are given different ones, and a release
leaves a producer running. So do two callers in a row if building fails after the producer was
started. -/
theorem callers_build_twice :
    (Calls {} {} overlap ∧
      overlap.tasks.map Pool.Task.outcome? =
        [some (.ok [(.directory, 2), (.publisher, 2), (.statistics .columns, 2), (.catalog, 2),
          (.copies, 2)]),
        some (.ok [(.directory, 1), (.publisher, 1), (.statistics .columns, 1), (.catalog, 2),
          (.copies, 2)])] ∧
      (∀ feat ∈ [Feat.seed, Feat.make, Feat.start, Feat.feed],
        (whole overlap.past).countP (feat.covers {}) = 2) ∧
      Secures calm (fun s' _ => s'.held.producers ≠ 0) release (tended {} overlap)) ∧
    Process.Reaches (steady misplaced 6) {} askedTwice ∧
      askedTwice.finished.map Prod.fst = [.release, .provide, .provide] ∧
      (∀ feat ∈ [Feat.seed, Feat.make, Feat.start],
        askedTwice.past.countP (feat.covers misplaced) = 2) ∧
      askedTwice.held.producers = 1 := by
  have both : (tended {} overlap).held.producers = 2 := by decide +kernel
  have first := Process.Reaches.carry misplaced .provide of_smooth_error .refl rfl (.inl rfl)
  have second := Process.Reaches.carry misplaced .provide of_smooth_error first
    (by decide +kernel) (.inl rfl)
  have released := Process.Reaches.carry misplaced .release of_smooth_error second
    (by decide +kernel) (.inr rfl)
  refine ⟨⟨calls_pair _, by decide +kernel, by decide +kernel, ?_⟩, released, by decide +kernel,
    by decide +kernel, by decide +kernel⟩
  refine secures_release_producers.mono fun s' o left => ?_
  rw [both] at left
  omega

end Two

end LinkShortener.Daemon
