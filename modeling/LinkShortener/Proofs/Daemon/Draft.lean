import LinkShortener.Proofs.Daemon.Cycle

/-!
What a building notes in memory. While it is under way its notes leave open whether the parts are
there; the last one says that they are, and after it nothing is changed any more. This is said of a
building by its own calls: it holds as long as nothing fails and nobody else has said meanwhile that
the parts are there.

Main statements: whoever asks for the parts keeps to that (`follows_provide`), and what is still to
be secured once nothing is changed any more holds already (`holds_of_aloof`).
-/

namespace LinkShortener.Daemon

open Routine

/-! ### The course of a draft -/

/-- How far a building is: it has not said that the parts are there, or it has. It is lost once
something failed or memory said so before it did. -/
inductive Draft
  | pending
  | noted
  | lost
  deriving DecidableEq

def Draft.after : Draft → (c : Call) → Except Fault c.Reply → Draft
  | .pending, .process .recollect, .ok m => if Memory.ready m then .lost else .pending
  | .pending, .process (.remember m), .ok _ => if m.ready then .noted else .pending
  | .pending, _, .ok _ => .pending
  | .pending, _, .error _ => .lost
  | .noted, _, _ => .noted
  | .lost, _, _ => .lost

def isNote : Call → Bool
  | .process (.remember _) => true
  | _ => false

/-- Once the parts are said to be there, nothing is changed. -/
def drafts : Protocol Draft := fun d c reply d' =>
  (d = .noted → isAloof c = true) ∧ d' = d.after c reply

/-- A routine that keeps to the course of a draft, from where the draft is. -/
abbrev Drafts {α : Type} (r : Routine α) (d : Draft) : Prop := Follows drafts (fun _ _ => True) r d

/-- A routine that is a part of a building: it does not say that the parts are there. -/
def Modest {α : Type} (r : Routine α) : Prop := Follows drafts (fun d _ => d ≠ .noted) r .pending

section Drafts

variable {α β : Type} {r : Routine α} {settings : Settings}

theorem follows_lost {P : Draft → Prop} (lost : P .lost) :
    Follows drafts (fun d _ => P d) r .lost := by
  induction r with
  | done a => exact follows_done.mpr lost
  | fail fault => exact follows_fail.mpr lost
  | ask c next ih => exact follows_ask.mpr fun reply => ⟨.lost, ⟨nofun, rfl⟩, ih reply⟩

/-- Whoever changes nothing keeps to the course wherever the draft is. -/
theorem drafts_of_aloof (only : OnlyCalls isAloof r) (d : Draft) : Drafts r d := by
  induction r generalizing d with
  | done a => exact follows_done.mpr trivial
  | fail fault => exact follows_fail.mpr trivial
  | ask c next ih =>
      refine follows_ask.mpr fun reply => ?_
      obtain ⟨_, aloof, rest⟩ := follows_ask.mp only reply
      exact ⟨d.after c reply, ⟨fun _ => aloof, rfl⟩, ih reply rest _⟩

/-- Nothing is changed after the last note. -/
theorem aloof_of_noted (follows : Drafts r .noted) : OnlyCalls isAloof r := by
  induction r with
  | done a => exact only_done trivial
  | fail fault => exact only_fail trivial
  | ask c next ih =>
      refine follows_ask.mpr fun reply => ?_
      obtain ⟨_, ⟨aloof, rfl⟩, rest⟩ := follows_ask.mp follows reply
      exact ⟨(), aloof rfl, ih reply rest⟩

/-! ### Parts of a building -/

/-- What comes after a part of a building starts from a draft that is still pending, or from one
that does not matter any more. -/
theorem Modest.then {P : Draft → Prop} {f : α → Routine β} (first : Modest r) (lost : P .lost)
    (kept : P .pending) (rest : ∀ a, Follows drafts (fun d _ => P d) (f a) .pending) :
    Follows drafts (fun d _ => P d) (r >>= f) .pending := by
  refine follows_bind.mpr (first.mono fun d o unnoted => ?_)
  cases d with
  | noted => exact absurd rfl unnoted
  | lost => exact follows_lost lost
  | pending =>
      cases o with
      | ok a => exact rest a
      | error fault => exact follows_fail.mpr kept

/-- Parts of a building make a part of it. -/
theorem Modest.bind {f : α → Routine β} (first : Modest r) (rest : ∀ a, Modest (f a)) :
    Modest (r >>= f) := first.then nofun nofun rest

theorem modest_done {a : α} : Modest (.done a) := follows_done.mpr nofun

theorem modest_fail {fault : Fault} : Modest (.fail fault : Routine α) := follows_fail.mpr nofun

/-- Only what is noted in memory says anything of the parts. -/
theorem modest_call {c : Call} (unnoted : isNote c = false) : Modest (call c) := by
  refine follows_call.mpr fun reply => ⟨_, ⟨nofun, rfl⟩, ?_⟩
  unfold Draft.after
  split
  · split <;> nofun
  · cases unnoted
  · nofun
  · nofun
  · exact absurd ‹Draft.pending = .noted› nofun
  · exact absurd ‹Draft.pending = .lost› nofun

/-- A change of memory says nothing of the parts if it keeps what memory says of them. -/
theorem modest_modify {change : Memory → Memory} (kept : ∀ m, (change m).ready = m.ready) :
    Modest (modify change) := by
  refine follows_call_bind.mpr fun reply => ⟨_, ⟨nofun, rfl⟩, ?_⟩
  cases reply with
  | error fault => exact follows_fail.mpr nofun
  | ok m =>
      cases ready : Memory.ready m with
      | true =>
          rw [Draft.after, if_pos ready]
          exact follows_lost (P := (· ≠ .noted)) nofun
      | false =>
          rw [Draft.after, if_neg (Bool.eq_false_iff.mp ready), ofOutcome_ok, bind_done]
          refine (follows_call (c := .process (.remember (change m)))).mpr fun reply =>
            ⟨_, ⟨nofun, rfl⟩, ?_⟩
          cases reply with
          | error fault => exact nofun
          | ok _ => rw [Draft.after, if_neg (Bool.eq_false_iff.mp ((kept m).trans ready))]; nofun

theorem modest_modify_bind {change : Memory → Memory} {f : Unit → Routine α}
    (kept : ∀ m, (change m).ready = m.ready) (rest : ∀ a, Modest (f a)) :
    Modest (modify change >>= f) :=
  (modest_modify kept).bind rest

theorem Modest.rescue {kind : Fault → Bool} {handle : Fault → Routine α} (modest : Modest r)
    (handles : ∀ fault, Modest (handle fault)) : Modest (r.rescue kind handle) := by
  refine follows_rescue.mpr (modest.mono fun d o unnoted => ?_)
  cases d with
  | noted => exact absurd rfl unnoted
  | lost => exact follows_lost nofun
  | pending =>
      cases o with
      | ok a => exact modest_done
      | error fault =>
          rw [ofOutcome_error, rescue_fail]
          split
          · exact handles fault
          · exact modest_fail

theorem modest_log {level : Log.Level} {source : Log.Source} {text : String} :
    Modest (log level source text) :=
  modest_call (c := .process (.log _)) rfl

theorem modest_setUpLog : Modest (setUpLog settings.program) := by
  refine (modest_call (c := .process .recollect) rfl).bind fun m => ?_
  split
  · refine modest_modify_bind (fun _ => rfl) fun _ => ?_
    split
    · exact modest_modify fun _ => rfl
    · exact modest_fail
  · exact modest_done

theorem modest_openKeys : Modest (openKeys settings) := by
  refine (modest_call (c := .process .recollect) rfl).bind fun m => ?_
  split
  · exact (modest_call (c := .keys (.connect _)) rfl).bind fun _ => modest_modify fun _ => rfl
  · exact modest_done

theorem modest_seed : Modest (Counter.seed settings.keyValue) := by
  have last : Modest Catalog.lastId := by
    refine Modest.bind (Modest.rescue ?_ fun _ => modest_fail) fun last? => ?_
    · exact (modest_call (c := .database .connect) rfl).bind fun _ =>
        modest_call (c := .database .lastId) rfl
    · cases last? with
      | some id => exact modest_done
      | none => exact modest_log.bind fun _ => modest_done
  refine last.bind fun last => Modest.bind (Modest.rescue ?_ fun _ => modest_fail) fun _ =>
    modest_log
  exact modest_call rfl

theorem modest_create : Modest (Publisher.create settings.bus) :=
  (modest_call (c := .producer (.create _)) rfl).bind fun _ => modest_modify fun _ => rfl

theorem modest_start : Modest Publisher.start := by
  refine Modest.bind (Modest.rescue ?_ fun _ => ?_) fun started => ?_
  · exact (modest_call (c := .producer .start) rfl).bind fun _ => modest_done
  · exact modest_log.bind fun _ => (modest_call (c := .producer .stop) rfl).bind fun _ =>
      modest_done
  · cases started with
    | true => exact modest_modify fun _ => rfl
    | false => exact modest_done

theorem modest_build {p : Part} : Modest (build p) := modest_modify fun _ => rfl

theorem modest_buildClicks : Modest (buildClicks settings.clicks) := by
  unfold buildClicks
  cases settings.clicks.backend with
  | rows => exact modest_build.bind fun _ => modest_build
  | columns =>
      have connects : Modest (ColumnStore.connect settings.clicks) := by
        unfold ColumnStore.connect
        split
        · exact modest_fail
        · exact modest_call (c := .columns (.connect ..)) rfl
      refine connects.bind fun _ => modest_build.bind fun _ => ?_
      refine Modest.bind (Modest.rescue ?_ fun _ => modest_fail) fun _ =>
        connects.bind fun _ => modest_build
      exact modest_call (c := .columns .createTable) rfl

theorem modest_buildFeed : Modest (buildFeed settings) := by
  refine modest_log.bind fun _ => (modest_call (c := .atlas (.create _)) rfl).bind fun _ => ?_
  refine modest_build.bind fun _ => Modest.bind ?_ fun _ => modest_build.bind fun _ => ?_
  · exact (modest_call (c := .consumer (.create ..)) rfl).bind fun _ => modest_modify fun _ => rfl
  · exact (modest_call (c := .process (.spawnFeed ..)) rfl).bind fun _ => modest_build

/-! ### Whole buildings -/

theorem Modest.before {f : α → Routine β} (first : Modest r) (rest : ∀ a, Drafts (f a) .pending) :
    Drafts (r >>= f) .pending := first.then trivial trivial rest

/-- Nothing is changed after a building. -/
theorem Drafts.aloof {f : α → Routine β} {d : Draft} (first : Drafts r d)
    (rest : ∀ a, OnlyCalls isAloof (f a)) : Drafts (r >>= f) d := by
  refine follows_bind.mpr (first.mono fun d o _ => ?_)
  cases o with
  | ok a => exact drafts_of_aloof (rest a) d
  | error fault => exact follows_fail.mpr trivial

/-- Any single change keeps to the course, whatever it says of the parts. -/
theorem drafts_modify {change : Memory → Memory} : Drafts (modify change) .pending := by
  refine follows_call_bind.mpr fun reply => ⟨_, ⟨nofun, rfl⟩, ?_⟩
  cases reply with
  | error fault => exact follows_fail.mpr trivial
  | ok m =>
      rw [Draft.after]
      split
      · exact follows_lost (P := fun _ => True) trivial
      · exact (follows_call (c := .process (.remember (change m)))).mpr fun reply =>
          ⟨_, ⟨nofun, rfl⟩, trivial⟩

/-- The note that all parts are there comes last. -/
theorem drafts_finish : Drafts (do
    if settings.consumer.enabled then buildFeed settings
    setReady true
    log .info .process "Service manager initialized") .pending := by
  have notes : Drafts (do
      setReady true
      log .info .process "Service manager initialized") .pending :=
    drafts_modify.aloof fun _ => onlyCalls_call rfl
  dsimp only
  split
  · exact modest_buildFeed.before fun _ => notes
  · exact notes

/-- A building says at its end that the parts are there, and not before. -/
theorem drafts_buildAll : Drafts (buildAll settings) .pending := by
  refine (modest_call (c := .process .recollect) rfl).before fun m => ?_
  dsimp only
  split
  · refine Modest.before (modest_modify fun _ => rfl) fun _ => ?_
    refine modest_setUpLog.before fun _ => ?_
    refine modest_openKeys.before fun _ => ?_
    refine modest_build.before fun _ => ?_
    refine modest_build.before fun _ => ?_
    refine modest_build.before fun _ => ?_
    refine modest_seed.before fun _ => ?_
    refine modest_build.before fun _ => ?_
    refine modest_build.before fun _ => ?_
    refine modest_create.before fun _ => ?_
    refine modest_build.before fun _ => ?_
    refine modest_start.before fun _ => ?_
    exact modest_buildClicks.before fun _ => drafts_finish
  · exact follows_done.mpr trivial

/-- Handing out changes nothing. -/
theorem aloof_handOut : OnlyCalls isAloof (handOut settings) := by
  refine Only.bind (onlyCalls_call rfl) fun _ => ?_
  split
  · exact only_done trivial
  · exact only_fail trivial

/-- Whoever asks for the parts keeps to the course of a draft. -/
theorem drafts_provide : Drafts (provide settings) .pending := by
  refine (modest_call (c := .process .recollect) rfl).before fun m => ?_
  dsimp only
  split
  · exact drafts_buildAll.aloof fun _ => aloof_handOut
  · exact drafts_of_aloof aloof_handOut _

end Drafts

/-! ### What is settled -/

section Settled

variable {fails : Call → Fault → Prop} {s : Steward}

/-- How a call is answered where nothing fails, unless it waits for a feed. -/
def Steward.answer? (s : Steward) : (c : Call) → Option (Except Fault c.Reply)
  | .process .recollect => some (.ok s.memory)
  | .process (.joinFeed _) => none
  | c => some (smooth c)

/-- What is answered so is a reply that may come. -/
theorem Steward.admits_answer {c : Call} {reply : Except Fault c.Reply}
    (answers : s.answer? c = some reply) : (steward fails).admits s c reply := by
  unfold answer? at answers
  split at answers <;> cases answers
  · exact ⟨nofun, rfl⟩
  · rename_i c other other'
    refine ⟨of_smooth_error (P := fun c fault => isRisky c = true ∧ fails c fault) _, ?_⟩
    unfold Steward.Recalls
    split
    · exact (other rfl).elim
    · exact (other' _ rfl).elim
    · trivial

/-- Whoever changes nothing is answered. -/
theorem Steward.answers_aloof {c : Call} (aloof : isAloof c = true) :
    ∃ reply, s.answer? c = some reply := by
  unfold answer?
  split
  · exact ⟨_, rfl⟩
  · cases aloof
  · exact ⟨_, rfl⟩

/-- Where nothing fails, a building that is under way tells what memory says. -/
theorem draft_after {c : Call} {reply : Except Fault c.Reply}
    (admits : (steward fun _ _ => False).admits s c reply) (unready : s.memory.ready = false) :
    Draft.pending.after c reply =
      if (s.memory.after c reply).ready then .noted else .pending := by
  obtain ⟨fails, recalls⟩ := admits
  unfold Draft.after
  split
  · cases recalls
    simp only [Memory.after, unready]
    rfl
  · rfl
  · rename_i c _ _ _ _ a _ unnoted
    have same : s.memory.after c (.ok a) = s.memory := by
      unfold Memory.after
      split
      · exact (unnoted _ a rfl HEq.rfl).elim
      · rfl
    rw [same, unready]
    rfl
  · exact (fails _ rfl).2.elim
  · exact absurd ‹Draft.pending = .noted› nofun
  · exact absurd ‹Draft.pending = .lost› nofun

/-- Where nothing is changed any more, what is to hold in the end holds already. -/
theorem holds_of_aloof {α : Type} {P : Steward → Prop} {r : Routine α}
    (only : OnlyCalls isAloof r) (secures : Secures (steward fails) (fun s _ => P s) r s) :
    P s := by
  induction r with
  | done a => exact secures_done.mp secures
  | fail fault => exact secures_fail.mp secures
  | ask c next ih =>
      obtain ⟨_, aloof, _⟩ := follows_ask.mp only (.error .cancelled)
      obtain ⟨reply, answers⟩ := s.answers_aloof aloof
      obtain ⟨_, _, rest⟩ := follows_ask.mp only reply
      refine ih reply rest ?_
      have left := secures_ask.mp secures reply (Steward.admits_answer answers)
      change Secures _ _ _ (s.after c reply) at left
      rwa [Steward.after_of_aloof aloof] at left

end Settled

end LinkShortener.Daemon
