import LinkShortener.Proofs.Link.Phase
import LinkShortener.Proofs.Traffic.Basic
import LinkShortener.Proofs.Web.Answer
import LinkShortener.Proofs.Web.Reading

/-!
Requests do not feel the bus. Two runs of the service serve the same requests, while the bus takes
or refuses what is sent to it in its own way in each of them, and the publisher is started and
stopped at different times. The argument compares the runs request by request. Up to its response
a request makes only calls that the bus has no part in, and after it nothing but the publication
of a visit is left, which ends well whatever the bus does and touches nothing that requests read.

What the bus has taken comes back through the feed at some later time; that is no part of these
runs. One page does tell what became of publications, the one that shows the meters: two runs show
it differently as soon as one of them has dropped a visit that the other has published.

Main statements: all requests are served, with the same responses in both runs but for what is
shown of the meters, and the same links, keys and clicks are left after each of them
(`responses_independent_of_bus`); the page of the meters has to be set apart
(`meters_tell_of_bus`).
-/

namespace LinkShortener.Web

open Routine
open Bench (World)
open Failure (isQuiet)

/-! ### The bus -/

/-- What the bus has in store for the calls to its producer, by the numbers of the calls: a fault
of the bus, or none if the call is acknowledged. The producer can always be stopped. -/
structure Bus where
  fault? : Nat → ProducerCall → Option Fault
  outage : ∀ {n c fault}, fault? n c = some fault → fault.isBusOutage = true
  stops : ∀ n, fault? n .stop = none

namespace Bus

/-- A bus that acknowledges every call. -/
def acknowledging : Bus := ⟨fun _ _ => none, nofun, fun _ => rfl⟩

/-- A bus that is down. -/
def down : Bus where
  fault? _ c := if c = .stop then none else some (.outage .bus "boom")
  outage met := by
    split at met <;> cases met
    rfl
  stops _ := rfl

/-- The world after the bus has acknowledged a call. -/
def accept (w : World) : ProducerCall → World
  | .send _ _ value => { w with sent := w.sent ++ [value] }
  | _ => w

/-- Makes a call to the producer, of which there have been so many. -/
def answer (bus : Bus) (c : ProducerCall) (w : World) (n : Nat) : Except Fault Unit × World :=
  match bus.fault? n c with
  | some fault => (.error fault, w.keep (.producer c) false)
  | none => (.ok (), (accept w c).keep (.producer c) true)

/-- Makes a call in a world whose bus is this one. -/
def perform (bus : Bus) : Performer (World × Nat) := fun c (w, n) =>
  match c with
  | .producer c =>
    let (reply, w) := bus.answer c w n
    (reply, w, n + 1)
  | c =>
    let (reply, w) := w.perform c
    (reply, w, n)

end Bus

/-- A world apart from what the bus has been sent, from what the service notes of its doings, and
from whether its publisher runs. -/
def besidesBus (w : World) : World :=
  { w with
    memory := { w.memory with publishing := false }
    sent := []
    log := []
    meters := []
    trace := [] }

/-- Worlds that differ in nothing else. -/
def Alike (w w' : World) : Prop := besidesBus w = besidesBus w'

/-! ### Calls that the bus has no part in -/

/-- A call that neither goes to the bus nor tells whether the publisher runs or what the meters
show. -/
def isDeaf : Call → Bool
  | .database _ | .keys _ | .columns _ => true
  | .process (.log _) | .process (.count _) | .process .now | .process .freshEvent
  | .process .freshRequest => true
  | .process (.page path) => path ≠ "/metrics"
  | _ => false

theorem deaf_of_quiet (c : Call) (quiet : isQuiet c = true) : isDeaf c = true := by
  cases c with
  | database | keys | columns => rfl
  | process c => cases c <;> first | rfl | cases quiet
  | _ => cases quiet

/-- An answer is blind if it is the same without what `besidesBus` leaves out. -/
def Blind {α : Type} (answer : World → Except Fault α × World) : Prop :=
  ∀ w, (answer (besidesBus w)).1 = (answer w).1 ∧ Alike (answer (besidesBus w)).2 (answer w).2

section Blind

variable {α : Type} {answer : World → Except Fault α × World}

theorem alike_besidesBus (w : World) : Alike (besidesBus w) w := rfl

theorem meet_besidesBus (w : World) (target : Bench.Target) :
    (besidesBus w).meet target = ((w.meet target).1, besidesBus (w.meet target).2) := by
  have switches : (besidesBus w).switches = w.switches := rfl
  simp only [World.meet, switches]
  cases w.switches.find? (·.target == target) with
  | none => rfl
  | some s =>
      cases uses : s.uses with
      | none => simp [uses]
      | some n =>
          cases n with
          | zero => simp [uses]
          | succ n =>
              simp [uses]
              rfl

theorem Blind.barring (blind : Blind answer) (target : Bench.Target) :
    Blind fun w => w.barring target answer := by
  intro w
  simp only [World.barring, meet_besidesBus]
  cases w.meet target with
  | mk fault? w' =>
      cases fault? with
      | some fault => exact ⟨rfl, alike_besidesBus w'⟩
      | none => exact blind w'

end Blind

/-- What the database answers has nothing to do with the bus. -/
theorem blind_database (c : DatabaseCall) : Blind (World.database c) := by
  cases c with
  | connect | retargetLink | deleteLink =>
      apply Blind.barring
      exact fun w => ⟨rfl, rfl⟩
  | insertLink id url token =>
      apply Blind.barring
      intro w
      have links : (besidesBus w).links = w.links := rfl
      simp only [links]
      split <;> exact ⟨rfl, rfl⟩
  | insertClick click =>
      apply Blind.barring
      intro w
      have clicks : (besidesBus w).clicks = w.clicks := rfl
      simp only [clicks]
      split <;> exact ⟨rfl, rfl⟩
  | readBack id =>
      intro w
      have links : (besidesBus w).links = w.links := rfl
      simp only [World.database, links]
      split <;> exact ⟨rfl, rfl⟩
  | _ => exact fun w => ⟨rfl, rfl⟩

theorem blind_server (c : KeysCall) : Blind (World.server c) := by
  cases c with
  | connect | close => exact fun w => ⟨rfl, rfl⟩
  | increment key =>
      apply Blind.barring
      intro w
      have keys : (besidesBus w).keys = w.keys := rfl
      simp only [keys]
      split <;> exact ⟨rfl, rfl⟩
  | _ =>
      apply Blind.barring
      exact fun w => ⟨rfl, rfl⟩

theorem blind_store (c : ColumnsCall) : Blind (World.store c) := by
  cases c with
  | connect | close => exact fun w => ⟨rfl, rfl⟩
  | _ =>
      apply Blind.barring
      exact fun w => ⟨rfl, rfl⟩

/-- What the bus has no part in is answered without regard to it. -/
theorem blind_answer {c : Call} (deaf : isDeaf c = true) : Blind (World.answer c) := by
  cases c with
  | database c => exact blind_database c
  | keys c => exact blind_server c
  | columns c => exact blind_store c
  | process c =>
      cases c with
      | page path =>
          intro w
          have other : path ≠ "/metrics" := of_decide_eq_true deaf
          simp only [World.answer, World.process, World.page, if_neg other]
          exact ⟨rfl, rfl⟩
      | _ => first | exact fun w => ⟨rfl, rfl⟩ | cases deaf
  | _ => cases deaf

theorem besidesBus_keep (w : World) (c : Call) (answered : Bool) :
    besidesBus (w.keep c answered) = besidesBus w := by
  unfold World.keep
  split <;> rfl

variable {α β : Type} {w w' : World}

/-- A deaf call is performed as without the bus. -/
theorem perform_of_deaf (bus : Bus) {c : Call} (deaf : isDeaf c = true) (w : World) (n : Nat) :
    bus.perform c (w, n) = ((w.perform c).1, (w.perform c).2, n) := by
  cases c with
  | producer c => cases deaf
  | _ => rfl

/-- A deaf call is answered alike in worlds that are alike. -/
theorem alike_perform {c : Call} (deaf : isDeaf c = true) (alike : Alike w w') :
    (w.perform c).1 = (w'.perform c).1 ∧ Alike (w.perform c).2 (w'.perform c).2 := by
  obtain ⟨replies, leaves⟩ := blind_answer deaf w
  obtain ⟨replies', leaves'⟩ := blind_answer deaf w'
  simp only [Traffic.perform_eq, Alike, besidesBus_keep] at leaves leaves' ⊢
  rw [← replies, ← leaves, ← replies', ← leaves', show besidesBus w = besidesBus w' from alike]
  exact ⟨rfl, rfl⟩

/-- A routine that the bus has no part in comes to the same end whatever bus there is. -/
theorem alike_run (bus bus' : Bus) {post : Except Fault α → Prop} {r : Routine α}
    (only : Only isDeaf post r) (n n' : Nat) (alike : Alike w w') :
    ∃ o v v', r.run bus.perform (w, n) = (o, v, n) ∧ r.run bus'.perform (w', n') = (o, v', n') ∧
      post o ∧ Alike v v' := by
  induction r generalizing w w' with
  | done a => exact ⟨_, _, _, rfl, rfl, follows_done.mp only, alike⟩
  | fail fault => exact ⟨_, _, _, rfl, rfl, follows_fail.mp only, alike⟩
  | ask c next ih =>
      obtain ⟨_, deaf, rest⟩ := follows_ask.mp only (w.perform c).1
      obtain ⟨replies, alike'⟩ := alike_perform deaf alike
      simp only [run, perform_of_deaf _ deaf, ← replies]
      exact ih _ rest alike'

/-! ### What the bus is part of -/

/-- All that can come of a routine while the bus does as it does: its outcome is as said, and
nothing is changed but what has to do with the bus. -/
def Passes (bus : Bus) (r : Routine α) (post : Except Fault α → Prop) : Prop :=
  ∀ w n, ∃ o v m, r.run bus.perform (w, n) = (o, v, m) ∧ post o ∧ Alike v w

section Passes

variable {bus : Bus} {r : Routine α} {post mid : Except Fault α → Prop}

theorem passes_done {a : α} (holds : post (.ok a)) : Passes bus (.done a) post :=
  fun w n => ⟨_, w, n, rfl, holds, rfl⟩

theorem passes_fail {fault : Fault} (holds : post (.error fault)) :
    Passes bus (.fail fault) post :=
  fun w n => ⟨_, w, n, rfl, holds, rfl⟩

theorem Passes.bind {post : Except Fault β → Prop} {f : α → Routine β} (first : Passes bus r mid)
    (rest : ∀ o, mid o → Passes bus (ofOutcome o >>= f) post) : Passes bus (r >>= f) post := by
  intro w n
  obtain ⟨o, v, m, runs, holds, alike⟩ := first w n
  obtain ⟨o', v', m', runs', holds', alike'⟩ := rest o holds v m
  exact ⟨o', v', m', by rw [run_bind, runs, runs'], holds', alike'.trans alike⟩

theorem Passes.rescue {kind : Fault → Bool} {handle : Fault → Routine α}
    (first : Passes bus r mid)
    (rest : ∀ o, mid o → Passes bus ((ofOutcome o).rescue kind handle) post) :
    Passes bus (r.rescue kind handle) post := by
  intro w n
  obtain ⟨o, v, m, runs, holds, alike⟩ := first w n
  obtain ⟨o', v', m', runs', holds', alike'⟩ := rest o holds v m
  exact ⟨o', v', m', by rw [run_rescue, runs, runs'], holds', alike'.trans alike⟩

/-- The process answers, and notes are all that it keeps. -/
theorem passes_process_bind {post : Except Fault β → Prop} {c : ProcessCall}
    {f : c.Reply → Routine β} (note : ∀ w, ∃ a v, World.process c w = (.ok a, v) ∧ Alike v w)
    (rest : ∀ a, Passes bus (f a) post) : Passes bus (call (.process c) >>= f) post := by
  intro w n
  obtain ⟨a, v, answers, alike⟩ := note w
  have performs : bus.perform (.process c) (w, n) =
      (.ok a, v.keep (.process c) true, n) := by
    simp only [Bus.perform, World.perform, World.answer, answers]
    rfl
  obtain ⟨o', v', m', runs', holds', alike'⟩ := rest a (v.keep (.process c) true) n
  refine ⟨o', v', m', ?_, holds', ?_⟩
  · rw [run_bind, run_call, performs]
    exact runs'
  · exact alike'.trans ((besidesBus_keep v _ _).trans alike)

theorem passes_log_bind {post : Except Fault β → Prop} {f : Unit → Routine β} (level : Log.Level)
    (source : Log.Source) (text : String) (rest : Passes bus (f ()) post) :
    Passes bus (log level source text >>= f) post :=
  passes_process_bind (c := .log _) (fun _ => ⟨(), _, rfl, rfl⟩) fun _ => rest

theorem passes_count_bind {post : Except Fault β → Prop} {f : Unit → Routine β} (meter : Meter)
    (rest : Passes bus (f ()) post) : Passes bus (count meter >>= f) post :=
  passes_process_bind (c := .count _) (fun _ => ⟨(), _, rfl, rfl⟩) fun _ => rest

theorem passes_recollect_bind {post : Except Fault β → Prop} {f : Daemon.Memory → Routine β}
    (rest : ∀ memory, Passes bus (f memory) post) : Passes bus (recollect >>= f) post :=
  passes_process_bind (c := .recollect) (fun _ => ⟨_, _, rfl, rfl⟩) rest

/-- Whether the publisher runs is noted beside everything else. -/
theorem passes_setPublishing (running : Bool) :
    Passes bus (modify fun memory => { memory with publishing := running }) (· = .ok ()) :=
  fun _ _ => ⟨_, _, _, rfl, rfl, rfl⟩

/-- The bus acknowledges a call, or it has an outage, in which it can still be stopped. -/
theorem passes_producer (c : ProducerCall) : Passes bus (Publisher.producer c) fun o =>
    o = .ok () ∨ c ≠ .stop ∧ ∃ fault, o = .error fault ∧ fault.isBusOutage = true := by
  intro w n
  cases met : bus.fault? n c with
  | some fault =>
      have performs : bus.perform (.producer c) (w, n) =
          (.error fault, w.keep (.producer c) false, n + 1) := by
        simp only [Bus.perform, Bus.answer, met]
      refine ⟨_, _, _, (run_call _ _ _).trans performs, .inr ⟨?_, fault, rfl, bus.outage met⟩,
        besidesBus_keep w _ _⟩
      rintro rfl
      rw [bus.stops] at met
      cases met
  | none =>
      have performs : bus.perform (.producer c) (w, n) =
          (.ok (), (Bus.accept w c).keep (.producer c) true, n + 1) := by
        simp only [Bus.perform, Bus.answer, met]
      have accepts : Alike (Bus.accept w c) w := by cases c <;> rfl
      exact ⟨_, _, _, (run_call _ _ _).trans performs, .inl rfl,
        (besidesBus_keep _ _ _).trans accepts⟩

end Passes

/-- Publishing passes, whatever the bus does. -/
theorem passes_publish (bus : Bus) (settings : Settings) (v : Visit) :
    Passes bus (publish settings v) (· = .ok ()) := by
  have publishes : Passes bus (Publisher.publish settings.bus v) fun o =>
      o = .ok () ∨ ∃ failure, o = .error (.publisher failure) := by
    apply passes_recollect_bind
    intro memory
    split
    · have sends : Passes bus ((Publisher.producer (.send settings.bus.topic v.token
          (Publisher.message v))).rescue Fault.isBusOutage fun _ => do
            count .publishFailures
            .fail (.publisher (.publish v.token))) fun o =>
              o = .ok () ∨ o = .error (.publisher (.publish v.token)) := by
        apply (passes_producer _).rescue
        rintro _ (rfl | ⟨-, fault, rfl, outage⟩)
        · exact passes_done (.inl rfl)
        · rw [ofOutcome_error, rescue_fail, if_pos outage]
          exact passes_count_bind _ (passes_fail (.inr rfl))
      apply sends.bind
      rintro _ (rfl | rfl)
      · exact passes_count_bind _ (passes_done (.inl rfl))
      · exact passes_fail (.inr ⟨_, rfl⟩)
    · exact passes_count_bind _ (passes_fail (.inr ⟨_, rfl⟩))
  apply publishes.rescue
  rintro _ (rfl | ⟨failure, rfl⟩)
  · exact passes_done rfl
  · exact passes_log_bind _ _ _ (passes_done rfl)

/-- The publisher starts or stays stopped. -/
theorem passes_start (bus : Bus) : Passes bus Publisher.start (· = .ok ()) := by
  have started : Passes bus ((do Publisher.producer .start; return true : Routine Bool).rescue
      Fault.isBusOutage fun _ => do
        log .warning .publisher "Kafka producer failed to start, stats events will be dropped"
        Publisher.producer .stop
        return false) fun o => ∃ running, o = .ok running := by
    have asked : Passes bus (do Publisher.producer .start; return true : Routine Bool) fun o =>
        o = .ok true ∨ ∃ fault, o = .error fault ∧ fault.isBusOutage = true := by
      apply (passes_producer .start).bind
      rintro _ (rfl | ⟨-, fault, rfl, outage⟩)
      · exact passes_done (.inl rfl)
      · exact passes_fail (.inr ⟨fault, rfl, outage⟩)
    apply asked.rescue
    rintro _ (rfl | ⟨fault, rfl, outage⟩)
    · exact passes_done ⟨true, rfl⟩
    · rw [ofOutcome_error, rescue_fail, if_pos outage]
      apply passes_log_bind
      apply (passes_producer .stop).bind
      rintro _ (rfl | ⟨started, -⟩)
      · exact passes_done ⟨false, rfl⟩
      · exact absurd rfl started
  apply started.bind
  rintro _ ⟨running, rfl⟩
  cases running with
  | true => exact passes_setPublishing true
  | false => exact passes_done rfl

/-- Stopping the publisher passes, whatever the bus does. -/
theorem passes_stop (bus : Bus) : Passes bus Publisher.stop (· = .ok ()) := by
  apply passes_recollect_bind
  intro memory
  split
  · apply (passes_producer .stop).bind
    rintro _ (rfl | ⟨started, -⟩)
    · exact passes_setPublishing false
    · exact absurd rfl started
  · exact passes_done rfl

/-! ### Answers -/

open Directory (Phase Advances) in
/-- The operations of the directory have nothing to do with the bus. -/
theorem deaf_of_follows {s : Settings.KeyValue} {post : Phase → Except Fault α → Prop}
    {r : Routine α} {p : Phase} (follows : Follows (Advances s) post r p) :
    OnlyCalls isDeaf r := by
  refine (follows.embed (fun _ => ()) fun p c reply q advances => ?_).mono fun _ _ _ => trivial
  cases advances with
  | noted _ _ incidental | unnoted _ _ incidental => cases incidental <;> rfl
  | _ => rfl

/-- After an answer nothing is left to do but to publish a visit. -/
def Remains (settings : Settings) (o : Except Fault Answer) : Prop :=
  ∀ answer, o = .ok answer →
    answer.after = .done () ∨ ∃ v, answer.after = publish settings v

theorem remains_of_concludes {settings : Settings} (o : Except Fault Answer)
    (concludes : Concludes o) : Remains settings o :=
  fun answer came => .inl (concludes answer came)

theorem remains_error {settings : Settings} (fault : Fault) : Remains settings (.error fault) :=
  remains_of_concludes _ (concludes_error fault)

variable {settings : Settings} {r : Request}

theorem deaf_log (level : Log.Level) (source : Log.Source) (text : String) :
    OnlyCalls isDeaf (log level source text) := onlyCalls_call (c := .process (.log _)) rfl

theorem deaf_reporting {operation : String} {body : Routine α} {next : α → Routine Answer}
    (first : OnlyCalls isDeaf body) (rest : ∀ a, Only isDeaf (Remains settings) (next a)) :
    Only isDeaf (Remains settings) (reporting operation body next) :=
  only_reporting deaf_of_quiet remains_of_concludes first rest

theorem deaf_plain (response : Response) :
    Only isDeaf (Remains settings) (.done (.plain response)) :=
  only_done (remains_of_concludes _ (concludes_plain response))

/-- A redirect is answered before the bus has heard of it. -/
theorem deaf_redirects (token : String) :
    Only isDeaf (Remains settings) (answerOn settings r .redirect token) := by
  have called : OnlyCalls isDeaf (caller r) :=
    (onlyCalls_call (c := .process .freshRequest) rfl).bind fun name => only_done trivial
  refine called.then remains_error fun caller => ?_
  refine deaf_reporting (deaf_of_follows (Directory.follows_resolve token)) fun url => ?_
  have named : OnlyCalls isDeaf (visit caller token) :=
    (onlyCalls_call (c := .process .freshEvent) rfl).bind fun event =>
      (onlyCalls_call (c := .process .now) rfl).bind fun time => only_done trivial
  refine named.then remains_error fun v => (deaf_log _ _ _).then remains_error fun _ => ?_
  apply only_done
  rintro answer ⟨⟩
  exact .inr ⟨v, rfl⟩

theorem deaf_shortens {wanted : LinkRequest} (asked : Payload.linkRequest r = .ok wanted) :
    Only isDeaf (Remains settings) (shorten settings r) := by
  have makes : OnlyCalls isDeaf (Directory.shorten settings.keyValue wanted.url) := by
    cases accepted : Url.check wanted.url with
    | ok => exact deaf_of_follows (Directory.follows_shorten accepted)
    | error fault => exact deaf_of_follows (Directory.follows_shorten_refused accepted)
  unfold shorten
  rw [asked]
  refine (deaf_log _ _ _).then remains_error fun _ => deaf_reporting makes fun link => ?_
  exact (deaf_log _ _ _).then remains_error fun _ => deaf_plain _

theorem deaf_updates {wanted : LinkRequest} {token : String}
    (asked : Payload.linkRequest r = .ok wanted) :
    Only isDeaf (Remains settings) (update settings r token) := by
  have retargets : OnlyCalls isDeaf (Directory.update settings.keyValue token wanted.url) := by
    cases accepted : Url.check wanted.url with
    | ok => exact deaf_of_follows (Directory.follows_update accepted)
    | error fault => exact deaf_of_follows (Directory.follows_update_refused accepted)
  unfold update
  rw [asked]
  exact (deaf_log _ _ _).then remains_error fun _ => deaf_reporting retargets fun link =>
    deaf_plain _

/-- A request for the page that shows the meters. -/
def asksForMeters (r : Request) : Bool :=
  r.method == "GET" && Route.isPath "/metrics".toList r.path.toList

theorem asksForMeters_of_found {token : String}
    (found : Route.find r.method r.path.toList = .found (.page "/metrics") token) :
    asksForMeters r = true := by
  obtain ⟨method, reads⟩ := Route.of_find_page found
  rw [asksForMeters, method, reads]
  rfl

/-- A request is answered by the page of the meters, or the bus has no part in its response. -/
theorem shows_or_deaf (settings : Settings) (r : Request) :
    asksForMeters r = true ∧ (∃ token, answer settings r =
      answerOn settings r (.page "/metrics") token) ∨
        Only isDeaf (Remains settings) (answer settings r) := by
  have handles := handles_answer settings r
  generalize answer settings r = routine at handles ⊢
  cases handles with
  | reads _ only => exact .inr ((only.widen deaf_of_quiet).mono remains_of_concludes)
  | shows path token found =>
      by_cases meters : path = "/metrics"
      · subst meters
        exact .inl ⟨asksForMeters_of_found found, token, rfl⟩
      · have deaf : OnlyCalls isDeaf (call (.process (.page path))) :=
          onlyCalls_call (decide_eq_true meters)
        exact .inr (deaf.then remains_error fun page => deaf_plain _)
  | shortens wanted asked => exact .inr (deaf_shortens asked)
  | redirects token => exact .inr (deaf_redirects token)
  | updates token wanted asked => exact .inr (deaf_updates asked)
  | deletes token =>
      refine .inr ((deaf_log _ _ _).then remains_error fun _ => ?_)
      exact deaf_reporting (deaf_of_follows (Directory.follows_delete token)) fun _ => deaf_plain _

/-! ### Runs of the service -/

/-- What remains after an answer passes, whatever the bus does. -/
theorem passes_after {answer : Answer} (bus : Bus) (remains : Remains settings (.ok answer)) :
    Passes bus answer.after (· = .ok ()) := by
  obtain idle | ⟨v, publishes⟩ := remains answer rfl
  · rw [idle]
    exact passes_done rfl
  · rw [publishes]
    exact passes_publish bus settings v

/-- What a request is served with, apart from what is shown of the meters. -/
def besidesMeters (r : Request) (x : Exchange) : Exchange :=
  if asksForMeters r then { x with response := { x.response with body := .nothing } } else x

/-- The page of the meters is shown as it stands. -/
theorem run_meters {token : String} (bus : Bus) (direct : Sharing.preflight? r = none)
    (shows : answer settings r = answerOn settings r (.page "/metrics") token) (w : World)
    (n : Nat) : (serve settings r).run bus.perform (w, n) =
      (.ok ⟨Sharing.share r (.ofPage (w.page "/metrics")), none⟩, w, n) := by
  unfold serve
  rw [direct, shows]
  rfl

/-- The page of the meters is served alike but for what it shows of them. -/
theorem besidesMeters_share (asks : asksForMeters r = true) (w w' : World) :
    besidesMeters r ⟨Sharing.share r (.ofPage (w.page "/metrics")), none⟩ =
      besidesMeters r ⟨Sharing.share r (.ofPage (w'.page "/metrics")), none⟩ := by
  simp only [besidesMeters, asks, if_true, Sharing.share]
  split <;> rfl

/-- A request is served with the same response whatever bus there is, apart from the meters. -/
theorem alike_serve (bus bus' : Bus) (settings : Settings) (r : Request) (n n' : Nat)
    (alike : Alike w w') :
    ∃ x x' v v' m m', (serve settings r).run bus.perform (w, n) = (.ok x, v, m) ∧
      (serve settings r).run bus'.perform (w', n') = (.ok x', v', m') ∧
      besidesMeters r x = besidesMeters r x' ∧ Alike v v' := by
  cases direct : Sharing.preflight? r with
  | some response =>
      unfold serve
      rw [direct]
      exact ⟨_, _, w, w', n, n', rfl, rfl, rfl, alike⟩
  | none =>
      obtain ⟨asks, token, shows⟩ | deaf := shows_or_deaf settings r
      · exact ⟨_, _, w, w', n, n', run_meters bus direct shows w n,
          run_meters bus' direct shows w' n', besidesMeters_share asks w w', alike⟩
      · obtain ⟨o, v, v', answers, answers', remains, alike'⟩ :=
          alike_run bus bus' deaf n n' alike
        simp only [serve, direct, run_bind, run_outcome, answers, answers', ofOutcome_ok, bind_done]
        cases o with
        | error fault => exact ⟨_, _, v, v', n, n', rfl, rfl, rfl, alike'⟩
        | ok answer =>
            obtain ⟨_, u, m, ends, rfl, left⟩ := passes_after bus remains v n
            obtain ⟨_, u', m', ends', rfl, left'⟩ := passes_after bus' remains v' n'
            let x : Exchange := ⟨Sharing.share r answer.response, none⟩
            refine ⟨x, x, u, u', m, m', ?_, ?_, rfl, left.trans (alike'.trans left'.symm)⟩
            · simp only [run_bind, run_outcome, ends, ofOutcome_ok, bind_done]
              rfl
            · simp only [run_bind, run_outcome, ends', ofOutcome_ok, bind_done]
              rfl

/-- What happens to a service: requests, and the publisher is started and stopped. -/
inductive Event
  | request (r : Request)
  | startPublisher
  | stopPublisher

def requests : List Event → List Request
  | [] => []
  | .request r :: events => r :: requests events
  | _ :: events => requests events

/-- A request, what it is served with and the world that it leaves. -/
structure Served where
  request : Request
  exchange : Exchange
  left : World

/-- How requests are served. A run breaks off where its publisher fails to be started or stopped. -/
def exchanges (settings : Settings) (bus : Bus) : List Event → World × Nat → List Served
  | [], _ => []
  | .request r :: events, s =>
    match (serve settings r).run bus.perform s with
    | (.ok x, s') => ⟨r, x, s'.1⟩ :: exchanges settings bus events s'
    | (.error _, _) => []
  | .startPublisher :: events, s =>
    match Publisher.start.run bus.perform s with
    | (.ok _, s') => exchanges settings bus events s'
    | (.error _, _) => []
  | .stopPublisher :: events, s =>
    match Publisher.stop.run bus.perform s with
    | (.ok _, s') => exchanges settings bus events s'
    | (.error _, _) => []

/-- What callers see of a run apart from the meters, and what it leaves besides the bus. -/
def seen (run : List Served) : List Served :=
  run.map fun s => ⟨s.request, besidesMeters s.request s.exchange, besidesBus s.left⟩

/-- What is seen of a run is what is seen of its requests alone, whatever bus serves them. -/
theorem seen_events (bus bus' : Bus) (settings : Settings) (events : List Event) (n n' : Nat)
    (alike : Alike w w') :
    seen (exchanges settings bus events (w, n)) =
      seen (exchanges settings bus' ((requests events).map .request) (w', n')) := by
  induction events generalizing w w' n n' with
  | nil => rfl
  | cons event events ih =>
      cases event with
      | request r =>
          obtain ⟨x, x', v, v', m, m', serves, serves', same, alike'⟩ :=
            alike_serve bus bus' settings r n n' alike
          simp only [requests, List.map_cons, exchanges, serves, serves', seen]
          rw [same, show besidesBus v = besidesBus v' from alike']
          exact congrArg _ (ih m m' alike')
      | startPublisher =>
          obtain ⟨_, v, m, starts, rfl, left⟩ := passes_start bus w n
          simp only [exchanges, starts]
          exact ih m n' (left.trans alike)
      | stopPublisher =>
          obtain ⟨_, v, m, stops, rfl, left⟩ := passes_stop bus w n
          simp only [exchanges, stops]
          exact ih m n' (left.trans alike)

/-- No request is left unanswered. -/
theorem length_exchanges (bus : Bus) (settings : Settings) (events : List Event) (w : World)
    (n : Nat) : (exchanges settings bus events (w, n)).length = (requests events).length := by
  induction events generalizing w n with
  | nil => rfl
  | cons event events ih =>
      cases event with
      | request r =>
          obtain ⟨x, -, v, -, m, -, serves, -, -, -⟩ :=
            alike_serve bus bus settings r n n (w := w) rfl
          simp only [exchanges, serves, requests, List.length_cons, ih]
      | startPublisher =>
          obtain ⟨_, v, m, starts, rfl, -⟩ := passes_start bus w n
          simp only [exchanges, starts, requests, ih]
      | stopPublisher =>
          obtain ⟨_, v, m, stops, rfl, -⟩ := passes_stop bus w n
          simp only [exchanges, stops, requests, ih]

/-- Two runs of the service serve the same requests. One bus may take everything that is sent to
it, and the other may refuse to start or refuse whatever it likes; the publisher is started and
stopped in each of the runs as it may be. All requests are served, with the same responses but for
what the page of the meters shows, and after each of them the worlds are the same besides the
bus. -/
theorem responses_independent_of_bus (settings : Settings) (bus bus' : Bus)
    (events events' : List Event) (n n' : Nat) (same : requests events = requests events')
    (alike : Alike w w') :
    (exchanges settings bus events (w, n)).length = (requests events).length ∧
      seen (exchanges settings bus events (w, n)) =
        seen (exchanges settings bus' events' (w', n')) := by
  constructor
  · exact length_exchanges bus settings events w n
  · calc
      seen (exchanges settings bus events (w, n))
        = seen (exchanges settings bus' ((requests events).map .request) (w', n')) :=
          seen_events bus bus' settings events n n' alike
      _ = seen (exchanges settings bus' ((requests events').map .request) (w', n')) := by rw [same]
      _ = seen (exchanges settings bus' events' (w', n')) :=
          (seen_events bus' bus' settings events' n' n' rfl).symm

/-- A link redirects in the same way whether its visit reaches the bus or is dropped. -/
theorem redirect_survives_bus :
    let up : World := { Traffic.lonely with memory := { publishing := true } }
    let run := exchanges {} .acknowledging [.request (bare "GET" "/b")] (up, 0)
    let run' := exchanges {} .down [.startPublisher, .request (bare "GET" "/b")] (Traffic.lonely, 0)
    run.map (·.left.sent.length) = [1] ∧ run'.map (·.left.sent.length) = [0] ∧
      run.map (·.exchange.response.status) = [307] ∧ seen run = seen run' := by
  intro up run run'
  have alike : Alike up Traffic.lonely := rfl
  obtain ⟨-, same⟩ := responses_independent_of_bus {} .acknowledging .down
    [.request (bare "GET" "/b")] [.startPublisher, .request (bare "GET" "/b")] 0 0 rfl alike
  exact ⟨rfl, rfl, rfl, same⟩

def Body.text? : Body → Option String
  | .text s => some s
  | _ => none

/-- The page of the meters shows whether the visit of a redirect has been published or dropped. -/
theorem meters_tell_of_bus :
    let up : World := { Traffic.lonely with memory := { publishing := true } }
    let events : List Event := [.request (bare "GET" "/b"), .request (bare "GET" "/metrics")]
    let run := exchanges {} .acknowledging events (up, 0)
    let run' := exchanges {} .down events (up, 0)
    run.map (·.exchange.response.status) = [307, 200] ∧
      run'.map (·.exchange.response.status) = [307, 200] ∧
      run.map (·.exchange.response.body.text?) ≠ run'.map (·.exchange.response.body.text?) := by
  decide +kernel

end LinkShortener.Web
