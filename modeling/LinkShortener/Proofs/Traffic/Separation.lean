import LinkShortener.Proofs.Failure.Outcome
import LinkShortener.Proofs.KeyValue.Keyspace
import LinkShortener.Proofs.Traffic.Basic

/-!
The counter and the copies share one key-value server, and nothing but their keys keeps them apart.
Every request speaks of one key only, be it that of the counter or that of the copy of its token;
what lies under another key it neither reads nor changes. So the two roles are apart as long as the
keys are, and where the key of the counter begins with the mark of the copies, the counter is the
copy of a token.

Main statements: what a call does not speak of it neither reads nor changes (`blind_attempt`), a
request speaks of its own key only, in every run (`speaksOf_of_reaches`), and the two roles are
apart exactly if the key of the counter does not begin with the mark (`roles_apart_iff`).
-/

namespace LinkShortener.KeyValue.Keyspace

/-- The same lies under a key, text and lifetime. -/
def SameAt (key : String) (k k' : Keyspace) : Prop :=
  k'.get? key = k.get? key ∧ k'.lifetimes.lookup key = k.lifetimes.lookup key

def SameBut (key : String) (k k' : Keyspace) : Prop := ∀ other, other ≠ key → SameAt other k k'

section Same

variable {k k' : Keyspace} {key own : String}

theorem sameAt_set (other : key ≠ own) (text : String) (seconds : Option Int) :
    SameAt key k (k.set own text seconds) :=
  ⟨by rw [get?_set, if_neg other], by rw [lifetimes_set, if_neg other]⟩

theorem sameAt_delete (other : key ≠ own) : SameAt key k (k.delete own) :=
  ⟨by rw [get?_delete, if_neg other], rfl⟩

theorem sameAt_put (other : key ≠ own) (text : String) :
    SameAt key k { k with texts := put k.texts own text } :=
  ⟨by rw [get?_put, if_neg other], rfl⟩

theorem SameBut.set (same : SameBut key k k') (own text : String) (seconds : Option Int) :
    SameBut key (k.set own text seconds) (k'.set own text seconds) := by
  intro other ne
  obtain ⟨text, lifetime⟩ := same other ne
  exact ⟨by rw [get?_set, get?_set, text], by rw [lifetimes_set, lifetimes_set, lifetime]⟩

theorem SameBut.delete (same : SameBut key k k') (own : String) :
    SameBut key (k.delete own) (k'.delete own) := by
  intro other ne
  obtain ⟨text, lifetime⟩ := same other ne
  exact ⟨by rw [get?_delete, get?_delete, text], lifetime⟩

theorem SameBut.put (same : SameBut key k k') (own text : String) :
    SameBut key { k with texts := Keyspace.put k.texts own text }
      { k' with texts := Keyspace.put k'.texts own text } := by
  intro other ne
  obtain ⟨text, lifetime⟩ := same other ne
  exact ⟨by rw [get?_put, get?_put, text], lifetime⟩

theorem SameAt.count_eq (same : SameAt key k k') : k'.count key = k.count key := by
  rw [count, count, same.1]

/-- Counting on a key that is the same in both comes to the same number in both, or fails in
both. -/
theorem SameBut.increment (same : SameBut key k k') (other : own ≠ key) :
    (k.increment own = .error uncountable ∧ k'.increment own = .error uncountable) ∨
      ∃ n,
        k.increment own = .ok (n, { k with texts := Keyspace.put k.texts own (toString n) }) ∧
        k'.increment own =
          .ok (n, { k' with texts := Keyspace.put k'.texts own (toString n) }) := by
  unfold Keyspace.increment
  rw [(same own other).1]
  cases counter? ((k.get? own).getD "0") with
  | none => exact .inl ⟨rfl, rfl⟩
  | some n => exact .inr ⟨n + 1, rfl, rfl⟩

end Same

end LinkShortener.KeyValue.Keyspace

namespace LinkShortener.Traffic

open Routine
open Bench (World)
open Directory (Phase Advances)
open KeyValue (Keyspace)
open KeyValue.Keyspace (SameAt SameBut)

/-! ### What lies under a key -/

/-- The world with other keys. -/
def rekeyed (w : World) (keys : Keyspace) : World := { w with keys := keys }

/-- What is answered depends on nothing that lies under a key, and nothing is changed there. -/
structure Blind {α : Type} (key : String) (answer : World → Except Fault α × World) : Prop where
  unread : ∀ w keys, SameBut key w.keys keys → ∃ keys',
    answer (rekeyed w keys) = ((answer w).1, rekeyed (answer w).2 keys') ∧
      SameBut key (answer w).2.keys keys'
  unchanged : ∀ w, SameAt key w.keys (answer w).2.keys

/-- What is answered has nothing to do with the keys. -/
def Aside {α : Type} (answer : World → Except Fault α × World) : Prop :=
  ∀ w keys, answer (rekeyed w keys) = ((answer w).1, rekeyed (answer w).2 keys)

section Blind

variable {α : Type} {key : String} {answer : World → Except Fault α × World}

theorem Aside.keys_eq (aside : Aside answer) (w : World) : (answer w).2.keys = w.keys := by
  have same : answer w = ((answer w).1, rekeyed (answer w).2 w.keys) := aside w w.keys
  rw [same]
  rfl

/-- What has nothing to do with the keys is blind to each. -/
theorem Aside.blind (aside : Aside answer) : Blind key answer := by
  refine ⟨fun w keys same => ⟨keys, aside w keys, ?_⟩, fun w => ?_⟩
  · rwa [aside.keys_eq]
  · rw [aside.keys_eq]
    exact ⟨rfl, rfl⟩

theorem aside_meet (target : Bench.Target) (w : World) (keys : Keyspace) :
    (rekeyed w keys).meet target = ((w.meet target).1, rekeyed (w.meet target).2 keys) := by
  unfold World.meet
  rw [show (rekeyed w keys).switches = w.switches from rfl]
  cases w.switches.find? (·.target == target) with
  | none => rfl
  | some switch =>
      obtain ⟨_, _, uses⟩ := switch
      rcases uses with _ | _ | n <;> rfl

theorem keys_meet (target : Bench.Target) (w : World) : (w.meet target).2.keys = w.keys := by
  have same : w.meet target = ((w.meet target).1, rekeyed (w.meet target).2 w.keys) :=
    aside_meet target w w.keys
  rw [same]
  rfl

theorem Aside.barring (aside : Aside answer) (target : Bench.Target) :
    Aside fun w => w.barring target answer := by
  intro w keys
  simp only [World.barring, aside_meet]
  rcases w.meet target with ⟨_ | fault, v⟩
  · exact aside v keys
  · rfl

theorem Blind.barring (blind : Blind key answer) (target : Bench.Target) :
    Blind key fun w => w.barring target answer := by
  refine ⟨fun w keys same => ?_, fun w => ?_⟩
  · have kept := keys_meet target w
    simp only [World.barring, aside_meet]
    rcases met : w.meet target with ⟨_ | fault, v⟩
    · rw [met] at kept
      exact blind.unread v keys (kept ▸ same)
    · rw [met] at kept
      exact ⟨keys, rfl, kept ▸ same⟩
  · have kept := keys_meet target w
    simp only [World.barring]
    rcases met : w.meet target with ⟨_ | fault, v⟩
    · rw [met] at kept
      exact kept ▸ blind.unchanged v
    · rw [met] at kept
      exact kept ▸ ⟨rfl, rfl⟩

end Blind

/-! ### Calls -/

section Calls

variable {key own : String}

/-- What the database answers has nothing to do with the keys. -/
theorem aside_database (c : DatabaseCall) : Aside (World.database c) := by
  cases c with
  | connect => exact Aside.barring (fun w keys => rfl) _
  | insertLink id url token =>
      refine Aside.barring (fun w keys => ?_) _
      simp only [rekeyed]
      split <;> rfl
  | readBack id =>
      intro w keys
      simp only [World.database, rekeyed]
      split <;> rfl
  | retargetLink | deleteLink => exact Aside.barring (fun w keys => rfl) _
  | insertClick click =>
      refine Aside.barring (fun w keys => ?_) _
      simp only [rekeyed]
      split <;> rfl
  | _ => exact fun w keys => rfl

theorem blind_get (other : own ≠ key) : Blind key (World.server (.get own)) := by
  refine Blind.barring ⟨fun w keys same => ⟨keys, ?_, same⟩, fun w => ⟨rfl, rfl⟩⟩ _
  rw [rekeyed, (same own other).1]

theorem blind_set (other : own ≠ key) (text : String) (seconds : Option Int) :
    Blind key (World.server (.set own text seconds)) := by
  refine Blind.barring ⟨fun w keys same => ⟨_, rfl, same.set own text seconds⟩, fun w => ?_⟩ _
  exact KeyValue.Keyspace.sameAt_set other.symm text seconds

theorem blind_delete (other : own ≠ key) : Blind key (World.server (.delete own)) := by
  refine Blind.barring ⟨fun w keys same => ⟨_, ?_, same.delete own⟩, fun w => ?_⟩ _
  · rw [← (same own other).count_eq]
    rfl
  · exact KeyValue.Keyspace.sameAt_delete other.symm

theorem blind_increment (other : own ≠ key) : Blind key (World.server (.increment own)) := by
  refine Blind.barring ⟨fun w keys same => ?_, fun w => ?_⟩ _
  · rcases same.increment other with ⟨fails, fails'⟩ | ⟨n, counts, counts'⟩
    · refine ⟨keys, ?_, ?_⟩
      · simp only [rekeyed, fails, fails']
      · simp only [fails]
        exact same
    · refine ⟨{ keys with texts := KeyValue.Keyspace.put keys.texts own (toString n) }, ?_, ?_⟩
      · simp only [rekeyed, counts, counts']
      · simp only [counts]
        exact same.put own (toString n)
  · have same : SameBut key w.keys w.keys := fun _ _ => ⟨rfl, rfl⟩
    rcases same.increment other with ⟨fails, -⟩ | ⟨n, counts, -⟩
    · simp only [fails]
      exact ⟨rfl, rfl⟩
    · simp only [counts]
      exact KeyValue.Keyspace.sameAt_put other.symm (toString n)

/-- A call that speaks of no key but one. Calls to the database, notes, meters and the clock speak
of none. -/
def speaksOf (own : String) : Call → Bool
  | .keys (.get k) | .keys (.set k _ _) | .keys (.delete k) | .keys (.increment k) => k == own
  | .database _ => true
  | .process (.log _) | .process (.count _) | .process .now => true
  | _ => false

/-- A call that speaks of one key is blind to all others. -/
theorem blind_answer (other : own ≠ key) {c : Call} (speaks : speaksOf own c = true) :
    Blind key (World.answer c) := by
  unfold speaksOf at speaks
  split at speaks
  · exact blind_get (eq_of_beq speaks ▸ other)
  · exact blind_set (eq_of_beq speaks ▸ other) _ _
  · exact blind_delete (eq_of_beq speaks ▸ other)
  · exact blind_increment (eq_of_beq speaks ▸ other)
  · exact (aside_database _).blind
  · exact Aside.blind fun w keys => rfl
  · exact Aside.blind fun w keys => rfl
  · exact Aside.blind fun w keys => rfl
  · cases speaks

theorem rekeyed_keep (w : World) (keys : Keyspace) (c : Call) (answered : Bool) :
    (rekeyed w keys).keep c answered = rekeyed (w.keep c answered) keys := by
  unfold World.keep
  split <;> rfl

/-- Whatever outage a call may meet, what it does not speak of it neither reads nor changes. -/
theorem blind_attempt (other : own ≠ key) {c : Call} (speaks : speaksOf own c = true)
    (outage : Option Fault) : Blind key (attempt outage c) := by
  cases strike : struck outage c with
  | some fault =>
      refine Aside.blind fun w keys => ?_
      simp only [attempt, strike, rekeyed_keep]
  | none =>
      have blind := blind_answer other speaks
      refine ⟨fun w keys same => ?_, fun w => ?_⟩
      · obtain ⟨keys', answers, same'⟩ := blind.unread w keys same
        refine ⟨keys', ?_, ?_⟩
        · simp only [attempt, strike, perform_eq, answers, rekeyed_keep]
        · simp only [attempt, strike, perform_eq, keys_keep]
          exact same'
      · simp only [attempt, strike, perform_eq, keys_keep]
        exact blind.unchanged w

end Calls

/-! ### Runs -/

/-- The key that a request is about: that of the counter, or that of the copy of its token. -/
def Request.key (s : Settings.KeyValue) : Request → String
  | .boot | .shorten _ => s.counterKey
  | .resolve token | .update token _ | .delete token => Copies.key s token

section Runs

variable {s : Settings.KeyValue} {request : Request}

theorem key_of_owing {token : String} {link? : Option Link}
    (visits : request.Visits (.owing token link?)) : request.key s = Copies.key s token := by
  cases request with
  | update t url | delete t =>
      obtain ⟨rfl, -⟩ := visits
      rfl
  | boot | shorten | resolve => exact visits.elim

/-- In every phase of a request its next call speaks of its key only. -/
theorem speaksOf_of_advances {p q : Phase} {c : Call} {reply : Except Fault c.Reply}
    (visits : request.Visits p) (advances : Advances s p c reply q) :
    speaksOf (request.key s) c = true := by
  cases advances with
  | noted _ _ incidental | unnoted _ _ incidental => cases incidental <;> rfl
  | hit | miss | blind | unlooked =>
      obtain rfl := Request.visits_looking.mp visits
      exact beq_self_eq_true _
  | fill | unfilled | unfillable =>
      obtain rfl := Request.visits_holding.mp visits
      exact beq_self_eq_true _
  | drop | undropped | undroppable => exact beq_iff_eq.mpr (key_of_owing visits).symm
  | number | uncoded | unnumbered =>
      obtain rfl := Request.visits_counting.mp visits
      exact beq_self_eq_true _
  | seed | unseeded =>
      obtain rfl := Request.visits_measured.mp visits
      exact beq_self_eq_true _
  | _ => rfl

/-- What is left of a request in a phase speaks of its key only. -/
theorem onlyCalls_of_follows {post : Phase → Except Fault Bench.Answer → Prop}
    {r : Routine Bench.Answer} {p : Phase} (visits : request.Visits p)
    (follows : Follows (Advances s) post r p) : OnlyCalls (speaksOf (request.key s)) r := by
  induction r generalizing p with
  | done a => exact only_done trivial
  | fail fault => exact only_fail trivial
  | ask c next ih =>
      refine follows_ask.mpr fun reply => ?_
      obtain ⟨q, advances, rest⟩ := follows_ask.mp follows reply
      exact ⟨(), speaksOf_of_advances visits advances, ih reply (visits.advance advances) rest⟩

/-- In every run, what is left of a request speaks of its key only. -/
theorem onlyCalls_of_reaches {regime : Regime} {w : World} {σ : State}
    (reaches : Reaches s regime (State.start w) σ) :
    ∀ task ∈ σ.tasks, OnlyCalls (speaksOf (task.request.key s)) task.rest := by
  induction reaches with
  | refl => exact fun task (mem : task ∈ []) => nomatch mem
  | tail _ steps ih =>
      cases steps with
      | enter request admitted =>
          intro task mem
          rcases List.mem_append.mp mem with old | new
          · exact ih task old
          · rw [List.mem_singleton.mp new]
            exact onlyCalls_of_follows request.visits_phase (request.follows_routine s)
      | call n request c next reply w found comes =>
          intro task mem
          rcases List.mem_or_eq_of_mem_set mem with old | rfl
          · exact ih task old
          · obtain ⟨_, -, rest⟩ := follows_ask.mp (ih _ (List.mem_of_getElem? found)) reply
            exact rest
      | expire => exact ih

/-- In every run, whatever a request is about to do neither reads nor changes what lies under a
key. -/
def Spares (s : Settings.KeyValue) (request : Request) (key : String) : Prop :=
  ∀ (regime : Regime) (w : World) (σ : State) (n : Nat) (c : Call)
    (next : Except Fault c.Reply → Routine Bench.Answer), Reaches s regime (State.start w) σ →
    σ.tasks[n]? = some ⟨request, .ask c next⟩ → ∀ outage, Blind key (attempt outage c)

/-- A request spares every key but its own. -/
theorem spares_of_ne {key : String} (other : request.key s ≠ key) : Spares s request key := by
  intro regime w σ n c next reaches found outage
  have only := onlyCalls_of_reaches reaches _ (List.mem_of_getElem? found)
  obtain ⟨_, speaks, -⟩ := follows_ask.mp only (.error .cancelled)
  exact blind_attempt other speaks outage

end Runs

/-! ### The two roles -/

/-- A request about the copy of a token. -/
def Request.IsAbout (token : String) : Request → Prop
  | .resolve t | .update t _ | .delete t => t = token
  | _ => False

/-- The two roles are apart: requests about copies spare the counter, those that count spare every
copy, and requests about the copy of a token spare the copies of all others. -/
structure RolesApart (s : Settings.KeyValue) : Prop where
  counter : ∀ token (request : Request), request.IsAbout token → Spares s request s.counterKey
  copies : ∀ token (request : Request), request.Counts → Spares s request (Copies.key s token)
  others : ∀ token other (request : Request), request.IsAbout token → other ≠ token →
    Spares s request (Copies.key s other)

section Roles

variable {s : Settings.KeyValue}

theorem key_of_isAbout {token : String} {request : Request} (about : request.IsAbout token) :
    request.key s = Copies.key s token := by
  cases request with
  | resolve | update | delete =>
      obtain rfl := about
      rfl
  | boot | shorten => exact about.elim

theorem key_of_counts {request : Request} (counts : request.Counts) :
    request.key s = s.counterKey := by
  cases request with
  | boot | shorten => rfl
  | resolve | update | delete => exact counts.elim

/-- Where the counter is apart, the roles are. -/
theorem rolesApart_of_apart (apart : Copies.Apart s) : RolesApart s where
  counter _ _ about :=
    spares_of_ne (key_of_isAbout about ▸ apart.key_ne _)
  copies token _ counts :=
    spares_of_ne (key_of_counts counts ▸ (apart.key_ne token).symm)
  others _ _ _ about ne :=
    spares_of_ne (key_of_isAbout about ▸ fun same => ne (Copies.key_injective same).symm)

/-- Where the key of the counter begins with the mark of the copies, it is the key of a copy. -/
theorem exists_key_eq (mingled : ¬ Copies.Apart s) :
    ∃ token, Copies.key s token = s.counterKey := by
  obtain ⟨rest, spelled⟩ := Decidable.not_not.mp mingled
  refine ⟨String.ofList rest, String.toList_inj.mp ?_⟩
  rw [Copies.key, String.toList_append, String.toList_ofList, spelled]

/-- A resolution whose copy is there tells the copy. -/
theorem run_resolve_of_copy {w : World} {token text : String} (calm : Calm w)
    (copy : w.keys.get? (Copies.key s token) = some text) :
    (w.run (Directory.resolve s token)).1 = .ok text := by
  have yields : Failure.Yields .clear (Directory.resolve s token) (Failure.contents w) _ :=
    Failure.yields_resolve token
  obtain ⟨-, resolves⟩ := yields w calm rfl
  have copied : Failure.Fates.copy? .clear s (Failure.contents w) token = some text := copy
  rw [Failure.undergo_clear] at resolves
  change ((Directory.resolve s token).run World.perform w).1 = _
  generalize ((Directory.resolve s token).run World.perform w).1 = o at resolves ⊢
  generalize Failure.contents w = k at resolves copied
  generalize Failure.contents _ = k' at resolves
  cases resolves with
  | copied url found => rw [Option.some.inj (copied.symm.trans found)]
  | unread missed | absent missed | found _ _ missed => cases copied.symm.trans missed

theorem set_of_calm {w : World} (calm : Calm w) (key text : String) (seconds : Option Int) :
    ∃ w', w.perform (.keys (.set key text seconds)) = (.ok (), w') ∧ Calm w' ∧
      w'.keys = w.keys.set key text seconds := by
  have told : (w.perform (.keys (.set key text seconds))).1 = .ok () := by
    simp only [perform_eq, World.answer, World.server, barring_of_calm calm]
  have made : attempt none (.keys (.set key text seconds)) w = (.ok (), _) := Prod.ext told rfl
  exact ⟨_, made, calm_of_attempt calm made, (set_of_attempt calm made).1⟩

/-- The greatest id is told, zero where there is none. -/
theorem run_lastId {w : World} (calm : Calm w) :
    ∃ w', w.run Catalog.lastId = (.ok (w.links.lastId?.getD 0), w') ∧ Calm w' := by
  have connected : w.perform (.database .connect) =
      (.ok (), w.keep (.database .connect) true) := by
    simp only [perform_eq, World.answer, World.database, barring_of_calm calm, Except.isOk,
      Except.toBool]
  have told (v : World) : v.perform (.database .lastId) =
      (.ok v.links.lastId?, v.keep (.database .lastId) true) := rfl
  simp only [World.run, Catalog.lastId, Catalog.session, Catalog.database, call, rescue, outcome,
    bind_ask, run, connected, told, ofOutcome_ok, bind_done, links_keep]
  cases w.links.lastId? with
  | some id => exact ⟨_, rfl, calm⟩
  | none => exact ⟨_, rfl, calm⟩

/-- A boot sets the counter to the greatest id of the catalog. -/
theorem run_seed {w : World} (calm : Calm w) : ∃ w', w.run (Counter.seed s) = (.ok (), w') ∧
    Calm w' ∧ w'.keys.get? s.counterKey = some (toString (w.links.lastId?.getD 0)) := by
  obtain ⟨v, told, calm'⟩ := run_lastId calm
  generalize w.links.lastId?.getD 0 = last at told
  obtain ⟨u, set, calm'', keys⟩ := set_of_calm calm' s.counterKey (toString last) none
  let entry : Log.Entry := ⟨.info, .counter, s!"Id counter {s.counterKey} seeded at {last}"⟩
  refine ⟨{ u with log := entry :: u.log }, ?_, calm'', ?_⟩
  · rw [World.run] at told ⊢
    rw [Counter.seed, run_bind, told]
    simp only [call, rescue, outcome, bind_ask, run, ofOutcome_ok, bind_done, set]
    rfl
  · change u.keys.get? s.counterKey = _
    rw [keys, KeyValue.Keyspace.get?_set, if_pos rfl]

/-- A resolution that asks for the counter in place of a copy reads the counter. -/
theorem not_spares_of_key_eq {token : String} (same : Copies.key s token = s.counterKey) :
    ¬ Spares s (.resolve token) s.counterKey := by
  intro spares
  let free : Regime := ⟨fun _ _ => True, fun _ _ _ _ => True, fun _ _ _ _ => True⟩
  obtain ⟨next, asks⟩ : ∃ next, (Request.resolve token).routine s =
      .ask (.keys (.get (Copies.key s token))) next := ⟨_, rfl⟩
  have reaches : Reaches s free (State.start {}) ((State.start {}).enter s (.resolve token)) :=
    .single (.enter _ _ trivial)
  have found : ((State.start {}).enter s (.resolve token)).tasks[0]? =
      some ⟨.resolve token, .ask (.keys (.get (Copies.key s token))) next⟩ := by
    rw [← asks]
    rfl
  have blind := spares free {} _ 0 _ next reaches found none
  rw [same] at blind
  have text (keys : Keyspace) :
      (attempt none (.keys (.get s.counterKey)) (rekeyed {} keys)).1 =
        .ok (keys.get? s.counterKey) := rfl
  have none : (attempt none (.keys (.get s.counterKey)) {}).1 = .ok none := rfl
  -- The reply is another one once the counter is there.
  obtain ⟨_, answers, -⟩ := blind.unread {} (Keyspace.empty.set s.counterKey "0" .none)
    fun other ne => KeyValue.Keyspace.sameAt_set ne "0" .none
  have replies := congrArg Prod.fst answers
  rw [text, none, KeyValue.Keyspace.get?_set, if_pos rfl] at replies
  cases replies

/-- The counter and the copies are apart exactly if the key of the counter does not begin with the
mark of the copies. If it does, then there is a token that every resolution takes for a link to the
text of the counter, whatever that is at the time, and after a boot it is the greatest id. -/
theorem roles_apart_iff (s : Settings.KeyValue) :
    (RolesApart s ↔ ¬ s.copyMark.toList <+: s.counterKey.toList) ∧
    (s.copyMark.toList <+: s.counterKey.toList → ∃ token, ∀ w, Calm w →
      (∀ text, w.keys.get? s.counterKey = some text →
        (w.run (Directory.resolve s token)).1 = .ok text) ∧
      ∃ w', w.run (Counter.seed s) = (.ok (), w') ∧
        (w'.run (Directory.resolve s token)).1 = .ok (toString (w.links.lastId?.getD 0))) := by
  constructor
  · constructor
    · intro roles mingled
      obtain ⟨token, same⟩ := exists_key_eq (Decidable.not_not.mpr mingled)
      exact not_spares_of_key_eq same (roles.counter token (.resolve token) rfl)
    · exact rolesApart_of_apart
  · intro mingled
    obtain ⟨token, same⟩ := exists_key_eq (Decidable.not_not.mpr mingled)
    have tells {w : World} {text : String} (calm : Calm w)
        (counter : w.keys.get? s.counterKey = some text) :
        (w.run (Directory.resolve s token)).1 = .ok text :=
      run_resolve_of_copy calm (same ▸ counter)
    refine ⟨token, fun w calm => ⟨fun text counter => tells calm counter, ?_⟩⟩
    obtain ⟨w', seeded, calm', counter⟩ := run_seed (s := s) calm
    exact ⟨w', seeded, tells calm' counter⟩

end Roles

/-- With the usual settings the roles are apart. With a mark that the key of the counter begins
with, some token is a link to zero after a boot over an empty catalog. -/
theorem usual_roles_apart : RolesApart {} ∧
    let mingled : Settings.KeyValue := { copyMark := "mapping_" }
    ∃ token w', World.run {} (Counter.seed mingled) = (.ok (), w') ∧
      (w'.run (Directory.resolve mingled token)).1 = .ok "0" := by
  refine ⟨(roles_apart_iff {}).1.mpr (by decide), ?_⟩
  obtain ⟨token, tells⟩ := (roles_apart_iff { copyMark := "mapping_" }).2 (by decide)
  obtain ⟨-, w', seeded, told⟩ := tells {} rfl
  exact ⟨token, w', seeded, told⟩

end LinkShortener.Traffic
