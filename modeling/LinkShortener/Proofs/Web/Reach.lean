import LinkShortener.Proofs.Traffic.Deed
import LinkShortener.Proofs.Web.Conduct

/-!
The service under way. Requests over the web are served at the same time, call by call, and no call
fails; copies expire at any time, and whatever touches neither the links nor the keys may go on
besides. The tokens of such a service are those of the ids up to its counter: those of the catalog
and of the copies, and those that suspended requests may still copy or insert.

Main statements: one step keeps the tokens within the counter (`Sound.step`), so they are in every
state that the service comes to after its boot (`sound_of_arises`).
-/

namespace LinkShortener.Web

open Routine Failure
open Bench (World)
open Directory (Phase Advances)
open Copies (CounterSpared)
open KeyValue (Keyspace)
open Link (Table)
open Traffic (Calm Untouched Deed Does attempt does_of_attempt lapse)

/-! ### Runs -/

/-- The machinery and the requests in the making. -/
structure Service where
  world : World
  tasks : List (Routine Exchange)

/-- One step: a request enters, one request makes one call, a copy expires, or something happens
that touches neither the links nor the keys. The counter does not expire. -/
inductive Serves (settings : Settings) : Service → Service → Prop
  | enter (σ : Service) (r : Request) :
      Serves settings σ { σ with tasks := σ.tasks ++ [serve settings r] }
  | call (σ : Service) (n : Nat) (c : Call) (next : Except Fault c.Reply → Routine Exchange)
      (found : σ.tasks[n]? = some (.ask c next)) :
      Serves settings σ
        ⟨(σ.world.perform c).2, σ.tasks.set n (next (σ.world.perform c).1)⟩
  | expire (σ : Service) (t : String)
      (other : Copies.key settings.keyValue t ≠ settings.keyValue.counterKey) :
      Serves settings σ { σ with world := lapse settings.keyValue t σ.world }
  | elsewhere (σ : Service) (w : World) (calm : Calm w) (untouched : Untouched σ.world w) :
      Serves settings σ { σ with world := w }

/-- A world that the service has started in: the rows of the catalog had the tokens of their ids,
there were no copies, and the counter has been seeded. -/
def Started (s : Settings.KeyValue) (w : World) : Prop :=
  ∃ before : World, Calm before ∧
    (∀ link ∈ before.links.rows, Token.ofId link.id = .ok link.token) ∧
    (∀ t, before.keys.get? (Copies.key s t) = none) ∧
    before.run (Counter.seed s) = (.ok (), w)

/-! ### Tokens up to the counter -/

/-- A token of an id that is not above a number. -/
def Within (n : Int) (t : String) : Prop := ∃ id ≤ n, Token.ofId id = .ok t

/-- The counter stands at a number, and all tokens are of ids that are not above it: those of the
catalog and those that there are copies for. -/
structure Counted (s : Settings.KeyValue) (n : Int) (w : World) : Prop where
  calm : Calm w
  counter : w.keys.get? s.counterKey = some (toString n)
  rows : ∀ link ∈ w.links.rows, Within n link.token
  copies : ∀ t, Copies.key s t ≠ s.counterKey → w.keys.get? (Copies.key s t) ≠ none → Within n t

/-- The token that an operation may still insert, or of which it may still make or drop the copy, is
of an id that is not above a number. No operation is about to seed the counter. -/
def Owns (n : Int) : Phase → Prop
  | .holding t _ | .owing t _ | .numbered _ _ t => Within n t
  | .seeding | .measured _ => False
  | _ => True

/-- The counter has gone on to a number that no id is above that was just handed out. -/
def Proceeds (s : Settings.KeyValue) (n : Int) (w : World) (deed? : Option Deed) : Prop :=
  ∃ m, n ≤ m ∧ Counted s m w ∧ ∀ key id, deed? = some (.count key id) → id ≤ m

variable {s : Settings.KeyValue} {settings : Settings} {n m : Int} {w w' : World} {p q : Phase}
  {c : Call} {reply : Except Fault c.Reply} {t : String}

theorem Within.mono (within : Within n t) (le : n ≤ m) : Within m t := by
  obtain ⟨id, below, coded⟩ := within
  exact ⟨id, Int.le_trans below le, coded⟩

/-- The copy of a token within the counter is not the counter, if it is spared. -/
theorem Within.key_ne (within : Within n t) (spared : CounterSpared s) :
    Copies.key s t ≠ s.counterKey := by
  obtain ⟨id, -, coded⟩ := within
  exact spared id t coded

theorem Owns.mono (owns : Owns n p) (le : n ≤ m) : Owns m p := by
  cases p with
  | holding | owing | numbered => exact Within.mono owns le
  | seeding | measured => exact owns.elim
  | _ => trivial

theorem owns_of_starts (starts : Starts p) (n : Int) : Owns n p := by
  cases p with
  | looking | counting | retargeting | deleting | refused | settled => trivial
  | _ => exact starts.elim

namespace Counted

theorem within_of_find? (counted : Counted s n w) (found : w.links.find? t ≠ none) :
    Within n t := by
  obtain ⟨link, present⟩ := Option.ne_none_iff_exists'.mp found
  obtain ⟨mem, named⟩ := Table.mem_of_find? present
  exact named ▸ counted.rows link mem

theorem untouched (counted : Counted s n w) (calm : Calm w') (untouched : Untouched w w') :
    Counted s n w' where
  calm := calm
  counter := by rw [untouched.keys, counted.counter]
  rows := by
    rw [untouched.links]
    exact counted.rows
  copies := by
    rw [untouched.keys]
    exact counted.copies

/-- Losing a copy loses nothing else. -/
theorem drop (counted : Counted s n w) (calm : Calm w') (other : Copies.key s t ≠ s.counterKey)
    (links : w'.links = w.links) (keys : w'.keys = w.keys.delete (Copies.key s t)) :
    Counted s n w' where
  calm := calm
  counter := by
    rw [keys, Keyspace.get?_delete, if_neg other.symm, counted.counter]
  rows := by
    rw [links]
    exact counted.rows
  copies name apart copied := by
    rw [keys, Keyspace.get?_delete] at copied
    split at copied
    · exact absurd rfl copied
    · exact counted.copies name apart copied

/-- A copy is made of what was within the counter. -/
theorem fill (counted : Counted s n w) (spared : CounterSpared s) (calm : Calm w')
    (within : Within n t) {url : String} {seconds : Option Int} (links : w'.links = w.links)
    (keys : w'.keys = w.keys.set (Copies.key s t) url seconds) : Counted s n w' where
  calm := calm
  counter := by
    rw [keys, Keyspace.get?_set, if_neg (within.key_ne spared).symm, counted.counter]
  rows := by
    rw [links]
    exact counted.rows
  copies name apart copied := by
    rw [keys, Keyspace.get?_set] at copied
    split at copied
    · rename_i same
      rw [Copies.key_injective same]
      exact within
    · exact counted.copies name apart copied

/-- The catalog may change to other rows within the counter. -/
theorem relink (counted : Counted s n w) (calm : Calm w') (keys : w'.keys = w.keys)
    (rows : ∀ link ∈ w'.links.rows, Within n link.token) : Counted s n w' where
  calm := calm
  counter := by rw [keys, counted.counter]
  rows := rows
  copies := by
    rw [keys]
    exact counted.copies

/-- The counter goes on by one. -/
theorem increment (counted : Counted s n w) (calm : Calm w') {id : Int}
    (links : w'.links = w.links) (increments : w.keys.increment s.counterKey = .ok (id, w'.keys)) :
    id = n + 1 ∧ Counted s (n + 1) w' := by
  obtain ⟨tally, -, keys⟩ := Keyspace.increment_eq_ok.mp increments
  have next : id = n + 1 := by
    rw [Keyspace.tally?_of_get? counted.counter, Option.some.injEq] at tally
    omega
  have above : n ≤ n + 1 := by omega
  refine ⟨next, calm, ?_, ?_, ?_⟩
  · rw [keys, Keyspace.get?_put, if_pos rfl, next]
  · rw [links]
    intro link mem
    exact (counted.rows link mem).mono above
  · intro name apart copied
    rw [keys, Keyspace.get?_put, if_neg apart] at copied
    exact (counted.copies name apart copied).mono above

/-- What a deed does to the catalog and the keys leaves all tokens within the counter. -/
theorem does (counted : Counted s n w) (spared : CounterSpared s) (calm : Calm w')
    (owns : Owns n p) {deed? : Option Deed} (does : Does s w w' p deed? q) :
    Proceeds s n w' deed? := by
  -- Only counting moves the counter; every other deed keeps within the number that there was.
  have stays (counted' : Counted s n w') (uncounting : ∀ key id, deed? ≠ some (.count key id)) :
      Proceeds s n w' deed? :=
    ⟨n, Int.le_refl n, counted', fun _ _ counts => absurd counts (uncounting _ _)⟩
  have advances {id : Int} (links : w'.links = w.links)
      (increments : w.keys.increment s.counterKey = .ok (id, w'.keys))
      (counts : deed? = some (.count s.counterKey id)) : Proceeds s n w' deed? := by
    obtain ⟨rfl, counted'⟩ := counted.increment calm links increments
    refine ⟨n + 1, by omega, counted', ?_⟩
    intro key id counts'
    cases counts.symm.trans counts'
    exact Int.le_refl _
  cases does with
  | nothing p q idle => exact stays (counted.untouched calm idle) nofun
  | fill t link keys links => exact stays (counted.fill spared calm owns links keys) nofun
  | drop t link? keys links =>
      exact stays (counted.drop calm (Within.key_ne owns spared) links keys) nofun
  | number url id t coded increments links => exact advances links increments rfl
  | uncoded url id fault uncoded increments links => exact advances links increments rfl
  | seed last => exact owns.elim
  | retarget t url time link links keys =>
      refine stays (counted.relink calm keys ?_) nofun
      intro link mem
      rw [links] at mem
      obtain ⟨row, before, rfl⟩ := Table.mem_retarget.mp mem
      rw [Table.token_retargeted]
      exact counted.rows row before
  | delete t links keys =>
      refine stays (counted.relink calm keys ?_) nofun
      intro link mem
      rw [links] at mem
      exact counted.rows link (Table.mem_delete.mp mem).1
  | insert url id t inserted keys =>
      refine stays (counted.relink calm keys ?_) nofun
      intro link mem
      rw [(Table.insert_eq_ok.mp inserted).2.2] at mem
      rcases List.mem_append.mp mem with mem | mem
      · exact counted.rows link mem
      · cases List.mem_singleton.mp mem
        exact owns

end Counted

/-- Calls aside touch neither the links nor the keys. -/
theorem untouched_of_aside (calm : Calm w) (aside : isAside c = true) :
    Untouched w (w.perform c).2 := by
  unfold isAside at aside
  rcases Bool.or_eq_true_iff.mp aside with quietOrSend | clock
  · rcases Bool.or_eq_true_iff.mp quietOrSend with quiet | send
    · have same := (performs calm (prior_of_quiet quiet)).eq_of_quiet quiet
      exact ⟨congrArg Contents.links same, congrArg Contents.keys same⟩
    · cases c with
      | producer c =>
          cases c with
          | send topic key value =>
              rw [Traffic.perform_eq]
              simp only [World.answer, World.producer, Traffic.barring_of_calm calm]
              exact ⟨Traffic.links_keep _ _ _, Traffic.keys_keep _ _ _⟩
          | create | start | stop => cases send
      | _ => cases send
  · split at clock
    · have made : attempt none (.process .now) w = (_, (w.perform (.process .now)).2) := rfl
      exact Traffic.untouched_of_process made
    · have made : attempt none (.process .recollect) w =
          (_, (w.perform (.process .recollect)).2) := rfl
      exact Traffic.untouched_of_process made
    · rename_i path
      have made : attempt none (.process (.page path)) w =
          (_, (w.perform (.process (.page path))).2) := rfl
      exact Traffic.untouched_of_process made
    · cases clock

/-- What an operation holds after a call it has from the catalog or from the counter. -/
theorem owns_of_advances (counted : Counted s n w) (owns : Owns m p) (le : n ≤ m)
    (advances : Advances s p c reply q) (made : attempt none c w = (reply, w'))
    (numbered : ∀ key id, Traffic.Event.deed? ⟨0, .boot, c, reply⟩ = some (.count key id) →
      id ≤ m) : Owns m q := by
  cases advances with
  | noted | connect => exact owns
  | number url id t coded => exact ⟨id, numbered _ id rfl, coded⟩
  | find t link =>
      have found := (Traffic.findLink_of_attempt made).1
      refine (counted.within_of_find? fun absent => ?_).mono le
      cases absent.symm.trans found
  | retarget t url time link =>
      obtain ⟨links, -, found⟩ := Traffic.retargetLink_of_attempt counted.calm made
      refine (counted.within_of_find? fun absent => ?_).mono le
      rw [links, Table.find?_retarget, absent] at found
      cases found
  | delete t rows found =>
      obtain ⟨-, -, count⟩ := Traffic.deleteLink_of_attempt counted.calm made
      refine (counted.within_of_find? fun absent => found ?_).mono le
      rw [← count, Table.count_eq_zero.mpr absent]
  | measure | unmeasured | seed | unseeded => exact owns.elim
  | _ => trivial

/-- One call of a request leaves all tokens within the counter, and what the request may still copy
or insert is within it too. -/
theorem Counted.step (counted : Counted s n w) (spared : CounterSpared s) (owns : Owns n p)
    (conducts : Conducts s p c (w.perform c).1 q) :
    ∃ m, n ≤ m ∧ Counted s m (w.perform c).2 ∧ Owns m q := by
  have calm := calm_perform counted.calm c
  cases conducts with
  | aside _ _ _ aside =>
      have idle := untouched_of_aside counted.calm aside
      exact ⟨n, Int.le_refl n, counted.untouched calm idle, owns⟩
  | directory advances =>
      have made : attempt none c w = (_, (w.perform c).2) := rfl
      have does := does_of_attempt counted.calm advances made 0 .boot
      obtain ⟨m, le, counted', numbered⟩ := counted.does spared calm owns does
      exact ⟨m, le, counted', owns_of_advances counted (owns.mono le) le advances made numbered⟩

/-! ### Starting -/

/-- What is known while the counter is being seeded. -/
def Booting (s : Settings.KeyValue) (w : World) : Phase → Prop
  | .seeding => (∀ link ∈ w.links.rows, Token.ofId link.id = .ok link.token) ∧
      ∀ t, w.keys.get? (Copies.key s t) = none
  | .measured last => (∀ link ∈ w.links.rows, Within last link.token) ∧
      ∀ t, w.keys.get? (Copies.key s t) = none
  | .seeded => ∃ n, Counted s n w
  | .failed _ _ | .broken _ => True
  | _ => False

theorem Booting.untouched (booting : Booting s w p) (calm : Calm w') (untouched : Untouched w w') :
    Booting s w' p := by
  cases p with
  | seeding | measured =>
      unfold Booting at booting ⊢
      rw [untouched.links, untouched.keys]
      exact booting
  | seeded =>
      obtain ⟨n, counted⟩ := booting
      exact ⟨n, counted.untouched calm untouched⟩
  | failed | broken => trivial
  | _ => exact booting.elim

/-- The counter is seeded with a number that no id exceeds. -/
theorem Booting.step (booting : Booting s w p) (calm : Calm w)
    (advances : Advances s p c reply q) (made : attempt none c w = (reply, w')) :
    Booting s w' q := by
  have calm' : Calm w' := Traffic.calm_of_attempt calm made
  cases advances with
  | noted _ _ incidental =>
      cases incidental <;> exact booting.untouched calm' (Traffic.untouched_of_process made)
  | connect => exact booting.untouched calm' (Traffic.untouched_of_connect calm made)
  | unnoted | unconnected | unmeasured | unseeded => trivial
  | measure last? =>
      obtain ⟨greatest, idle⟩ := Traffic.lastId_of_attempt made
      obtain ⟨coded, blank⟩ := booting.untouched calm' idle
      refine ⟨fun link mem => ⟨link.id, ?_, coded link mem⟩, blank⟩
      rw [← greatest, ← idle.links]
      exact Table.le_lastId mem
  | seed last =>
      obtain ⟨within, blank⟩ := booting
      obtain ⟨keys, links⟩ := Traffic.set_of_attempt calm made
      refine ⟨last, calm', ?_, ?_, ?_⟩
      · rw [keys, Keyspace.get?_set, if_pos rfl]
      · rw [links]
        exact within
      · intro t apart copied
        rw [keys, Keyspace.get?_set, if_neg apart, blank] at copied
        exact absurd rfl copied
  | _ => exact booting.elim

/-- A service that has started counts from some number. -/
theorem Started.counted (started : Started s w) : ∃ n, Counted s n w := by
  obtain ⟨before, calm, coded, blank, boots⟩ := started
  let inv (p : Phase) (_ : Routine Unit) (w : World) : Prop := Calm w ∧ Booting s w p
  have step : ∀ p c next w q, inv p (.ask c next) w → Advances s p c (w.perform c).1 q →
      inv q (next (w.perform c).1) (w.perform c).2 := by
    rintro p c next w q ⟨calm, booting⟩ advances
    exact ⟨calm_perform calm c, booting.step calm advances rfl⟩
  obtain ⟨q, tells, -, booting⟩ := Follows.run World.perform inv step Directory.follows_seed
    (s := before) ⟨calm, coded, blank⟩
  rw [show (Counter.seed s).run World.perform before = _ from boots] at tells booting
  cases q with
  | seeded => exact booting
  | failed | broken | seeding | measured => cases tells
  | _ => exact booting.elim

/-! ### Reachable states -/

/-- All tokens are within the counter, and so is what the requests in the making may still copy or
insert. -/
structure Sound (s : Settings.KeyValue) (n : Int) (σ : Service) : Prop where
  counted : Counted s n σ.world
  tasks : ∀ task ∈ σ.tasks, ∃ p, Owns n p ∧ Follows (Conducts s) (fun _ _ => True) task p

variable {σ σ' : Service}

/-- One step keeps all tokens within the counter. -/
theorem Sound.step (sound : Sound settings.keyValue n σ)
    (spared : CounterSpared settings.keyValue) (serves : Serves settings σ σ') :
    ∃ m, Sound settings.keyValue m σ' := by
  cases serves with
  | enter r =>
      refine ⟨n, sound.counted, fun task mem => ?_⟩
      rcases List.mem_append.mp mem with mem | mem
      · exact sound.tasks task mem
      · cases List.mem_singleton.mp mem
        obtain ⟨p, starts, follows⟩ := conducts_serve settings r
        exact ⟨p, owns_of_starts starts n, follows⟩
  | call i c next found =>
      obtain ⟨p, owns, follows⟩ := sound.tasks _ (List.mem_of_getElem? found)
      obtain ⟨q, conducts, rest⟩ := follows_ask.mp follows (σ.world.perform c).1
      obtain ⟨m, le, counted, owns'⟩ := sound.counted.step spared owns conducts
      refine ⟨m, counted, fun task mem => ?_⟩
      rcases List.mem_or_eq_of_mem_set mem with mem | rfl
      · obtain ⟨p', owns'', follows'⟩ := sound.tasks task mem
        exact ⟨p', owns''.mono le, follows'⟩
      · exact ⟨q, owns', rest⟩
  | expire t other => exact ⟨n, sound.counted.drop sound.counted.calm other rfl rfl, sound.tasks⟩
  | elsewhere w calm untouched => exact ⟨n, sound.counted.untouched calm untouched, sound.tasks⟩

/-- What can come of a world in which the service has started. -/
abbrev Arises (settings : Settings) (w : World) (σ : Service) : Prop :=
  Relation.ReflTransGen (Serves settings) ⟨w, []⟩ σ

/-- Whatever arises from a started service is sound. -/
theorem sound_of_arises (spared : CounterSpared settings.keyValue)
    (started : Started settings.keyValue w) (arises : Arises settings w σ) :
    ∃ n, Sound settings.keyValue n σ := by
  induction arises with
  | refl =>
      obtain ⟨n, counted⟩ := started.counted
      exact ⟨n, counted, fun task mem => by cases mem⟩
  | tail _ serves ih =>
      obtain ⟨n, sound⟩ := ih
      exact sound.step spared serves

end LinkShortener.Web
