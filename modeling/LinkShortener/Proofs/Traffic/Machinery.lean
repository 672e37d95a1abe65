import LinkShortener.Bench.World

/-!
Single calls to the machinery, any of which may meet an outage. A call that fails has no effect
on the catalog or the keys; a call that is answered reads them or does to them what its name
says. A world is calm when no fault is switched on in it, so that the only failures are the
outages met on the way and the refusals of the machinery itself.
-/

namespace LinkShortener.Traffic

open Bench (World)

/-- Whether an outage can strike a call: outages of the relational database strike calls to it,
outages of the key-value server calls to that. -/
def strikes (fault : Fault) : Call → Bool
  | .database _ => fault.isDatabaseOutage
  | .keys _ => fault.isKeyValueOutage
  | _ => false

/-- The outage that strikes a call, if any does. -/
def struck (outage : Option Fault) (c : Call) : Option Fault := outage.filter (strikes · c)

/-- Makes a call, which fails without effect if an outage strikes it. -/
def attempt (outage : Option Fault) (c : Call) (w : World) : Except Fault c.Reply × World :=
  match struck outage c with
  | some fault => (.error fault, w.keep c false)
  | none => w.perform c

/-- No fault is switched on. -/
def Calm (w : World) : Prop := w.switches = []

/-- Nothing has happened to the catalog and the keys. -/
structure Untouched (w w' : World) : Prop where
  links : w'.links = w.links
  keys : w'.keys = w.keys

theorem barring_of_calm {α : Type} {w : World} (calm : Calm w) (target : Bench.Target)
    (answer : World → Except Fault α × World) : w.barring target answer = answer w := by
  have unmet : w.meet target = (none, w) := by
    unfold World.meet
    rw [show w.switches = [] from calm]
    rfl
  rw [World.barring, unmet]

@[simp] theorem links_keep (w : World) (c : Call) (b : Bool) : (w.keep c b).links = w.links := by
  unfold World.keep
  split <;> rfl

@[simp] theorem keys_keep (w : World) (c : Call) (b : Bool) : (w.keep c b).keys = w.keys := by
  unfold World.keep
  split <;> rfl

@[simp] theorem switches_keep (w : World) (c : Call) (b : Bool) :
    (w.keep c b).switches = w.switches := by
  unfold World.keep
  split <;> rfl

variable {outage : Option Fault} {c : Call} {w w' : World}

theorem untouched_keep (w : World) (c : Call) (b : Bool) : Untouched w (w.keep c b) :=
  ⟨links_keep w c b, keys_keep w c b⟩

/-- A call is struck by the outage of the moment if that strikes calls of its kind. -/
theorem struck_eq_some {fault : Fault} :
    struck outage c = some fault ↔ outage = some fault ∧ strikes fault c = true :=
  Option.filter_eq_some_iff

/-- A call is struck by an outage, or it is performed. -/
theorem attempt_cases {reply : Except Fault c.Reply} (made : attempt outage c w = (reply, w')) :
    (∃ fault, struck outage c = some fault ∧ reply = .error fault ∧ w' = w.keep c false) ∨
      (struck outage c = none ∧ w.perform c = (reply, w')) := by
  unfold attempt at made
  split at made
  · rename_i fault strikes
    cases made
    exact .inl ⟨fault, strikes, rfl, rfl⟩
  · rename_i spared
    exact .inr ⟨spared, made⟩

theorem performed_of_attempt {a : c.Reply} (made : attempt outage c w = (.ok a, w')) :
    struck outage c = none ∧ w.perform c = (.ok a, w') := by
  rcases attempt_cases made with ⟨fault, -, failed, -⟩ | performed
  · cases failed
  · exact performed

theorem perform_of_attempt_ok {a : c.Reply} (made : attempt outage c w = (.ok a, w')) :
    w.perform c = (.ok a, w') :=
  (performed_of_attempt made).2

/-! ### Answers of a calm world -/

theorem perform_eq (c : Call) (w : World) :
    w.perform c = ((w.answer c).1, (w.answer c).2.keep c (w.answer c).1.isOk) := rfl

theorem follow_fields {α : Type} (w : World) (cue : Bench.Cue) (a : α) :
    (w.follow cue a).2.links = w.links ∧ (w.follow cue a).2.keys = w.keys ∧
      (w.follow cue a).2.switches = w.switches := by
  unfold World.follow
  cases cue.stops <;> cases cue.fault <;> exact ⟨rfl, rfl, rfl⟩

/-- Calls do not switch faults on. -/
theorem calm_answer (calm : Calm w) (c : Call) : Calm (w.answer c).2 := by
  unfold Calm
  cases c with
  | database d =>
      cases d <;> simp only [World.answer, World.database, barring_of_calm calm] <;>
        first | exact calm | (split <;> exact calm)
  | keys k =>
      cases k <;> simp only [World.answer, World.server, barring_of_calm calm] <;>
        first | exact calm | (split <;> exact calm)
  | producer k =>
      cases k <;> simp only [World.answer, World.producer, barring_of_calm calm] <;> exact calm
  | consumer k =>
      cases k with
      | poll =>
          simp only [World.answer, World.consumer]
          split
          · exact (follow_fields _ _ _).2.2.trans calm
          · split <;> exact calm
      | create => exact calm
      | stop => exact (follow_fields _ _ _).2.2.trans calm
      | _ =>
          simp only [World.answer, World.consumer]
          split
          · exact (follow_fields _ _ _).2.2.trans calm
          · exact calm
  | columns k =>
      cases k <;> simp only [World.answer, World.store, barring_of_calm calm] <;> exact calm
  | atlas k =>
      cases k <;> simp only [World.answer, World.atlas, barring_of_calm calm] <;> exact calm
  | process k =>
      cases k <;> simp only [World.answer, World.process] <;>
        first
          | exact calm
          | (split <;> first | exact calm | exact (follow_fields _ _ _).2.2.trans calm)

theorem calm_of_attempt (calm : Calm w) {reply : Except Fault c.Reply}
    (made : attempt outage c w = (reply, w')) : Calm w' := by
  rcases attempt_cases made with ⟨_, -, -, rfl⟩ | ⟨-, performed⟩
  · exact (switches_keep _ _ _).trans calm
  · rw [perform_eq] at performed
    cases performed
    exact (switches_keep _ _ _).trans (calm_answer calm c)

/-! ### What the calls do -/

/-- Calls to the process leave the catalog and the keys alone, and no outage strikes them. -/
theorem untouched_of_process {call : ProcessCall} {reply : Except Fault call.Reply}
    (made : attempt outage (.process call) w = (reply, w')) : Untouched w w' := by
  rcases attempt_cases made with ⟨_, strikes, -, -⟩ | ⟨-, performed⟩
  · cases (struck_eq_some.mp strikes).2
  · rw [perform_eq] at performed
    cases call with
    | handOff =>
        simp only [World.answer, World.process, Prod.mk.injEq] at performed
        rw [← performed.2]
        constructor
        all_goals
          simp only [links_keep, keys_keep]
          split
          · simp only [follow_fields]
          · rfl
    | _ =>
        cases performed
        exact ⟨links_keep _ _ _, keys_keep _ _ _⟩

/-- A failed call to the relational database has no effect. -/
theorem untouched_of_database_error (calm : Calm w) {call : DatabaseCall} {fault : Fault}
    (made : attempt outage (.database call) w = (.error fault, w')) : Untouched w w' := by
  rcases attempt_cases made with ⟨_, -, -, rfl⟩ | ⟨-, performed⟩
  · exact untouched_keep _ _ _
  · rw [perform_eq] at performed
    cases call <;> simp only [World.answer, World.database, barring_of_calm calm] at performed
    case insertLink id url token =>
      split at performed
      · cases performed
      · cases performed
        exact untouched_keep _ _ _
    case readBack id =>
      split at performed
      · cases performed
      · cases performed
        exact untouched_keep _ _ _
    case insertClick click =>
      split at performed
      · cases performed
      · cases performed
        exact untouched_keep _ _ _
    all_goals cases performed

/-- A failed call to the key-value server has no effect. -/
theorem untouched_of_keys_error (calm : Calm w) {call : KeysCall} {fault : Fault}
    (made : attempt outage (.keys call) w = (.error fault, w')) : Untouched w w' := by
  rcases attempt_cases made with ⟨_, -, -, rfl⟩ | ⟨-, performed⟩
  · exact untouched_keep _ _ _
  · rw [perform_eq] at performed
    cases call <;> simp only [World.answer, World.server, barring_of_calm calm] at performed
    case increment key =>
      split at performed
      · cases performed
      · cases performed
        exact untouched_keep _ _ _
    all_goals cases performed

theorem untouched_of_connect (calm : Calm w) {reply : Except Fault Unit}
    (made : attempt outage (.database .connect) w = (reply, w')) : Untouched w w' := by
  cases reply with
  | error fault => exact untouched_of_database_error calm made
  | ok a =>
      have performed := perform_of_attempt_ok made
      rw [perform_eq] at performed
      simp only [World.answer, World.database, barring_of_calm calm] at performed
      cases performed
      exact untouched_keep _ _ _

/-- A link that was looked for is the one that the catalog has. -/
theorem findLink_of_attempt {token : String} {link? : Option Link}
    (made : attempt outage (.database (.findLink token)) w = (.ok link?, w')) :
    w.links.find? token = link? ∧ Untouched w w' := by
  cases perform_of_attempt_ok made
  exact ⟨rfl, untouched_keep _ _ _⟩

theorem lastId_of_attempt {last? : Option Int}
    (made : attempt outage (.database .lastId) w = (.ok last?, w')) :
    w.links.lastId? = last? ∧ Untouched w w' := by
  cases perform_of_attempt_ok made
  exact ⟨rfl, untouched_keep _ _ _⟩

theorem readBack_of_attempt {id : Int} {link : Link}
    (made : attempt outage (.database (.readBack id)) w = (.ok link, w')) :
    w.links.findId? id = some link ∧ Untouched w w' := by
  have performed := perform_of_attempt_ok made
  rw [perform_eq] at performed
  simp only [World.answer, World.database] at performed
  split at performed
  · rename_i found
    cases performed
    exact ⟨found, untouched_keep _ _ _⟩
  · cases performed

/-- A retargeting that succeeds retargets the link and nothing else. -/
theorem retargetLink_of_attempt (calm : Calm w) {token url : String} {time : Moment}
    {link? : Option Link}
    (made : attempt outage (.database (.retargetLink token url time)) w = (.ok link?, w')) :
    w'.links = w.links.retarget token url time ∧ w'.keys = w.keys ∧
      w'.links.find? token = link? := by
  have performed := perform_of_attempt_ok made
  rw [perform_eq] at performed
  simp only [World.answer, World.database, barring_of_calm calm] at performed
  cases performed
  exact ⟨links_keep _ _ _, keys_keep _ _ _, by rw [links_keep]⟩

theorem deleteLink_of_attempt (calm : Calm w) {token : String} {n : Nat}
    (made : attempt outage (.database (.deleteLink token)) w = (.ok n, w')) :
    w'.links = w.links.delete token ∧ w'.keys = w.keys ∧ w.links.count token = n := by
  have performed := perform_of_attempt_ok made
  rw [perform_eq] at performed
  simp only [World.answer, World.database, barring_of_calm calm] at performed
  cases performed
  exact ⟨links_keep _ _ _, keys_keep _ _ _, rfl⟩

/-- The row that is inserted for a link. -/
def freshLink (id : Int) (url token : String) : Link :=
  ⟨id, url, token, Bench.databaseClock, Bench.databaseClock⟩

/-- An insertion that succeeds inserts a fresh link and nothing else. -/
theorem insertLink_of_attempt (calm : Calm w) {id : Int} {url token : String}
    (made : attempt outage (.database (.insertLink id url token)) w = (.ok (), w')) :
    w.links.insert (freshLink id url token) = .ok w'.links ∧ w'.keys = w.keys := by
  have performed := perform_of_attempt_ok made
  rw [perform_eq] at performed
  simp only [World.answer, World.database, barring_of_calm calm] at performed
  split at performed
  · rename_i links inserted
    cases performed
    exact ⟨by rw [links_keep]; exact inserted, keys_keep _ _ _⟩
  · cases performed

theorem get_of_attempt (calm : Calm w) {key : String} {text? : Option String}
    (made : attempt outage (.keys (.get key)) w = (.ok text?, w')) :
    w.keys.get? key = text? ∧ Untouched w w' := by
  have performed := perform_of_attempt_ok made
  rw [perform_eq] at performed
  simp only [World.answer, World.server, barring_of_calm calm] at performed
  cases performed
  exact ⟨rfl, untouched_keep _ _ _⟩

theorem set_of_attempt (calm : Calm w) {key text : String} {seconds : Option Int}
    (made : attempt outage (.keys (.set key text seconds)) w = (.ok (), w')) :
    w'.keys = w.keys.set key text seconds ∧ w'.links = w.links := by
  have performed := perform_of_attempt_ok made
  rw [perform_eq] at performed
  simp only [World.answer, World.server, barring_of_calm calm] at performed
  cases performed
  exact ⟨keys_keep _ _ _, links_keep _ _ _⟩

theorem delete_of_attempt (calm : Calm w) {key : String} {n : Nat}
    (made : attempt outage (.keys (.delete key)) w = (.ok n, w')) :
    w'.keys = w.keys.delete key ∧ w'.links = w.links := by
  have performed := perform_of_attempt_ok made
  rw [perform_eq] at performed
  simp only [World.answer, World.server, barring_of_calm calm] at performed
  cases performed
  exact ⟨keys_keep _ _ _, links_keep _ _ _⟩

theorem increment_of_attempt (calm : Calm w) {key : String} {n : Int}
    (made : attempt outage (.keys (.increment key)) w = (.ok n, w')) :
    w.keys.increment key = .ok (n, w'.keys) ∧ w'.links = w.links := by
  have performed := perform_of_attempt_ok made
  rw [perform_eq] at performed
  simp only [World.answer, World.server, barring_of_calm calm] at performed
  split at performed
  · rename_i m keys counted
    cases performed
    exact ⟨by rw [keys_keep]; exact counted, links_keep _ _ _⟩
  · cases performed

end LinkShortener.Traffic
