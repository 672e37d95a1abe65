import LinkShortener.Proofs.Daemon.Lifespan

/-!
Building and releasing in any order. The manager is made to build its parts, to hand them out, which
builds them if need be, and to release them, as often as one likes and in any order; nothing fails
but that the bus may refuse the producer when it is started, and turn the feed away for a while.

What is left of a release, the parts that stay and the flags, does not disturb the next building:
after each deed the parts are all there or all gone, by what the deed was.

Main statement: `parts_follow_last_deed`.
-/

namespace LinkShortener.Daemon

open Routine

/-! ### Without flaws -/

section Sound

variable {fails : Call → Fault → Prop} {α : Type}

/-- Whether anything was opened before makes no difference to what a routine does. -/
theorem secures_of_untouched {post : Steward → Except Fault α → Prop} {r : Routine α} {s : Steward}
    (blind : ∀ s t o, post s o → post { s with touched := t } o)
    (secures : Secures (steward fails) post r { s with touched := false }) :
    Secures (steward fails) post r s := by
  suffices any : ∀ t t', Secures (steward fails) post r { s with touched := t } →
      Secures (steward fails) post r { s with touched := t' } from any false s.touched secures
  clear secures
  induction r generalizing s with
  | done a =>
      intro t t' holds
      exact secures_done.mpr (blind { s with touched := t } t' _ (secures_done.mp holds))
  | fail fault =>
      intro t t' holds
      exact secures_fail.mpr (blind { s with touched := t } t' _ (secures_fail.mp holds))
  | ask c next ih =>
      intro t t' secures
      refine secures_ask.mpr fun reply admits => ?_
      exact ih reply (s := { s with touched := t }.after c reply) _ _
        (secures_ask.mp secures reply admits)

/-- What ends well unless something is flawed ends well if nothing is. -/
theorem secures_of_ends {settings : Settings} {done : Steward → α → Prop} {r : Routine α}
    {s : Steward} (flawless : ¬ Flawed fails settings)
    (blind : ∀ s t a, done s a → done { s with touched := t } a)
    (ends : Secures (steward fails) (Ends fails settings done) r { s with touched := false }) :
    Secures (steward fails) (fun s o => ∃ a, o = .ok a ∧ done s a) r s := by
  refine secures_of_untouched ?_ (ends.mono fun s o ends => ?_)
  · rintro s t _ ⟨a, rfl, holds⟩
    exact ⟨a, rfl, blind s t a holds⟩
  · cases o with
    | ok a => exact ⟨a, rfl, ends⟩
    | error fault => exact absurd ends.1 flawless

end Sound

/-! ### The deeds of a cycle -/

/-- Deeds after which all parts are there. -/
def Deed.builds : Deed → Bool
  | buildAll | provide => true
  | _ => false

/-- A cycle of building and releasing, in which nothing fails but that the bus refuses the producer
or turns the feed away. -/
def steady (settings : Settings) (patience : Nat) : Regime where
  settings := settings
  admits _ d := d.builds = true ∨ d = .release
  fails c fault := isAbsorbed c fault = true
  tame := true
  patience := patience

section Deeds

variable {settings : Settings} {patience : Nat} {s : Steward}

/-- If the settings are sound, nothing in a cycle is flawed. -/
theorem flawless_steady (sound : Sound settings) :
    ¬ Flawed (steady settings patience).grants settings := by
  rintro (⟨c, fault, grants, loose⟩ | unsound)
  · unfold Regime.grants at grants
    split at grants
    · cases grants
    · cases grants.symm.trans loose
  · exact unsound sound

/-- The parts are handed out where they are all there, and nothing is done about them. -/
theorem secures_handOut {fails : Call → Fault → Prop} {database : Bool}
    {post : Steward → Except Fault Given → Prop}
    (stocked : Stocked settings database s) (same : post s (.ok (given settings s.memory))) :
    Secures (steward fails) post (handOut settings) s := by
  refine secures_recollect_bind ?_
  rw [if_pos stocked.provided]
  exact secures_done.mpr same

/-- Whoever asks for the parts where they are all there is given them. -/
theorem secures_provide_of_stocked {fails : Call → Fault → Prop} {database : Bool}
    {post : Steward → Except Fault Given → Prop}
    (stocked : Stocked settings database s) (same : post s (.ok (given settings s.memory))) :
    Secures (steward fails) post (provide settings) s := by
  refine secures_recollect_bind ?_
  rw [stocked.ready]
  exact secures_handOut stocked same

/-- Handing out builds the parts where they are not there. -/
theorem secures_provide {fails : Call → Fault → Prop} (idle : Idle s)
    (sunk : s.Sunk) : Secures (steward fails) (Ends fails settings fun s' parts =>
      parts = given settings s'.memory ∧ Stocked settings s.held.database s')
      (provide settings) s := by
  refine secures_recollect_bind ?_
  rw [idle.unready]
  refine ends_bind (secures_buildAll idle sunk) fun s' _ stocked => ?_
  exact secures_handOut stocked ⟨rfl, stocked⟩

/-- Whether the last of these deeds, the latest first, was one after which all parts are there. -/
def stands (past : History) : Bool := past.head?.any fun done => done.1.builds

/-- What holds of the steward between the deeds of a cycle. -/
structure Cycled (settings : Settings) (past : History) (s : Steward) : Prop where
  ok : ∀ done ∈ past, done.2 = .ok ()
  built : stands past = true → Stocked settings false s
  gone : stands past = false → Idle s ∧ s.held.database = false

/-- Before the first deed nothing is there. -/
theorem cycled_nil : Cycled settings [] {} where
  ok := nofun
  built := nofun
  gone _ := ⟨⟨rfl, rfl, rfl, rfl, rfl, rfl, rfl⟩, rfl⟩

/-- Between deeds the memory accounts for what is held. -/
theorem Cycled.accounts {past : History} (cycled : Cycled settings past s) :
    Accounts s ∧ s.held.database = false := by
  cases stood : stands past with
  | true => exact ⟨(cycled.built stood).accounts, (cycled.built stood).database⟩
  | false => exact ⟨(cycled.gone stood).1.accounts, (cycled.gone stood).2⟩

/-- A building deed does nothing where all parts are there. -/
theorem secures_builds_of_stocked {fails : Call → Fault → Prop} {database : Bool} {d : Deed}
    {post : Steward → Except Fault Unit → Prop} (builds : d.builds = true)
    (stocked : Stocked settings database s) (same : post s (.ok ())) :
    Secures (steward fails) post (d.routine settings) s := by
  cases d with
  | buildAll => exact secures_buildAll_of_ready stocked.ready same
  | provide => exact secures_map.mpr (secures_provide_of_stocked stocked same)
  | _ => cases builds

/-- A building deed succeeds, and then all parts are there. -/
theorem secures_builds {past : History} {d : Deed} (sound : Sound settings)
    (builds : d.builds = true) (cycled : Cycled settings past s) :
    Secures (steward (steady settings patience).grants)
      (fun s o => o = .ok () ∧ Stocked settings false s) (d.routine settings) s := by
  cases stood : stands past with
  | true =>
      have stocked := cycled.built stood
      exact secures_builds_of_stocked builds stocked ⟨rfl, stocked⟩
  | false =>
      obtain ⟨idle, unused⟩ := cycled.gone stood
      have succeeds {α : Type} {r : Routine α}
          (ends : ∀ s, Idle s → s.Sunk → Secures (steward (steady settings patience).grants)
            (Ends (steady settings patience).grants settings fun s' _ =>
              Stocked settings s.held.database s') r s) :
          Secures (steward (steady settings patience).grants)
            (fun s o => ∃ a, o = .ok a ∧ Stocked settings false s) r s := by
        refine secures_of_ends (flawless_steady sound) (fun s t _ stocked => ?_) ?_
        · exact { stocked with accounts := { stocked.accounts with } }
        · have untouched := ends { s with touched := false } { idle with } nofun
          rw [show ({ s with touched := false } : Steward).held.database = false from unused]
            at untouched
          exact untouched
      cases d with
      | buildAll =>
          refine (succeeds fun _ => secures_buildAll).mono ?_
          rintro s _ ⟨_, rfl, stocked⟩
          exact ⟨rfl, stocked⟩
      | provide =>
          refine secures_map.mpr ((succeeds fun s idle sunk => ?_).mono ?_)
          · exact (secures_provide idle sunk).mono fun _ _ ends => ends.mono fun _ => And.right
          · rintro s _ ⟨_, rfl, stocked⟩
            exact ⟨rfl, stocked⟩
      | _ => cases builds

/-- Every deed of a cycle secures what is to hold after it. -/
theorem secures_cycled (sound : Sound settings) (past : History) (d : Deed) (s : Steward)
    (admitted : (steady settings patience).admits past d) (cycled : Cycled settings past s) :
    Secures (steward (steady settings patience).grants)
      (fun s o => Cycled settings ((d, o) :: past) s) (d.routine settings) s := by
  have ok {o : Except Fault Unit} (succeeds : o = .ok ()) :
      ∀ done ∈ (d, o) :: past, done.2 = .ok () := by
    intro done mem
    rcases List.mem_cons.mp mem with rfl | mem
    · exact succeeds
    · exact cycled.ok done mem
  rcases admitted with builds | rfl
  · refine (secures_builds sound builds cycled).mono ?_
    rintro s o ⟨succeeds, stocked⟩
    refine ⟨ok succeeds, fun _ => stocked, fun gone => ?_⟩
    cases builds.symm.trans gone
  · obtain ⟨accounts, unused⟩ := cycled.accounts
    refine (secures_of_ends (flawless_steady sound) ?_
      (secures_release (s := { s with touched := false }) { accounts with })).mono ?_
    · rintro s t _ ⟨idle, same⟩
      exact ⟨{ idle with }, same⟩
    · rintro s _ ⟨_, rfl, idle, same⟩
      exact ⟨ok rfl, nofun, fun _ => ⟨idle, same.trans unused⟩⟩

end Deeds

/-! ### The feed of a cycle -/

section Running

variable {ρ : Regime} {p : Process}

/-- Only a worker is signalled. -/
theorem unsignalled (never : ∀ past, ¬ ρ.admits past .work) (reaches : Process.Reaches ρ {} p) :
    p.signalled = false ∧ ∀ rest, p.current ≠ some (.work, rest) := by
  induction reaches with
  | refl => exact ⟨rfl, nofun⟩
  | tail _ steps ih =>
      obtain ⟨calm, idle⟩ := ih
      cases steps with
      | begin d _ admitted =>
          refine ⟨calm, fun rest same => ?_⟩
          cases same
          exact never _ admitted
      | finish => exact ⟨calm, nofun⟩
      | call d c next reply asks =>
          refine ⟨?_, fun rest same => ?_⟩
          · unfold Process.after
            split
            · rfl
            · exact calm
          · cases same
            exact idle _ asks
      | feed | request => exact ⟨calm, idle⟩
      | signal rest works => exact (idle rest works).elim

/-- No feed runs where none is held. -/
theorem Linked.running_of_none (linked : Linked ρ p.feeds p.signalled p.steward)
    (none : p.held.feeds = 0) : p.running = 0 := by
  refine List.countP_eq_zero.mpr fun b mem => ?_
  rw [← p.held_steward] at none
  simp [Option.isNone_eq_false_iff.mpr (linked.ended none b mem)]

/-- The one feed that is held runs if nobody has asked it to stop. -/
theorem Linked.running_of_single (linked : Linked ρ p.feeds p.signalled p.steward)
    (isTame : ρ.tame = true) (single : p.held.feeds = 1) (unasked : p.steward.course.asked = false)
    (calm : p.signalled = false) : p.running = 1 := by
  rw [← p.held_steward] at single
  obtain ⟨b, rest, same⟩ := List.exists_cons_of_ne_nil (linked.present (single ▸ Nat.one_ne_zero))
  have earlier := linked.earlier single.le
  rw [same] at earlier
  have goes : b.verdict? = none := by
    refine Option.eq_none_iff_forall_ne_some.mpr fun v halted => ?_
    have mem : b ∈ p.feeds := same ▸ List.mem_cons_self
    obtain ⟨bidden, -⟩ := (Background.of_verdict (linked.turns b mem) halted).2 isTame
    rcases linked.bidden b (same ▸ rfl) bidden with asked | signalled
    · cases asked.symm.trans unasked
    · cases signalled.symm.trans calm
  have ended : rest.countP (fun b => b.verdict?.isNone) = 0 :=
    List.countP_eq_zero.mpr fun b mem => by
      simp [Option.isNone_eq_false_iff.mpr (earlier b mem)]
  rw [Process.running, same, List.countP_cons, ended, goes]
  rfl

end Running

/-! ### After each deed -/

section Cycles

variable {settings : Settings} {patience : Nat} {p : Process}

/-- All parts are there: each connection is open once, those to the column store twice if it is
used, the producer runs at most once, and the atlas is open and a feed runs if one is wanted. -/
structure Process.Complete (p : Process) (settings : Settings) : Prop where
  keys : p.held.keys = 1
  producers : p.held.producers ≤ 1
  columns : p.held.columns = connections settings.clicks.backend
  atlases : p.held.atlases = settings.consumer.enabled.toNat
  running : p.running = settings.consumer.enabled.toNat

/-- Where all parts are there, the connections are open and the feed runs. -/
theorem Linked.complete (linked : Linked (steady settings patience) p.feeds p.signalled p.steward)
    (stocked : Stocked settings false p.steward) (calm : p.signalled = false) :
    p.Complete settings := by
  have held := p.held_steward
  constructor
  · rw [← held, stocked.accounts.keys, stocked.opened]
    rfl
  · rw [← held, stocked.accounts.producers]
    exact Bool.toNat_le _
  · rw [← held, stocked.columns]
  · rw [← held, stocked.atlases]
  · have feeds := stocked.feeds
    rw [held] at feeds
    cases enabled : settings.consumer.enabled with
    | true =>
        rw [enabled] at feeds
        exact linked.running_of_single rfl feeds (stocked.unasked enabled) calm
    | false =>
        rw [enabled] at feeds
        exact linked.running_of_none feeds

/-- A deed that finds the parts built changes nothing. -/
theorem same_of_ready {p' : Process} {d : Deed} {o : Except Fault Unit} (builds : d.builds = true)
    (linked : Linked (steady settings patience) p.feeds p.signalled p.steward)
    (stocked : Stocked settings false p.steward)
    (reaches : Process.Reaches (steady settings patience) (p.take (steady settings patience) d) p')
    (finished : p'.finished = (d, o) :: p.finished) (idle : p'.current = none) :
    p'.steward = p.steward := by
  -- What is to hold between deeds says something of `p`, and of the time after the next deed if
  -- that is `d`; later on it says nothing.
  let between (past : History) (s : Steward) : Prop :=
    p.finished.length ≤ past.length ∧ (past = p.finished → s = p.steward) ∧
      ∀ o, past = (d, o) :: p.finished → s = p.steward
  have deeds (past : History) (d' : Deed) (s : Steward)
      (_ : (steady settings patience).admits past d') (holds : between past s) :
      Secures (steward (steady settings patience).grants) (fun s o => between ((d', o) :: past) s)
        (d'.routine settings) s := by
    obtain ⟨long, first, -⟩ := holds
    have longer {o : Except Fault Unit} {P : Prop} (same : (d', o) :: past = p.finished) : P := by
      rw [← same, List.length_cons] at long
      omega
    by_cases next : past = p.finished ∧ d' = d
    · obtain ⟨rfl, rfl⟩ := next
      cases first rfl
      exact secures_builds_of_stocked builds stocked ⟨Nat.le_succ _, longer, fun _ _ => rfl⟩
    · refine secures_of_forall fun s o => ⟨Nat.le_succ_of_le long, longer, fun o' same => ?_⟩
      cases same
      exact absurd ⟨rfl, rfl⟩ next
  have begins : between p.finished p.steward :=
    ⟨Nat.le_refl _, fun _ => rfl, fun o same => absurd same.symm (List.cons_ne_self _ _)⟩
  obtain ⟨-, stage⟩ := keeps_of_reaches deeds reaches linked
    (deeds p.finished d p.steward (.inl builds) begins)
  rw [idle] at stage
  exact stage.2.2 o finished

/-- After any deeds of building, handing out and releasing, one after the other and in any order,
all of them have succeeded, the manager takes its parts for built exactly if the last deed was to
build them or hand them out, and then they are; if it was to release them, nothing is open or
running. To build what is built changes nothing. -/
theorem parts_follow_last_deed (settings : Settings) (patience : Nat)
    (sound : Sound settings) {p : Process}
    (reaches : Process.Reaches (steady settings patience) {} p) (idle : p.current = none) :
    (∀ done ∈ p.finished, done.2 = .ok ()) ∧ p.memory.ready = stands p.finished ∧
      (p.memory.ready = true → p.Complete settings ∧
        ∀ d o p', d.builds = true →
          Process.Reaches (steady settings patience) (p.take (steady settings patience) d) p' →
          p'.finished = (d, o) :: p.finished → p'.current = none →
          p'.memory = p.memory ∧ p'.held = p.held) ∧
      (p.memory.ready = false → p.Clean) := by
  obtain ⟨linked, stage⟩ := keeps_of_reaches (secures_cycled sound) reaches linked_nil cycled_nil
  rw [idle] at stage
  have cycled : Cycled settings p.finished p.steward := stage
  have ready : p.memory.ready = stands p.finished := by
    rw [← p.memory_steward]
    cases stood : stands p.finished with
    | true => exact (cycled.built stood).ready
    | false => exact (cycled.gone stood).1.unready
  refine ⟨cycled.ok, ready, fun built => ?_, fun gone => ?_⟩
  · have stocked := cycled.built (ready.symm.trans built)
    refine ⟨linked.complete stocked (unsignalled ?_ reaches).1, ?_⟩
    · rintro past (builds | same)
      · cases builds
      · cases same
    · intro d o p' builds reaches' finished idle'
      have same := same_of_ready builds linked stocked reaches' finished idle'
      rw [← p.memory_steward, ← p'.memory_steward, ← p.held_steward, ← p'.held_steward, same]
      exact ⟨rfl, rfl⟩
  · obtain ⟨rests, unused⟩ := cycled.gone (ready.symm.trans gone)
    refine linked.clean ?_
    rw [← p.held_steward, rests.held, unused]

/-- The settings are sound by default. -/
theorem sound_default : Sound {} where
  placed _ flaw failed := by
    have parsed : (Endpoint.ofUrl ({} : Settings.Clicks).url).isOk = true := by decide +kernel
    rw [failed] at parsed
    cases parsed
  leveled := by decide

/-- The bus is not there for the producer. -/
def refusing : (c : Call) → Except Fault c.Reply
  | .producer .start => .error (.outage .bus "no broker")
  | c => smooth c

/-- The bus is not there for the feed. -/
def turningAway : (c : Call) → Except Fault c.Reply
  | .consumer .start => .error (.outage .bus "no broker")
  | c => smooth c

/-- Does a deed, as far as it goes without its feed. -/
def carry (settings : Settings) (replies : (c : Call) → Except Fault c.Reply) (d : Deed)
    (p : Process) : Process :=
  (Process.advance (steady settings 6) replies)^[70] (p.take (steady settings 6) d)

theorem Process.Reaches.carry (settings : Settings) (d : Deed)
    {replies : (c : Call) → Except Fault c.Reply} (fails : ∀ c fault, replies c = .error fault →
      isRisky c = true ∧ (steady settings 6).fails c fault)
    (reaches : Process.Reaches (steady settings 6) {} p) (idle : p.current = none)
    (admitted : d.builds = true ∨ d = .release) :
    Process.Reaches (steady settings 6) {} (carry settings replies d p) :=
  (reaches.take idle admitted).advances fails 70

/-- The parts are released before they are built, built while the bus is not there, handed out,
released and built again. -/
def secondCycle : Process :=
  let released := carry {} smooth .release {}
  let built := (Process.advanceFeed turningAway)^[6] (carry {} refusing .buildAll released)
  let provided := carry {} smooth .provide built
  let stopping := (Process.advanceFeed smooth)^[6] (carry {} smooth .release provided)
  carry {} smooth .buildAll ((Process.advance (steady {} 6) smooth)^[40] stopping)

/-- In the second cycle, after the bus was not there in the first one, all parts are there. -/
theorem second_cycle_complete :
    secondCycle.finished.map Prod.fst = [.buildAll, .release, .provide, .buildAll, .release] ∧
      secondCycle.Complete {} := by
  have refuses (c : Call) (fault : Fault) (failed : refusing c = .error fault) :
      isRisky c = true ∧ (steady {} 6).fails c fault := by
    unfold refusing at failed
    split at failed
    · cases failed
      exact ⟨rfl, rfl⟩
    · exact of_smooth_error (P := fun c fault => isRisky c = true ∧ _) c fault failed
  have turnsAway (c : Call) (fault : Fault) (failed : turningAway c = .error fault) :
      isRisky c = true ∧ (true = true → Feed.IsTame c fault) ∧ fault ≠ .cancelled := by
    unfold turningAway at failed
    split at failed
    · cases failed
      exact ⟨rfl, fun _ => .inl rfl, nofun⟩
    · exact of_smooth_error (P := fun c fault => isRisky c = true ∧ _ ∧ _) c fault failed
  have released := Process.Reaches.carry {} .release of_smooth_error .refl rfl (.inr rfl)
  have built := (Process.Reaches.carry {} .buildAll refuses released (by decide +kernel)
    (.inl rfl)).advanceFeeds turnsAway 6
  have provided := Process.Reaches.carry {} .provide of_smooth_error built (by decide +kernel)
    (.inl rfl)
  have stopping := (Process.Reaches.carry {} .release of_smooth_error provided (by decide +kernel)
    (.inr rfl)).advanceFeeds of_smooth_error 6
  have cycled := Process.Reaches.carry {} .buildAll of_smooth_error
    (stopping.advances of_smooth_error 40) (by decide +kernel) (.inl rfl)
  have follows := parts_follow_last_deed {} 6 sound_default cycled (by decide +kernel)
  exact ⟨by decide +kernel, (follows.2.2.1 (by decide +kernel)).1⟩

end Cycles

end LinkShortener.Daemon
