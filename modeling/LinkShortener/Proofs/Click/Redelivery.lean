import LinkShortener.Proofs.Click.Columns
import LinkShortener.Proofs.Visit.Arrival

/-!
Deliveries that come again. The column store takes a row for every delivery of a visit, and tells
them apart by their event ids when it counts. But the place of a visit is looked up again at each
delivery, and a part of a tally counts an event under every value that its rows have. So the total
counts every event once, and the parts along the device and the referrer do too, while the parts
along the country and the city count an event once only if its rows agree there.

Main statements: a delivery adds the click that it ends with, or fails and adds none
(`Documented.run_process`), and after any deliveries the parts of a tally add up to the total or
more, as the clicks of each event agree or not (`parts_sum_iff_rows_agree`).
-/

namespace LinkShortener.ColumnStore

open Routine
open Visit (Progress Takes Brings)

/-! ### Deliveries -/

/-- The payload may come to be stored as this click, wherever its visit is found to come from. -/
def Shows (payload : List UInt8) (click : Click) : Prop :=
  ∃ time v place device, Brings payload time (.ok v) ∧ Agent.classify v.agent = .ok device ∧
    click = v.placed place device

/-- What a phase of the intake knows of the payload. -/
def Knows (payload : List UInt8) : Progress → Prop
  | .reading payload' => payload' = payload
  | .placing v => ∃ time, Brings payload time (.ok v)
  | .storing click | .stored click | .repeated click => Shows payload click
  | .failed => True

variable {α : Type} {payload : List UInt8} {p q : Progress} {c : Call}
  {reply : Except Fault c.Reply}

theorem knows_of_takes (takes : Takes p c reply q) (knows : Knows payload p) :
    Knows payload q := by
  cases takes with
  | note | name | connect | conflicted | insert | skip => exact knows
  | read payload' time v brings => exact ⟨time, knows ▸ brings⟩
  | place v place device classified =>
      obtain ⟨time, brings⟩ := knows
      exact ⟨time, v, place, device, brings, classified, rfl⟩
  | unplace v fault device absorbed classified =>
      obtain ⟨time, brings⟩ := knows
      exact ⟨time, v, .nowhere, device, brings, classified, rfl⟩
  | _ => trivial

theorem other_of_takes (takes : Takes p c reply q) : isColumns c = false := by
  cases takes <;> rfl

/-- A payload is read and enriched, and is then to be stored as a click. -/
theorem follows_enriched (payload : List UInt8) :
    Follows Takes (fun q o => ∀ click, o = .ok click → q = .storing click)
      (Visit.receive payload >>= Visit.enrich) (.reading payload) := by
  apply follows_bind.mpr
  apply Visit.follows_receive
  · intro fault
    exact follows_fail.mpr nofun
  · intro flaws fault undocumented
    exact follows_fail.mpr nofun
  · intro v
    apply Visit.follows_enrich
    · exact nofun
    · rintro click _ ⟨⟩
      rfl

section Deliveries

variable {σ : Type} {perform : Performer σ} {rows : σ → Multiset Click}

/-- Until it is to be stored, a payload has no effect on the rows. -/
theorem Documented.run_enriched (store : Documented Eq perform rows) (s : σ)
    (payload : List UInt8) :
    ∃ o s', (Visit.receive payload >>= Visit.enrich).run perform s = (o, s') ∧
      rows s' = rows s ∧ ∀ click, o = .ok click → Shows payload click := by
  let inv (p : Progress) (_ : Routine Click) (s' : σ) : Prop :=
    Knows payload p ∧ rows s' = rows s
  have step : ∀ p c next s q, inv p (.ask c next) s → Takes p c (perform c s).1 q →
      inv q (next (perform c s).1) (perform c s).2 := by
    rintro p c next s q ⟨knows, same⟩ takes
    exact ⟨knows_of_takes takes knows, (store.other s c (other_of_takes takes)).symm.trans same⟩
  have knows : Knows payload (.reading payload) := rfl
  obtain ⟨q, ends, knows', same⟩ :=
    Follows.run perform inv step (follows_enriched payload) ⟨knows, rfl⟩
  refine ⟨_, _, rfl, same, fun click came => ?_⟩
  rwa [ends click came] at knows'

/-- A delivery ends with the click that it adds to the rows, or it fails and adds none. -/
theorem Documented.run_process (store : Documented Eq perform rows) (s : σ)
    (payload : List UInt8) :
    ∃ o s', (Visit.process .columns payload).run perform s = (o, s') ∧
      ((∃ click, o = .ok click ∧ Shows payload click ∧ rows s' = click ::ₘ rows s) ∨
        ∃ fault, o = .error fault ∧ rows s' = rows s) := by
  obtain ⟨o, s₁, enriches, same, shows⟩ := store.run_enriched s payload
  have parts : Visit.process .columns payload =
      (Visit.receive payload >>= Visit.enrich) >>= fun click => do
        ClickStore.add .columns click
        let event := click.event
        let token := click.token
        log .debug .intake s!"Stored stats event {event} for token {token}"
        return click := by
    rw [bind_assoc]
    rfl
  rw [parts, run_bind, enriches]
  cases o with
  | error fault => exact ⟨_, _, rfl, .inr ⟨fault, rfl, same⟩⟩
  | ok click =>
      obtain ⟨s₂, _, adds, rfl, stored⟩ := store.run_addColumn s₁ click
      obtain ⟨⟨⟩, s₃, notes, kept⟩ := store.run_note s₂ (.log ⟨.debug, .intake,
        s!"Stored stats event {click.event} for token {click.token}"⟩)
      refine ⟨.ok click, s₃, ?_, .inl ⟨click, rfl, shows click rfl, ?_⟩⟩
      · simp only [ofOutcome_ok, bind_done, run_bind, adds, log, notes]
        rfl
      · rw [← kept, ← stored, same]

/-- Payloads are delivered one after the other, whatever comes of each. -/
def deliver : List (List UInt8) → Routine (List (Except Fault Click))
  | [] => return []
  | payload :: payloads => do
    let outcome ← (Visit.process .columns payload).outcome
    return outcome :: (← deliver payloads)

/-- The clicks that deliveries have come to. -/
def successes (outcomes : List (Except Fault Click)) : List Click :=
  outcomes.filterMap Except.toOption

/-- The rows that deliveries add are the clicks that they come to, which their payloads show. -/
theorem Documented.run_deliver (store : Documented Eq perform rows) (s : σ)
    (payloads : List (List UInt8)) :
    ∃ outcomes s', (deliver payloads).run perform s = (.ok outcomes, s') ∧
      rows s' = successes outcomes + rows s ∧
      ∀ click ∈ successes outcomes, ∃ payload ∈ payloads, Shows payload click := by
  induction payloads generalizing s with
  | nil => exact ⟨[], s, rfl, by simp [successes], by simp [successes]⟩
  | cons payload payloads ih =>
      obtain ⟨o, s₁, processes, came⟩ := store.run_process s payload
      obtain ⟨outcomes, s', delivers, added, shown⟩ := ih s₁
      have runs : (deliver (payload :: payloads)).run perform s = (.ok (o :: outcomes), s') := by
        simp only [deliver, run_bind, run_outcome, processes, ofOutcome_ok, bind_done, delivers]
        rfl
      have earlier : ∀ click ∈ successes outcomes,
          ∃ sent ∈ payload :: payloads, Shows sent click := by
        intro click mem
        obtain ⟨sent, mem', shows⟩ := shown click mem
        exact ⟨sent, List.mem_cons_of_mem _ mem', shows⟩
      refine ⟨o :: outcomes, s', runs, ?_⟩
      rcases came with ⟨click, rfl, shows, grown⟩ | ⟨fault, rfl, same⟩
      · have first : successes (.ok click :: outcomes) = click :: successes outcomes := rfl
        rw [added, grown, first]
        constructor
        · rw [← Multiset.cons_coe, Multiset.cons_add, Multiset.add_cons]
        · exact List.forall_mem_cons.mpr ⟨⟨payload, List.mem_cons_self, shows⟩, earlier⟩
      · have first : successes (.error fault :: outcomes) = successes outcomes := rfl
        rw [added, same, first]
        exact ⟨rfl, earlier⟩

end Deliveries

/-! ### Rows of one event -/

/-- What a document says of the caller. -/
theorem caller_of_ofJson {fresh : String} {time : Moment} {document : Json.Value} {v : Visit}
    (read : Visit.ofJson fresh time document = .ok v) :
    ∃ members, Record.members document = .ok members ∧
      Record.optional members "user_agent" Record.text "" = .ok v.agent ∧
      Record.optional members "referrer" Record.text "" = .ok v.referrer := by
  unfold Visit.ofJson at read
  cases found : Record.members document with
  | error flaws =>
      rw [found] at read
      cases read
  | ok members =>
      rw [found] at read
      simp only [bind, Except.bind, Record.Checked.ap_eq_ok] at read
      obtain ⟨_, _, ⟨_, _, ⟨_, _, ⟨_, _, ⟨_, _, ⟨_, _, made, -, rfl⟩, -, rfl⟩, -, rfl⟩, -, rfl⟩,
        agent, rfl⟩, referrer, rfl⟩ := read
      cases made
      exact ⟨members, rfl, agent, referrer⟩

/-- What a payload says of the caller does not depend on when it is read. -/
theorem brought_alike {payload : List UInt8} {time time' : Moment} {v v' : Visit}
    (brings : Brings payload time (.ok v)) (brings' : Brings payload time' (.ok v')) :
    v.agent = v'.agent ∧ v.referrer = v'.referrer := by
  obtain ⟨document, fresh, reads, -, read⟩ := brings
  obtain ⟨document', fresh', reads', -, read'⟩ := brings'
  cases reads.symm.trans reads'
  obtain ⟨members, found, agent, referrer⟩ := caller_of_ofJson read
  obtain ⟨members', found', agent', referrer'⟩ := caller_of_ofJson read'
  cases found.symm.trans found'
  exact ⟨Except.ok.inj (agent.symm.trans agent'), Except.ok.inj (referrer.symm.trans referrer')⟩

/-- Rows of one event are of one device and one referrer, if the event is brought by one payload
only. -/
theorem shown_alike {payload payload' : List UInt8} {click click' : Click}
    (shows : Shows payload click) (shows' : Shows payload' click')
    (one : ∀ time time' v v', Brings payload time (.ok v) → Brings payload' time' (.ok v') →
      v.event = v'.event → payload = payload') (event : click.event = click'.event) :
    click.device = click'.device ∧ click.referrer = click'.referrer := by
  obtain ⟨time, v, place, device, brings, classified, rfl⟩ := shows
  obtain ⟨time', v', place', device', brings', classified', rfl⟩ := shows'
  cases one time time' v v' brings brings' event
  obtain ⟨agent, referrer⟩ := brought_alike brings brings'
  rw [agent] at classified
  exact ⟨Except.ok.inj (classified.symm.trans classified'), referrer⟩

/-! ### Tallies -/

/-- What the counts of a part of a tally add up to. -/
def sumAlong (tally : Tally) (dimension : Dimension) : Int :=
  ((tally.along dimension).map Prod.snd).sum

/-- How a tally adds up that tells of deliveries. No part adds up to less than the total, and a part
adds up to the total exactly if clicks of one event agree along it; along the device and the
referrer they always do. -/
structure AddsUp (clicks : Finset Click) (tally : Tally) : Prop where
  total : tally.total = Click.eventCount clicks
  total_le_sum : ∀ dimension, tally.total ≤ sumAlong tally dimension
  sum_eq_iff : ∀ dimension, sumAlong tally dimension = tally.total ↔
    ∀ click ∈ clicks, ∀ click' ∈ clicks, click.event = click'.event →
      click.along dimension = click'.along dimension
  device : sumAlong tally .device = tally.total
  referrer : sumAlong tally .referrer = tally.total

/-- Payloads of which no two bring one event are delivered to an empty store. A token that a
delivery has come to a click of has a tally then, which adds up in this way. -/
theorem parts_sum_iff_rows_agree {σ : Type} {perform : Performer σ} {rows : σ → Multiset Click}
    (store : Documented Eq perform rows) {s : σ} (blank : rows s = 0)
    (payloads : List (List UInt8))
    (one : ∀ payload ∈ payloads, ∀ payload' ∈ payloads, ∀ time time' v v',
      Brings payload time (.ok v) → Brings payload' time' (.ok v') → v.event = v'.event →
        payload = payload') :
    ∃ outcomes s', (deliver payloads).run perform s = (.ok outcomes, s') ∧
      ∀ token, (∃ click ∈ successes outcomes, click.token = token) →
        ∃ tally s'', (Statistics.tally .columns token).run perform s' = (.ok tally, s'') ∧
          AddsUp (ofToken (successes outcomes) token) tally := by
  obtain ⟨outcomes, s', delivers, held, shown⟩ := store.run_deliver s payloads
  rw [blank, add_zero] at held
  refine ⟨outcomes, s', delivers, fun token some => ?_⟩
  obtain ⟨o, s'', asked, tallies⟩ := store.tallies s' token
  have reports := tallies.reports_events fun rows rows' drifted same => drifted ▸ same
  rw [held] at reports
  generalize same : ofToken (successes outcomes) token = clicks at reports ⊢
  cases reports with
  | none none =>
      obtain ⟨click, mem, named⟩ := some
      have counted : click ∈ ofToken (successes outcomes) token := mem_ofToken.mpr ⟨mem, named⟩
      rw [same, none] at counted
      cases counted
  | told tally _ named total counts =>
      have sums (dimension : Dimension) := (counts dimension).eventCount_le_sum
      rw [← total] at sums
      have alike : ∀ click ∈ clicks, ∀ click' ∈ clicks, click.event = click'.event →
          click.device = click'.device ∧ click.referrer = click'.referrer := by
        rw [← same]
        intro click mem click' mem' event
        obtain ⟨payload, sent, shows⟩ := shown click (mem_ofToken.mp mem).1
        obtain ⟨payload', sent', shows'⟩ := shown click' (mem_ofToken.mp mem').1
        exact shown_alike shows shows' (one payload sent payload' sent') event
      refine ⟨tally, s'', asked, ?_⟩
      constructor
      case total => exact total
      case total_le_sum => exact fun dimension => (sums dimension).1
      case sum_eq_iff => exact fun dimension => (sums dimension).2
      case device =>
        apply (sums .device).2.mpr
        intro click mem click' mem' event
        exact congrArg Device.text (alike click mem click' mem' event).1
      case referrer =>
        apply (sums .referrer).2.mpr
        intro click mem click' mem' event
        exact (alike click mem click' mem' event).2

/-! ### An event in two places -/

/-- A visit of the token `b`. -/
def wanderer : Visit := ⟨"e", "b", Bench.clock 0, "192.0.2.1", "", ""⟩

/-- An atlas that knows a place of it only when it is asked for the first time. -/
def fading : Nat → Except Fault Place
  | 0 => .ok ⟨some "USA", some "Boston"⟩
  | _ => .error (.unplaced "192.0.2.1" (.absent "192.0.2.1"))

/-- The rows of two deliveries of it. -/
def wandered : List Click :=
  [wanderer.placed ⟨some "USA", some "Boston"⟩ .unknown, wanderer.placed .nowhere .unknown]

/-- The two deliveries are stored as two rows, since the atlas knows the place only once. -/
theorem run_wanderer : (deliver [wanderer.payload, wanderer.payload]).run (shelf fading) ([], 0) =
    (.ok (wandered.map .ok), wandered, 2) := by
  simp only [deliver, Visit.process_payload_bind]
  rfl

/-- A visit that is delivered twice counts once in all and once along the device and the referrer,
whatever place it is found in. -/
theorem redelivered_visit_counted_once :
    ∃ tally s, (Statistics.tally .columns "b").run (shelf fading) (wandered, 2) = (.ok tally, s) ∧
      tally.total = 1 ∧ sumAlong tally .device = 1 ∧ sumAlong tally .referrer = 1 := by
  obtain ⟨outcomes, s', delivers, tells⟩ := parts_sum_iff_rows_agree (documented_shelf fading)
    (s := ([], 0)) rfl [wanderer.payload, wanderer.payload] (by
      intro payload sent payload' sent' _ _ _ _ _ _ _
      simp only [List.mem_cons, List.not_mem_nil, or_false, or_self] at sent sent'
      rw [sent, sent'])
  cases run_wanderer.symm.trans delivers
  obtain ⟨tally, s, asked, adds⟩ :=
    tells "b" ⟨wanderer.placed .nowhere .unknown, by decide, rfl⟩
  have one : tally.total = 1 := by
    rw [adds.total]
    rfl
  exact ⟨tally, s, asked, one, adds.device.trans one, adds.referrer.trans one⟩

/-- A visit with an event id is delivered twice and found in a city the first time only: it counts
once in all and twice along the cities. -/
theorem redelivered_visit_in_two_cities :
    Documented Eq (shelf fading) (fun s => (s.1 : Multiset Click)) ∧
      Record.document wanderer.payload = .ok wanderer.toJson ∧
      Visit.needsEvent wanderer.toJson = false ∧
      ∃ s, (deliver [wanderer.payload, wanderer.payload]).run (shelf fading) ([], 0) =
        (.ok (wandered.map .ok), s) ∧
        ∃ tally s', (Statistics.tally .columns "b").run (shelf fading) s = (.ok tally, s') ∧
          tally.total = 1 ∧ tally.byCity = [("Boston", 1), ("Unknown", 1)] ∧
          sumAlong tally .city ≠ tally.total := by
  refine ⟨documented_shelf fading, Visit.document_payload wanderer, rfl, _, run_wanderer, _, _, rfl,
    rfl, rfl, ?_⟩
  decide

end LinkShortener.ColumnStore
