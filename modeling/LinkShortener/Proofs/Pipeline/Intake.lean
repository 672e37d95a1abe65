import LinkShortener.Proofs.Pipeline.Balance
import LinkShortener.Visit.Intake

/-!
What deliveries do for the pipeline. Until its click is added, a delivery is silent; adding the
click counts it as stored if a row was inserted, and as repeated if its event id was taken. So a
delivery counts one click if it comes out well, and none if it fails.

Main statement: `performs_delivery`.
-/

namespace LinkShortener.Pipeline

open Routine
open Feed (Made)

variable {fails : Call → Fault → Prop} {α β : Type}

/-- The process does not fail, the database and the bus fail with outages only, and looking an
address up is not broken off. -/
structure Orderly (fails : Call → Fault → Prop) : Prop where
  steady : Steady fails
  database : ∀ c fault, fails (.database c) fault → fault.isDatabaseOutage = true
  consumer : ∀ c fault, fails (.consumer c) fault → fault.isBusOutage = true
  atlas : ∀ c fault, fails (.atlas c) fault → fault ≠ .cancelled

/-! ### Reading and enriching -/

/-- Whether a fault breaks a routine off does not depend on what the routine is to come out with. -/
theorem unbroken_error {fault : Fault}
    (unbroken : (.error fault : Except Fault α) ≠ .error .cancelled) :
    (.error fault : Except Fault β) ≠ .error .cancelled :=
  fun same => unbroken (congrArg _ (Except.error.inj same))

/-- A routine makes silent calls only and is not broken off. -/
def Quiet (fails : Call → Fault → Prop) (r : Routine α) : Prop :=
  Performs fails (fun calls o => Silent calls ∧ o ≠ .error .cancelled) r

theorem quiet_done {a : α} : Quiet fails (.done a) := performs_done ⟨List.forall_mem_nil _, nofun⟩

theorem quiet_fail {fault : Fault} (other : fault ≠ .cancelled) :
    Quiet fails (.fail fault : Routine α) :=
  performs_fail ⟨List.forall_mem_nil _, fun same => other (Except.error.inj same)⟩

theorem quiet_process {c : ProcessCall} (steady : Steady fails)
    (silent : isSilent (.process c) = true) : Quiet fails (call (.process c)) :=
  performs_process steady fun _ => ⟨List.forall_mem_singleton.mpr silent, nofun⟩

theorem Quiet.bind {r : Routine α} {f : α → Routine β} (first : Quiet fails r)
    (rest : ∀ a, Quiet fails (f a)) : Quiet fails (r >>= f) := by
  refine performs_bind (Performs.mono first fun calls o ⟨silent, unbroken⟩ => ?_)
  cases o with
  | ok a => exact Performs.mono (rest a) fun later o ⟨silent', unbroken'⟩ =>
      ⟨Silent.append silent silent', unbroken'⟩
  | error fault => exact performs_fail ⟨silent, unbroken_error unbroken⟩

/-- Reading a message is quiet. -/
theorem quiet_receive (steady : Steady fails) (payload : List UInt8) :
    Quiet fails (Visit.receive payload) := by
  unfold Visit.receive
  split
  · exact quiet_fail nofun
  · rename_i document _
    refine Quiet.bind ?_ fun checked => ?_
    · have dated (fresh : String) : Quiet fails
          (now >>= fun time => .done (Visit.ofJson fresh time document)) :=
        (quiet_process (c := .now) steady rfl).bind fun _ => quiet_done
      unfold Visit.ofDocument
      dsimp only
      split
      · exact (quiet_process (c := .freshEvent) steady rfl).bind fun fresh => dated fresh
      · exact dated ""
    · split
      · exact quiet_fail nofun
      · exact quiet_done

/-- Enriching a visit is quiet. -/
theorem quiet_enrich (orderly : Orderly fails) (v : Visit) : Quiet fails v.enrich := by
  refine Quiet.bind (performs_rescue (performs_call fun reply expected => ?_)) fun place => ?_
  · have silent : Silent [⟨.atlas (.locate v.address), reply⟩] := List.forall_mem_singleton.mpr rfl
    cases reply with
    | ok place => exact performs_done ⟨silent, nofun⟩
    | error fault =>
        have other := orderly.atlas _ _ (expected fault rfl)
        rw [ofOutcome_error, rescue_fail]
        split
        · exact performs_process_bind (c := .log _) orderly.steady fun _ => performs_done
            ⟨List.all_eq_true.mp rfl, nofun⟩
        · exact performs_fail ⟨silent, fun same => other (Except.error.inj same)⟩
  · cases Agent.classify v.agent with
    | error flaw => exact quiet_fail nofun
    | ok device => exact quiet_done

/-! ### Storing -/

/-- A click that is added without a fault is counted once, as stored if a row was inserted and as
repeated otherwise. -/
theorem performs_add (orderly : Orderly fails) (click : Click) :
    Performs fails (fun calls o => Ran (ClickStore.add .rows click) calls o ∧
      Balances calls 0 0 o.isOk.toNat ∧ o ≠ .error .cancelled) (ClickStore.add .rows click) := by
  refine (performs_ran _).and ?_
  -- The database may fail at either of two calls, and what is done about it then is the same.
  have failed {calls : List Made} {fault : Fault} (outage : fault.isDatabaseOutage = true)
      (balances : Balances calls 0 0 0) :
      Performs fails (fun later o => Performs fails
          (fun last o' => Balances (last ++ (later ++ calls)) 0 0 o'.isOk.toNat ∧
            o' ≠ .error .cancelled)
          (ofOutcome o >>= fun new => if new then count (.clicksStored .rows) else pure ()))
        ((fail fault).rescue Fault.isDatabaseOutage fun fault =>
          if fault.isKeyConflict then do
            ClickStore.noteRepeated click
            return false
          else .fail (.clicks (.store click.event))) := by
    rw [rescue_fail, if_pos outage]
    split
    · have noted (entry : Log.Entry) : Balances [⟨.process (.log entry), .ok ()⟩,
          ⟨.process (.count .clicksRepeated), .ok ()⟩] 0 0 1 := balances_of_shown rfl
      unfold ClickStore.noteRepeated
      rw [bind_assoc]
      refine performs_process_bind (c := .count _) orderly.steady fun _ => ?_
      refine performs_process_bind (c := .log _) orderly.steady fun _ => performs_done ?_
      exact performs_done ⟨balances.append (noted _), nofun⟩
    · exact performs_fail (performs_fail ⟨balances, nofun⟩)
  change Performs fails _ (ClickStore.addRow click >>= fun new =>
    if new then count (.clicksStored .rows) else pure ())
  unfold ClickStore.addRow
  refine performs_bind (performs_rescue ?_)
  refine performs_call_bind (c := .database .connect) fun reply expected => ?_
  cases reply with
  | error fault =>
      refine performs_fail (failed (orderly.database _ _ (expected fault rfl)) ?_)
      exact balances_of_shown rfl
  | ok a =>
      refine performs_call_bind (c := .database (.insertClick click)) fun reply expected => ?_
      cases reply with
      | error fault =>
          refine performs_fail (failed (orderly.database _ _ (expected fault rfl)) ?_)
          exact balances_of_shown rfl
      | ok a =>
          refine performs_done (performs_done ?_)
          refine performs_process (c := .count _) orderly.steady fun _ => ?_
          exact ⟨balances_of_shown rfl, nofun⟩

/-- What a delivery does about its click: it adds it once if it comes out well, and else not at all
or in vain. -/
def Adds (calls : List Made) : Except Fault Click → Prop
  | .ok click => RunsOnce (ClickStore.add .rows click) (.ok ()) calls
  | .error _ => Silent calls ∨
      ∃ click fault, RunsOnce (ClickStore.add .rows click) (.error fault) calls

/-- A delivery that comes out well has added a click without a fault, and this is counted; any other
counts nothing. -/
theorem performs_delivery (orderly : Orderly fails) (payload : List UInt8) :
    Performs fails (fun calls o => Balances calls 0 0 o.isOk.toNat ∧ o ≠ .error .cancelled ∧
      Adds calls o) (Visit.process .rows payload) := by
  have parts : Visit.process .rows payload =
      (Visit.receive payload >>= Visit.enrich) >>= fun click => do
        ClickStore.add .rows click
        let event := click.event
        let token := click.token
        log .debug .intake s!"Stored stats event {event} for token {token}"
        return click := by
    rw [bind_assoc]
    rfl
  have enriched := (quiet_receive orderly.steady payload).bind fun v => quiet_enrich orderly v
  rw [parts]
  refine performs_bind (Performs.mono enriched fun calls o ⟨silent, unbroken⟩ => ?_)
  cases o with
  | error fault =>
      exact performs_fail ⟨balances_of_silent silent, unbroken_error unbroken, .inl silent⟩
  | ok click =>
      rw [ofOutcome_ok, bind_done]
      refine performs_bind ((performs_add orderly click).mono ?_)
      rintro run o ⟨ran, balances, unbroken'⟩
      have runs (after : List Made) (silent' : Silent after) :
          RunsOnce (ClickStore.add .rows click) o (after ++ run ++ calls) :=
        ⟨calls, run, after, rfl, silent, silent', ran⟩
      have balanced := balances.after (balances_of_silent silent)
      cases o with
      | error fault =>
          refine performs_fail ⟨balanced, unbroken_error unbroken', .inr ⟨click, fault, ?_⟩⟩
          exact runs [] (List.forall_mem_nil _)
      | ok a =>
          have noted (entry : Log.Entry) : Silent [⟨.process (.log entry), .ok ()⟩] :=
            List.forall_mem_singleton.mpr rfl
          refine performs_process_bind (c := .log _) orderly.steady fun _ => performs_done ?_
          refine ⟨?_, nofun, runs _ (noted _)⟩
          rw [List.append_assoc]
          exact balanced.append (balances_of_silent (noted _))

end LinkShortener.Pipeline
