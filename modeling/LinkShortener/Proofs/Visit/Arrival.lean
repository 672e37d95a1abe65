import LinkShortener.Proofs.Traffic.Machinery
import LinkShortener.Proofs.Visit.Wire

/-!
What the publisher sends is what the intake takes in. The publisher writes a visit as a text of
its own making, and the intake reads bytes of any origin; between the two lie the escapes of texts
with their pairs of surrogates, the forms of a time with or without fraction and offset, and the
default values that stand for absent members. The click that is stored for the message has all
that a click keeps of its visit.

Main statement: a visit arrives as it was published, in every field, and no click is stored for it
but one of this visit (`published_visits_arrive`).
-/

namespace LinkShortener.Visit

open Routine
open Bench (World)
open Traffic (Calm barring_of_calm perform_eq)

/-- The click keeps of a visit what it does not get from enrichment. -/
def Keeps (v : Visit) (click : Click) : Prop :=
  click = { click with event := v.event, token := v.token, time := v.time, referrer := v.referrer }

instance (v : Visit) (click : Click) : Decidable (v.Keeps click) :=
  inferInstanceAs (Decidable (click = _))

/-- A call that stores no click, or one of this visit. -/
def isOwn (v : Visit) : Call → Bool
  | .database (.insertClick click) | .columns (.insert click) => v.Keeps click
  | _ => true

variable {v : Visit} {click : Click}

/-- Wherever the visit came from and whatever the device was, the click is one of this visit. -/
theorem keeps_placed (v : Visit) (place : Place) (device : Device) :
    v.Keeps (v.placed place device) := rfl

/-- Enriching a visit keeps its event, token and moment in the click. -/
theorem only_enrich (v : Visit) :
    Only v.isOwn (fun o => ∀ click, o = .ok click → v.Keeps click) v.enrich := by
  have failed (fault : Fault) (click : Click) (came : Except.error fault = .ok click) :
      v.Keeps click := by cases came
  have located : OnlyCalls v.isOwn ((call (.atlas (.locate v.address))).rescue
      (fun fault => fault.unplaced?.isSome) v.noteUnplaced) := by
    apply Only.rescue
    · exact onlyCalls_call (c := .atlas _) rfl
    · intro fault
      exact (onlyCalls_call (c := .process (.log _)) rfl).bind fun _ => only_done trivial
  refine located.then failed fun place => ?_
  cases Agent.classify v.agent with
  | error flaw => exact only_fail (failed _)
  | ok device =>
      apply only_done
      rintro _ ⟨⟩
      exact keeps_placed v place device

/-- Storing a click that keeps the visit makes own calls only. -/
theorem onlyCalls_add (backend : Backend) (keeps : v.Keeps click) :
    OnlyCalls v.isOwn (ClickStore.add backend click) := by
  have meters (meter : Meter) : OnlyCalls v.isOwn (count meter) :=
    onlyCalls_call (c := .process (.count meter)) rfl
  cases backend with
  | rows =>
      have adds : OnlyCalls v.isOwn (ClickStore.addRow click) := by
        apply Only.rescue
        · refine (onlyCalls_call (c := .database .connect) rfl).bind fun _ => ?_
          refine Only.bind ?_ fun _ => only_done trivial
          exact onlyCalls_call (c := .database _) (decide_eq_true keeps)
        · intro fault
          split
          · refine Only.bind ?_ fun _ => only_done trivial
            exact (meters _).bind fun _ => onlyCalls_call (c := .process (.log _)) rfl
          · exact only_fail trivial
      refine adds.bind fun new => ?_
      split
      · exact meters _
      · exact only_done trivial
  | columns =>
      refine Only.bind ?_ fun _ => meters _
      apply Only.rescue
      · exact onlyCalls_call (c := .columns _) (decide_eq_true keeps)
      · exact fun fault => only_fail trivial

/-- The message of a visit is read, enriched and stored. -/
theorem process_payload_bind (backend : Backend) (v : Visit) :
    process backend v.payload = now >>= fun _ => v.enrich >>= fun click => do
      ClickStore.add backend click
      let event := click.event
      let token := click.token
      log .debug .intake s!"Stored stats event {event} for token {token}"
      return click := by
  simp only [process, receive_payload, bind_assoc, pure_bind]

/-- The message of a visit is stored as a click of this visit, if at all. -/
theorem only_process (backend : Backend) (v : Visit) :
    Only v.isOwn (fun o => ∀ click, o = .ok click → v.Keeps click)
      (process backend v.payload) := by
  have failed (fault : Fault) (click : Click) (came : Except.error fault = .ok click) :
      v.Keeps click := by cases came
  rw [process_payload_bind]
  refine Only.then (onlyCalls_call (c := .process .now) rfl) failed fun _ => ?_
  refine follows_bind.mpr (Follows.mono (fun _ o keeps => ?_) (only_enrich v))
  cases o with
  | error fault => exact only_fail (failed fault)
  | ok click =>
      refine (onlyCalls_add backend (keeps click rfl)).then failed fun _ => ?_
      refine Only.then (onlyCalls_call (c := .process (.log _)) rfl) failed fun _ => ?_
      apply only_done
      rintro _ ⟨⟩
      exact keeps click rfl

/-- A running publisher sends the message of the visit. -/
theorem run_publish (bus : Settings.Bus) (v : Visit) {w : World} (calm : Calm w)
    (publishes : w.memory.publishing = true) :
    ∃ w', w.run (Publisher.publish bus v) = (.ok (), w') ∧
      w'.sent = w.sent ++ [Publisher.message v] := by
  have sends : w.perform (.producer (.send bus.topic v.token (Publisher.message v))) =
      (.ok (), World.keep { w with sent := w.sent ++ [Publisher.message v] }
        (.producer (.send bus.topic v.token (Publisher.message v))) true) := by
    simp only [perform_eq, World.answer, World.producer, barring_of_calm calm]
    rfl
  have recollected : w.perform (.process .recollect) = (.ok w.memory, w) := rfl
  simp only [World.run, Publisher.publish, recollect, call, bind_ask, run, recollected, ofOutcome_ok,
    bind_done, publishes, if_true, Publisher.producer, Routine.rescue, outcome, sends]
  exact ⟨_, rfl, rfl⟩

/-- A visit arrives as it was published. The bus gets one message of it; the intake reads the bytes
of the message as the visit itself, at whatever time; and no click is stored for them but one with
the event, the token, the time and the referrer of the visit. -/
theorem published_visits_arrive (bus : Settings.Bus) (v : Visit) {w : World} (calm : Calm w)
    (publishes : w.memory.publishing = true) :
    ∃ message w', w.run (Publisher.publish bus v) = (.ok (), w') ∧
      w'.sent = w.sent ++ [message] ∧
      receive message.toUTF8.toList = (now >>= fun _ => pure v) ∧
      ∀ backend, Only v.isOwn (fun o => ∀ click, o = .ok click → v.Keeps click)
        (process backend message.toUTF8.toList) := by
  obtain ⟨w', ends, sent⟩ := run_publish bus v calm publishes
  exact ⟨_, w', ends, sent, receive_payload v, fun backend => only_process backend v⟩

/-- A visit whose texts hold quotes, a backslash, a line end, a control character and a sign beyond
the first plane, and whose time is to the microsecond and west of universal time. -/
def awkward : Visit where
  event := "e\"\\"
  token := "b\n\x01"
  time :=
    { Bench.newYear 1 (by decide) with
      time := ⟨23, 59, 59, 1⟩
      offset := some (-1439)
      inDay := by decide
      offsetInRange := by decide }
  address := "𝄞"
  agent := "\x7f"
  referrer := "é"

/-- The message that it is published as. -/
def awkwardMessage : String :=
  "\x7b\"event_id\": \"e\\\"\\\\\", \"url_token\": \"b\\n\\u0001\", " ++
    "\"timestamp\": \"0001-01-01T23:59:59.000001-23:59\", \"ip\": \"\\ud834\\udd1e\", " ++
    "\"user_agent\": \"\\u007f\", \"referrer\": \"\\u00e9\"\x7d"

theorem awkward_visit_arrives :
    let w : World := { memory := { publishing := true } }
    ∃ w', w.run (Publisher.publish {} awkward) = (.ok (), w') ∧ w'.sent = [awkwardMessage] ∧
      receive awkwardMessage.toUTF8.toList = (now >>= fun _ => pure awkward) := by
  have calm : Calm { memory := { publishing := true } } := rfl
  obtain ⟨message, w', ends, sent, arrives, -⟩ := published_visits_arrive {} awkward calm rfl
  have told : (World.run { memory := { publishing := true } }
      (Publisher.publish {} awkward)).2.sent = [awkwardMessage] := by
    decide +kernel
  rw [ends] at told
  cases told.symm.trans sent
  exact ⟨w', ends, told, arrives⟩

end LinkShortener.Visit
