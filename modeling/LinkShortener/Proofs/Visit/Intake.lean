import LinkShortener.Proofs.Routine.Protocol
import LinkShortener.Visit.Intake

/-!
Where the intake of a payload stands: it is read as a visit, the visit is placed, and the click
that it is then is stored as a row, unless the row is there already. `Takes` is the protocol of
the intake.

Main statement: the intake follows the protocol for every payload (`follows_process`). So a click
that it tries to store is always that of a visit that the payload reads as, and it succeeds only
when that click was stored or found to be stored.
-/

namespace LinkShortener.Visit

open Routine

/-- Where the intake of a payload stands. -/
inductive Progress
  /-- the payload is to be read -/
  | reading (payload : List UInt8)
  /-- the payload was read as a visit, whose place is looked up -/
  | placing (v : Visit)
  /-- the visit has become a click, which is to be stored -/
  | storing (click : Click)
  /-- the click was stored -/
  | stored (click : Click)
  /-- the click was refused because its event is stored already -/
  | repeated (click : Click)
  /-- something failed -/
  | failed
  deriving DecidableEq, Repr

/-- A payload brings a document, which reads as this with some event id and some time in the
place of absent ones. A document that has an event id is given none. -/
structure Brings (payload : List UInt8) (time : Moment) (read : Record.Checked Visit) : Prop where
  reads : ∃ document fresh, Record.document payload = .ok document ∧
    (needsEvent document = false → fresh = "") ∧ ofJson fresh time document = read

/-- Notes and meters of the intake. -/
inductive Noted : ProcessCall → Prop
  | log (entry : Log.Entry) : Noted (.log entry)
  | stored (backend : Backend) : Noted (.count (.clicksStored backend))
  | repeated : Noted (.count .clicksRepeated)

/-- A fault of the store that tells of a repeated click. -/
def tellsRepeated (fault : Fault) : Bool := fault.isDatabaseOutage && fault.isKeyConflict

/-- The protocol of the intake. -/
inductive Takes : Protocol Progress
  | note (p : Progress) (call : ProcessCall) (noted : Noted call) (a : call.Reply) :
      Takes p (.process call) (.ok a) p
  | unnoted (p : Progress) (call : ProcessCall) (noted : Noted call) (fault : Fault) :
      Takes p (.process call) (.error fault) .failed
  | name (payload : List UInt8) (event : String) :
      Takes (.reading payload) (.process .freshEvent) (.ok event) (.reading payload)
  | unnamed (payload : List UInt8) (fault : Fault) :
      Takes (.reading payload) (.process .freshEvent) (.error fault) .failed
  | read (payload : List UInt8) (time : Moment) (v : Visit)
      (brings : Brings payload time (.ok v)) :
      Takes (.reading payload) (.process .now) (.ok time) (.placing v)
  | refuse (payload : List UInt8) (time : Moment) (flaws : List Record.Flaw)
      (brings : Brings payload time (.error flaws)) :
      Takes (.reading payload) (.process .now) (.ok time) .failed
  | untimed (payload : List UInt8) (fault : Fault) :
      Takes (.reading payload) (.process .now) (.error fault) .failed
  | place (v : Visit) (place : Place) (device : Device)
      (classified : Agent.classify v.agent = .ok device) :
      Takes (.placing v) (.atlas (.locate v.address)) (.ok place)
        (.storing (v.placed place device))
  | unplace (v : Visit) (fault : Fault) (device : Device)
      (absorbed : fault.unplaced?.isSome = true)
      (classified : Agent.classify v.agent = .ok device) :
      Takes (.placing v) (.atlas (.locate v.address)) (.error fault)
        (.storing (v.placed .nowhere device))
  | unlocated (v : Visit) (fault : Fault) (passes : ¬ fault.unplaced?.isSome = true) :
      Takes (.placing v) (.atlas (.locate v.address)) (.error fault) .failed
  | unclassified (v : Visit) (reply : Except Fault Place) (flaw : Numeral.Oversized)
      (unclassified : Agent.classify v.agent = .error flaw) :
      Takes (.placing v) (.atlas (.locate v.address)) reply .failed
  | connect (click : Click) :
      Takes (.storing click) (.database .connect) (.ok ()) (.storing click)
  | conflicted (click : Click) (fault : Fault) (repeats : tellsRepeated fault = true) :
      Takes (.storing click) (.database .connect) (.error fault) (.repeated click)
  | unconnected (click : Click) (fault : Fault) (fails : tellsRepeated fault = false) :
      Takes (.storing click) (.database .connect) (.error fault) .failed
  | insert (click : Click) :
      Takes (.storing click) (.database (.insertClick click)) (.ok ()) (.stored click)
  | skip (click : Click) (fault : Fault) (repeats : tellsRepeated fault = true) :
      Takes (.storing click) (.database (.insertClick click)) (.error fault) (.repeated click)
  | uninserted (click : Click) (fault : Fault) (fails : tellsRepeated fault = false) :
      Takes (.storing click) (.database (.insertClick click)) (.error fault) .failed

/-- How the intake ends: with the click that is stored now, or with a failure. A payload that is
no document fails without a call. -/
def Ends : Progress → Except Fault Click → Prop
  | .stored click, .ok answer | .repeated click, .ok answer => answer = click
  | .reading payload, .error _ => ∃ flaws, Record.document payload = .error flaws
  | .failed, .error _ => True
  | _, _ => False

section Parts

variable {α : Type} {post : Progress → Except Fault α → Prop} {p : Progress}

theorem follows_note {call : ProcessCall} {post : Progress → Except Fault call.Reply → Prop}
    (noted : Noted call) (fails : ∀ fault, post .failed (.error fault))
    (holds : ∀ a, post p (.ok a)) : Follows Takes post (Routine.call (.process call)) p := by
  refine (follows_call (c := .process call)).mpr fun reply => ?_
  cases reply with
  | ok a => exact ⟨p, .note p call noted a, holds a⟩
  | error fault => exact ⟨_, .unnoted p call noted fault, fails fault⟩

theorem follows_note_bind {call : ProcessCall} {f : call.Reply → Routine α} (noted : Noted call)
    (fails : ∀ fault, post .failed (.error fault))
    (rest : ∀ a, Follows Takes post (f a) p) :
    Follows Takes post (Routine.call (.process call) >>= f) p :=
  follows_bind.mpr (follows_note noted (fun fault => follows_fail.mpr (fails fault)) rest)

/-- A document is read at a time, with the event id that stands for an absent one. -/
theorem follows_read {post : Progress → Except Fault (Record.Checked Visit) → Prop}
    {payload : List UInt8} {document : Json.Value} {fresh : String}
    (documented : Record.document payload = .ok document)
    (kept : needsEvent document = false → fresh = "")
    (fails : ∀ fault, post .failed (.error fault))
    (refuses : ∀ flaws, post .failed (.ok (.error flaws)))
    (reads : ∀ v, post (.placing v) (.ok (.ok v))) :
    Follows Takes post (now >>= fun time => pure (ofJson fresh time document))
      (.reading payload) := by
  refine follows_call_bind.mpr fun reply => ?_
  cases reply with
  | error fault => exact ⟨_, .untimed payload fault, follows_fail.mpr (fails fault)⟩
  | ok time =>
      rw [ofOutcome_ok, bind_done]
      cases read : ofJson fresh time document with
      | ok v =>
          exact ⟨_, .read payload time v ⟨document, fresh, documented, kept, read⟩,
            follows_done.mpr (reads v)⟩
      | error flaws =>
          exact ⟨_, .refuse payload time flaws ⟨document, fresh, documented, kept, read⟩,
            follows_done.mpr (refuses flaws)⟩

theorem follows_ofDocument {post : Progress → Except Fault (Record.Checked Visit) → Prop}
    {payload : List UInt8} {document : Json.Value}
    (documented : Record.document payload = .ok document)
    (fails : ∀ fault, post .failed (.error fault))
    (refuses : ∀ flaws, post .failed (.ok (.error flaws)))
    (reads : ∀ v, post (.placing v) (.ok (.ok v))) :
    Follows Takes post (ofDocument document) (.reading payload) := by
  unfold ofDocument
  split
  · rename_i needs
    refine follows_call_bind.mpr fun reply => ?_
    cases reply with
    | error fault => exact ⟨_, .unnamed payload fault, follows_fail.mpr (fails fault)⟩
    | ok fresh =>
        refine ⟨_, .name payload fresh, follows_read documented ?_ fails refuses reads⟩
        exact fun same => absurd (needs.symm.trans same) (by decide)
  · exact follows_read documented (fun _ => rfl) fails refuses reads

theorem follows_receive {post : Progress → Except Fault Visit → Prop} {payload : List UInt8}
    (fails : ∀ fault, post .failed (.error fault))
    (undocumented : ∀ flaws fault, Record.document payload = .error flaws →
      post (.reading payload) (.error fault))
    (reads : ∀ v, post (.placing v) (.ok v)) :
    Follows Takes post (receive payload) (.reading payload) := by
  unfold receive
  split
  · rename_i flaws flawed
    exact follows_fail.mpr (undocumented flaws _ flawed)
  · rename_i document documented
    rw [follows_bind]
    refine follows_ofDocument documented (fun fault => ?_) (fun flaws => ?_) (fun v => ?_)
    · exact follows_fail.mpr (fails fault)
    · exact follows_fail.mpr (fails _)
    · exact follows_done.mpr (reads v)

/-- That an address has no place is noted, and the visit comes from nowhere. -/
theorem follows_noteUnplaced {post : Progress → Except Fault Place → Prop} {v : Visit}
    {fault : Fault} {p : Progress} (fails : ∀ fault, post .failed (.error fault))
    (nowhere : post p (.ok .nowhere)) : Follows Takes post (v.noteUnplaced fault) p :=
  follows_note_bind (.log _) fails fun _ => follows_done.mpr nowhere

/-- A visit that has a place becomes a click, if its device can be told. -/
theorem follows_enrich {post : Progress → Except Fault Click → Prop} {v : Visit}
    (fails : ∀ fault, post .failed (.error fault))
    (clicks : ∀ click, post (.storing click) (.ok click)) :
    Follows Takes post v.enrich (.placing v) := by
  unfold enrich
  rw [follows_bind, follows_rescue]
  refine follows_call.mpr fun reply => ?_
  cases classified : Agent.classify v.agent with
  | error flaw =>
      refine ⟨_, .unclassified v reply flaw classified, ?_⟩
      cases reply with
      | ok place => exact follows_done.mpr (follows_fail.mpr (fails _))
      | error fault =>
          rw [ofOutcome_error, rescue_fail]
          split
          · exact follows_noteUnplaced (fun fault => follows_fail.mpr (fails fault))
              (follows_fail.mpr (fails _))
          · exact follows_fail.mpr (follows_fail.mpr (fails fault))
  | ok device =>
      cases reply with
      | ok place =>
          exact ⟨_, .place v place device classified,
            follows_done.mpr (follows_done.mpr (clicks _))⟩
      | error fault =>
          rw [ofOutcome_error, rescue_fail]
          split
          · rename_i absorbed
            refine ⟨_, .unplace v fault device absorbed classified, ?_⟩
            exact follows_noteUnplaced (fun fault => follows_fail.mpr (fails fault))
              (follows_done.mpr (clicks _))
          · rename_i passes
            exact ⟨_, .unlocated v fault passes, follows_fail.mpr (follows_fail.mpr (fails fault))⟩

/-- A click is stored as a row, or found to be there. -/
theorem follows_addRow {post : Progress → Except Fault Bool → Prop} {click : Click}
    (fails : ∀ fault, post .failed (.error fault)) (stored : post (.stored click) (.ok true))
    (repeated : post (.repeated click) (.ok false)) :
    Follows Takes post (ClickStore.addRow click) (.storing click) := by
  -- What a fault of the database leads to is the same in both calls of the session.
  have handled (c : Call) (fault : Fault)
      (skip : tellsRepeated fault = true →
        Takes (.storing click) c (.error fault) (.repeated click))
      (stop : tellsRepeated fault = false → Takes (.storing click) c (.error fault) .failed) :
      ∃ q, Takes (.storing click) c (.error fault) q ∧
        Follows Takes post (Routine.rescue (.fail fault) Fault.isDatabaseOutage fun fault =>
          if fault.isKeyConflict then do
            ClickStore.noteRepeated click
            return false
          else .fail (.clicks (.store click.event))) q := by
    cases repeats : tellsRepeated fault with
    | true =>
        obtain ⟨outage, conflict⟩ := Bool.and_eq_true_iff.mp repeats
        refine ⟨_, skip repeats, ?_⟩
        rw [rescue_fail, if_pos outage, if_pos conflict, ClickStore.noteRepeated, bind_assoc]
        refine follows_note_bind .repeated fails fun _ => ?_
        exact follows_note_bind (.log _) fails fun _ => follows_done.mpr repeated
    | false =>
        refine ⟨_, stop repeats, ?_⟩
        rw [rescue_fail]
        split
        · rename_i outage
          rw [tellsRepeated, outage, Bool.true_and] at repeats
          rw [if_neg (by simp [repeats])]
          exact follows_fail.mpr (fails _)
        · exact follows_fail.mpr (fails fault)
  unfold ClickStore.addRow
  rw [follows_rescue]
  refine follows_call_bind.mpr fun reply => ?_
  cases reply with
  | error fault =>
      obtain ⟨q, takes, rest⟩ :=
        handled _ fault (.conflicted click fault) (.unconnected click fault)
      exact ⟨q, takes, follows_fail.mpr rest⟩
  | ok a =>
      refine ⟨_, .connect click, follows_call_bind.mpr fun reply => ?_⟩
      cases reply with
      | ok a => exact ⟨_, .insert click, follows_done.mpr (follows_done.mpr stored)⟩
      | error fault =>
          obtain ⟨q, takes, rest⟩ := handled _ fault (.skip click fault) (.uninserted click fault)
          exact ⟨q, takes, follows_fail.mpr rest⟩

/-- The intake of a payload follows its protocol. -/
theorem follows_process (payload : List UInt8) :
    Follows Takes Ends (process .rows payload) (.reading payload) := by
  unfold process
  rw [follows_bind]
  refine follows_receive (fun fault => follows_fail.mpr trivial) ?_ fun v => ?_
  · exact fun flaws fault flawed => follows_fail.mpr ⟨flaws, flawed⟩
  rw [ofOutcome_ok, bind_done, follows_bind]
  refine follows_enrich (fun fault => follows_fail.mpr trivial) fun click => ?_
  have noted (p : Progress) (ends : Ends p (.ok click)) :
      Follows Takes Ends (Routine.log .debug .intake
        s!"Stored stats event {click.event} for token {click.token}" >>= fun _ => pure click) p :=
    follows_note_bind (.log _) (fun _ => trivial) fun _ => follows_done.mpr ends
  rw [ofOutcome_ok, bind_done, follows_bind, ClickStore.add, follows_bind]
  refine follows_addRow (fun fault => ?_) ?_ ?_
  · exact follows_fail.mpr (follows_fail.mpr trivial)
  · exact follows_note (.stored _) (fun fault => follows_fail.mpr trivial) fun _ =>
      noted (.stored click) rfl
  · exact follows_done.mpr (noted (.repeated click) rfl)

end Parts

end LinkShortener.Visit
