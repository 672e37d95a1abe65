import LinkShortener.Proofs.Record.Field
import LinkShortener.Proofs.Visit.Intake
import LinkShortener.Visit.Publisher

/-!
The message that a visit is published as brings that visit and no other, whatever texts the visit
holds and whatever the time is when the message is read.

Main statements: `document_payload`, `brings_payload_iff`, `process_payload`.
-/

namespace LinkShortener.Visit

/-- The bytes of the message that a visit is published as. -/
def payload (v : Visit) : List UInt8 := (Publisher.message v).toUTF8.toList

/-- The message of a visit is the document of its record. -/
theorem document_payload (v : Visit) : Record.document v.payload = .ok v.toJson := by
  have texts : ∀ m ∈ [("event_id", Json.Value.text v.event), ("url_token", .text v.token),
      ("timestamp", .text v.time.text), ("ip", .text v.address), ("user_agent", .text v.agent),
      ("referrer", .text v.referrer)], Json.Reads .record 0 m.2 := by
    simp only [List.forall_mem_cons, Json.reads_text, List.not_mem_nil, false_imp_iff,
      implies_true, and_self]
  have read := Json.readBytes_write (Json.reads_object texts) (by decide)
  rw [Record.document, payload, Publisher.message, toJson, read]

/-- The record of a visit is read as the visit, at any time. -/
theorem ofJson_toJson (v : Visit) (fresh : String) (time : Moment) :
    ofJson fresh time v.toJson = .ok v := by
  have members : Record.members v.toJson = .ok _ := rfl
  rw [ofJson, members]
  simp only [bind, Except.bind]
  rw [Record.optional_of_member (a := v.event) rfl rfl,
    Record.required_of_member (a := v.token) rfl rfl,
    Record.optional_of_member (a := v.time) rfl (Record.moment_text v.time),
    Record.optional_of_member (a := v.address) rfl rfl,
    Record.optional_of_member (a := v.agent) rfl rfl,
    Record.optional_of_member (a := v.referrer) rfl rfl]
  rfl

/-- The payload of a visit brings that visit. -/
theorem brings_payload_iff (v : Visit) {time : Moment} {read : Record.Checked Visit} :
    Brings v.payload time read ↔ read = .ok v := by
  constructor
  · rintro ⟨document, fresh, documented, -, rfl⟩
    cases (document_payload v).symm.trans documented
    exact ofJson_toJson v fresh time
  · rintro rfl
    exact ⟨_, "", document_payload v, fun _ => rfl, ofJson_toJson v "" time⟩

/-- The message of a visit is taken in as the visit. -/
theorem receive_payload (v : Visit) :
    receive v.payload = Routine.now >>= fun _ => pure v := by
  rw [receive, document_payload]
  change (Routine.now >>= fun time => pure (ofJson "" time v.toJson)) >>= _ = _
  simp only [ofJson_toJson, bind_assoc, pure_bind]

/-- What is done with a visit once it was read. -/
def takeIn (v : Visit) : Routine Click := do
  let click ← v.enrich
  ClickStore.add .rows click
  let event := click.event
  let token := click.token
  Routine.log .debug .intake s!"Stored stats event {event} for token {token}"
  return click

/-- Processing the payload of a visit takes the visit in. -/
theorem process_payload (v : Visit) :
    process .rows v.payload = Routine.now >>= fun _ => v.takeIn := by
  simp only [process, receive_payload, bind_assoc, pure_bind]
  rfl

end LinkShortener.Visit
