import LinkShortener.Proofs.Link.Phase
import LinkShortener.Proofs.Visit.Wire
import LinkShortener.Web.Service

/-!
What a redirect publishes: at most one message, that of a visit of its token with the event id
that it was given. `Publishes` is the protocol of a redirect as far as visits go.

Main statement: a request on the route of redirects follows the protocol (`follows_serve`).
-/

namespace LinkShortener.Web

open Routine

/-- How far a redirect is with its visit. -/
inductive Publishing
  /-- the visit has no event id yet -/
  | unnamed
  /-- the visit has an event id -/
  | named (event : String)
  /-- the visit was sent to the bus, whether it has arrived or not -/
  | sent
  deriving DecidableEq, Repr

/-- A call that stores no click, sends nothing to the bus and asks for no event id. -/
def Mute : Call → Prop
  | .database (.insertClick _) | .producer (.send ..) | .process .freshEvent => False
  | _ => True

/-- The protocol of redirects of a token, as far as visits go. -/
inductive Publishes (token : String) : Protocol Publishing
  | mute (p : Publishing) (c : Call) (reply : Except Fault c.Reply) (mute : Mute c) :
      Publishes token p c reply p
  | name (event : String) :
      Publishes token .unnamed (.process .freshEvent) (.ok event) (.named event)
  | nameless (fault : Fault) :
      Publishes token .unnamed (.process .freshEvent) (.error fault) .unnamed
  | send (v : Visit) (topic : String) (reply : Except Fault Unit) (own : v.token = token) :
      Publishes token (.named v.event)
        (.producer (.send topic v.token (Publisher.message v))) reply .sent

section Parts

variable {token : String} {α : Type} {post : Publishing → Except Fault α → Prop}
  {p : Publishing}

/-- Failures are admitted everywhere. -/
def Lenient (post : Publishing → Except Fault α → Prop) : Prop :=
  ∀ q fault, post q (.error fault)

theorem follows_mute_bind {c : Call} {f : c.Reply → Routine α} (mute : Mute c)
    (lenient : Lenient post) (rest : ∀ a, Follows (Publishes token) post (f a) p) :
    Follows (Publishes token) post (call c >>= f) p := by
  refine follows_call_bind.mpr fun reply => ⟨p, .mute p c reply mute, ?_⟩
  cases reply with
  | ok a => exact rest a
  | error fault => exact follows_fail.mpr (lenient p fault)

theorem follows_mute {c : Call} {post : Publishing → Except Fault c.Reply → Prop} (mute : Mute c)
    (lenient : Lenient post) (rest : ∀ a, post p (.ok a)) :
    Follows (Publishes token) post (call c) p := by
  refine follows_call.mpr fun reply => ⟨p, .mute p c reply mute, ?_⟩
  cases reply with
  | ok a => exact rest a
  | error fault => exact lenient p fault

/-- The directory publishes nothing. -/
theorem mute_of_advances {s : Settings.KeyValue} {before after : Directory.Phase} {c : Call}
    {reply : Except Fault c.Reply} (advances : Directory.Advances s before c reply after) :
    Mute c := by
  cases advances with
  | noted p call incidental | unnoted p call incidental => cases incidental <;> trivial
  | _ => trivial

theorem follows_resolve {post : Publishing → Except Fault String → Prop}
    {s : Settings.KeyValue} (lenient : Lenient post) (rest : ∀ url, post p (.ok url)) :
    Follows (Publishes token) post (Directory.resolve s token) p := by
  refine ((Directory.follows_resolve token).embed (fun _ => p) fun _ c reply _ advances =>
    .mute p c reply (mute_of_advances advances)).mono fun q o ends => ?_
  obtain ⟨-, rfl, -⟩ := ends
  cases o with
  | ok url => exact rest url
  | error fault => exact lenient _ fault

/-- A visit is sent at most once. -/
theorem follows_publisher {post : Publishing → Except Fault Unit → Prop} {settings : Settings.Bus}
    {v : Visit} (own : v.token = token) (holds : ∀ q o, post q o) :
    Follows (Publishes token) post (Publisher.publish settings v) (.named v.event) := by
  have lenient : Lenient post := fun q fault => holds q _
  unfold Publisher.publish
  refine follows_mute_bind (c := .process .recollect) trivial lenient fun memory => ?_
  split
  · rw [follows_bind, follows_rescue]
    refine (follows_call (c := .producer _)).mpr fun reply => ?_
    refine ⟨.sent, .send v settings.topic reply own, ?_⟩
    cases reply with
    | ok a =>
        refine follows_done.mpr ?_
        exact follows_mute (c := .process (.count _)) trivial lenient fun _ => holds _ _
    | error fault =>
        rw [ofOutcome_error, rescue_fail]
        split
        · refine follows_mute_bind trivial (fun q fault => follows_fail.mpr (holds q _)) fun _ => ?_
          exact follows_fail.mpr (follows_fail.mpr (holds _ _))
        · exact follows_fail.mpr (follows_fail.mpr (holds _ _))
  · exact follows_mute_bind trivial lenient fun _ => follows_fail.mpr (holds _ _)

/-- A named visit is published under its event. -/
theorem follows_publish {settings : Settings} {v : Visit} (own : v.token = token) :
    Follows (Publishes token) (fun _ _ => True) (publish settings v) (.named v.event) := by
  unfold publish
  rw [follows_rescue]
  refine follows_publisher own fun q o => ?_
  cases o with
  | ok a => exact follows_done.mpr trivial
  | error fault =>
      rw [ofOutcome_error, rescue_fail]
      split
      · exact follows_mute (c := .process (.log _)) trivial (fun _ _ => trivial) fun _ => trivial
      · exact follows_fail.mpr trivial

/-- What is done after an answer may follow. -/
def Leads (token : String) (q : Publishing) (o : Except Fault Answer) : Prop :=
  ∀ answer, o = .ok answer →
    Follows (Publishes token) (fun _ _ => True) answer.after q

theorem lenient_leads : Lenient (Leads token) := fun _ _ _ failed => by cases failed

theorem leads_plain (q : Publishing) (response : Response) :
    Leads token q (.ok (.plain response)) := by
  rintro answer ⟨⟩
  exact follows_done.mpr trivial

theorem follows_report {operation : String} {fault : Fault} :
    Follows (Publishes token) (Leads token) (report operation fault) p := by
  unfold report
  split <;>
    exact follows_mute_bind trivial lenient_leads fun _ => follows_done.mpr (leads_plain _ _)

/-- A redirect names its visit after it has resolved the token, and sends it after its answer. -/
theorem follows_redirect {settings : Settings} {caller : Caller} :
    Follows (Publishes token) (Leads token) (redirect settings caller token) .unnamed := by
  unfold redirect reporting
  rw [follows_bind, follows_outcome]
  refine follows_resolve (fun q fault => ?_) fun url => ?_
  · change Follows _ _ (if isKnown fault then report "redirect" fault else .fail fault) q
    split
    · exact follows_report
    · exact follows_fail.mpr (lenient_leads q fault)
  · change Follows _ _ (visit caller token >>= _) _
    unfold visit
    rw [bind_assoc, freshEvent, follows_call_bind]
    intro reply
    cases reply with
    | error fault => exact ⟨_, .nameless fault, follows_fail.mpr (lenient_leads _ fault)⟩
    | ok event =>
        refine ⟨_, .name event, ?_⟩
        rw [ofOutcome_ok, bind_done, bind_assoc]
        refine follows_mute_bind (c := .process .now) trivial lenient_leads fun time => ?_
        refine follows_mute_bind trivial lenient_leads fun _ => ?_
        refine follows_done.mpr ?_
        rintro answer ⟨⟩
        exact follows_publish (v := ⟨event, token, time, _, _, _⟩) rfl

/-- A request on the route of redirects publishes at most one visit of its token. -/
theorem follows_serve {settings : Settings} {r : Request}
    (route : Route.find r.method r.path.toList = .found .redirect token) :
    Follows (Publishes token) (fun _ _ => True) (serve settings r) .unnamed := by
  have answers : Follows (Publishes token) (Leads token) (answer settings r) .unnamed := by
    rw [answer, route]
    change Follows _ _ ((caller r) >>= fun caller => redirect settings caller token) _
    unfold caller
    rw [bind_assoc]
    exact follows_mute_bind (c := .process .freshRequest) trivial lenient_leads fun _ =>
      follows_redirect
  unfold serve
  split
  · exact follows_done.mpr trivial
  · rw [follows_bind, follows_outcome]
    refine answers.mono fun q o leads => ?_
    cases o with
    | error fault => exact follows_done.mpr trivial
    | ok answer =>
        change Follows _ _ (answer.after.outcome >>= _) q
        rw [follows_bind, follows_outcome]
        refine (leads answer rfl).mono fun q o _ => ?_
        cases o <;> exact follows_done.mpr trivial

end Parts

end LinkShortener.Web
