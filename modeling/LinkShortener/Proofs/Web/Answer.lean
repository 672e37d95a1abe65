import LinkShortener.Proofs.Failure.Outcome
import LinkShortener.Proofs.Web.Route
import LinkShortener.Web.Service

/-!
How requests are answered when any call may fail. The response is decided before anything is done
after it, and it tells the outcome of the operation that the request asks for: a value by the
response of its route, a fault by its family.

Main statements: serving a request ends in a response, whatever is done after it (`run_serve`),
and each route of the directory answers with what came of its operation (`yields_redirect`,
`yields_update`, `yields_delete`, `yields_shorten`).
-/

namespace LinkShortener.Web

open Routine Failure
open Bench (World)
open Traffic (Calm)

variable {fates : Fates} {k : Contents} {α : Type}

/-! ### Responses -/

/-- The answer that tells a fault. Known faults have responses; the others break the request
down. -/
def reported (fault : Fault) : Except Fault Answer :=
  if isKnown fault then
    .ok (.plain (if statusOf fault < 500 then .ofDetail (statusOf fault) fault.message
      else .ofDetail 500 "Internal server error"))
  else .error fault

/-- An answer that tells what came of an operation, a value as it is to be answered. -/
def Tells (answers : α → Answer → Prop) : Except Fault α → Except Fault Answer → Prop
  | .ok a, o => ∃ answer, o = .ok answer ∧ answers a answer
  | .error fault, o => o = reported fault

/-- Values are answered by their responses, and nothing is done after that. -/
def Plainly (respond : α → Response) (a : α) (answer : Answer) : Prop :=
  answer = .plain (respond a)

/-- An address is answered by sending the caller there. -/
def Sends (url : String) (answer : Answer) : Prop := answer.response = .redirect url

def responded : Except Fault Answer → Response
  | .ok answer => answer.response
  | .error _ => .breakdown

def shared (r : Request) : Except Fault Answer → Response
  | .ok answer => Sharing.share r answer.response
  | .error _ => .breakdown

theorem status_shared (r : Request) (o : Except Fault Answer) :
    (shared r o).status = (responded o).status := by
  cases o with
  | error fault => rfl
  | ok answer =>
      simp only [shared, responded, Sharing.share]
      split <;> rfl

theorem body_shared (r : Request) (o : Except Fault Answer) :
    (shared r o).body = (responded o).body := by
  cases o with
  | error fault => rfl
  | ok answer =>
      simp only [shared, responded, Sharing.share]
      split <;> rfl

/-- Sharing sends nobody elsewhere. -/
theorem location_shared (r : Request) (o : Except Fault Answer) :
    (shared r o).headers.lookup "location" = (responded o).headers.lookup "location" := by
  cases o with
  | error fault => rfl
  | ok answer =>
      simp only [shared, responded, Sharing.share]
      split
      · rename_i origin _
        rw [Response.adding, List.lookup_append,
          show (Sharing.leave origin).lookup "location" = none from rfl, Option.or_none]
      · rfl

theorem status_reported (fault : Fault) :
    (responded (reported fault)).status = statusOf fault := by
  unfold reported isKnown statusOf
  cases fault.family <;> rfl

/-- Nothing is done after a fault is told, which sends nobody elsewhere. -/
theorem plain_of_reported {fault : Fault} {answer : Answer} (told : reported fault = .ok answer) :
    answer.after = .done () ∧ answer.response.headers.lookup "location" = none := by
  unfold reported at told
  split at told
  · cases told
    refine ⟨rfl, ?_⟩
    split <;> rfl
  · cases told

/-- An address that is refused is answered by 400. -/
theorem statusOf_check {url : String} {fault : Fault} (refused : Url.check url = .error fault) :
    statusOf fault = 400 := by
  unfold Url.check at refused
  split at refused
  · cases refused
    rfl
  · split at refused
    · cases refused
      rfl
    · split at refused
      · cases refused
        rfl
      · split at refused
        · cases refused
          rfl
        · cases refused

/-- An insertion that the database fails is answered by 500. -/
theorem statusOf_insertFault {id : Int} {token : String} {fault : Fault}
    (outage : fault.isDatabaseOutage = true) : statusOf (insertFault id token fault) = 500 := by
  rw [insertFault, if_pos outage]
  split <;> rfl

/-! ### Serving -/

/-- Serving a request ends in the response of its answer, whatever is done after it. What is done
after it starts from where the answer left the machinery. -/
theorem run_serve {σ : Type} (perform : Performer σ) (settings : Settings) {r : Request}
    (direct : Sharing.preflight? r = none) (s : σ) :
    ∃ x s', (serve settings r).run perform s = (.ok x, s') ∧
      x.response = shared r ((answer settings r).run perform s).1 ∧
      ((∀ a, ((answer settings r).run perform s).1 = .ok a → a.after = .done ()) →
        s' = ((answer settings r).run perform s).2) := by
  unfold serve
  rw [direct]
  simp only []
  rw [run_bind, run_outcome]
  cases came : ((answer settings r).run perform s).1 with
  | error fault => exact ⟨_, _, rfl, rfl, fun _ => rfl⟩
  | ok answer =>
      simp only [ofOutcome_ok, bind_done]
      rw [run_bind, run_outcome]
      cases ends : (answer.after.run perform ((Web.answer settings r).run perform s).2).1 with
      | ok a =>
          refine ⟨_, _, rfl, rfl, fun idle => ?_⟩
          rw [idle answer rfl]
          rfl
      | error fault =>
          refine ⟨_, _, rfl, rfl, fun idle => ?_⟩
          rw [idle answer rfl] at ends
          cases ends

/-- What a request is answered with is what it is served with. -/
theorem served {w : World} {settings : Settings} {r : Request}
    {post : Except Fault Answer → Contents → Prop} (direct : Sharing.preflight? r = none)
    (calm : Calm w) (yields : Yields fates (answer settings r) (contents w) post) :
    ∃ x w' o k', (serve settings r).run (undergo fates) w = (.ok x, w') ∧ post o k' ∧
      x.response = shared r o ∧
      ((∀ a, o = .ok a → a.after = .done ()) → Calm w' ∧ contents w' = k') := by
  obtain ⟨calm', holds⟩ := yields w calm rfl
  obtain ⟨x, w', ends, response, idle⟩ := run_serve (undergo fates) settings direct w
  refine ⟨x, w', _, _, ends, holds, response, fun plain => ?_⟩
  rw [idle plain]
  exact ⟨calm', rfl⟩

theorem direct_of_method {r : Request} (method : r.method ≠ "OPTIONS") :
    Sharing.preflight? r = none := by
  unfold Sharing.preflight?
  split
  · rw [if_neg (by simpa using method)]
  · rfl

/-- A request without headers and body. -/
def bare (method path : String) : Request := ⟨method, path, none, [], none, []⟩

/-! ### Answers -/

/-- Reporting a known fault answers with it and keeps the contents. -/
theorem yields_report (operation : String) (fault : Fault) (known : isKnown fault = true) :
    Yields fates (report operation fault) k fun o k' => o = reported fault ∧ k' = k := by
  unfold report reported
  rw [if_pos known]
  split
  · exact yields_process_bind (c := .log _) rfl fun _ => yields_done ⟨rfl, rfl⟩
  · exact yields_process_bind (c := .log _) rfl fun _ => yields_done ⟨rfl, rfl⟩

/-- An operation is answered with what came of it. -/
theorem yields_reporting {mid : Except Fault α → Contents → Prop} {body : Routine α}
    {operation : String} {next : α → Routine Answer} {answers : α → Answer → Prop}
    (first : Yields fates body k mid)
    (rest : ∀ a k', Yields fates (next a) k' fun o k'' => k'' = k' ∧
      ∃ answer, o = .ok answer ∧ answers a answer) :
    Yields fates (reporting operation body next) k fun o k' =>
      ∃ o', mid o' k' ∧ Tells answers o' o := by
  unfold reporting
  have told : Yields fates body.outcome k fun o k' => ∃ o', o = .ok o' ∧ mid o' k' :=
    Yields.outcome (first.mono fun o k' holds => ⟨o, rfl, holds⟩)
  refine told.bind ?_
  rintro _ k' ⟨o', rfl, holds⟩
  rw [ofOutcome_ok, bind_done]
  cases o' with
  | ok a =>
      refine (rest a k').mono ?_
      rintro o _ ⟨rfl, answered⟩
      exact ⟨.ok a, holds, answered⟩
  | error fault =>
      simp only []
      split
      · rename_i known
        refine (yields_report operation fault known).mono ?_
        rintro _ _ ⟨rfl, rfl⟩
        exact ⟨.error fault, holds, rfl⟩
      · rename_i foreign
        refine yields_fail ⟨.error fault, holds, ?_⟩
        change _ = reported fault
        rw [reported, if_neg foreign]

variable {settings : Settings} {r : Request} {t : String}

theorem toList_path (path : r.path = "/" ++ t) : r.path.toList = '/' :: t.toList := by
  rw [path, String.toList_append]
  rfl

/-- A single segment that is read is redirected. -/
theorem answer_get (segment : Route.IsSegment t) (clear : ¬ Route.Shadowed t)
    (method : r.method = "GET") (path : r.path = "/" ++ t) :
    answer settings r = answerOn settings r .redirect t := by
  unfold answer
  rw [method, toList_path path, Route.find_get segment clear]

theorem answer_put (segment : Route.IsSegment t) (method : r.method = "PUT")
    (path : r.path = "/" ++ t) : answer settings r = update settings r t := by
  unfold answer
  rw [method, toList_path path, Route.find_put segment]
  rfl

theorem answer_delete (segment : Route.IsSegment t) (method : r.method = "DELETE")
    (path : r.path = "/" ++ t) : answer settings r = delete settings t := by
  unfold answer
  rw [method, toList_path path, Route.find_delete segment]
  rfl

theorem answer_post (method : r.method = "POST") (path : r.path = "/shorten") :
    answer settings r = shorten settings r := by
  unfold answer
  rw [method, path, show Route.find "POST" "/shorten".toList = .found .shorten "" from by decide]
  rfl

/-- A redirect tells what came of resolving its token. -/
theorem yields_redirect (caller : Caller) :
    Yields fates (redirect settings caller t) k fun o k' =>
      ∃ o', Resolves fates settings.keyValue t k o' k' ∧ Tells Sends o' o := by
  refine yields_reporting (yields_resolve t) fun url k' => ?_
  unfold visit
  rw [bind_assoc]
  refine yields_process_bind (c := .freshEvent) rfl fun event => ?_
  rw [bind_assoc]
  refine yields_now_bind ?_
  exact yields_process_bind (c := .log _) rfl fun _ => yields_done ⟨rfl, _, rfl, rfl⟩

theorem yields_answer_redirect : Yields fates (answerOn settings r .redirect t) k fun o k' =>
    ∃ o', Resolves fates settings.keyValue t k o' k' ∧ Tells Sends o' o := by
  change Yields _ (caller r >>= fun caller => redirect settings caller t) _ _
  unfold caller
  rw [bind_assoc]
  exact yields_process_bind (c := .freshRequest) rfl fun name => yields_redirect _

/-- A deletion tells what came of it. -/
theorem yields_delete : Yields fates (delete settings t) k fun o k' =>
    ∃ o', Deletes fates settings.keyValue t k o' k' ∧ Tells (Plainly fun _ => .empty 204) o' o := by
  refine yields_process_bind (c := .log _) rfl fun _ => ?_
  refine yields_reporting (Failure.yields_delete t) fun a k' => ?_
  exact yields_done ⟨rfl, _, rfl, rfl⟩

/-- An update tells what came of it. -/
theorem yields_update {wanted : LinkRequest} (asked : Payload.linkRequest r = .ok wanted) :
    Yields fates (update settings r t) k fun o k' =>
      ∃ o', Updates fates settings.keyValue t wanted.url k o' k' ∧
        Tells (Plainly fun link => .ofRecord 200 link.toJson) o' o := by
  unfold update
  rw [asked]
  refine yields_process_bind (c := .log _) rfl fun _ => ?_
  refine yields_reporting (Failure.yields_update t wanted.url) fun link k' => ?_
  exact yields_done ⟨rfl, _, rfl, rfl⟩

/-- A shortening tells what came of it. -/
theorem yields_shorten {wanted : LinkRequest} (asked : Payload.linkRequest r = .ok wanted) :
    Yields fates (shorten settings r) k fun o k' =>
      ∃ o', Shortens fates settings.keyValue wanted.url k o' k' ∧
        Tells (Plainly fun link => .ofRecord 201 link.toJson) o' o := by
  unfold shorten
  rw [asked]
  refine yields_process_bind (c := .log _) rfl fun _ => ?_
  refine yields_reporting (Failure.yields_shorten wanted.url) fun link k' => ?_
  exact yields_process_bind (c := .log _) rfl fun _ => yields_done ⟨rfl, _, rfl, rfl⟩

end LinkShortener.Web
