import LinkShortener.Proofs.Failure.Fate
import LinkShortener.Web.Service

/-!
Requests that are answered by reading. The health report and the statistics ask the stores and
change nothing, and so does whatever turns a request down before its operation has begun. A page is
shown as the process has it. The other requests go to one of the four operations of the directory.

Main statement: a request is answered by quiet calls after which nothing is done, or by a page, or
it goes to an operation of the directory (`handles_answer`).
-/

namespace LinkShortener.Web

open Routine
open Failure (isQuiet)

variable {α : Type}

/-- Nothing is done after the answer. -/
def Concludes (o : Except Fault Answer) : Prop := ∀ answer, o = .ok answer → answer.after = .done ()

theorem concludes_plain (response : Response) : Concludes (.ok (.plain response)) := by
  rintro answer ⟨⟩
  rfl

theorem concludes_error (fault : Fault) : Concludes (.error fault) := by
  rintro answer ⟨⟩

theorem onlyCalls_log (level : Log.Level) (source : Log.Source) (text : String) :
    OnlyCalls isQuiet (log level source text) := onlyCalls_call (c := .process (.log _)) rfl

theorem only_report (operation : String) (fault : Fault) :
    Only isQuiet Concludes (report operation fault) := by
  unfold report
  split
  · exact (onlyCalls_log _ _ _).then concludes_error fun _ => only_done (concludes_plain _)
  · exact (onlyCalls_log _ _ _).then concludes_error fun _ => only_done (concludes_plain _)

/-- An operation is told by quiet calls. -/
theorem only_reporting {kind : Call → Bool} {post : Except Fault Answer → Prop}
    {operation : String} {body : Routine α} {next : α → Routine Answer}
    (quiet : ∀ c, isQuiet c = true → kind c = true) (concludes : ∀ o, Concludes o → post o)
    (first : OnlyCalls kind body) (rest : ∀ a, Only kind post (next a)) :
    Only kind post (reporting operation body next) := by
  have fails (fault : Fault) : post (.error fault) := concludes _ (concludes_error fault)
  refine first.outcome.then fails fun o => ?_
  cases o with
  | ok a => exact rest a
  | error fault =>
      change Only _ _ (if isKnown fault then report operation fault else .fail fault)
      split
      · exact ((only_report operation fault).widen quiet).mono concludes
      · exact only_fail (fails fault)

theorem only_rejectPayload (flaw : PayloadFlaw) :
    Only isQuiet Concludes (.done (rejectPayload flaw)) := by
  cases flaw with
  | refused => exact only_done (concludes_plain _)
  | unreadable => exact only_done (concludes_plain _)

/-! ### Health -/

theorem onlyCalls_session {body : Routine α} (reads : OnlyCalls isQuiet body) :
    OnlyCalls isQuiet (Catalog.session body) :=
  (onlyCalls_call (c := .database .connect) rfl).bind fun _ => reads

theorem onlyCalls_condition {name : String} {ping : Routine Unit}
    (reads : OnlyCalls isQuiet ping) : OnlyCalls isQuiet (condition name ping) := by
  refine reads.outcome.bind fun o => ?_
  cases o with
  | ok a => exact only_done trivial
  | error fault => exact (onlyCalls_log _ _ _).bind fun _ => only_done trivial

/-- The health report is given with the status of success, whatever it says. -/
theorem only_health : Only isQuiet (fun o => Concludes o ∧
    ∀ answer, o = .ok answer → answer.response.status = 200) health := by
  have fails (fault : Fault) : Concludes (.error fault) ∧
      ∀ answer : Answer, Except.error fault = .ok answer → answer.response.status = 200 :=
    ⟨concludes_error fault, fun _ told => by cases told⟩
  have database : OnlyCalls isQuiet Catalog.ping :=
    onlyCalls_session (onlyCalls_call (c := .database .probe) rfl)
  have copies : OnlyCalls isQuiet Copies.ping := onlyCalls_call (c := .keys .ping) rfl
  refine (onlyCalls_condition database).then fails fun found => ?_
  refine (onlyCalls_condition copies).then fails fun found' => only_done ?_
  refine ⟨concludes_plain _, ?_⟩
  rintro answer ⟨⟩
  rfl

/-! ### Statistics -/

open Statistics in
theorem onlyCalls_tally (backend : Backend) (token : String) :
    OnlyCalls isQuiet (tally backend token) := by
  have rows (dimension : Dimension) : OnlyCalls isQuiet (groupRows token dimension) :=
    (onlyCalls_call (c := .database (.groupClicks token dimension)) rfl).bind fun _ =>
      only_done trivial
  have asked {c : ColumnsCall} (quiet : isQuiet (.columns c) = true) :
      OnlyCalls isQuiet (query token c) :=
    (onlyCalls_call quiet).rescue fun _ => only_fail trivial
  have columns (dimension : Dimension) : OnlyCalls isQuiet (groupColumns token dimension) :=
    (asked rfl).bind fun rows => only_ofOutcome trivial
  cases backend with
  | rows =>
      refine Only.rescue ?_ fun _ => only_fail trivial
      refine onlyCalls_session ?_
      refine (onlyCalls_call (c := .database (.countClicks token)) rfl).bind fun total => ?_
      split
      · exact only_fail trivial
      · refine (rows .country).bind fun _ => (rows .city).bind fun _ => ?_
        exact (rows .device).bind fun _ => (rows .referrer).bind fun _ => only_done trivial
  | columns =>
      refine (asked rfl).bind fun _ => (only_ofOutcome trivial).bind fun total => ?_
      split
      · exact only_fail trivial
      · refine (columns .country).bind fun _ => (columns .city).bind fun _ => ?_
        refine (columns .device).bind fun _ => (columns .referrer).bind fun _ => ?_
        split
        · exact only_done trivial
        · exact only_fail trivial

theorem only_statistics (settings : Settings) (token : String) :
    Only isQuiet Concludes (statistics settings token) := by
  refine (onlyCalls_log _ _ _).then concludes_error fun _ => ?_
  exact only_reporting (fun _ => id) (fun _ => id) (onlyCalls_tally _ token) fun tally =>
    only_done (concludes_plain _)

/-! ### Requests -/

/-- How a request is handled: by reading only, by showing a page, or by an operation of the
directory. -/
inductive Handles (settings : Settings) (r : Request) : Routine Answer → Prop
  | reads (routine : Routine Answer) (only : Only isQuiet Concludes routine) :
      Handles settings r routine
  | shows (path token : String)
      (found : Route.find r.method r.path.toList = .found (.page path) token) :
      Handles settings r (answerOn settings r (.page path) token)
  | shortens (wanted : LinkRequest) (asked : Payload.linkRequest r = .ok wanted) :
      Handles settings r (shorten settings r)
  | redirects (token : String) : Handles settings r (answerOn settings r .redirect token)
  | updates (token : String) (wanted : LinkRequest) (asked : Payload.linkRequest r = .ok wanted) :
      Handles settings r (update settings r token)
  | deletes (token : String) : Handles settings r (delete settings token)

variable (settings : Settings) (r : Request)

theorem handles_shorten : Handles settings r (shorten settings r) := by
  cases asked : Payload.linkRequest r with
  | ok wanted => exact .shortens wanted asked
  | error flaw =>
      refine .reads _ ?_
      unfold shorten
      rw [asked]
      exact only_rejectPayload flaw

theorem handles_update (token : String) : Handles settings r (update settings r token) := by
  cases asked : Payload.linkRequest r with
  | ok wanted => exact .updates token wanted asked
  | error flaw =>
      refine .reads _ ?_
      unfold update
      rw [asked]
      exact only_rejectPayload flaw

/-- Every request is handled by reading only, by showing a page, or by an operation of the
directory. -/
theorem handles_answer : Handles settings r (answer settings r) := by
  unfold answer
  split
  · rename_i route token found
    cases route with
    | page path => exact .shows path token found
    | health => exact .reads _ (only_health.mono fun _ holds => holds.1)
    | shorten => exact handles_shorten settings r
    | statistics => exact .reads _ (only_statistics settings token)
    | redirect => exact .redirects token
    | update => exact handles_update settings r token
    | delete => exact .deletes token
  · exact .reads _ (only_done (concludes_plain _))
  · exact .reads _ (only_done (concludes_plain _))
  · exact .reads _ (only_done (concludes_plain _))

end LinkShortener.Web
