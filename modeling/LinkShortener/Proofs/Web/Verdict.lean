import LinkShortener.Proofs.Traffic.Basic
import LinkShortener.Proofs.Web.Answer

/-!
The statuses of requests about tokens, as tables over what the stores hold and which calls fail. A
failing catalog is never told as an absence, and the copies never decide a status: a copy that is
read saves the catalog from being asked, and nothing else about the copies shows.

Main statement: every request about a token, and every request for a new one, is answered with the
status of its table, whichever calls fail (`statuses_follow_catalog`).
-/

namespace LinkShortener.Web

open Routine Failure
open Bench (World)
open Traffic (Calm freshLink)

/-! ### Tables -/

/-- The status that a resolution is answered with, and the place that the caller is sent to. -/
def redirectTable (fates : Fates) (s : Settings.KeyValue) (k : Contents) (t : String) :
    Nat × Option String :=
  match fates.copy? s k t with
  | some url => (307, some (Response.place url))
  | none =>
    if fates.denies (.findLink t) then (500, none)
    else
      match k.links.find? t with
      | none => (404, none)
      | some link => (307, some (Response.place link.url))

def updateTable (fates : Fates) (k : Contents) (t : String) :
    Except PayloadFlaw LinkRequest → Nat
  | .error _ => 400
  | .ok wanted =>
    match Url.check wanted.url with
    | .error _ => 400
    | .ok () =>
      if fates.denies (.retargetLink t wanted.url (Bench.clock k.step)) then 500
      else if k.links.find? t = none then 404
      else 200

def deleteTable (fates : Fates) (k : Contents) (t : String) : Nat :=
  if fates.denies (.deleteLink t) then 500
  else if k.links.find? t = none then 404
  else 204

/-- Whether a link to an address can be inserted and read back under the next number. -/
def insertable (fates : Fates) (s : Settings.KeyValue) (k : Contents) (url : String) : Bool :=
  !fates.fails (.keys (.increment s.counterKey)) &&
    match k.keys.increment s.counterKey with
    | .error _ => false
    | .ok (id, _) =>
      match Token.ofId id with
      | .error _ => false
      | .ok token =>
        !fates.denies (.insertLink id url token) && !fates.fails (.database (.readBack id)) &&
          (k.links.insert (freshLink id url token)).isOk

def shortenTable (fates : Fates) (s : Settings.KeyValue) (k : Contents) :
    Except PayloadFlaw LinkRequest → Nat
  | .error _ => 400
  | .ok wanted =>
    match Url.check wanted.url with
    | .error _ => 400
    | .ok () => if insertable fates s k wanted.url then 201 else 500

variable {fates : Fates} {s : Settings.KeyValue} {k k' : Contents} {t : String} {α : Type}

def told (o : Except Fault Answer) : Nat × Option String :=
  ((responded o).status, (responded o).headers.lookup "location")

/-- What is told of a resolution is what the table has for the contents. -/
theorem told_of_resolves {o' : Except Fault String} {o : Except Fault Answer}
    (resolves : Resolves fates s t k o' k') (tells : Tells Sends o' o) :
    told o = redirectTable fates s k t := by
  cases resolves with
  | copied url copy =>
      obtain ⟨answer, rfl, sends⟩ := tells
      rw [redirectTable, copy, told, responded, show answer.response = _ from sends]
      rfl
  | unread missed denied =>
      cases tells
      rw [redirectTable, missed, denied]
      rfl
  | absent missed granted absent =>
      cases tells
      rw [redirectTable, missed, granted, absent]
      rfl
  | found link _ missed granted found =>
      obtain ⟨answer, rfl, sends⟩ := tells
      rw [redirectTable, missed, granted, found, told, responded,
        show answer.response = _ from sends]
      rfl

/-- The status of an update is what the table has for the contents. -/
theorem status_of_updates {wanted : LinkRequest} {o' : Except Fault Link}
    {o : Except Fault Answer} (updates : Updates fates s t wanted.url k o' k')
    (tells : Tells (Plainly fun link => .ofRecord 200 link.toJson) o' o) :
    (responded o).status = updateTable fates k t (.ok wanted) := by
  cases updates with
  | refused fault refused =>
      cases tells
      rw [status_reported, statusOf_check refused, updateTable, refused]
  | unwritten _ accepted denied =>
      cases tells
      rw [updateTable, accepted, denied]
      rfl
  | absent accepted granted absent =>
      cases tells
      rw [updateTable, accepted, granted, absent]
      rfl
  | updated link _ _ accepted granted found =>
      obtain ⟨_, rfl, rfl⟩ := tells
      rw [updateTable, accepted, granted]
      simp only [Bool.false_eq_true, if_false, if_neg found]
      rfl

/-- The status of a deletion is what the table has for the contents. -/
theorem status_of_deletes {o' : Except Fault Unit} {o : Except Fault Answer}
    (deletes : Deletes fates s t k o' k') (tells : Tells (Plainly fun _ => .empty 204) o' o) :
    (responded o).status = deleteTable fates k t := by
  cases deletes with
  | unwritten _ denied =>
      cases tells
      rw [deleteTable, denied]
      rfl
  | absent granted absent =>
      cases tells
      rw [deleteTable, granted, absent]
      rfl
  | deleted _ _ granted found =>
      obtain ⟨_, rfl, rfl⟩ := tells
      rw [deleteTable, granted]
      simp only [Bool.false_eq_true, if_false, if_neg found]
      rfl

/-- The status of an insertion is what the table has for the contents. -/
theorem status_of_inserts {id : Int} {url token : String} {o' : Except Fault Link}
    {o : Except Fault Answer} (inserts : Inserts fates id url token k o' k')
    (tells : Tells (Plainly fun link => .ofRecord 201 link.toJson) o' o) :
    (responded o).status = if !fates.denies (.insertLink id url token) &&
        !fates.fails (.database (.readBack id)) &&
        (k.links.insert (freshLink id url token)).isOk then 201 else 500 := by
  cases inserts with
  | unwritten fault _ denied =>
      cases tells
      rw [status_reported, statusOf_insertFault (Fates.outage_of_denial? denied),
        Fates.denies_of_denial? denied]
      rfl
  | taken granted refused =>
      cases tells
      rw [status_reported, refused, Except.isOk, Except.toBool, Bool.and_false]
      rfl
  | unfit granted refused =>
      cases tells
      rw [status_reported, refused, Except.isOk, Except.toBool, Bool.and_false]
      rfl
  | unread fault links granted inserted failed =>
      cases tells
      rw [status_reported, statusOf_insertFault (fates.fits failed), Fates.fails_of_fault? failed,
        Bool.not_true, Bool.and_false, Bool.false_and]
      rfl
  | made links granted inserted read =>
      obtain ⟨_, rfl, rfl⟩ := tells
      rw [granted, read, inserted]
      rfl

/-- The status of a shortening is what the table has for the contents. -/
theorem status_of_shortens {wanted : LinkRequest} {o' : Except Fault Link}
    {o : Except Fault Answer} (shortens : Shortens fates s wanted.url k o' k')
    (tells : Tells (Plainly fun link => .ofRecord 201 link.toJson) o' o) :
    (responded o).status = shortenTable fates s k (.ok wanted) := by
  cases shortens with
  | refused fault refused =>
      cases tells
      rw [status_reported, statusOf_check refused, shortenTable, refused]
  | uncounted _ accepted failed =>
      cases tells
      rw [shortenTable, accepted]
      rcases failed with failed | ⟨fault, refused⟩
      · rw [insertable, failed]
        rfl
      · rw [insertable, refused, Bool.and_false]
        rfl
  | uncoded id keys fault accepted granted counted uncoded =>
      cases tells
      obtain ⟨-, rfl⟩ := Token.ofId_eq_error uncoded
      rw [shortenTable, accepted, insertable, counted]
      simp only [uncoded, Bool.and_false]
      rfl
  | numbered id token keys _ _ accepted granted counted coded inserts =>
      rw [status_of_inserts inserts tells, shortenTable, accepted, insertable, granted, counted]
      simp only [coded, Bool.not_false, Bool.true_and]

/-! ### Requests -/

/-- A request is served to its end, with a response of some kind. -/
def Responds (fates : Fates) (settings : Settings) (w : World) (r : Request)
    (kind : Response → Prop) : Prop :=
  ∃ x w', (serve settings r).run (undergo fates) w = (.ok x, w') ∧ kind x.response

variable {settings : Settings} {w : World} {r : Request}

/-- A request responds as its answer comes out. -/
theorem responds_of_yields {kind : Response → Prop} (calm : Calm w) (method : r.method ≠ "OPTIONS")
    (yields : Yields fates (answer settings r) (contents w) fun o _ => kind (shared r o)) :
    Responds fates settings w r kind := by
  obtain ⟨x, w', o, -, ends, holds, response, -⟩ := served (direct_of_method method) calm yields
  refine ⟨x, w', ends, ?_⟩
  rw [response]
  exact holds

/-- A request to read a token is answered by the table. -/
theorem responds_get (calm : Calm w) (segment : Route.IsSegment t) (clear : ¬ Route.Shadowed t)
    (method : r.method = "GET") (path : r.path = "/" ++ t) :
    Responds fates settings w r fun response =>
      (response.status, response.headers.lookup "location") =
        redirectTable fates settings.keyValue (contents w) t := by
  refine responds_of_yields calm (by rw [method]; decide) ?_
  rw [answer_get segment clear method path]
  refine yields_answer_redirect.mono ?_
  rintro o k' ⟨o', resolves, tells⟩
  rw [status_shared, location_shared]
  exact told_of_resolves resolves tells

/-- A request to change a link is answered by the table. -/
theorem responds_put (calm : Calm w) (segment : Route.IsSegment t) (method : r.method = "PUT")
    (path : r.path = "/" ++ t) :
    Responds fates settings w r fun response =>
      response.status = updateTable fates (contents w) t (Payload.linkRequest r) := by
  refine responds_of_yields calm (by rw [method]; decide) ?_
  rw [answer_put segment method path]
  cases asked : Payload.linkRequest r with
  | error flaw =>
      unfold update
      rw [asked]
      refine yields_done ?_
      rw [status_shared]
      cases flaw <;> rfl
  | ok wanted =>
      refine (yields_update asked).mono ?_
      rintro o k' ⟨o', updates, tells⟩
      rw [status_shared]
      exact status_of_updates updates tells

/-- A request to delete a link is answered by the table. -/
theorem responds_delete (calm : Calm w) (segment : Route.IsSegment t)
    (method : r.method = "DELETE") (path : r.path = "/" ++ t) :
    Responds fates settings w r fun response =>
      response.status = deleteTable fates (contents w) t := by
  refine responds_of_yields calm (by rw [method]; decide) ?_
  rw [answer_delete segment method path]
  refine yields_delete.mono ?_
  rintro o k' ⟨o', deletes, tells⟩
  rw [status_shared]
  exact status_of_deletes deletes tells

/-- A request to shorten an address is answered by the table. -/
theorem responds_post (calm : Calm w) (method : r.method = "POST") (path : r.path = "/shorten") :
    Responds fates settings w r fun response =>
      response.status =
        shortenTable fates settings.keyValue (contents w) (Payload.linkRequest r) := by
  refine responds_of_yields calm (by rw [method]; decide) ?_
  rw [answer_post method path]
  cases asked : Payload.linkRequest r with
  | error flaw =>
      unfold shorten
      rw [asked]
      refine yields_done ?_
      rw [status_shared]
      cases flaw <;> rfl
  | ok wanted =>
      refine (yields_shorten asked).mono ?_
      rintro o k' ⟨o', shortens, tells⟩
      rw [status_shared]
      exact status_of_shortens shortens tells

/-- Whichever calls to the stores fail, every request about a token, and every request for a new
one, is answered with the status of its table: an absence is told only of a catalog that was read
and has no such token, and the copies can only save the catalog from being asked. -/
theorem statuses_follow_catalog (fates : Fates) (settings : Settings) {w : World} (calm : Calm w)
    (r : Request) :
    (∀ t, Route.IsSegment t → r.path = "/" ++ t →
      (r.method = "GET" → ¬ Route.Shadowed t → Responds fates settings w r fun response =>
        (response.status, response.headers.lookup "location") =
          redirectTable fates settings.keyValue (contents w) t) ∧
      (r.method = "PUT" → Responds fates settings w r fun response =>
        response.status = updateTable fates (contents w) t (Payload.linkRequest r)) ∧
      (r.method = "DELETE" → Responds fates settings w r fun response =>
        response.status = deleteTable fates (contents w) t)) ∧
    (r.method = "POST" → r.path = "/shorten" → Responds fates settings w r fun response =>
      response.status =
        shortenTable fates settings.keyValue (contents w) (Payload.linkRequest r)) := by
  refine ⟨fun t segment path => ⟨?_, ?_, ?_⟩, ?_⟩
  · exact fun method clear => responds_get calm segment clear method path
  · exact fun method => responds_put calm segment method path
  · exact fun method => responds_delete calm segment method path
  · exact fun method path => responds_post calm method path

/-- A link whose catalog cannot be reached is not told to be absent. -/
theorem unreached_link_not_absent :
    Responds .unreached {} Traffic.lonely (bare "GET" "/b") fun response =>
      (response.status, response.headers.lookup "location") = (500, none) := by
  have calm : Calm Traffic.lonely := rfl
  have segment : Route.IsSegment "b" := ⟨by decide, by decide⟩
  obtain ⟨resolved, -, -⟩ :=
    (statuses_follow_catalog .unreached {} calm (bare "GET" "/b")).1 "b" segment rfl
  exact resolved rfl (by decide)

end LinkShortener.Web
