import LinkShortener.Proofs.Json.RoundTrip
import LinkShortener.Proofs.Web.Reach
import LinkShortener.Proofs.Web.Verdict

/-!
Links that are handed out work. The id of a new link is above all ids that came before, so no copy
is of its token, and whoever asks for the link next is sent where the catalog says. Only a page with
the name of the token stands before it.

Main statement: a link that is handed out redirects to its address at once, unless its token is
one of four words (`issued_links_redirect`).
-/

namespace LinkShortener.Web

open Routine Failure
open Bench (World)
open Copies (CounterSpared)
open KeyValue (Keyspace)
open Link (Table)
open Traffic (Calm freshLink)

variable {s : Settings.KeyValue} {settings : Settings} {n : Int} {w : World} {t : String}
  {σ : Service}

/-! ### New links -/

/-- The token of the next id is not copied, as no token after the counter is. -/
theorem Counted.uncopied (counted : Counted s n w) (spared : CounterSpared s) {id : Int}
    {keys : Keyspace} (increments : w.keys.increment s.counterKey = .ok (id, keys))
    (coded : Token.ofId id = .ok t) : keys.get? (Copies.key s t) = none := by
  obtain ⟨tally, -, rfl⟩ := Keyspace.increment_eq_ok.mp increments
  rw [Keyspace.tally?_of_get? counted.counter, Option.some.injEq] at tally
  have other : Copies.key s t ≠ s.counterKey := spared id t coded
  rw [Keyspace.get?_put, if_neg other]
  -- A copy would be of a token up to the counter, and a token tells its id.
  by_contra copied
  obtain ⟨id', below, coded'⟩ := counted.copies t other copied
  cases Token.ofId_injective coded coded'
  omega

/-- No fault is answered as a creation. -/
theorem statusOf_ne_created (fault : Fault) : statusOf fault ≠ 201 := by
  unfold statusOf
  cases fault.family <;> decide

/-- A shortening that is answered as made has inserted a link, of which there is no copy. -/
theorem Counted.made (counted : Counted s n w) (spared : CounterSpared s) {url : String}
    {o' : Except Fault Link} {o : Except Fault Answer} {k' : Contents}
    (shortens : Shortens .clear s url (contents w) o' k')
    (tells : Tells (Plainly fun link => .ofRecord 201 link.toJson) o' o)
    (created : (responded o).status = 201) :
    ∃ link : Link, o = .ok (.plain (.ofRecord 201 link.toJson)) ∧ link.url = url ∧
      Token.ofId link.id = .ok link.token ∧
      redirectTable .clear s k' link.token = (307, some (Response.place url)) := by
  cases o' with
  | error fault =>
      cases tells
      rw [status_reported] at created
      exact absurd created (statusOf_ne_created fault)
  | ok link =>
      obtain ⟨_, rfl, rfl⟩ := tells
      cases shortens with
      | numbered id token keys _ _ accepted granted increments coded inserts =>
          cases inserts with
          | made links granted inserted read =>
              refine ⟨_, rfl, rfl, coded, ?_⟩
              have copy : Fates.copy? .clear s
                  { contents w with keys := keys, links := links } token = none :=
                counted.uncopied spared increments coded
              have found : links.find? token = some (freshLink id url token) := by
                rw [Table.find?_insert inserted]
                exact if_pos rfl
              simp only [redirectTable, copy, found, freshLink]
              rfl

/-- An answer that tells plainly is the end of its request. -/
theorem concludes_of_tells {α : Type} {respond : α → Response} {o' : Except Fault α}
    {o : Except Fault Answer} (tells : Tells (Plainly respond) o' o) : Concludes o := by
  cases o' with
  | error fault =>
      cases tells
      exact fun answer told => (plain_of_reported told).1
  | ok a =>
      obtain ⟨_, rfl, rfl⟩ := tells
      exact concludes_plain _

/-- A request for a link is served by a shortening. -/
theorem run_post (settings : Settings) (calm : Calm w) {r : Request} {wanted : LinkRequest}
    (method : r.method = "POST") (path : r.path = "/shorten")
    (asked : Payload.linkRequest r = .ok wanted) :
    ∃ x after o' o, w.run (serve settings r) = (.ok x, after) ∧ x.response = shared r o ∧
      Shortens .clear settings.keyValue wanted.url (contents w) o' (contents after) ∧
      Tells (Plainly fun link => .ofRecord 201 link.toJson) o' o ∧ Calm after := by
  have answers : Yields .clear (answer settings r) (contents w) fun o k' => ∃ o',
      Shortens .clear settings.keyValue wanted.url (contents w) o' k' ∧
        Tells (Plainly fun link => .ofRecord 201 link.toJson) o' o := by
    rw [answer_post method path]
    exact yields_shorten asked
  have direct : Sharing.preflight? r = none := direct_of_method (by rw [method]; decide)
  obtain ⟨x, after, o, k', ends, ⟨o', shortens, tells⟩, response, idle⟩ :=
    served direct calm answers
  obtain ⟨calm', rfl⟩ := idle (concludes_of_tells tells)
  rw [undergo_clear] at ends
  exact ⟨x, after, o', o, ends, response, shortens, tells, calm'⟩

/-! ### Catalogs of one link -/

/-- A link whose id comes next and is free is made. -/
theorem run_post_free (calm : Calm w) {r : Request} {wanted : LinkRequest}
    (method : r.method = "POST") (path : r.path = "/shorten")
    (asked : Payload.linkRequest r = .ok wanted) (accepted : Url.check wanted.url = .ok ())
    (counter : w.keys.get? settings.keyValue.counterKey = some (toString n))
    (next : Keyspace.hasNext n = true) (coded : Token.ofId (n + 1) = .ok t)
    (fits : Table.fits (n + 1) = true)
    (apart : ∀ row ∈ w.links.rows, Link.Apart row (freshLink (n + 1) wanted.url t)) :
    ∃ x after, w.run (serve settings r) = (.ok x, after) ∧ x.response.status = 201 ∧
      x.response.body = .record (freshLink (n + 1) wanted.url t).toJson ∧ Calm after ∧
      (contents after).keys.get? settings.keyValue.counterKey = some (toString (n + 1)) := by
  have tally : w.keys.tally? settings.keyValue.counterKey = some (n + 1 - 1) := by
    rw [Keyspace.tally?_of_get? counter, Int.add_sub_cancel]
  have increments : (contents w).keys.increment settings.keyValue.counterKey = .ok (n + 1, _) :=
    Keyspace.increment_eq_ok.mpr ⟨tally, by rwa [Int.add_sub_cancel], rfl⟩
  obtain ⟨links, inserted⟩ := Table.exists_insert fits apart
  obtain ⟨x, after, o', o, ends, response, shortens, tells, calm'⟩ :=
    run_post settings calm method path asked
  have inserts := shortens.inserts accepted rfl increments coded
  obtain ⟨rfl, left⟩ := inserts.of_granted rfl inserted rfl
  obtain ⟨_, rfl, rfl⟩ := tells
  refine ⟨x, after, ends, ?_, ?_, calm', ?_⟩
  · rw [response, status_shared]
    rfl
  · rw [response, body_shared]
    rfl
  · rw [left, Keyspace.get?_put, if_pos rfl]

/-- Whole characters stand for themselves. -/
theorem escaped_some (waiting : Bool) (cs : List Char) :
    Payload.escaped waiting (cs.map some) = cs := by
  induction cs generalizing waiting with
  | nil => rfl
  | cons c rest ih => rw [List.map_cons, Payload.escaped, ih]

/-- A request for a link is read from the body that it is written in. -/
theorem linkRequest_of_written {r : Request} {wanted : LinkRequest}
    (announced : (r.body.isEmpty ||
      !((r.header? "content-type").any Payload.announcesJson)) = false)
    (characters : Text.Encoded.read? r.body =
      some ((Json.write wanted.toJson).toList.map some)) :
    Payload.linkRequest r = .ok wanted := by
  have texts : ∀ m ∈ [("url", Json.Value.text wanted.url)], Json.Reads .body 0 m.2 := by
    intro m mem
    cases List.mem_singleton.mp mem
    exact Json.reads_text 0 wanted.url
  have read : Json.read .body (Json.write wanted.toJson) = .ok wanted.toJson :=
    Json.read_write (Json.reads_object texts) (by decide)
  unfold Payload.linkRequest
  rw [announced, characters]
  simp only [Bool.false_eq_true, if_false, escaped_some, String.ofList_toList, read]
  rfl

/-- A catalog of one link, after a boot. -/
def seeded (s : Settings.KeyValue) (id : Int) (token : String) : World :=
  (World.run { links := ⟨[freshLink id "https://a.example/" token], List.pairwise_singleton _ _⟩ }
    (Counter.seed s)).2

theorem calm_seeded (s : Settings.KeyValue) (id : Int) (token : String) :
    Calm (seeded s id token) := rfl

/-- A catalog that was seeded with one link is one that the service starts in. -/
theorem started_seeded {id : Int} {token : String} (coded : Token.ofId id = .ok token) :
    Started s (seeded s id token) := by
  let before : World :=
    { links := ⟨[freshLink id "https://a.example/" token], List.pairwise_singleton _ _⟩ }
  refine ⟨before, rfl, ?_, fun _ => rfl, rfl⟩
  intro link mem
  cases List.mem_singleton.mp mem
  exact coded

def posting : Request :=
  ⟨"POST", "/shorten", none, [("content-type", "application/json")], none,
    "\x7b\"url\": \"https://b.example/\"\x7d".toUTF8.data.toList⟩

theorem linkRequest_posting : Payload.linkRequest posting = .ok ⟨"https://b.example/"⟩ := by
  refine linkRequest_of_written ?_ ?_
  · decide +kernel
  · decide +kernel

/-- The next link over a catalog of one. -/
theorem run_posting (settings : Settings) {token : String} (coded : Token.ofId n = .ok token)
    (coded' : Token.ofId (n + 1) = .ok t) (next : Keyspace.hasNext n = true)
    (fits : Table.fits (n + 1) = true) :
    ∃ x after, (seeded settings.keyValue n token).run (serve settings posting) = (.ok x, after) ∧
      x.response.status = 201 ∧
      x.response.body = .record (freshLink (n + 1) "https://b.example/" t).toJson ∧ Calm after ∧
      (contents after).keys.get? settings.keyValue.counterKey = some (toString (n + 1)) := by
  refine run_post_free (calm_seeded _ _ _) rfl rfl linkRequest_posting rfl ?_ next coded' fits ?_
  · exact List.lookup_cons_self
  · intro row mem
    cases List.mem_singleton.mp mem
    have other : n ≠ n + 1 := by omega
    refine ⟨other, fun same => other ?_⟩
    change token = t at same
    exact Token.ofId_injective coded (same ▸ coded')

theorem token_of_toJson {link link' : Link} (same : link.toJson = link'.toJson) :
    link.token = link'.token := by
  simp only [Link.toJson, Json.Value.object.injEq, List.cons.injEq, Prod.mk.injEq,
    Json.Value.text.injEq, true_and] at same
  exact same.2.2.1

/-- The page of the health report sends nobody anywhere. -/
theorem run_health (settings : Settings) (calm : Calm w) :
    ∃ x after, w.run (serve settings (bare "GET" "/health")) = (.ok x, after) ∧
      x.response.status ≠ 307 := by
  have reported : Yields .clear (answer settings (bare "GET" "/health")) (contents w) fun o _ =>
      ∀ answer, o = .ok answer → answer.response.status = 200 := by
    unfold answer
    rw [show Route.find _ _ = .found .health "" from by decide]
    exact (yields_of_only only_health).mono fun o k' holds => holds.1.2
  obtain ⟨x, after, o, -, ends, succeeds, response, -⟩ :=
    served (direct_of_method (by decide)) calm reported
  refine ⟨x, after, ends, ?_⟩
  rw [response, status_shared]
  cases o with
  | error fault => exact (by decide : 500 ≠ 307)
  | ok answer =>
      rw [responded, succeeds answer rfl]
      decide

/-- Settings under which a copy may have the key of the counter. -/
def mingled : Settings := { keyValue := { copyMark := "mapping_" } }

/-! ### Main statement -/

/-- Every link that is handed out works: when a request for a link is answered with a new one,
in whatever state the service has come to without failures, then the link is to the wanted address,
and whoever asks for it next is sent there, unless its token is the name of a page. The counter does
not have the key of any token's copy. -/
theorem issued_links_redirect (spared : CounterSpared settings.keyValue)
    (started : Started settings.keyValue w) (arises : Arises settings w σ) {r : Request}
    {wanted : LinkRequest} (method : r.method = "POST") (path : r.path = "/shorten")
    (asked : Payload.linkRequest r = .ok wanted) {x : Exchange} {after : World}
    (made : σ.world.run (serve settings r) = (.ok x, after)) (created : x.response.status = 201) :
    ∃ link : Link, x.response.body = .record link.toJson ∧ link.url = wanted.url ∧
      (link.token ∉ ["docs", "redoc", "metrics", "health"] → ∀ r' : Request, r'.method = "GET" →
        r'.path = "/" ++ link.token → ∃ x' after',
          after.run (serve settings r') = (.ok x', after') ∧ x'.response.status = 307 ∧
          x'.response.headers.lookup "location" = some (Response.place wanted.url)) := by
  obtain ⟨n, sound⟩ := sound_of_arises spared started arises
  have counted := sound.counted
  obtain ⟨_, _, o', o, ends, response, shortens, tells, calm⟩ :=
    run_post settings counted.calm method path asked
  cases ends.symm.trans made
  rw [response, status_shared] at created
  obtain ⟨link, rfl, same, coded, leads⟩ := counted.made spared shortens tells created
  refine ⟨link, by rw [response, body_shared]; rfl, same, fun clear r' method' path' => ?_⟩
  obtain ⟨-, spelled⟩ := Token.ofId_eq_ok.mp coded
  have segment : Route.IsSegment link.token := spelled ▸ Route.isSegment_encode _
  have unshadowed : ¬ Route.Shadowed link.token := by
    intro shadowed
    rw [spelled] at shadowed clear
    exact clear (Route.mem_of_shadowed shadowed)
  have responds : Responds .clear settings after r' fun response =>
      (response.status, response.headers.lookup "location") =
        redirectTable .clear settings.keyValue (contents after) link.token :=
    responds_get calm segment unshadowed method' path'
  obtain ⟨x', after', ends', told⟩ := responds
  rw [leads] at told
  exact ⟨x', after', ends', congrArg Prod.fst told, congrArg Prod.snd told⟩

/-- While a redirect of the first link is under way, a second one is made and redirects. -/
theorem second_link_redirects :
    ∃ x after, (seeded {} 1 "b").run (serve {} posting) = (.ok x, after) ∧
      x.response.status = 201 ∧
      x.response.body = .record (freshLink 2 "https://b.example/" "c").toJson ∧
      ∃ x' after', after.run (serve {} (bare "GET" "/c")) = (.ok x', after') ∧
        x'.response.status = 307 ∧
        x'.response.headers.lookup "location" = some "https://b.example/" := by
  have first : Token.ofId 1 = .ok "b" := Token.ofId_eq_ok.mpr ⟨by decide, by decide +kernel⟩
  have second : Token.ofId (1 + 1) = .ok "c" :=
    Token.ofId_eq_ok.mpr ⟨by decide, by decide +kernel⟩
  obtain ⟨x, after, made, created, body, -⟩ := run_posting {} first second rfl rfl
  have arises : Arises {} (seeded {} 1 "b") ⟨seeded {} 1 "b", [serve {} (bare "GET" "/b")]⟩ :=
    .single (.enter ⟨seeded {} 1 "b", []⟩ (bare "GET" "/b"))
  obtain ⟨link, shown, -, redirects⟩ := issued_links_redirect (.of_apart (by decide))
    (started_seeded first) arises rfl rfl linkRequest_posting made created
  rw [body, Body.record.injEq] at shown
  have named : link.token = "c" := (token_of_toJson shown).symm
  rw [named] at redirects
  obtain ⟨x', after', asked, status, place⟩ := redirects (by decide) (bare "GET" "/c") rfl rfl
  refine ⟨x, after, made, created, body, x', after', asked, status, ?_⟩
  rw [place]
  decide +kernel

/-- Two links that do not work: one whose token is the name of a page, and one whose copy has the
key of the counter. -/
theorem issued_link_misdirected :
    (∃ x after, Started {} (seeded {} 6472078636 "healtg") ∧
      (seeded {} 6472078636 "healtg").run (serve {} posting) = (.ok x, after) ∧
      x.response.status = 201 ∧
      x.response.body = .record (freshLink 6472078637 "https://b.example/" "health").toJson ∧
      ∃ x' after', after.run (serve {} (bare "GET" "/health")) = (.ok x', after') ∧
        x'.response.status ≠ 307) ∧
    ∃ x after, Started mingled.keyValue (seeded mingled.keyValue 32966968 "couns") ∧
      (seeded mingled.keyValue 32966968 "couns").run (serve mingled posting) = (.ok x, after) ∧
      x.response.status = 201 ∧
      x.response.body = .record (freshLink 32966969 "https://b.example/" "count").toJson ∧
      ∃ x' after', after.run (serve mingled (bare "GET" "/count")) = (.ok x', after') ∧
        x'.response.headers.lookup "location" ≠ some (Response.place "https://b.example/") := by
  constructor
  · have coded : Token.ofId 6472078636 = .ok "healtg" :=
      Token.ofId_eq_ok.mpr ⟨by decide, by decide +kernel⟩
    have coded' : Token.ofId (6472078636 + 1) = .ok "health" :=
      Token.ofId_eq_ok.mpr ⟨by decide, by decide +kernel⟩
    obtain ⟨x, after, made, created, body, calm, -⟩ := run_posting {} coded coded' rfl rfl
    exact ⟨x, after, started_seeded coded, made, created, body, run_health {} calm⟩
  · have coded : Token.ofId 32966968 = .ok "couns" :=
      Token.ofId_eq_ok.mpr ⟨by decide, by decide +kernel⟩
    have coded' : Token.ofId (32966968 + 1) = .ok "count" :=
      Token.ofId_eq_ok.mpr ⟨by decide, by decide +kernel⟩
    obtain ⟨x, after, made, created, body, calm, counter⟩ :=
      run_posting mingled coded coded' rfl rfl
    have responds : Responds .clear mingled after (bare "GET" "/count") fun response =>
        (response.status, response.headers.lookup "location") =
          redirectTable .clear mingled.keyValue (contents after) "count" :=
      responds_get calm ⟨by decide, by decide⟩ (by decide) rfl rfl
    obtain ⟨x', after', asked, told⟩ := responds
    have copy : Fates.copy? .clear mingled.keyValue (contents after) "count" =
        some (toString (32966968 + 1 : Int)) := counter
    rw [redirectTable, copy] at told
    refine ⟨x, after, started_seeded coded, made, created, body, x', after', asked, ?_⟩
    have place : x'.response.headers.lookup "location" =
        some (Response.place (toString (32966968 + 1 : Int))) := congrArg Prod.snd told
    rw [place]
    decide +kernel

end LinkShortener.Web
