import LinkShortener.Proofs.Traffic.Coherence

/-!
A ledger is the service reduced to what matters: the number to count on from and the links, each
with its id, its address and its token. It has no copies, opens no sessions and measures
nothing. The only failures it knows are those of the counter.

Main statements: a request that is served while the catalog answers comes to what it comes to on
the ledger (`serve_refines`), and sequential runs are coherent and refine the runs of the ledger
(`sequential_runs_coherent`).
-/

namespace LinkShortener.Traffic

open Routine
open Bench (World Answer)
open Directory (Phase Advances)
open KeyValue (Keyspace)
open Link (Table)

/-! ### The reference -/

/-- A link without its times. -/
structure Entry where
  id : Int
  url : String
  token : String
  deriving DecidableEq, Repr

def Entry.ofLink (link : Link) : Entry := ⟨link.id, link.url, link.token⟩

/-- An answer without times. -/
inductive Told
  | nothing
  | url (url : String)
  | entry (entry : Entry)
  deriving DecidableEq, Repr

def told : Answer → Told
  | .url url => .url url
  | .link link => .entry (.ofLink link)
  | _ => .nothing

/-- The number to count on from, if there is one, and the links. -/
structure Ledger where
  counter : Option Int
  entries : List Entry
  deriving DecidableEq, Repr

namespace Ledger

def find? (ℓ : Ledger) (token : String) : Option Entry := ℓ.entries.find? (·.token == token)

def lastId (ℓ : Ledger) : Int := (ℓ.entries.map (·.id)).max?.getD 0

/-- The next number, unless the counter fails or has none. -/
def next (s : Settings.KeyValue) (outages : Outages) (ℓ : Ledger) : Option Int :=
  match struck (outages (.keys (.increment s.counterKey))) (.keys (.increment s.counterKey)) with
  | some _ => none
  | none => (ℓ.counter.filter Keyspace.hasNext).map (· + 1)

/-- Makes a link under the next number. -/
def shorten (s : Settings.KeyValue) (outages : Outages) (ℓ : Ledger) (url : String) :
    Except Fault Told × Ledger :=
  match ℓ.next s outages with
  | none => (.error (.counter (.advance s.counterKey)), ℓ)
  | some id =>
      match Token.ofId id with
      | .error fault => (.error fault, { ℓ with counter := some id })
      | .ok token =>
          if ∃ e ∈ ℓ.entries, e.id = id ∨ e.token = token then
            (.error (.duplicateLink id token), { ℓ with counter := some id })
          else (.ok (.entry ⟨id, url, token⟩), ⟨some id, ℓ.entries ++ [⟨id, url, token⟩]⟩)

/-- Sets the counter to the greatest id, unless that fails. -/
def boot (s : Settings.KeyValue) (outages : Outages) (ℓ : Ledger) : Except Fault Told × Ledger :=
  let c := .keys (.set s.counterKey (toString ℓ.lastId) none)
  match struck (outages c) c with
  | some _ => (.error (.counter .seed), ℓ)
  | none => (.ok .nothing, { ℓ with counter := some ℓ.lastId })

def retarget (ℓ : Ledger) (token url : String) : Ledger :=
  ⟨ℓ.counter, ℓ.entries.map fun e => if e.token = token then { e with url := url } else e⟩

/-- Serves a request that passes its check. -/
def accept (s : Settings.KeyValue) (outages : Outages) (ℓ : Ledger) :
    Request → Except Fault Told × Ledger
  | .boot => ℓ.boot s outages
  | .shorten url => ℓ.shorten s outages url
  | .resolve token =>
      match ℓ.find? token with
      | some e => (.ok (.url e.url), ℓ)
      | none => (.error (.unknownUrl token), ℓ)
  | .update token url =>
      match ℓ.find? token with
      | some e => (.ok (.entry { e with url := url }), ℓ.retarget token url)
      | none => (.error (.unknownToken token), ℓ)
  | .delete token =>
      match ℓ.find? token with
      | some _ => (.ok .nothing, { ℓ with entries := ℓ.entries.filter (·.token != token) })
      | none => (.error (.unknownToken token), ℓ)

def serve (s : Settings.KeyValue) (outages : Outages) (ℓ : Ledger) (request : Request) :
    Except Fault Told × Ledger :=
  match request.check with
  | .error fault => (.error fault, ℓ)
  | .ok () => ℓ.accept s outages request

def serveAll (s : Settings.KeyValue) (ℓ : Ledger) :
    List (Request × Outages) → List (Except Fault Told) × Ledger
  | [] => ([], ℓ)
  | (request, outages) :: rest =>
      let (outcome, ℓ) := ℓ.serve s outages request
      let (outcomes, ℓ) := serveAll s ℓ rest
      (outcome :: outcomes, ℓ)

end Ledger

def ledger (s : Settings.KeyValue) (w : World) : Ledger :=
  ⟨w.keys.tally? s.counterKey, w.links.rows.map Entry.ofLink⟩

/-! ### Reading the ledger -/

variable {s : Settings.KeyValue} {w w' : World} {token url : String}

theorem ledger_congr (links : w'.links = w.links)
    (counter : w'.keys.get? s.counterKey = w.keys.get? s.counterKey) :
    ledger s w' = ledger s w := by
  simp only [ledger, Keyspace.tally?, links, counter]

theorem ledger_of_untouched (untouched : Untouched w w') : ledger s w' = ledger s w :=
  ledger_congr untouched.links (by rw [untouched.keys])

/-- The ledger has the entry of each link of the catalog. -/
theorem find?_ledger (s : Settings.KeyValue) (w : World) (token : String) :
    (ledger s w).find? token = (w.links.find? token).map Entry.ofLink := by
  simp only [Ledger.find?, ledger, Table.find?, List.find?_map]
  rfl

theorem lastId_ledger (s : Settings.KeyValue) (w : World) :
    (ledger s w).lastId = w.links.lastId := by
  simp only [Ledger.lastId, ledger, Table.lastId, Table.lastId?, List.map_map]
  rfl

/-- A copy that is made leaves the ledger. -/
theorem ledger_set_copy (apart : Copies.Apart s) {seconds : Option Int}
    (keys : w'.keys = w.keys.set (Copies.key s token) url seconds)
    (links : w'.links = w.links) : ledger s w' = ledger s w := by
  refine ledger_congr links ?_
  rw [keys, Keyspace.get?_set, if_neg (apart.key_ne token).symm]

theorem ledger_delete_copy (apart : Copies.Apart s)
    (keys : w'.keys = w.keys.delete (Copies.key s token)) (links : w'.links = w.links) :
    ledger s w' = ledger s w := by
  refine ledger_congr links ?_
  rw [keys, Keyspace.get?_delete, if_neg (apart.key_ne token).symm]

theorem ledger_seed {last : Int}
    (keys : w'.keys = w.keys.set s.counterKey (toString last) none)
    (links : w'.links = w.links) :
    ledger s w' = { ledger s w with counter := some last } := by
  have counter : w'.keys.tally? s.counterKey = some last :=
    Keyspace.tally?_of_get? (by rw [keys, Keyspace.get?_set, if_pos rfl])
  simp only [ledger, counter, links]

theorem ledger_increment {id : Int}
    (counted : w.keys.increment s.counterKey = .ok (id, w'.keys)) (links : w'.links = w.links) :
    ledger s w' = { ledger s w with counter := some id } := by
  obtain ⟨-, -, keys⟩ := Keyspace.increment_eq_ok.mp counted
  have counter : w'.keys.tally? s.counterKey = some id :=
    Keyspace.tally?_of_get? (by rw [keys, Keyspace.get?_put, if_pos rfl])
  simp only [ledger, counter, links]

theorem ofLink_retargeted (token url : String) (time : Moment) (link : Link) :
    Entry.ofLink (Table.retargeted token url time link) =
      if (Entry.ofLink link).token = token then { Entry.ofLink link with url := url }
      else Entry.ofLink link := by
  unfold Table.retargeted Entry.ofLink
  split <;> rfl

theorem ledger_retarget {time : Moment} (links : w'.links = w.links.retarget token url time)
    (keys : w'.keys = w.keys) : ledger s w' = (ledger s w).retarget token url := by
  simp only [ledger, Ledger.retarget, links, keys, Table.retarget, List.map_map]
  congr 2
  funext link
  exact ofLink_retargeted token url time link

theorem ledger_delete (links : w'.links = w.links.delete token) (keys : w'.keys = w.keys) :
    ledger s w' =
      { ledger s w with entries := (ledger s w).entries.filter (·.token != token) } := by
  simp only [ledger, links, keys, Table.delete, List.filter_map]
  rfl

theorem ledger_insert {id : Int} (inserted : w.links.insert (freshLink id url token) = .ok w'.links)
    (keys : w'.keys = w.keys) :
    ledger s w' = { ledger s w with entries := (ledger s w).entries ++ [⟨id, url, token⟩] } := by
  obtain ⟨-, -, rows⟩ := Table.insert_eq_ok.mp inserted
  simp only [ledger, rows, keys, List.map_append]
  rfl

/-- What is counted fits into the column for ids. -/
theorem fits_of_hasNext {n : Int} (hasNext : Keyspace.hasNext n = true) :
    Table.fits (n + 1) = true := by
  simp only [Keyspace.hasNext, Table.fits, Bool.and_eq_true, decide_eq_true_eq] at hasNext ⊢
  omega

theorem hasNext_of_fits {n : Int} (nonneg : 0 ≤ n) (fits : Table.fits (n + 1) = true) :
    Keyspace.hasNext n = true := by
  simp only [Keyspace.hasNext, Table.fits, Bool.and_eq_true, decide_eq_true_eq] at fits ⊢
  omega

/-- A number that was counted is the next one of the ledger. -/
theorem next_of_increment {outages : Outages} {id : Int} {k : Keyspace}
    (spared : struck (outages (.keys (.increment s.counterKey)))
      (.keys (.increment s.counterKey)) = none)
    (counted : w.keys.increment s.counterKey = .ok (id, k)) :
    (ledger s w).next s outages = some id := by
  obtain ⟨tally, hasNext, -⟩ := Keyspace.increment_eq_ok.mp counted
  simp only [Ledger.next, spared, ledger, tally, Option.filter_some, hasNext, if_true,
    Option.map_some, Int.sub_add_cancel]

/-- A counter that cannot be counted on has no next number. -/
theorem next_of_refused {outages : Outages} {fault : Fault}
    (refused : w.keys.increment s.counterKey = .error fault) :
    (ledger s w).next s outages = none := by
  unfold Ledger.next
  split
  · rfl
  · rw [Option.map_eq_none_iff, Option.filter_eq_none_iff]
    intro n tally hasNext
    have counted := Keyspace.increment_eq_ok (k := w.keys) (n := n + 1).mpr
      ⟨by simpa [ledger] using tally, by simpa using hasNext, rfl⟩
    rw [refused] at counted
    cases counted

/-! ### What is done on the ledger -/

variable {outages : Outages} {link : Link} {id : Int}

theorem accept_resolve (found : w.links.find? token = some link) :
    (ledger s w).accept s outages (.resolve token) = (.ok (.url link.url), ledger s w) := by
  simp only [Ledger.accept, find?_ledger, found, Option.map_some, Entry.ofLink]

theorem accept_update {time : Moment} (links : w'.links = w.links.retarget token url time)
    (keys : w'.keys = w.keys) (found : w'.links.find? token = some link) :
    (ledger s w).accept s outages (.update token url) =
      (.ok (.entry (.ofLink link)), ledger s w') := by
  rw [links, Table.find?_retarget, Option.map_eq_some_iff] at found
  obtain ⟨before, found, rfl⟩ := found
  have named : (Entry.ofLink before).token = token := (Table.mem_of_find? found).2
  rw [ledger_retarget links keys, ofLink_retargeted, if_pos named]
  simp only [Ledger.accept, find?_ledger, found, Option.map_some]

theorem accept_delete (links : w'.links = w.links.delete token) (keys : w'.keys = w.keys)
    (found : w.links.find? token ≠ none) :
    (ledger s w).accept s outages (.delete token) = (.ok .nothing, ledger s w') := by
  obtain ⟨link, found⟩ := Option.ne_none_iff_exists'.mp found
  rw [ledger_delete links keys]
  simp only [Ledger.accept, find?_ledger, found, Option.map_some]

theorem accept_resolve_absent (absent : w.links.find? token = none) :
    (ledger s w).accept s outages (.resolve token) =
      (.error (.unknownUrl token), ledger s w) := by
  simp only [Ledger.accept, find?_ledger, absent, Option.map_none]

theorem accept_update_absent (absent : w.links.find? token = none) :
    (ledger s w).accept s outages (.update token url) =
      (.error (.unknownToken token), ledger s w) := by
  simp only [Ledger.accept, find?_ledger, absent, Option.map_none]

theorem accept_delete_absent (absent : w.links.find? token = none) :
    (ledger s w).accept s outages (.delete token) =
      (.error (.unknownToken token), ledger s w) := by
  simp only [Ledger.accept, find?_ledger, absent, Option.map_none]

/-- A link of which the table refuses the insertion under the next number has its id or its
token taken. -/
theorem taken_of_refused {ℓ : Ledger} {fault : Fault} (next : ℓ.next s outages = some id)
    (refused : w.links.insert (freshLink id url token) = .error fault) :
    fault = Table.conflict ∧ ∃ e ∈ (ledger s w).entries, e.id = id ∨ e.token = token := by
  have fits : Table.fits id = true := by
    unfold Ledger.next at next
    split at next
    · cases next
    · obtain ⟨n, found, rfl⟩ := Option.map_eq_some_iff.mp next
      exact fits_of_hasNext (Option.filter_eq_some_iff.mp found).2
  obtain ⟨clash, rfl⟩ := Table.insert_eq_conflict fits refused
  obtain ⟨row, mem, near⟩ := clash
  refine ⟨rfl, .ofLink row, List.mem_map_of_mem mem, ?_⟩
  by_cases same : row.id = id
  · exact .inl same
  · exact .inr (Decidable.not_not.mp fun other => near ⟨same, other⟩)

/-- The ledger enters a link under a fresh id and token. -/
theorem accept_shorten {ℓ : Ledger} (next : ℓ.next s outages = some id)
    (coded : Token.ofId id = .ok token)
    (fresh : ¬ ∃ e ∈ ℓ.entries, e.id = id ∨ e.token = token) :
    ℓ.accept s outages (.shorten url) =
      (.ok (.entry ⟨id, url, token⟩), ⟨some id, ℓ.entries ++ [⟨id, url, token⟩]⟩) := by
  simp only [Ledger.accept, Ledger.shorten, next, coded, if_neg fresh]

/-- The ledger enters no link under an id or a token that is taken. -/
theorem accept_taken {ℓ : Ledger} (next : ℓ.next s outages = some id)
    (coded : Token.ofId id = .ok token)
    (taken : ∃ e ∈ ℓ.entries, e.id = id ∨ e.token = token) :
    ℓ.accept s outages (.shorten url) =
      (.error (.duplicateLink id token), { ℓ with counter := some id }) := by
  simp only [Ledger.accept, Ledger.shorten, next, coded, if_pos taken]

/-- The ledger enters no link under an id that has no token. -/
theorem accept_uncoded {ℓ : Ledger} {fault : Fault} (next : ℓ.next s outages = some id)
    (uncoded : Token.ofId id = .error fault) :
    ℓ.accept s outages (.shorten url) = (.error fault, { ℓ with counter := some id }) := by
  simp only [Ledger.accept, Ledger.shorten, next, uncoded]

/-- The ledger enters no link while there is no next number. -/
theorem accept_uncounted {ℓ : Ledger} (uncounted : ℓ.next s outages = none) :
    ℓ.accept s outages (.shorten url) = (.error (.counter (.advance s.counterKey)), ℓ) := by
  simp only [Ledger.accept, Ledger.shorten, uncounted]

/-- The counter of the ledger is set to the greatest id. -/
theorem accept_boot {ℓ : Ledger}
    (spared : struck (outages (.keys (.set s.counterKey (toString ℓ.lastId) none)))
      (.keys (.set s.counterKey (toString ℓ.lastId) none)) = none) :
    ℓ.accept s outages .boot = (.ok .nothing, { ℓ with counter := some ℓ.lastId }) := by
  simp only [Ledger.accept, Ledger.boot, spared]

/-- The counter of the ledger is left where setting it fails. -/
theorem accept_boot_struck {ℓ : Ledger} {fault : Fault}
    (strikes : struck (outages (.keys (.set s.counterKey (toString ℓ.lastId) none)))
      (.keys (.set s.counterKey (toString ℓ.lastId) none)) = some fault) :
    ℓ.accept s outages .boot = (.error (.counter .seed), ℓ) := by
  simp only [Ledger.accept, Ledger.boot, strikes]

theorem fresh_of_inserted {t : Table}
    (inserted : w.links.insert (freshLink id url token) = .ok t) :
    ¬ ∃ e ∈ (ledger s w).entries, e.id = id ∨ e.token = token := by
  obtain ⟨-, apart, -⟩ := Table.insert_eq_ok.mp inserted
  rintro ⟨e, mem, near⟩
  obtain ⟨row, memRow, rfl⟩ := List.mem_map.mp mem
  rcases near with same | same
  · exact (apart row memRow).1 same
  · exact (apart row memRow).2 same

/-! ### Refinement, phase by phase -/

/-- The catalog answers what is asked for a request. A resolution asks for the link only. -/
def Answers (outages : Outages) : Request → Prop
  | .resolve token =>
      struck (outages (.database .connect)) (.database .connect) = none ∧
        struck (outages (.database (.findLink token))) (.database (.findLink token)) = none
  | _ => ∀ call, struck (outages (.database call)) (.database call) = none

/-- How the world stands to the ledger that a request began with. As long as the request has
changed nothing, the ledger is the same; a request that has changed the catalog has done what is
done on the ledger, and so has one that is at its end. -/
def Leads (s : Settings.KeyValue) (outages : Outages) (request : Request) (ℓ : Ledger)
    (w : World) : Phase → Prop
  | .looking _ | .missed _ | .retargeting _ _ | .deleting _ | .counting _ | .seeding =>
      ledger s w = ℓ
  | .holding token link => ledger s w = ℓ ∧ w.links.find? token = some link
  | .numbered _ id token => ℓ.next s outages = some id ∧ Token.ofId id = .ok token ∧
      ledger s w = { ℓ with counter := some id }
  | .inserted id _ => ∃ link, w.links.findId? id = some link ∧
      ℓ.accept s outages request = (.ok (.entry (.ofLink link)), ledger s w)
  | .measured last => ledger s w = ℓ ∧ ℓ.lastId = last
  | .owing _ (some link) =>
      ℓ.accept s outages request = (.ok (.entry (.ofLink link)), ledger s w)
  | .owing _ none => ℓ.accept s outages request = (.ok .nothing, ledger s w)
  | .broken _ => False
  | p => ∀ outcome, p.outcome? s = some outcome →
      ℓ.accept s outages request = (outcome.map told, ledger s w)

variable {request : Request} {ℓ : Ledger} {p q : Phase} {c : Call}
  {reply : Except Fault c.Reply}

theorem Leads.of_untouched (untouched : Untouched w w')
    (leads : Leads s outages request ℓ w p) : Leads s outages request ℓ w' p := by
  have same := ledger_of_untouched (s := s) untouched
  cases p with
  | owing token link? =>
      cases link? <;> simpa only [Leads, same] using leads
  | broken fault => exact leads
  | _ => simpa only [Leads, same, untouched.links] using leads

/-- A request whose outcome is settled by its phase leads to what the ledger says. -/
theorem leads_of_outcome {outcome : Except Fault Answer} (ends : p.outcome? s = some outcome)
    (accepts : ℓ.accept s outages request = (outcome.map told, ledger s w))
    (unbroken : ∀ fault, p ≠ .broken fault) : Leads s outages request ℓ w p := by
  have tells : ∀ o, p.outcome? s = some o →
      ℓ.accept s outages request = (o.map told, ledger s w) := by
    intro o told
    rw [ends] at told
    cases told
    exact accepts
  cases p with
  | broken fault => exact absurd rfl (unbroken fault)
  | owing | looking | missed | holding | retargeting | deleting | counting | numbered | inserted
  | seeding | measured => cases ends
  | _ => exact tells

/-- Where the catalog answers, a call to it fails only if it is refused. -/
theorem refuses_of_answers {call : DatabaseCall} {fault : Fault} (calm : Calm w)
    (visits : request.Visits p) (answers : Answers outages request)
    (advances : Advances s p (.database call) (.error fault) q)
    (made : attempt (outages (.database call)) (.database call) w = (.error fault, w')) :
    Refuses w (.database call) fault := by
  rcases fault_of_attempt calm advances made with strikes | refuses
  · have spared : struck (outages (.database call)) (.database call) = none := by
      cases request with
      | resolve token =>
          cases advances with
          | unconnected => exact answers.1
          | unread t =>
              cases Request.visits_missed.mp visits
              exact answers.2
          | _ => cases visits
      | _ => exact answers call
    rw [spared] at strikes
    cases strikes
  · exact refuses

/-- A request whose outcome is settled by a call that changed nothing. -/
theorem leads_of_idle {outcome : Except Fault Answer} (ends : q.outcome? s = some outcome)
    (untouched : Untouched w w')
    (accepts : ℓ.accept s outages request = (outcome.map told, ledger s w))
    (unbroken : ∀ fault, q ≠ .broken fault) : Leads s outages request ℓ w' q :=
  leads_of_outcome ends (accepts.trans (by rw [ledger_of_untouched untouched])) unbroken

/-- A call that fails keeps the world in step with the ledger: the catalog answers, so that it can
only refuse what is asked of it, and the keys fail as outages. -/
theorem Leads.fail {fault : Fault} (calm : Calm w) (visits : request.Visits p)
    (answers : Answers outages request) (leads : Leads s outages request ℓ w p)
    (advances : Advances s p c (.error fault) q)
    (made : attempt (outages c) c w = (.error fault, w')) : Leads s outages request ℓ w' q := by
  cases advances with
  | unnoted p call incidental => exact absurd made (answered_of_incidental incidental)
  | unconnected =>
      cases refuses_of_answers calm visits answers (.unconnected (s := s) _ fault) made
  | unread token =>
      cases refuses_of_answers calm visits answers (.unread (s := s) token fault) made
  | unretargeted token url time =>
      cases refuses_of_answers calm visits answers (.unretargeted (s := s) token url time fault)
        made
  | undeleted token =>
      cases refuses_of_answers calm visits answers (.undeleted (s := s) token fault) made
  | unmeasured =>
      cases refuses_of_answers calm visits answers (.unmeasured (s := s) fault) made
  | unlooked token _ passes =>
      exact absurd (outage_of_keys calm (.unlooked (s := s) token fault passes) made) passes
  | unfillable token link _ passes =>
      exact absurd (outage_of_keys calm (.unfillable (s := s) token link fault passes) made)
        passes
  | undroppable token link? _ passes =>
      exact absurd (outage_of_keys calm (.undroppable (s := s) token link? fault passes) made)
        passes
  | blind token =>
      exact leads.of_untouched (p := .looking token) (untouched_of_keys_error calm made)
  | unfilled token link =>
      obtain rfl := Request.visits_holding.mp visits
      obtain ⟨rfl, found⟩ := leads
      exact leads_of_idle rfl (untouched_of_keys_error calm made) (accept_resolve found) (by simp)
  | undropped token link? =>
      have untouched := untouched_of_keys_error calm made
      cases link? <;> exact leads_of_idle rfl untouched leads (by simp)
  | unnumbered url =>
      obtain rfl := Request.visits_counting.mp visits
      obtain rfl := leads
      have uncounted : (ledger s w).next s outages = none := by
        rcases fault_of_attempt calm (.unnumbered (s := s) url fault) made with strikes | refuses
        · simp only [Ledger.next, strikes]
        · cases refuses with
          | increment _ _ refused => exact next_of_refused refused
      have outage := outage_of_keys calm (.unnumbered (s := s) url fault) made
      refine leads_of_idle rfl (untouched_of_keys_error calm made) ?_ (by simp)
      rw [accept_uncounted uncounted, Phase.reported, if_pos outage]
      rfl
  | uninserted url id token =>
      obtain rfl := Request.visits_numbered.mp visits
      obtain ⟨next, coded, same⟩ := leads
      cases refuses_of_answers calm visits answers (.uninserted (s := s) url id token fault)
        made with
      | insert _ _ _ _ refused =>
          obtain ⟨rfl, taken⟩ := taken_of_refused (s := s) next refused
          rw [same] at taken
          refine leads_of_idle rfl (untouched_of_database_error calm made) ?_ (by simp)
          rw [same, accept_taken next coded taken]
          rfl
  | unreadBack id token =>
      obtain ⟨link, found, -⟩ := leads
      cases refuses_of_answers calm visits answers (.unreadBack (s := s) id token fault) made with
      | readBack _ _ gone =>
          rw [found] at gone
          cases gone
  | unseeded last =>
      obtain rfl := Request.visits_measured.mp visits
      obtain ⟨rfl, rfl⟩ := leads
      have outage := outage_of_keys calm (.unseeded (s := s) _ fault) made
      rcases fault_of_attempt calm (.unseeded (s := s) _ fault) made with strikes | refuses
      · refine leads_of_idle rfl (untouched_of_keys_error calm made) ?_ (by simp)
        rw [accept_boot_struck strikes, Phase.reported, if_pos outage]
        rfl
      · cases refuses

/-- A call that is answered keeps the world in step with the ledger. -/
theorem Leads.answer {a : c.Reply} (apart : Copies.Apart s) (calm : Calm w)
    (visits : request.Visits p)
    (copied : ∀ token url, p = .looking token →
      w.keys.get? (Copies.key s token) = some url → Current w token url)
    (leads : Leads s outages request ℓ w p) (advances : Advances s p c (.ok a) q)
    (made : attempt (outages c) c w = (.ok a, w')) : Leads s outages request ℓ w' q := by
  cases advances with
  | noted p call incidental => exact leads.of_untouched (untouched_of_process made)
  | connect => exact leads.of_untouched (untouched_of_connect calm made)
  | miss token => exact leads.of_untouched (p := .looking token) (get_of_attempt calm made).2
  | hit token url =>
      obtain rfl := Request.visits_looking.mp visits
      obtain rfl := leads
      obtain ⟨cached, untouched⟩ := get_of_attempt calm made
      obtain ⟨link, found, rfl⟩ := copied token url rfl cached
      exact leads_of_idle rfl untouched (accept_resolve found) (by simp)
  | find token link =>
      obtain ⟨found, untouched⟩ := findLink_of_attempt made
      exact ⟨(ledger_of_untouched untouched).trans leads, by rw [untouched.links, found]⟩
  | absent token =>
      obtain rfl := Request.visits_missed.mp visits
      obtain rfl := leads
      obtain ⟨absent, untouched⟩ := findLink_of_attempt made
      exact leads_of_idle rfl untouched (accept_resolve_absent absent) (by simp)
  | fill token link =>
      obtain rfl := Request.visits_holding.mp visits
      obtain ⟨rfl, found⟩ := leads
      obtain ⟨keys, links⟩ := set_of_attempt calm made
      refine leads_of_outcome rfl ?_ (by simp)
      rw [ledger_set_copy apart keys links]
      exact accept_resolve found
  | retarget token url time link =>
      obtain rfl := Request.visits_retargeting.mp visits
      obtain ⟨links, keys, found⟩ := retargetLink_of_attempt calm made
      obtain rfl := leads
      exact accept_update links keys found
  | nothingRetargeted token url time =>
      obtain rfl := Request.visits_retargeting.mp visits
      obtain ⟨links, keys, absent⟩ := retargetLink_of_attempt calm made
      have idle : w'.links = w.links :=
        links.trans (Table.retarget_of_absent (by rw [← links]; exact absent))
      obtain rfl := leads
      exact leads_of_idle rfl ⟨idle, keys⟩ (accept_update_absent (by rw [← idle]; exact absent))
        (by simp)
  | delete token n found =>
      obtain rfl := Request.visits_deleting.mp visits
      obtain ⟨links, keys, counted⟩ := deleteLink_of_attempt calm made
      obtain rfl := leads
      refine accept_delete links keys fun absent => found ?_
      rw [← counted, Table.count_eq_zero.mpr absent]
  | nothingDeleted token =>
      obtain rfl := Request.visits_deleting.mp visits
      obtain ⟨links, keys, counted⟩ := deleteLink_of_attempt calm made
      have absent := Table.count_eq_zero.mp counted
      have idle : w'.links = w.links := links.trans (Table.delete_of_absent absent)
      obtain rfl := leads
      exact leads_of_idle rfl ⟨idle, keys⟩ (accept_delete_absent absent) (by simp)
  | drop token link? n =>
      obtain ⟨keys, links⟩ := delete_of_attempt calm made
      have same := ledger_delete_copy apart keys links
      cases link? <;> exact leads_of_outcome rfl (by rw [same]; exact leads) (by simp)
  | number url id token coded =>
      obtain ⟨counted, links⟩ := increment_of_attempt calm made
      obtain rfl := leads
      exact ⟨next_of_increment (performed_of_attempt made).1 counted, coded,
        ledger_increment counted links⟩
  | uncoded url id fault uncoded =>
      obtain rfl := Request.visits_counting.mp visits
      obtain ⟨counted, links⟩ := increment_of_attempt calm made
      obtain rfl := leads
      have next := next_of_increment (performed_of_attempt made).1 counted
      refine leads_of_outcome rfl ?_ (by simp)
      rw [ledger_increment counted links, accept_uncoded next uncoded]
      rfl
  | insert url id token =>
      obtain rfl := Request.visits_numbered.mp visits
      obtain ⟨next, coded, same⟩ := leads
      obtain ⟨inserted, keys⟩ := insertLink_of_attempt calm made
      have entries : ℓ.entries = (ledger s w).entries := by rw [same]
      have fresh : ¬ ∃ e ∈ ℓ.entries, e.id = id ∨ e.token = token := by
        rw [entries]
        exact fresh_of_inserted inserted
      refine ⟨freshLink id url token, Table.findId?_insert inserted, ?_⟩
      rw [accept_shorten next coded fresh, ledger_insert inserted keys, same]
      rfl
  | readBack id token link =>
      obtain ⟨link', found', accepts⟩ := leads
      obtain ⟨found, untouched⟩ := readBack_of_attempt made
      rw [found] at found'
      cases found'
      exact leads_of_idle rfl untouched accepts (by simp)
  | measure last? =>
      obtain ⟨found, untouched⟩ := lastId_of_attempt made
      obtain rfl := leads
      refine ⟨ledger_of_untouched untouched, ?_⟩
      rw [lastId_ledger, Table.lastId, found]
  | seed last =>
      obtain rfl := Request.visits_measured.mp visits
      obtain ⟨rfl, rfl⟩ := leads
      obtain ⟨keys, links⟩ := set_of_attempt calm made
      refine leads_of_outcome rfl ?_ (by simp)
      rw [ledger_seed keys links, accept_boot (performed_of_attempt made).1]
      rfl

/-- One call keeps the world in step with the ledger. -/
theorem Leads.step (apart : Copies.Apart s) (calm : Calm w) (visits : request.Visits p)
    (answers : Answers outages request)
    (copied : ∀ token url, p = .looking token →
      w.keys.get? (Copies.key s token) = some url → Current w token url)
    (leads : Leads s outages request ℓ w p) (advances : Advances s p c reply q)
    (made : attempt (outages c) c w = (reply, w')) : Leads s outages request ℓ w' q := by
  cases reply with
  | error fault => exact leads.fail calm visits answers advances made
  | ok a => exact leads.answer apart calm visits copied advances made

/-! ### Refinement, request by request -/

/-- A request that has come to its end does what the ledger accepts. -/
theorem accept_of_leads {outcome : Except Fault Answer} (leads : Leads s outages request ℓ w p)
    (ends : p.outcome? s = some outcome) :
    ℓ.accept s outages request = (outcome.map told, ledger s w) := by
  cases p with
  | broken fault => exact leads.elim
  | owing | looking | missed | holding | retargeting | deleting | counting | numbered | inserted
  | seeding | measured => cases ends
  | _ => exact leads outcome ends

theorem leads_first (s : Settings.KeyValue) (outages : Outages) (request : Request) (w : World) :
    Leads s outages request (ledger s w) w request.first := by
  cases request <;> rfl

/-- A request that is accepted is in step with the ledger that it began with. While it looks for a
copy, the copy is what the catalog has. -/
structure InStep (s : Settings.KeyValue) (outages : Outages) (request : Request) (ℓ : Ledger)
    (p : Phase) (w : World) : Prop where
  leads : Leads s outages request ℓ w p
  copied : ∀ token url, p = .looking token →
    w.keys.get? (Copies.key s token) = some url → Current w token url

theorem current_of_untouched (untouched : Untouched w w') (current : Current w token url) :
    Current w' token url := by
  obtain ⟨link, found, same⟩ := current
  exact ⟨link, by rw [untouched.links]; exact found, same⟩

/-- A request stays in step with its ledger. -/
theorem InStep.step (apart : Copies.Apart s) (answers : Answers outages request) (calm : Calm w)
    (visits : request.Visits p) (holds : InStep s outages request ℓ p w)
    (advances : Advances s p c reply q) (made : attempt (outages c) c w = (reply, w')) :
    InStep s outages request ℓ q w' where
  leads := holds.leads.step apart calm visits answers holds.copied advances made
  copied := by
    rintro token url rfl cached
    have kept (untouched : Untouched w w') (looking : p = .looking token) :
        Current w' token url := by
      rw [untouched.keys] at cached
      exact current_of_untouched untouched (holds.copied token url looking cached)
    cases advances with
    | noted p call incidental => exact kept (untouched_of_process made) rfl
    | connect => exact kept (untouched_of_connect calm made) rfl

/-- A request that is refused asks nothing that changes the world. -/
theorem refused_step {fault : Fault} (answers : Answers outages request) (calm : Calm w)
    (visits : request.Visits p) (refused : p = .refused fault) (same : ledger s w = ℓ)
    (advances : Advances s p c reply q) (made : attempt (outages c) c w = (reply, w')) :
    q = .refused fault ∧ ledger s w' = ℓ := by
  subst refused
  cases advances with
  | noted p call incidental =>
      exact ⟨rfl, (ledger_of_untouched (untouched_of_process made)).trans same⟩
  | connect => exact ⟨rfl, (ledger_of_untouched (untouched_of_connect calm made)).trans same⟩
  | unnoted p call incidental fault => exact absurd made (answered_of_incidental incidental)
  | unconnected p fault =>
      cases refuses_of_answers calm visits answers (.unconnected (s := s) _ fault) made

variable {σ : State}

/-- A request that is served while the catalog answers comes to what it comes to on the ledger,
and the ledger after it is the one of the world. The copy of a token that is resolved must be what
the catalog has. -/
theorem serve_refines (apart : Copies.Apart s) (calm : Calm σ.world)
    (answers : Answers outages request)
    (copied : ∀ token url, request = .resolve token →
      σ.world.keys.get? (Copies.key s token) = some url → Current σ.world token url) :
    ∃ outcome, (σ.serve s request outages).tasks = σ.tasks ++ [⟨request, ofOutcome outcome⟩] ∧
      (ledger s σ.world).serve s outages request =
        (outcome.map told, ledger s (σ.serve s request outages).world) := by
  rcases request.phase_cases with ⟨accepted, enters⟩ | ⟨fault, refused, enters⟩
  · have start : InStep s outages request (ledger s σ.world) request.phase σ.world := by
      rw [enters]
      refine ⟨leads_first s outages request σ.world, fun token url looks => ?_⟩
      cases request <;> cases looks
      exact copied token url rfl
    obtain ⟨q, outcome, tasks, ends, -, -, holds⟩ := State.serve_keeps s outages
      (fun p w _ => InStep s outages request (ledger s σ.world) p w) calm start
      fun calm visits holds advances made => holds.step apart answers calm visits advances made
    refine ⟨outcome, tasks, ?_⟩
    rw [Ledger.serve, accepted]
    exact accept_of_leads holds.leads ends
  · obtain ⟨q, outcome, tasks, ends, -, -, rfl, same⟩ := State.serve_keeps s outages
      (fun p w _ => p = .refused fault ∧ ledger s w = ledger s σ.world) calm ⟨enters, rfl⟩
      fun calm visits holds advances made =>
        refused_step answers calm visits holds.1 holds.2 advances made
    cases ends
    refine ⟨_, tasks, ?_⟩
    rw [Ledger.serve, refused, same]
    rfl

/-! ### Sequential runs -/

/-- No call to the catalog fails and no drop of a copy. Copies may fail to be read or filled,
and the counter may fail. -/
def Unhindered (outages : Outages) : Prop :=
  (∀ call, struck (outages (.database call)) (.database call) = none) ∧
    ∀ key, struck (outages (.keys (.delete key))) (.keys (.delete key)) = none

theorem Unhindered.answers (unhindered : Unhindered outages) (request : Request) :
    Answers outages request := by
  cases request with
  | resolve token => exact ⟨unhindered.1 _, unhindered.1 _⟩
  | _ => exact unhindered.1

theorem unhindered_clear : Unhindered clear := ⟨fun _ => rfl, fun _ => rfl⟩

/-- A token is tainted only while a drop of its copy is pending. -/
def Pending (s : Settings.KeyValue) (p : Phase) (past : List Event) : Prop :=
  ∀ token, Tainted s token past → ∃ link?, p = .owing token link?

/-- Copies that are tainted are still to be dropped, as long as dropping does not fail. -/
theorem Pending.step {past : List Event} {n : Nat} (unhindered : Unhindered outages)
    (calm : Calm w) (pending : Pending s p past) (advances : Advances s p c reply q)
    (made : attempt (outages c) c w = (reply, w')) :
    Pending s q (⟨n, request, c, reply⟩ :: past) := by
  have does := does_of_attempt calm advances made n request
  rintro token (⟨deed, is, changes⟩ | ⟨tainted, untouched⟩)
  · generalize Event.deed? ⟨n, request, c, reply⟩ = deed? at does is
    cases is
    cases does with
    | retarget t url time link =>
        cases changes
        exact ⟨_, rfl⟩
    | delete t =>
        cases changes
        exact ⟨_, rfl⟩
    | _ => exact changes.elim
  · obtain ⟨link?, rfl⟩ := pending token tainted
    cases advances with
    | noted => exact ⟨_, rfl⟩
    | connect => exact ⟨_, rfl⟩
    | drop => exact absurd ⟨_, rfl, rfl⟩ untouched
    | unnoted p call incidental => exact absurd made (answered_of_incidental incidental)
    | unconnected p fault =>
        rcases fault_of_attempt calm (.unconnected (s := s) (.owing token link?) fault) made with
          strikes | refuses
        · rw [unhindered.1] at strikes
          cases strikes
        · cases refuses
    | undropped _ _ fault =>
        rcases fault_of_attempt calm (.undropped (s := s) token link? fault) made with
          strikes | refuses
        · rw [unhindered.2] at strikes
          cases strikes
        · cases refuses
    | undroppable _ _ fault passes =>
        exact absurd (outage_of_keys calm (.undroppable (s := s) token link? fault passes) made)
          passes

/-- Where drops succeed, a request leaves no token tainted. -/
theorem untainted_serve (calm : Calm σ.world) (unhindered : Unhindered outages)
    (untainted : ∀ token, ¬ Tainted s token σ.past) (token : String) :
    ¬ Tainted s token (σ.serve s request outages).past := by
  intro tainted
  obtain ⟨q, outcome, -, ends, -, -, pending⟩ := State.serve_keeps s outages
    (fun p _ past => Pending s p past) calm
    (fun token tainted => absurd tainted (untainted token))
    fun calm visits holds advances made => holds.step unhindered calm advances made
  obtain ⟨link?, rfl⟩ := pending token tainted
  cases ends

theorem outcomes_serve {outcome : Except Fault Answer}
    (tasks : (σ.serve s request outages).tasks = σ.tasks ++ [⟨request, ofOutcome outcome⟩]) :
    (σ.serve s request outages).outcomes = σ.outcomes ++ [some outcome] := by
  rw [State.outcomes, tasks, List.map_append, List.map_singleton, outcome?_ofOutcome]
  rfl

/-- A run in which no call to the catalog and no drop of a copy fails comes, request by request,
to what it comes to on the ledger. -/
theorem serveAll_refines (apart : Copies.Apart s) (calm : Calm σ.world)
    (coherent : Coherent s σ.world σ.past) (untainted : ∀ token, ¬ Tainted s token σ.past)
    (history : List (Request × Outages))
    (unhindered : ∀ served ∈ history, Unhindered served.2) :
    (σ.serveAll s history).outcomes.map (Option.map (Except.map told)) =
        σ.outcomes.map (Option.map (Except.map told)) ++
          ((ledger s σ.world).serveAll s history).1.map some ∧
      ledger s (σ.serveAll s history).world = ((ledger s σ.world).serveAll s history).2 := by
  induction history generalizing σ with
  | nil => exact ⟨(List.append_nil _).symm, rfl⟩
  | cons served rest ih =>
      obtain ⟨request, outages⟩ := served
      have spared : Unhindered outages := unhindered _ List.mem_cons_self
      obtain ⟨calm', coherent'⟩ := coherent_serve request outages apart calm coherent
      obtain ⟨outcome, tasks, refines⟩ := serve_refines apart calm (spared.answers request)
        fun token url _ => coherent token url (untainted token)
      obtain ⟨outcomes, last⟩ := ih calm' coherent'
        (untainted_serve calm spared untainted)
        fun served mem => unhindered served (List.mem_cons_of_mem _ mem)
      rw [outcomes_serve tasks] at outcomes
      simp only [State.serveAll, List.foldl_cons, Ledger.serveAll, refines] at outcomes last ⊢
      refine ⟨?_, last⟩
      rw [outcomes]
      simp

/-- What the catalog alone determines for a token. -/
def catalogOutcome (w : World) (token : String) : Except Fault Answer :=
  match w.links.find? token with
  | some link => .ok (.url link.url)
  | none => .error (.unknownUrl token)

theorem eq_of_told_url {outcome : Except Fault Answer}
    (tells : outcome.map told = .ok (.url url)) : outcome = .ok (.url url) := by
  cases outcome with
  | error fault => cases tells
  | ok answer =>
      cases answer <;> cases tells
      rfl

theorem eq_of_told_entry {outcome : Except Fault Answer} {entry : Entry}
    (tells : outcome.map told = .ok (.entry entry)) :
    ∃ link, outcome = .ok (.link link) ∧ Entry.ofLink link = entry := by
  cases outcome with
  | error fault => cases tells
  | ok answer =>
      cases answer <;> cases tells
      exact ⟨_, rfl, rfl⟩

theorem eq_of_told_fault {outcome : Except Fault Answer} {fault : Fault}
    (tells : outcome.map told = .error fault) : outcome = .error fault := by
  cases outcome with
  | error fault =>
      cases tells
      rfl
  | ok answer => cases tells

/-- A token that is not tainted is resolved to what the catalog alone determines, whether or not
the copies answer. -/
theorem resolve_untainted (apart : Copies.Apart s) (calm : Calm σ.world)
    (coherent : Coherent s σ.world σ.past) (untainted : ¬ Tainted s token σ.past)
    (answers : Answers outages (.resolve token)) :
    (σ.serve s (.resolve token) outages).outcomes =
      σ.outcomes ++ [some (catalogOutcome σ.world token)] := by
  obtain ⟨outcome, tasks, refines⟩ := serve_refines apart calm answers
    fun t url same => by cases same; exact coherent token url untainted
  have accepts : ((ledger s σ.world).accept s outages (.resolve token)).1 = outcome.map told :=
    congrArg Prod.fst refines
  rw [outcomes_serve tasks]
  have same : outcome = catalogOutcome σ.world token := by
    unfold catalogOutcome
    cases found : σ.world.links.find? token with
    | none =>
        rw [accept_resolve_absent found] at accepts
        exact eq_of_told_fault accepts.symm
    | some link =>
        rw [accept_resolve found] at accepts
        exact eq_of_told_url accepts.symm
  rw [same]

/-- Sequential runs are coherent, whatever fails. From a world without copies and after any
requests, each with its own outages: the copy of a token that is not tainted is the address that
the catalog has for it, and a token that is not tainted is resolved to what the catalog alone
determines as long as the catalog answers. If no call to the catalog and no drop has failed, then
the requests have come to what they come to on the ledger. -/
theorem sequential_runs_coherent {w : World} (apart : Copies.Apart s) (calm : Calm w)
    (uncopied : ∀ token, w.keys.get? (Copies.key s token) = none)
    (history : List (Request × Outages)) (ran : (State.start w).serveAll s history = σ) :
    (∀ token url, ¬ Tainted s token σ.past →
      σ.world.keys.get? (Copies.key s token) = some url →
      ∃ link, σ.world.links.find? token = some link ∧ link.url = url) ∧
    (∀ token outages, ¬ Tainted s token σ.past → Answers outages (.resolve token) →
      (σ.serve s (.resolve token) outages).outcomes =
        σ.outcomes ++ [some (catalogOutcome σ.world token)]) ∧
    ((∀ served ∈ history, Unhindered served.2) →
      σ.outcomes.map (Option.map (Except.map told)) =
          ((ledger s w).serveAll s history).1.map some ∧
        ledger s σ.world = ((ledger s w).serveAll s history).2) := by
  subst ran
  have coherent : Coherent s (State.start w).world (State.start w).past := by
    intro token url _ cached
    cases (uncopied token).symm.trans cached
  obtain ⟨calm', coherent'⟩ := coherent_serveAll apart calm coherent history
  refine ⟨coherent', fun token outages untainted answers => ?_, fun unhindered => ?_⟩
  · exact resolve_untainted apart calm' coherent' untainted answers
  · exact serveAll_refines apart calm coherent (fun token tainted => tainted) history unhindered

/-- The link is resolved, which fills its copy, gets another address and is resolved again. -/
def renewal : List (Request × Outages) :=
  [(.resolve "b", clear), (.update "b" "https://d.example/", clear), (.resolve "b", clear)]

def renewed : State := (State.start lonely).serveAll {} renewal

/-- The link that was retargeted is resolved at its new address. -/
theorem renewed_link_coherent :
    (∃ link, renewed.world.links.find? "b" = some link ∧ link.url = "https://d.example/") ∧
      (renewed.serve {} (.resolve "b") clear).outcomes =
        renewed.outcomes ++ [some (catalogOutcome renewed.world "b")] ∧
      renewed.outcomes.map (Option.map (Except.map told)) =
        ((ledger {} lonely).serveAll {} renewal).1.map some := by
  have calm : Calm lonely := rfl
  obtain ⟨coherent, resolves, refines⟩ :=
    sequential_runs_coherent (s := {}) (by decide) calm (fun _ => rfl) renewal rfl
  have untainted : ¬ Tainted {} "b" renewed.past := by decide
  have copied : renewed.world.keys.get? (Copies.key {} "b") = some "https://d.example/" := rfl
  refine ⟨coherent "b" _ untainted copied, resolves "b" clear untainted ⟨rfl, rfl⟩,
    (refines fun served mem => ?_).1⟩
  simp only [renewal, List.mem_cons, List.not_mem_nil, or_false] at mem
  rcases mem with rfl | rfl | rfl <;> exact ⟨fun _ => rfl, fun _ => rfl⟩

end LinkShortener.Traffic
