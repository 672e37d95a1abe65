import LinkShortener.Proofs.Click.Statistics
import LinkShortener.Proofs.Web.Redirect

/-!
Visits on their way from redirects to the table of clicks. Redirects and deliveries take their
calls in any order. What a redirect has sent may be delivered any number of times, and a delivery
may fail at any call; the atlas may tell another place every time. Event ids are given to one
redirect each.

The argument follows a visit: a redirect sends one message at most, the message brings the visit
with the event id of the redirect and its token, and the click that a delivery makes of it has the
same event id and token. So the table, which keeps one row for each event id, has one row for each
redirect of which a delivery has succeeded, and that row is the click of the first such delivery.

Main statement: `each_visit_counted_once`.
-/

namespace LinkShortener.Stream

open Routine
open Visit (Progress Takes Ends tellsRepeated)
open Web (Publishing Publishes)

/-- A redirect of a token with the event id that is there for its visit: what is left of it, and
the payloads that it has sent. -/
structure Redirect where
  token : String
  event : String
  rest : Routine Web.Exchange
  sent : List (List UInt8)

/-- A delivery of what the redirect with a number has sent: what is left of it, and the click that
the store has taken from it or told to be there. -/
structure Delivery where
  origin : Nat
  rest : Routine Click
  stored : Option Click

/-- The table of clicks, all redirects and deliveries so far, and the successes of deliveries in
their order: the number of the redirect and the click that was made of its visit. -/
structure State where
  clicks : Click.Table
  redirects : List Redirect
  deliveries : List Delivery
  successes : List (Nat × Click)

/-! ### Steps -/

/-- What can come of a call. Inserting a click is answered by the table or fails without effect,
and of a repeated click the store tells only when its event id is taken. Notes and meters do not
fail. Whatever else is asked may come to anything, and leaves the table alone. -/
def Answers (clicks : Click.Table) : (c : Call) → Except Fault c.Reply → Click.Table → Prop
  | .database (.insertClick click), .ok _, clicks' => clicks.insert click = .ok clicks'
  | .database (.insertClick click), .error fault, clicks' => clicks' = clicks ∧
      (tellsRepeated fault = true → ∃ fault', clicks.insert click = .error fault')
  | .database .connect, .error fault, clicks' => clicks' = clicks ∧ tellsRepeated fault = false
  | .process (.log _), reply, clicks' => clicks' = clicks ∧ reply = .ok ()
  | .process (.count _), reply, clicks' => clicks' = clicks ∧ reply = .ok ()
  | _, _, clicks' => clicks' = clicks

/-- Only inserting a click changes the table. -/
theorem Answers.unchanged {clicks clicks' : Click.Table} {c : Call} {reply : Except Fault c.Reply}
    (answers : Answers clicks c reply clicks')
    (other : ∀ click, c ≠ .database (.insertClick click)) : clicks' = clicks := by
  unfold Answers at answers
  split at answers
  · exact absurd rfl (other _)
  · exact absurd rfl (other _)
  · exact answers.1
  · exact answers.1
  · exact answers.1
  · exact answers

/-- The event id that is given is the one that is there. -/
def Names (event : String) : (c : Call) → Except Fault c.Reply → Prop
  | .process .freshEvent, .ok given => given = event
  | _, _ => True

/-- What a call sends to the bus. -/
def sentBy : Call → List (List UInt8)
  | .producer (.send _ _ value) => [value.toUTF8.toList]
  | _ => []

/-- The click that the store takes or tells to be there. -/
def kept? : (c : Call) → Except Fault c.Reply → Option Click
  | .database (.insertClick click), .ok _ => some click
  | .database (.insertClick click), .error fault =>
      if tellsRepeated fault then some click else none
  | _, _ => none

def Redirect.after (x : Redirect) (c : Call) (rest : Routine Web.Exchange) : Redirect :=
  { x with rest := rest, sent := x.sent ++ sentBy c }

def Delivery.after (d : Delivery) (c : Call) (reply : Except Fault c.Reply)
    (rest : Routine Click) : Delivery :=
  { d with rest := rest, stored := d.stored.or (kept? c reply) }

namespace State

/-- Before the first request. -/
def start : State := ⟨.empty, [], [], []⟩

/-- One step: a request for a redirect comes in, with an event id that no other one has; something
that was sent is delivered; or a redirect or a delivery makes its next call. -/
inductive Steps (settings : Settings) : State → State → Prop
  | redirect (σ : State) (r : Web.Request) (token event : String)
      (route : Web.Route.find r.method r.path.toList = .found .redirect token)
      (fresh : ∀ x ∈ σ.redirects, x.event ≠ event) :
      Steps settings σ { σ with
        redirects := σ.redirects ++ [⟨token, event, Web.serve settings r, []⟩] }
  | deliver (σ : State) (k : Nat) (x : Redirect) (payload : List UInt8)
      (is : σ.redirects[k]? = some x) (sent : payload ∈ x.sent) :
      Steps settings σ { σ with
        deliveries := σ.deliveries ++ [⟨k, Visit.process .rows payload, none⟩] }
  | serve (σ : State) (k : Nat) (x : Redirect) (c : Call)
      (next : Except Fault c.Reply → Routine Web.Exchange) (reply : Except Fault c.Reply)
      (clicks : Click.Table) (is : σ.redirects[k]? = some x) (left : x.rest = .ask c next)
      (names : Names x.event c reply) (answers : Answers σ.clicks c reply clicks) :
      Steps settings σ { σ with
        clicks := clicks
        redirects := σ.redirects.set k (x.after c (next reply)) }
  | process (σ : State) (i : Nat) (d : Delivery) (c : Call)
      (next : Except Fault c.Reply → Routine Click) (reply : Except Fault c.Reply)
      (clicks : Click.Table) (is : σ.deliveries[i]? = some d) (left : d.rest = .ask c next)
      (answers : Answers σ.clicks c reply clicks) :
      Steps settings σ { σ with
        clicks := clicks
        deliveries := σ.deliveries.set i (d.after c reply (next reply))
        successes := σ.successes ++ (kept? c reply).toList.map (d.origin, ·) }

abbrev Reaches (settings : Settings) : State → State → Prop :=
  Relation.ReflTransGen (Steps settings)

/-- The click that a redirect counts for among those of a token: that of the first delivery that
has succeeded. -/
def countedAt (σ : State) (token : String) (k : Nat) : Option Click :=
  if (σ.redirects[k]?).map (·.token) = some token then σ.successes.lookup k else none

/-- The clicks of a token that are to be counted: one for each redirect of which a delivery has
succeeded. -/
def counted (σ : State) (token : String) : List Click :=
  (List.range σ.redirects.length).filterMap (σ.countedAt token)

end State

/-! ### What a redirect has sent -/

namespace Redirect

variable {x : Redirect} {p q : Publishing} {c : Call} {reply : Except Fault c.Reply} {v : Visit}

/-- A redirect has sent this visit and nothing else. -/
structure Published (x : Redirect) (v : Visit) : Prop where
  event : v.event = x.event
  token : v.token = x.token
  sent : x.sent = [v.payload]

/-- What a redirect has sent when it is so far with its visit. -/
def Stands (x : Redirect) : Publishing → Prop
  | .unnamed => x.sent = []
  | .named event => event = x.event ∧ x.sent = []
  | .sent => ∃ v, x.Published v

theorem sentBy_of_mute (mute : Web.Mute c) : sentBy c = [] := by
  cases c with
  | producer call => cases call <;> first | rfl | exact mute.elim
  | _ => rfl

/-- A visit that was published stays so. -/
theorem Published.after (published : x.Published v) (quiet : sentBy c = [])
    (rest : Routine Web.Exchange) : (x.after c rest).Published v :=
  ⟨published.event, published.token, by rw [Redirect.after, quiet, List.append_nil, published.sent]⟩

/-- A call keeps what a redirect has sent in step with how far it is. -/
theorem Stands.step (stands : x.Stands p) (publishes : Publishes x.token p c reply q)
    (names : Names x.event c reply) (rest : Routine Web.Exchange) : (x.after c rest).Stands q := by
  cases publishes with
  | mute p c reply mute =>
      have sent : (x.after c rest).sent = x.sent := by
        rw [Redirect.after, sentBy_of_mute mute, List.append_nil]
      cases p with
      | unnamed => exact sent.trans stands
      | named event => exact ⟨stands.1, sent.trans stands.2⟩
      | sent =>
          obtain ⟨v, published⟩ := stands
          exact ⟨v, published.after (sentBy_of_mute mute) rest⟩
  | name event => exact ⟨names, by rw [Redirect.after, show x.sent = [] from stands]; rfl⟩
  | nameless fault => exact (List.append_nil _).trans stands
  | send v topic reply own =>
      exact ⟨v, stands.1, own, by rw [Redirect.after, stands.2]; rfl⟩

/-- What was sent stays so. -/
theorem Published.step (published : x.Published v) (stands : x.Stands p)
    (publishes : Publishes x.token p c reply q) (rest : Routine Web.Exchange) :
    (x.after c rest).Published v := by
  cases publishes with
  | mute p c reply mute => exact published.after (sentBy_of_mute mute) rest
  | name event | nameless fault => exact published.after rfl rest
  | send v topic reply own => cases published.sent.symm.trans stands.2

end Redirect

/-! ### What a delivery does -/

namespace Delivery

variable {d : Delivery} {p q : Progress} {c : Call} {reply : Except Fault c.Reply} {v : Visit}
  {clicks clicks' : Click.Table}

/-- The click of a delivery has the event id and the token of its visit. -/
structure Of (v : Visit) (click : Click) : Prop where
  event : click.event = v.event
  token : click.token = v.token

/-- What a delivery of a visit has to do with the store when it is so far. -/
def Stands (d : Delivery) (v : Visit) : Progress → Prop
  | .reading payload => payload = v.payload ∧ d.stored = none
  | .placing read => read = v ∧ d.stored = none
  | .storing click => Of v click ∧ d.stored = none
  | .stored click | .repeated click => Of v click ∧ d.stored = some click
  | .failed => d.stored = none

/-- A call of a delivery keeps no click and leaves the table as it was, or it is the first to keep
a click of the visit, which is inserted or refused. -/
inductive Keeps (d : Delivery) (v : Visit) (clicks clicks' : Click.Table) : Option Click → Prop
  | nothing (same : clicks' = clicks) : Keeps d v clicks clicks' none
  | inserted (click : Click) (of : Of v click) (first : d.stored = none)
      (inserted : clicks.insert click = .ok clicks') : Keeps d v clicks clicks' (some click)
  | refused (click : Click) (fault : Fault) (of : Of v click) (first : d.stored = none)
      (refused : clicks.insert click = .error fault) (same : clicks' = clicks) :
      Keeps d v clicks clicks' (some click)

theorem stored_after {rest : Routine Click} (none : kept? c reply = none) :
    (d.after c reply rest).stored = d.stored := by
  rw [Delivery.after, none, Option.or_none]

theorem Stands.quiet (stands : d.Stands v p) (none : kept? c reply = none) (rest : Routine Click) :
    (d.after c reply rest).Stands v p := by
  cases p with
  | failed => exact (stored_after none).trans stands
  | _ => exact ⟨stands.1, (stored_after none).trans stands.2⟩

/-- A delivery that has stored a click has stored one of the visit. -/
theorem Stands.of_stored (stands : d.Stands v p) {click : Click} (stored : d.stored = some click) :
    Of v click := by
  cases p with
  | stored kept | repeated kept =>
      cases stands.2.symm.trans stored
      exact stands.1
  | failed => cases stored.symm.trans stands
  | _ => cases stored.symm.trans stands.2

/-- A call of a delivery keeps it in step with the store. -/
theorem Stands.step (stands : d.Stands v p) (takes : Takes p c reply q)
    (answers : Answers clicks c reply clicks') (rest : Routine Click) :
    (d.after c reply rest).Stands v q ∧ Keeps d v clicks clicks' (kept? c reply) := by
  cases takes with
  | note p call noted a => cases noted <;> exact ⟨stands.quiet rfl rest, .nothing answers.1⟩
  | unnoted p call noted fault => cases noted <;> cases answers.2
  | name payload event => exact ⟨stands.quiet rfl rest, .nothing answers⟩
  | unnamed payload fault | untimed payload fault =>
      exact ⟨(stands.quiet rfl rest).2, .nothing answers⟩
  | read payload time read brings =>
      obtain ⟨rfl, stored⟩ := stands
      cases (Visit.brings_payload_iff v).mp brings
      exact ⟨⟨rfl, (stored_after rfl).trans stored⟩, .nothing answers⟩
  | refuse payload time flaws brings =>
      obtain ⟨rfl, -⟩ := stands
      cases (Visit.brings_payload_iff v).mp brings
  | place read place device classified =>
      obtain ⟨rfl, stored⟩ := stands
      exact ⟨⟨⟨rfl, rfl⟩, (stored_after rfl).trans stored⟩, .nothing answers⟩
  | unplace read fault device absorbed classified =>
      obtain ⟨rfl, stored⟩ := stands
      exact ⟨⟨⟨rfl, rfl⟩, (stored_after rfl).trans stored⟩, .nothing answers⟩
  | unlocated read fault passes => exact ⟨(stands.quiet rfl rest).2, .nothing answers⟩
  | unclassified read reply flaw unclassified =>
      exact ⟨(stands.quiet rfl rest).2, .nothing answers⟩
  | connect click => exact ⟨stands.quiet rfl rest, .nothing answers⟩
  | conflicted click fault repeats =>
      rw [answers.2] at repeats
      cases repeats
  | unconnected click fault fails =>
      exact ⟨(stands.quiet rfl rest).2, .nothing answers.1⟩
  | insert click =>
      refine ⟨⟨stands.1, ?_⟩, .inserted click stands.1 stands.2 answers⟩
      rw [Delivery.after, stands.2]
      rfl
  | skip click fault repeats =>
      obtain ⟨same, refused⟩ := answers
      obtain ⟨fault', refused⟩ := refused repeats
      have kept : kept? (.database (.insertClick click)) (.error fault) = some click :=
        if_pos repeats
      rw [kept]
      refine ⟨⟨stands.1, ?_⟩, .refused click fault' stands.1 stands.2 refused same⟩
      rw [Delivery.after, stands.2, kept]
      rfl
  | uninserted click fault fails =>
      have kept : kept? (.database (.insertClick click)) (.error fault) = none :=
        if_neg (by simp [fails])
      rw [kept]
      exact ⟨(stands.quiet kept rest).2, .nothing answers.1⟩

end Delivery

/-- A delivery that goes on adds at most its own click to those stored. -/
theorem mem_deliveries_set {ds : List Delivery} {i : Nat} {d e : Delivery} (is : ds[i]? = some d)
    (origin : e.origin = d.origin)
    (kept : ∀ click, d.stored = some click → e.stored = some click) (k : Nat) (click : Click) :
    (∃ x ∈ ds.set i e, x.origin = k ∧ x.stored = some click) ↔
      (∃ x ∈ ds, x.origin = k ∧ x.stored = some click) ∨
        e.origin = k ∧ e.stored = some click := by
  obtain ⟨inside, here⟩ := List.getElem?_eq_some_iff.mp is
  constructor
  · rintro ⟨x, mem, stored⟩
    rcases List.mem_or_eq_of_mem_set mem with mem | rfl
    · exact .inl ⟨x, mem, stored⟩
    · exact .inr stored
  · rintro (⟨x, mem, stored⟩ | stored)
    · obtain ⟨j, there⟩ := List.mem_iff_getElem?.mp mem
      by_cases same : i = j
      · subst same
        cases is.symm.trans there
        exact ⟨e, List.mem_set inside e, origin.trans stored.1, kept click stored.2⟩
      · exact ⟨x, List.mem_of_getElem? ((List.getElem?_set_ne same).trans there), stored⟩
    · exact ⟨e, List.mem_set inside e, stored⟩

/-! ### What holds all along -/

/-- Redirects keep their numbers, event ids, tokens and what they have sent. -/
def Extends (xs ys : List Redirect) : Prop :=
  ∀ (k : Nat) (x : Redirect), xs[k]? = some x → ∃ y : Redirect, ys[k]? = some y ∧
    y.event = x.event ∧ ∀ v, x.Published v → y.Published v

theorem Extends.append (xs : List Redirect) (x : Redirect) : Extends xs (xs ++ [x]) := by
  intro k y is
  have inside := (List.getElem?_eq_some_iff.mp is).1
  exact ⟨y, by rw [List.getElem?_append_left inside, is], rfl, fun _ => id⟩

theorem Extends.set {xs : List Redirect} {k : Nat} {x y : Redirect} (is : xs[k]? = some x)
    (event : y.event = x.event) (published : ∀ v, x.Published v → y.Published v) :
    Extends xs (xs.set k y) := by
  intro j z there
  have inside := (List.getElem?_eq_some_iff.mp there).1
  by_cases same : k = j
  · subst same
    cases is.symm.trans there
    exact ⟨y, List.getElem?_set_self inside, event, published⟩
  · exact ⟨z, by rw [List.getElem?_set_ne same, there], rfl, fun _ => id⟩

/-- What holds of every state. -/
structure Sound (σ : State) : Prop where
  events : (σ.redirects.map (·.event)).Nodup
  redirects : ∀ x ∈ σ.redirects, ∃ p,
    Follows (Publishes x.token) (fun _ _ => True) x.rest p ∧ x.Stands p
  deliveries : ∀ d ∈ σ.deliveries, ∃ x v p, σ.redirects[d.origin]? = some x ∧ x.Published v ∧
    Follows Takes Ends d.rest p ∧ d.Stands v p
  stored : ∀ k click, (k, click) ∈ σ.successes ↔
    ∃ d ∈ σ.deliveries, d.origin = k ∧ d.stored = some click
  rows : ∀ click, click ∈ σ.clicks.rows ↔ ∃ k, σ.successes.lookup k = some click

namespace Sound

variable {settings : Settings} {σ σ' : State}

theorem start : Sound .start where
  events := .nil
  redirects _ mem := absurd mem List.not_mem_nil
  deliveries _ mem := absurd mem List.not_mem_nil
  stored k click := by simp [State.start]
  rows click := by simp [State.start, Click.Table.empty]

/-- A success is that of a redirect, whose event id and token its click has. -/
theorem redirect_of_success (sound : Sound σ) {k : Nat} {click : Click}
    (mem : (k, click) ∈ σ.successes) :
    ∃ x, σ.redirects[k]? = some x ∧ click.event = x.event ∧ click.token = x.token := by
  obtain ⟨d, memD, rfl, stored⟩ := (sound.stored k click).mp mem
  obtain ⟨x, v, p, is, published, -, stands⟩ := sound.deliveries d memD
  have of := stands.of_stored stored
  exact ⟨x, is, of.event.trans published.event, of.token.trans published.token⟩

/-- Redirects with one event id have one number. -/
theorem number_unique (sound : Sound σ) {k j : Nat} {x y : Redirect}
    (is : σ.redirects[k]? = some x) (is' : σ.redirects[j]? = some y) (same : x.event = y.event) :
    k = j := by
  have inside : k < (σ.redirects.map (·.event)).length := by
    rw [List.length_map]
    exact (List.getElem?_eq_some_iff.mp is).1
  refine (List.getElem?_inj inside sound.events).mp ?_
  rw [List.getElem?_map, List.getElem?_map, is, is', Option.map_some, Option.map_some, same]

theorem mem_of_lookup {k : Nat} {click : Click} {successes : List (Nat × Click)}
    (found : successes.lookup k = some click) : (k, click) ∈ successes := by
  obtain ⟨before, after, rfl, -⟩ := List.lookup_eq_some_iff.mp found
  simp

/-- What holds of deliveries does so when the redirects go on. -/
theorem deliveries_extend (sound : Sound σ) {redirects : List Redirect}
    (extends' : Extends σ.redirects redirects) :
    ∀ d ∈ σ.deliveries, ∃ x v p, redirects[d.origin]? = some x ∧ x.Published v ∧
      Follows Takes Ends d.rest p ∧ d.Stands v p := by
  intro d mem
  obtain ⟨x, v, p, is, published, follows, stands⟩ := sound.deliveries d mem
  obtain ⟨y, is', -, kept⟩ := extends' d.origin x is
  exact ⟨y, v, p, is', kept v published, follows, stands⟩

/-- A request comes in. -/
theorem redirect (sound : Sound σ) {r : Web.Request} {token event : String}
    (route : Web.Route.find r.method r.path.toList = .found .redirect token)
    (fresh : ∀ x ∈ σ.redirects, x.event ≠ event) :
    Sound { σ with redirects := σ.redirects ++ [⟨token, event, Web.serve settings r, []⟩] } where
  events := by
    rw [List.map_append, List.nodup_append]
    refine ⟨sound.events, List.nodup_singleton _, ?_⟩
    intro a memA b memB
    obtain ⟨x, mem, rfl⟩ := List.mem_map.mp memA
    rw [List.mem_singleton.mp memB]
    exact fresh x mem
  redirects x mem := by
    rcases List.mem_append.mp mem with mem | mem
    · exact sound.redirects x mem
    · rw [List.mem_singleton.mp mem]
      exact ⟨.unnamed, Web.follows_serve route, rfl⟩
  deliveries := sound.deliveries_extend (.append _ _)
  stored := sound.stored
  rows := sound.rows

/-- What a redirect has sent is delivered. -/
theorem deliver (sound : Sound σ) {k : Nat} {x : Redirect} {payload : List UInt8}
    (is : σ.redirects[k]? = some x) (sent : payload ∈ x.sent) :
    Sound { σ with deliveries := σ.deliveries ++ [⟨k, Visit.process .rows payload, none⟩] } where
  events := sound.events
  redirects := sound.redirects
  deliveries d mem := by
    rcases List.mem_append.mp mem with mem | mem
    · exact sound.deliveries d mem
    · rw [List.mem_singleton.mp mem]
      obtain ⟨p, -, stands⟩ := sound.redirects x (List.mem_of_getElem? is)
      obtain ⟨v, published⟩ : ∃ v, x.Published v := by
        cases p with
        | sent => exact stands
        | unnamed => exact absurd (stands ▸ sent) List.not_mem_nil
        | named event => exact absurd (stands.2 ▸ sent) List.not_mem_nil
      rw [published.sent, List.mem_singleton] at sent
      exact ⟨x, v, .reading payload, is, published, Visit.follows_process payload, sent, rfl⟩
  stored k click := by
    rw [sound.stored]
    constructor
    · rintro ⟨d, mem, origin, stored⟩
      exact ⟨d, List.mem_append_left _ mem, origin, stored⟩
    · rintro ⟨d, mem, origin, stored⟩
      rcases List.mem_append.mp mem with mem | mem
      · exact ⟨d, mem, origin, stored⟩
      · rw [List.mem_singleton.mp mem] at stored
        cases stored
  rows := sound.rows

/-- A redirect makes a call. -/
theorem serve (sound : Sound σ) {k : Nat} {x : Redirect} {c : Call}
    {next : Except Fault c.Reply → Routine Web.Exchange} {reply : Except Fault c.Reply}
    {clicks : Click.Table} (is : σ.redirects[k]? = some x) (left : x.rest = .ask c next)
    (names : Names x.event c reply) (answers : Answers σ.clicks c reply clicks) :
    Sound { σ with
      clicks := clicks
      redirects := σ.redirects.set k (x.after c (next reply)) } := by
  obtain ⟨p, follows, stands⟩ := sound.redirects x (List.mem_of_getElem? is)
  rw [left] at follows
  obtain ⟨q, publishes, rest⟩ := follows_ask.mp follows reply
  obtain rfl : clicks = σ.clicks := by
    refine answers.unchanged fun click inserts => ?_
    subst inserts
    cases publishes with
    | mute _ _ _ mute => exact mute
  have events : (σ.redirects.set k (x.after c (next reply))).map (·.event) =
      σ.redirects.map (·.event) := by
    obtain ⟨inside, here⟩ := List.getElem?_eq_some_iff.mp is
    calc (σ.redirects.set k (x.after c (next reply))).map (·.event)
        = (σ.redirects.set k x).map (·.event) := by rw [List.map_set, List.map_set]; rfl
      _ = σ.redirects.map (·.event) := by rw [← here, List.set_getElem_self]
  refine ⟨events ▸ sound.events, fun y mem => ?_, ?_, sound.stored, sound.rows⟩
  · rcases List.mem_or_eq_of_mem_set mem with mem | rfl
    · exact sound.redirects y mem
    · exact ⟨q, rest, stands.step publishes names _⟩
  · exact sound.deliveries_extend
      (.set is rfl fun v published => published.step stands publishes _)

/-- The successes stay those of the deliveries. -/
theorem stored_keeps (sound : Sound σ) {i : Nat} {d e : Delivery} {v : Visit}
    {clicks : Click.Table} {kept : Option Click} (is : σ.deliveries[i]? = some d)
    (origin : e.origin = d.origin) (stored : e.stored = d.stored.or kept)
    (keeps : d.Keeps v σ.clicks clicks kept) (k : Nat) (click : Click) :
    (k, click) ∈ σ.successes ++ kept.toList.map (d.origin, ·) ↔
      ∃ x ∈ σ.deliveries.set i e, x.origin = k ∧ x.stored = some click := by
  have mono : ∀ click, d.stored = some click → e.stored = some click := by
    intro click before
    rw [stored, before, Option.some_or]
  rw [List.mem_append, sound.stored, mem_deliveries_set is origin mono, stored, origin]
  cases keeps with
  | nothing same =>
      rw [Option.or_none]
      constructor
      · rintro (old | new)
        · exact .inl old
        · cases new
      · rintro (old | this)
        · exact .inl old
        · exact .inl ⟨d, List.mem_of_getElem? is, this⟩
  | inserted click' of first inserted | refused click' fault of first refused same =>
      rw [first]
      simp [eq_comm]

/-- The first success of a visit is the one that counts. -/
theorem lookup_concat (successes : List (Nat × Click)) (n : Nat) (click : Click) (k : Nat) :
    (successes ++ [(n, click)]).lookup k =
      (successes.lookup k).or (if k = n then some click else none) := by
  rw [List.lookup_append, List.lookup_cons, List.lookup_nil]
  by_cases same : k = n
  · rw [if_pos same, beq_iff_eq.mpr same]
  · rw [if_neg same, beq_false_of_ne same]

/-- A row with the event id of a redirect is the first success of the redirect. -/
theorem lookup_of_row (sound : Sound σ) {n : Nat} {x : Redirect} (is : σ.redirects[n]? = some x)
    {row : Click} (mem : row ∈ σ.clicks.rows) (same : row.event = x.event) :
    σ.successes.lookup n = some row := by
  obtain ⟨k, found⟩ := (sound.rows row).mp mem
  obtain ⟨y, there, event, -⟩ := sound.redirect_of_success (mem_of_lookup found)
  rwa [← sound.number_unique there is (event.symm.trans same)]

/-- A redirect whose event id no row has is without a success. -/
theorem lookup_of_apart (sound : Sound σ) {n : Nat} {x : Redirect} (is : σ.redirects[n]? = some x)
    (apart : ∀ row ∈ σ.clicks.rows, row.event ≠ x.event) : σ.successes.lookup n = none := by
  refine Option.eq_none_iff_forall_ne_some.mpr fun row found => ?_
  have mem := (sound.rows row).mpr ⟨_, found⟩
  obtain ⟨y, there, event, -⟩ := sound.redirect_of_success (mem_of_lookup found)
  cases is.symm.trans there
  exact apart row mem event

/-- The rows stay the clicks of the first successes. -/
theorem rows_keeps (sound : Sound σ) {d : Delivery} {x : Redirect} {v : Visit}
    {clicks : Click.Table} {kept : Option Click} (is : σ.redirects[d.origin]? = some x)
    (published : x.Published v) (keeps : d.Keeps v σ.clicks clicks kept) (click : Click) :
    click ∈ clicks.rows ↔
      ∃ k, (σ.successes ++ kept.toList.map (d.origin, ·)).lookup k = some click := by
  cases keeps with
  | nothing same =>
      rw [same, Option.toList_none, List.map_nil, List.append_nil]
      exact sound.rows click
  | inserted click' of first inserted =>
      obtain ⟨apart, rows⟩ := Click.Table.insert_eq_ok.mp inserted
      have event : click'.event = x.event := of.event.trans published.event
      have new := sound.lookup_of_apart is fun row mem same => apart row mem (same.trans event.symm)
      rw [rows, List.mem_append, List.mem_singleton, sound.rows]
      simp only [Option.toList_some, List.map_singleton, lookup_concat]
      constructor
      · rintro (⟨k, found⟩ | rfl)
        · exact ⟨k, by rw [found, Option.some_or]⟩
        · exact ⟨d.origin, by rw [new, if_pos rfl, Option.none_or]⟩
      · rintro ⟨k, found⟩
        rcases Option.or_eq_some_iff.mp found with old | ⟨-, added⟩
        · exact .inl ⟨k, old⟩
        · split at added
          · exact .inr (Option.some.inj added).symm
          · cases added
  | refused click' fault of first refused same =>
      obtain ⟨⟨row, mem, event⟩, -⟩ := Click.Table.insert_eq_error refused
      have found := sound.lookup_of_row is mem (event.trans (of.event.trans published.event))
      rw [same, sound.rows]
      refine exists_congr fun k => ?_
      rw [Option.toList_some, List.map_singleton, lookup_concat]
      by_cases here : k = d.origin
      · rw [here, found, Option.some_or]
      · rw [if_neg here, Option.or_none]

/-- A delivery makes a call. -/
theorem process (sound : Sound σ) {i : Nat} {d : Delivery} {c : Call}
    {next : Except Fault c.Reply → Routine Click} {reply : Except Fault c.Reply}
    {clicks : Click.Table} (is : σ.deliveries[i]? = some d) (left : d.rest = .ask c next)
    (answers : Answers σ.clicks c reply clicks) :
    Sound { σ with
      clicks := clicks
      deliveries := σ.deliveries.set i (d.after c reply (next reply))
      successes := σ.successes ++ (kept? c reply).toList.map (d.origin, ·) } := by
  obtain ⟨x, v, p, origin, published, follows, stands⟩ :=
    sound.deliveries d (List.mem_of_getElem? is)
  rw [left] at follows
  obtain ⟨q, takes, rest⟩ := follows_ask.mp follows reply
  obtain ⟨stands', keeps⟩ := stands.step takes answers (next reply)
  refine ⟨sound.events, sound.redirects, fun d' mem => ?_, fun k click => ?_, fun click => ?_⟩
  · rcases List.mem_or_eq_of_mem_set mem with mem | rfl
    · exact sound.deliveries d' mem
    · exact ⟨x, v, q, origin, published, rest, stands'⟩
  · exact sound.stored_keeps (e := d.after c reply (next reply)) is rfl rfl keeps k click
  · exact sound.rows_keeps origin published keeps click

/-- Every step keeps it. -/
theorem step (sound : Sound σ) (steps : State.Steps settings σ σ') : Sound σ' := by
  cases steps with
  | redirect r token event route fresh => exact sound.redirect route fresh
  | deliver k x payload is sent => exact sound.deliver is sent
  | serve k x c next reply clicks is left names answers => exact sound.serve is left names answers
  | process i d c next reply clicks is left answers => exact sound.process is left answers

/-- Every state that can be reached is sound. -/
theorem of_reaches (reaches : State.Reaches settings .start σ) : Sound σ := by
  induction reaches with
  | refl => exact .start
  | tail _ steps ih => exact ih.step steps

/-! ### Counting -/

theorem lookup_of_countedAt {token : String} {k : Nat} {click : Click}
    (counts : σ.countedAt token k = some click) : σ.successes.lookup k = some click := by
  unfold State.countedAt at counts
  split at counts
  · exact counts
  · cases counts

/-- The clicks counted for a token are the successes of its redirects. -/
theorem mem_counted {token : String} {click : Click} : click ∈ σ.counted token ↔
    ∃ k x, σ.redirects[k]? = some x ∧ x.token = token ∧ σ.successes.lookup k = some click := by
  simp only [State.counted, List.mem_filterMap, List.mem_range, State.countedAt, ite_eq_iff,
    reduceCtorEq, and_false, or_false, Option.map_eq_some_iff]
  constructor
  · rintro ⟨k, -, ⟨x, is, own⟩, found⟩
    exact ⟨k, x, is, own, found⟩
  · rintro ⟨k, x, is, own, found⟩
    exact ⟨k, (List.getElem?_eq_some_iff.mp is).1, ⟨x, is, own⟩, found⟩

/-- The rows of a token are the clicks that are to be counted. -/
theorem perm_counted (sound : Sound σ) (token : String) :
    (σ.clicks.ofToken token).Perm (σ.counted token) := by
  have rows : σ.clicks.rows.Nodup :=
    σ.clicks.apart.imp fun apart same => apart (congrArg Click.event same)
  refine (List.perm_ext_iff_of_nodup (rows.filter _) ?_).mpr fun click => ?_
  · refine List.nodup_range.filterMap fun k j click here there => ?_
    obtain ⟨x, is, event, -⟩ := sound.redirect_of_success (mem_of_lookup (lookup_of_countedAt here))
    obtain ⟨y, is', event', -⟩ :=
      sound.redirect_of_success (mem_of_lookup (lookup_of_countedAt there))
    exact sound.number_unique is is' (event.symm.trans event')
  · simp only [mem_counted, List.mem_filter, beq_iff_eq, sound.rows]
    constructor
    · rintro ⟨⟨k, found⟩, rfl⟩
      obtain ⟨x, is, -, token⟩ := sound.redirect_of_success (mem_of_lookup found)
      exact ⟨k, x, is, token.symm, found⟩
    · rintro ⟨k, x, is, rfl, found⟩
      obtain ⟨y, there, -, token⟩ := sound.redirect_of_success (mem_of_lookup found)
      cases is.symm.trans there
      exact ⟨⟨k, found⟩, token⟩

/-- A delivery that has ended has succeeded exactly if the store has its click. -/
theorem stored_of_ended (sound : Sound σ) {d : Delivery} (mem : d ∈ σ.deliveries) :
    (∀ click, d.rest = .done click → d.stored = some click) ∧
      ∀ fault, d.rest = .fail fault → d.stored = none := by
  obtain ⟨x, v, p, -, -, follows, stands⟩ := sound.deliveries d mem
  constructor
  · intro click done
    rw [done, follows_done] at follows
    cases p with
    | stored kept | repeated kept =>
        cases follows
        exact stands.2
    | _ => exact follows.elim
  · intro fault failed
    rw [failed, follows_fail] at follows
    cases p with
    | reading payload => exact stands.2
    | failed => exact stands
    | _ => exact follows.elim

end Sound

/-- In every state that is reached from an empty table, the tally of a token reports on the clicks
that are to be counted for it: one for each of its redirects of which a delivery has succeeded,
which is the click of the first such delivery. The successes are those of the deliveries that have
ended with a click, and of some that are about to. -/
theorem each_visit_counted_once {settings : Settings} {σ : State}
    (reaches : State.Reaches settings .start σ) :
    (∀ (token : String) (w : Bench.World), w.clicks = σ.clicks → Traffic.Calm w →
      Statistics.Reports token (σ.counted token) (w.run (Statistics.tally .rows token)).1) ∧
    (∀ d ∈ σ.deliveries, ∀ click, d.rest = .done click → (d.origin, click) ∈ σ.successes) ∧
    ∀ k click, (k, click) ∈ σ.successes →
      ∃ d ∈ σ.deliveries, d.origin = k ∧ d.stored = some click ∧ ∀ fault, d.rest ≠ .fail fault := by
  have sound := Sound.of_reaches reaches
  refine ⟨fun token w same calm => ?_, fun d mem click done => ?_, fun k click mem => ?_⟩
  · refine Statistics.Reports.perm ?_ (sound.perm_counted token)
    rw [← same]
    exact Statistics.reports calm token
  · exact (sound.stored _ _).mpr ⟨d, mem, rfl, (sound.stored_of_ended mem).1 click done⟩
  · obtain ⟨d, memD, origin, stored⟩ := (sound.stored k click).mp mem
    refine ⟨d, memD, origin, stored, fun fault failed => ?_⟩
    cases stored.symm.trans ((sound.stored_of_ended memD).2 fault failed)

/-! ### A visit that is delivered twice -/

theorem State.Reaches.redirect {settings : Settings} {clicks : Click.Table}
    {ds : List Delivery} {ss : List (Nat × Click)} {σ : State}
    (r : Web.Request) (token event : String)
    (route : Web.Route.find r.method r.path.toList = .found .redirect token)
    (reaches : State.Reaches settings
      ⟨clicks, [⟨token, event, Web.serve settings r, []⟩], ds, ss⟩ σ) :
    State.Reaches settings ⟨clicks, [], ds, ss⟩ σ :=
  .head (.redirect _ r token event route fun _ mem => absurd mem List.not_mem_nil) reaches

theorem State.Reaches.serve {settings : Settings} {clicks clicks' : Click.Table}
    {token event : String} {rest : Routine Web.Exchange} {sent : List (List UInt8)}
    {ds : List Delivery} {ss : List (Nat × Click)} {c : Call}
    {next : Except Fault c.Reply → Routine Web.Exchange} {σ : State}
    (left : rest = .ask c next) (reply : Except Fault c.Reply)
    (answers : Answers clicks c reply clicks') (names : Names event c reply)
    (reaches : State.Reaches settings
      ⟨clicks', [⟨token, event, next reply, sent ++ sentBy c⟩], ds, ss⟩ σ) :
    State.Reaches settings ⟨clicks, [⟨token, event, rest, sent⟩], ds, ss⟩ σ :=
  .head (.serve _ 0 _ c next reply clicks' rfl left names answers) reaches

theorem State.Reaches.process {settings : Settings} {clicks clicks' : Click.Table}
    {xs : List Redirect} {k : Nat} {rest : Routine Click} {stored : Option Click}
    {ds : List Delivery} {ss : List (Nat × Click)} {c : Call}
    {next : Except Fault c.Reply → Routine Click} {σ : State} (i : Nat)
    (is : ds[i]? = some ⟨k, rest, stored⟩) (left : rest = .ask c next)
    (reply : Except Fault c.Reply) (answers : Answers clicks c reply clicks')
    (reaches : State.Reaches settings
      ⟨clicks', xs, ds.set i ⟨k, next reply, stored.or (kept? c reply)⟩,
        ss ++ (kept? c reply).toList.map (k, ·)⟩ σ) :
    State.Reaches settings ⟨clicks, xs, ds, ss⟩ σ :=
  .head (.process _ i _ c next reply clicks' is left answers) reaches

theorem State.Reaches.deliver {settings : Settings} {clicks : Click.Table}
    {xs : List Redirect} {ds : List Delivery} {ss : List (Nat × Click)} {σ : State}
    (k : Nat) (x : Redirect) (payload : List UInt8)
    (is : xs[k]? = some x) (sent : payload ∈ x.sent)
    (reaches : State.Reaches settings
      ⟨clicks, xs, ds ++ [⟨k, Visit.process .rows payload, none⟩], ss⟩ σ) :
    State.Reaches settings ⟨clicks, xs, ds, ss⟩ σ :=
  .head (.deliver _ k x payload is sent) reaches

def bareRequest : Web.Request := ⟨"GET", "/b", none, [], none, []⟩

def bareVisit : Visit := ⟨"e", "b", Bench.clock 0, "", "", ""⟩

/-- The bus does not confirm the message of a redirect, and it is delivered twice. The second
delivery, for which the atlas knows no place, finds the click stored. -/
theorem repeated_visit_counted_once : ∃ σ : State, State.Reaches {} .start σ ∧
    σ.successes.map (fun (k, click) => (k, click.city)) = [(0, "Oslo"), (0, "Unknown")] ∧
    (σ.counted "b").map (·.city) = ["Oslo"] ∧
    Statistics.Reports "b" (σ.counted "b")
      (Bench.World.run { clicks := σ.clicks } (Statistics.tally .rows "b")).1 := by
  have taken : Visit.process .rows bareVisit.payload = .ask (.process .now) _ :=
    (Visit.process_payload bareVisit).trans rfl
  obtain ⟨σ, reaches, twice, once⟩ : ∃ σ : State, State.Reaches {} .start σ ∧
      σ.successes.map (fun (k, click) => (k, click.city)) = [(0, "Oslo"), (0, "Unknown")] ∧
      (σ.counted "b").map (·.city) = ["Oslo"] := by
    refine Exists.intro ?σ (And.intro ?reaches (And.intro ?twice ?once))
    case reaches =>
      refine .redirect bareRequest "b" "e" rfl ?_
      refine .serve rfl (.ok "q") rfl trivial ?_
      refine .serve rfl (.ok (some "https://a.example/")) rfl trivial ?_
      refine .serve rfl (.ok ()) ⟨rfl, rfl⟩ trivial ?_
      refine .serve rfl (.ok ()) ⟨rfl, rfl⟩ trivial ?_
      refine .serve rfl (.ok ()) ⟨rfl, rfl⟩ trivial ?_
      refine .serve rfl (.ok "e") rfl rfl ?_
      refine .serve rfl (.ok (Bench.clock 0)) rfl trivial ?_
      refine .serve rfl (.ok ()) ⟨rfl, rfl⟩ trivial ?_
      refine .serve rfl (.ok { publishing := true }) rfl trivial ?_
      refine .serve rfl (.error (.outage .bus "Gone")) rfl trivial ?_
      refine .deliver 0 _ bareVisit.payload rfl (List.mem_singleton.mpr rfl) ?_
      refine .process 0 rfl taken (.ok (Bench.clock 5)) rfl ?_
      refine .process 0 rfl rfl (.ok ⟨some "Norway", some "Oslo"⟩) rfl ?_
      refine .process 0 rfl rfl (.ok ()) rfl ?_
      refine .process 0 rfl rfl (.ok ()) rfl ?_
      refine .deliver 0 _ bareVisit.payload rfl (List.mem_singleton.mpr rfl) ?_
      refine .process 1 rfl taken (.ok (Bench.clock 9)) rfl ?_
      refine .process 1 rfl rfl (.error (.unplaced "" (.malformed ""))) rfl ?_
      refine .process 1 rfl rfl (.ok ()) ⟨rfl, rfl⟩ ?_
      refine .process 1 rfl rfl (.ok ()) rfl ?_
      refine .process 1 rfl rfl (.error Click.Table.conflict) ⟨rfl, fun _ => ⟨_, rfl⟩⟩ ?_
      exact .refl
    case twice => rfl
    case once => rfl
  exact ⟨σ, reaches, twice, once, (each_visit_counted_once reaches).1 "b" _ rfl rfl⟩

end LinkShortener.Stream
