import LinkShortener.Proofs.Pipeline.Consumption
import LinkShortener.Proofs.Pipeline.Redirect
import LinkShortener.Proofs.Visit.Wire

/-!
The meters of the pipeline of visits as a ledger. Redirects, visits that are given to the publisher,
deliveries of payloads and feeds run together, and their calls come in any order. The bus fails with
outages only, and so does the database where clicks are stored; an insertion that fails stores no
click, and one that does not fail adds to the table what the table accepts.

Main statement: the ledger balances, of every task and of the run as a whole (`ledger_balances`).
-/

namespace LinkShortener.Pipeline

open Routine
open Feed (Made)
open Metering (counted)
open Pool (Task Regime Reaches own whole)

/-! ### Deeds -/

/-- What a task is to do: serve a request on the route of redirects, give a visit to the publisher,
process a payload that was delivered, or run so many turns of a feed. -/
inductive Deed
  | redirect (r : Web.Request) (token : String)
      (route : Web.Route.find r.method r.path.toList = .found .redirect token)
  | send (visit : Visit)
  | deliver (payload : List UInt8)
  | feed (turns : Nat)

/-- What came of a task. -/
inductive Result
  | served (exchange : Web.Exchange)
  | sent
  | stored (click : Click)
  | fed (phase : Feed.Phase) (handled : List Feed.Handling)

/-- The feed processes the payloads that it gets. -/
def processor : Feed.Processor := fun payload => do
  let _ ← Visit.process .rows payload

/-- What the processing of a message has done: what a delivery does. -/
def Processes (calls : List Made) (o : Except Fault Unit) : Prop :=
  ∃ came : Except Fault Click, o = came.map (fun _ => ()) ∧ Adds calls came

/-- The routine of a task. -/
def Deed.routine (settings : Settings) : Deed → Routine Result
  | .redirect r _ _ => Result.served <$> Web.serve settings r
  | .send visit => (fun _ => Result.sent) <$> Publisher.publish settings.bus visit
  | .deliver payload => Result.stored <$> Visit.process .rows payload
  | .feed n => (fun (phase, handled) => Result.fed phase handled) <$>
      Feed.tended settings.consumer processor n .connecting

/-- Which calls of a task fail, and how. The process does not fail and the bus fails with outages;
where clicks are stored, so does the database, and no call is broken off. -/
def Deed.Fails : Deed → Call → Fault → Prop
  | _, .process _, _ => False
  | _, .producer _, fault | _, .consumer _, fault => fault.isBusOutage = true
  | .redirect .., _, _ | .send _, _, _ => True
  | _, .database _, fault => fault.isDatabaseOutage = true
  | _, .atlas _, fault => fault ≠ .cancelled
  | _, _, _ => True

/-- What a task has done when it has ended, by its own calls. -/
def Deed.Due (settings : Settings) (calls : List Made) (o : Except Fault Result) : Deed → Prop
  | .redirect _ token _ => ∃ exchange, o = .ok (.served exchange) ∧
      (exchange.response.status = 307 →
        Balances calls 1 0 0 ∧ PublishesOnce settings.bus token calls) ∧
      (exchange.response.status ≠ 307 → Idle calls)
  | .send visit => ∃ came : Except Fault Unit, o = came.map (fun _ => .sent) ∧
      Balances calls 1 0 0 ∧ Ran (Publisher.publish settings.bus visit) calls came
  | .deliver _ => ∃ came : Except Fault Click, o = came.map .stored ∧
      Balances calls 0 0 came.isOk.toNat ∧ Adds calls came
  | .feed _ => ∃ phase handled, o = .ok (.fed phase handled) ∧
      Balances calls 0 handled.length (handled.countP fun (_, came) => came.isOk) ∧
      Handles Processes calls handled

/-- Each deed does what is due of it. -/
theorem performs_deed (settings : Settings) (deed : Deed) :
    Performs deed.Fails (fun calls o => deed.Due settings calls o) (deed.routine settings) := by
  have steady : Steady deed.Fails := fun c fault fails => by
    cases deed <;> exact fails
  cases deed with
  | redirect r token route =>
      refine performs_map ((performs_serve steady (fun _ _ outage => outage) route).mono ?_)
      rintro calls _ ⟨exchange, rfl, moved, other⟩
      exact ⟨exchange, rfl, moved, other⟩
  | send visit =>
      refine performs_map ((performs_publisher steady (fun _ _ outage => outage) _ visit).mono ?_)
      rintro calls o ⟨ran, balances, -⟩
      exact ⟨o, rfl, balances, ran⟩
  | deliver payload =>
      have orderly : Orderly (Deed.deliver payload).Fails :=
        ⟨steady, fun _ _ outage => outage, fun _ _ outage => outage, fun _ _ other => other⟩
      refine performs_map ((performs_delivery orderly payload).mono ?_)
      rintro calls o ⟨balances, -, adds⟩
      exact ⟨o, rfl, balances, adds⟩
  | feed n =>
      have orderly : Orderly (Deed.feed n).Fails :=
        ⟨steady, fun _ _ outage => outage, fun _ _ outage => outage, fun _ _ other => other⟩
      have delivers : Delivers (Deed.feed n).Fails Processes processor := fun payload => by
        refine performs_bind ((performs_delivery orderly payload).mono ?_)
        rintro calls o ⟨balances, unbroken, adds⟩
        cases o with
        | ok click => exact performs_done ⟨balances, nofun, _, rfl, adds⟩
        | error fault =>
            exact performs_fail ⟨balances, unbroken_error unbroken, _, rfl, adds⟩
      refine performs_map ((performs_tended orderly delivers n .connecting).mono ?_)
      rintro calls _ ⟨phase, handled, rfl, balances, handles⟩
      exact ⟨phase, handled, rfl, balances, handles⟩

/-! ### The regime -/

/-- The table with one more click, if it accepts it. -/
def put (t : Click.Table) (click : Click) : Click.Table :=
  match t.insert click with
  | .ok t' => t'
  | .error _ => t

/-- The table after these calls. -/
def tableAfter (t : Click.Table) (past : List Made) : Click.Table :=
  past.foldr (fun made t => (stored? made).elim t (put t)) t

/-- Event ids are new, and a click that is stored is one that the table accepts. -/
def Fits (t : Click.Table) (past : List Made) : (c : Call) → Except Fault c.Reply → Prop
  | .process .freshEvent, .ok event => event ∉ given past
  | .database (.insertClick click), .ok _ => ∃ t', (tableAfter t past).insert click = .ok t'
  | _, _ => True

/-- Tasks enter at any time. -/
def regime (t : Click.Table) : Regime Deed Result where
  admits _ _ := True
  lets π n c reply := Fits t (whole π.past) c reply ∧
    ∀ task fault, π.tasks[n]? = some task → reply = .error fault → task.name.Fails c fault

/-! ### The ledger -/

/-- How many visits a task was to give to the publisher: one if that is what it was to do, and one
for a redirect that was answered with 307. -/
def sends (task : Task Deed Result) : Nat :=
  match task.name, task.outcome? with
  | .send _, _ => 1
  | .redirect .., some (.ok (.served exchange)) => if exchange.response.status = 307 then 1 else 0
  | _, _ => 0

/-- How many messages a task has handled. -/
def handled (task : Task Deed Result) : Nat :=
  match task.outcome? with
  | some (.ok (.fed _ handled)) => handled.length
  | _ => 0

/-- How many clicks a task has added without a fault: one if it is a delivery that came out well,
and one for each message of a feed that was processed well. -/
def added (task : Task Deed Result) : Nat :=
  match task.outcome? with
  | some (.ok (.stored _)) => 1
  | some (.ok (.fed _ handled)) => handled.countP fun (_, came) => came.isOk
  | _ => 0

section Ledger

variable {settings : Settings} {t : Click.Table} {π : Pool Deed Result}

/-- A task that has ended has done what is due of its deed, in its own calls. -/
theorem due_of_task (reaches : Reaches (Deed.routine settings) (regime t) {} π) {n : Nat}
    {task : Task Deed Result} (found : π.tasks[n]? = some task) {o : Except Fault Result}
    (ended : task.outcome? = some o) : task.name.Due settings (own π.past n) o :=
  Pool.due_of_ended (performs_deed settings)
    (fun π n _ c _ reply asks (lets : (regime t).lets π n c reply) fault failed =>
      lets.2 _ fault asks failed) reaches found ended

/-- What a task has done adds up to what it was to do. -/
theorem balances_of_due {task : Task Deed Result} {calls : List Made} {o : Except Fault Result}
    (ended : task.outcome? = some o) (due : task.name.Due settings calls o) :
    Balances calls (sends task) (handled task) (added task) := by
  obtain ⟨name, rest⟩ := task
  cases name with
  | redirect r token route =>
      obtain ⟨exchange, rfl, moved, other⟩ := due
      simp only [sends, handled, added, ended]
      split
      · rename_i status
        exact (moved status).1
      · rename_i status
        exact balances_of_silent (Idle.silent (other status))
  | send visit =>
      obtain ⟨came, rfl, balances, -⟩ := due
      cases came <;> simpa only [sends, handled, added, ended]
  | deliver payload =>
      obtain ⟨came, rfl, balances, -⟩ := due
      cases came <;> simpa only [sends, handled, added, ended]
  | feed n =>
      obtain ⟨phase, messages, rfl, balances, -⟩ := due
      simpa only [sends, handled, added, ended]

/-! ### Event ids and rows -/

theorem mem_given_cons {made : Made} {past : List Made} {event : String} :
    event ∈ given (made :: past) ↔ given? made = some event ∨ event ∈ given past := by
  simp only [given, List.mem_filterMap, List.exists_mem_cons_iff]

/-- The events given by a task are given by all. -/
theorem given_own_subset (past : List (Nat × Made)) (n : Nat) :
    given (own past n) ⊆ given (whole past) :=
  List.filterMap_subset _ (List.map_subset _ (List.filter_subset_self _))

/-- An event that fits is new. -/
theorem new_of_fits {past : List Made} {c : Call} {reply : Except Fault c.Reply} {event : String}
    (fits : Fits t past c reply) (gives : given? ⟨c, reply⟩ = some event) : event ∉ given past := by
  unfold given? at gives
  split at gives
  · rename_i same
    cases same
    cases gives
    exact fits
  · cases gives

/-- No event id is given to two tasks. -/
theorem given_apart (reaches : Reaches (Deed.routine settings) (regime t) {} π) {n m : Nat}
    (other : n ≠ m) {event : String} (mem : event ∈ given (own π.past n)) :
    event ∉ given (own π.past m) := by
  induction reaches with
  | refl => cases mem
  | @tail before _ _ steps ih =>
      cases steps with
      | enter k => exact ih mem
      | call acts k c next reply asks lets =>
          -- The call is one of the two tasks, or of neither; an id that it gives is new to all.
          have new (fresh : given? ⟨c, reply⟩ = some event) : event ∉ given (whole before.past) :=
            new_of_fits lets.1 fresh
          intro mem'
          simp only [Pool.reply] at mem mem'
          by_cases first : acts = n
          · subst first
            rw [Pool.own_cons_self] at mem
            rw [Pool.own_cons_of_ne other] at mem'
            rcases mem_given_cons.mp mem with fresh | old
            · exact new fresh (given_own_subset _ _ mem')
            · exact ih old mem'
          · rw [Pool.own_cons_of_ne first] at mem
            by_cases second : acts = m
            · subst second
              rw [Pool.own_cons_self] at mem'
              rcases mem_given_cons.mp mem' with fresh | old
              · exact new fresh (given_own_subset _ _ mem)
              · exact ih mem old
            · rw [Pool.own_cons_of_ne second] at mem'
              exact ih mem mem'

/-- A click that the table accepts makes one more row. -/
theorem rows_put {click : Click} (accepts : ∃ t', t.insert click = .ok t') :
    (put t click).rows.length = t.rows.length + 1 := by
  obtain ⟨t', inserts⟩ := accepts
  rw [put, inserts]
  unfold Click.Table.insert at inserts
  split at inserts
  · cases inserts
    exact List.length_append
  · cases inserts

theorem accepts_of_fits {past : List Made} {c : Call} {reply : Except Fault c.Reply} {click : Click}
    (fits : Fits t past c reply) (stores : stored? ⟨c, reply⟩ = some click) :
    ∃ t', (tableAfter t past).insert click = .ok t' := by
  unfold stored? at stores
  split at stores
  · rename_i same
    cases same
    cases stores
    exact fits
  · cases stores

/-- The rows of a table grow by the clicks that are new. -/
theorem rows_cons {past : List Made} {made : Made}
    (accepts : ∀ click, stored? made = some click →
      ∃ t', (tableAfter t past).insert click = .ok t')
    (before : (tableAfter t past).rows.length = t.rows.length + past.countP isNewRow) :
    (tableAfter t (made :: past)).rows.length =
      t.rows.length + (made :: past).countP isNewRow := by
  rw [tableAfter, List.foldr_cons, ← tableAfter]
  cases stores : stored? made with
  | none =>
      rw [List.countP_cons_of_neg (by simp [isNewRow, stores])]
      exact before
  | some click =>
      rw [List.countP_cons_of_pos (by simp [isNewRow, stores]), Option.elim_some,
        rows_put (accepts click stores), before]
      rfl

/-- The table has grown by the new rows. -/
theorem rows_tableAfter (reaches : Reaches (Deed.routine settings) (regime t) {} π) :
    (tableAfter t (whole π.past)).rows.length =
      t.rows.length + (whole π.past).countP isNewRow := by
  induction reaches with
  | refl => rfl
  | tail _ steps ih =>
      cases steps with
      | enter k => exact ih
      | call acts k c next reply asks lets =>
          exact rows_cons (fun click stores => accepts_of_fits lets.1 stores) ih

/-! ### The books -/

/-- The balances of the tasks add up to that of the run. -/
theorem balances_whole (reaches : Reaches (Deed.routine settings) (regime t) {} π)
    (each : ∀ n task, π.tasks[n]? = some task →
      Balances (own π.past n) (sends task) (handled task) (added task)) :
    Balances (whole π.past) (π.total sends) (π.total handled) (π.total added) := by
  have adds (meter : Meter) : Pool.Adds (counted meter) := Pool.adds_countP _
  constructor
  · exact Pool.eq_of_own (adds _) (Pool.adds_countP _) reaches fun n task found =>
      (each n task found).published
  · exact Pool.eq_total ((adds _).add (adds _)) reaches fun n task found =>
      (each n task found).sends
  · exact Pool.eq_total (((adds _).add (adds _)).add (adds _)) reaches fun n task found =>
      (each n task found).handled
  · exact Pool.eq_of_own (adds _) (Pool.adds_countP _) reaches fun n task found =>
      (each n task found).fetches
  · exact Pool.eq_of_own (adds _) (Pool.adds_countP _) reaches fun n task found =>
      (each n task found).starts
  · exact Pool.eq_of_own (adds _) (Pool.adds_countP _) reaches fun n task found =>
      (each n task found).rows
  · exact Pool.eq_total ((adds _).add (adds _)) reaches fun n task found =>
      (each n task found).added

/-- The account of a task that has ended: its own calls balance; a redirect that was answered with
307 has given one visit to the publisher, under an event id that nobody else was given, and any
other has done nothing for the pipeline; a delivery has added its click if it came out well, and
only then; and a feed has processed the messages that it handled, each as a delivery is processed,
and has added no other click. -/
def Accounts (settings : Settings) (π : Pool Deed Result) (n : Nat) (task : Task Deed Result) :
    Prop :=
  Balances (own π.past n) (sends task) (handled task) (added task) ∧
    match task.name with
    | .redirect _ token _ => ∃ exchange, task.outcome? = some (.ok (.served exchange)) ∧
        (exchange.response.status = 307 → PublishesOnce settings.bus token (own π.past n) ∧
          ∀ event ∈ given (own π.past n), ∀ m, m ≠ n → event ∉ given (own π.past m)) ∧
        (exchange.response.status ≠ 307 → Idle (own π.past n))
    | .send visit => ∃ came : Except Fault Unit, task.outcome? = some (came.map fun _ => .sent) ∧
        Ran (Publisher.publish settings.bus visit) (own π.past n) came
    | .deliver _ => ∃ came : Except Fault Click, task.outcome? = some (came.map .stored) ∧
        Adds (own π.past n) came
    | .feed _ => ∃ phase messages, task.outcome? = some (.ok (.fed phase messages)) ∧
        Handles Processes (own π.past n) messages

/-- The meters of the pipeline are its ledger. When all tasks have ended, in whatever order they
made their calls, whatever failed and whichever turn the feeds are at, every task has its account,
and the meters balance for the run as a whole: visits were counted as published as often as the bus
acknowledged one, and as published or not as often as one was given to the publisher; messages were
counted as consumed, as failed to be processed or as failed to be committed as often as one was
handled; failures to fetch and to connect were counted as they happened; and clicks were counted as
stored or repeated as often as one was added without a fault. And the table has grown by as many
rows as clicks were counted as stored. -/
theorem ledger_balances (settings : Settings) (t : Click.Table) {π : Pool Deed Result}
    (reaches : Reaches (Deed.routine settings) (regime t) {} π)
    (ended : ∀ task ∈ π.tasks, task.outcome? ≠ none) :
    (∀ n task, π.tasks[n]? = some task → Accounts settings π n task) ∧
    Balances (whole π.past) (π.total sends) (π.total handled) (π.total added) ∧
    (tableAfter t (whole π.past)).rows.length =
      t.rows.length + counted (.clicksStored .rows) (whole π.past) := by
  have dues {n : Nat} {task : Task Deed Result} (found : π.tasks[n]? = some task) :
      ∃ o, task.outcome? = some o ∧ task.name.Due settings (own π.past n) o := by
    obtain ⟨o, came⟩ := Option.ne_none_iff_exists'.mp (ended task (List.mem_of_getElem? found))
    exact ⟨o, came, due_of_task reaches found came⟩
  have each (n : Nat) (task : Task Deed Result) (found : π.tasks[n]? = some task) :
      Balances (own π.past n) (sends task) (handled task) (added task) := by
    obtain ⟨o, came, due⟩ := dues found
    exact balances_of_due came due
  have books := balances_whole reaches each
  refine ⟨fun n task found => ⟨each n task found, ?_⟩, books, ?_⟩
  · obtain ⟨o, came, due⟩ := dues found
    obtain ⟨name, rest⟩ := task
    cases name with
    | redirect r token route =>
        obtain ⟨exchange, rfl, moved, other⟩ := due
        refine ⟨exchange, came, fun status => ⟨(moved status).2, ?_⟩, other⟩
        exact fun event mem m apart => given_apart reaches apart.symm mem
    | send visit =>
        obtain ⟨result, rfl, -, ran⟩ := due
        exact ⟨result, came, ran⟩
    | deliver payload =>
        obtain ⟨result, rfl, -, adds⟩ := due
        exact ⟨result, came, adds⟩
    | feed turns =>
        obtain ⟨phase, messages, rfl, -, handles⟩ := due
        exact ⟨phase, messages, came, handles⟩
  · rw [rows_tableAfter reaches, books.rows]

/-! ### A mixed run -/

/-- How calls are answered for a while: the event id that is given next, whether the table takes
clicks, and whether the bus is away. -/
structure Scene where
  event : String := "spare"
  stores : Bool := false
  away : Bool := false

/-- A visit by a caller of whom nothing is known. -/
def stranger : Visit := ⟨"e", "b", Bench.clock 0, "", "", ""⟩

/-- The answers of a scene. Every token has a copy, the publisher runs, and a poll brings the
message of the visit. -/
def Scene.replies (s : Scene) : (c : Call) → Except Fault c.Reply
  | .keys (.get _) => .ok (some "http://a.example/")
  | .process .recollect => .ok { publishing := true }
  | .process .freshEvent => .ok s.event
  | .database (.insertClick _) => if s.stores then .ok () else .error Click.Table.conflict
  | .producer (.send ..) | .consumer .start | .consumer (.commit _) =>
      if s.away then .error (.outage .bus "gone") else .ok ()
  | .consumer (.poll ..) =>
      if s.away then .error (.outage .bus "gone")
      else .ok [⟨⟨"visits", 0, 0⟩, stranger.payload⟩]
  | c => smooth c

/-- Whether a scene may follow these calls: its event id is new, and if the table takes clicks, it
has none yet. -/
def Scene.follows (s : Scene) (t : Click.Table) (past : List Made) : Bool :=
  !(given past).contains s.event && (!s.stores || (tableAfter t past).rows.isEmpty)

/-- Lets tasks make calls, each in a scene. -/
def play (π : Pool Deed Result) (script : List (Nat × Scene)) : Pool Deed Result :=
  script.foldl (fun π (n, scene) => π.answer scene.replies n) π

/-- Whether every scene of a script may follow where it stands. -/
def plays (t : Click.Table) (π : Pool Deed Result) : List (Nat × Scene) → Bool
  | [] => true
  | (n, scene) :: rest =>
      scene.follows t (whole π.past) && plays t (π.answer scene.replies n) rest

theorem fits_replies {past : List Made} {s : Scene} (follows : s.follows t past = true) (c : Call) :
    Fits t past c (s.replies c) := by
  simp only [Scene.follows, Bool.and_eq_true, Bool.not_eq_true', List.contains_eq_mem,
    decide_eq_false_iff_not, Bool.or_eq_true, List.isEmpty_iff] at follows
  unfold Fits
  split
  · rename_i event same
    cases same
    exact follows.1
  · rename_i click _ same
    have stores : s.stores = true := by
      by_contra idle
      simp [Scene.replies, idle] at same
    have blank : (tableAfter t past).rows = [] := follows.2.resolve_left (by simp [stores])
    refine ⟨⟨[click], List.pairwise_singleton _ _⟩, ?_⟩
    unfold Click.Table.insert
    rw [dif_pos (by simp [blank])]
    simp [blank]
  · trivial

theorem fails_replies {s : Scene} {deed : Deed} {c : Call} {fault : Fault}
    (failed : s.replies c = .error fault) : deed.Fails c fault := by
  unfold Scene.replies at failed
  split at failed
  case h_4 | h_5 | h_6 | h_7 | h_8 =>
    split at failed <;> cases failed
    cases deed <;> first | rfl | trivial
  case h_9 => exact of_smooth_error c fault failed
  all_goals cases failed

/-- A script that plays by the rules leads to where the tasks may come. -/
theorem reaches_play {script : List (Nat × Scene)} (valid : plays t π script = true)
    (reaches : Reaches (Deed.routine settings) (regime t) {} π) :
    Reaches (Deed.routine settings) (regime t) {} (play π script) := by
  induction script generalizing π with
  | nil => exact reaches
  | cons step rest ih =>
      rw [plays, Bool.and_eq_true] at valid
      refine ih valid.2 (Reaches.answer reaches fun c => ⟨fits_replies valid.1 c, ?_⟩)
      exact fun task fault _ failed => fails_replies failed

/-- A redirect, the delivery of a visit, a feed that gets the same visit again, and the same visit
to be published. -/
def cast : List Deed :=
  [.redirect ⟨"GET", "/b", none, [], none, []⟩ "b" rfl, .deliver stranger.payload, .feed 5,
    .send stranger]

/-- The redirect is published and the delivery stored. The feed connects at the second attempt,
finds the click stored and fails to commit. The last visit cannot be published. -/
def script : List (Nat × Scene) :=
  List.replicate 6 (0, { event := "e" }) ++ List.replicate 5 (0, { event := "f" }) ++
    List.replicate 4 (1, { stores := true }) ++ List.replicate 2 (1, { event := "f" }) ++
    List.replicate 5 (2, { away := true }) ++ List.replicate 13 (2, { event := "f" }) ++
    List.replicate 3 (2, { away := true }) ++ List.replicate 3 (3, { away := true })

/-- The pool after the script. -/
def mixedRun : Pool Deed Result :=
  play (cast.foldl (Pool.enter (Deed.routine {})) {}) script

/-- Two visits were to be published, one message was handled, and two clicks were added, the second
of them as a repeated one. -/
theorem mixed_run_balances : (∀ task ∈ mixedRun.tasks, task.outcome? ≠ none) ∧
    Balances (whole mixedRun.past) 2 1 2 ∧
    (tableAfter .empty (whole mixedRun.past)).rows.length =
      counted (.clicksStored .rows) (whole mixedRun.past) := by
  obtain ⟨valid, ended, sends, handled, added⟩ :
      plays .empty (cast.foldl (Pool.enter (Deed.routine {})) {}) script = true ∧
        (∀ task ∈ mixedRun.tasks, task.outcome? ≠ none) ∧ mixedRun.total sends = 2 ∧
        mixedRun.total handled = 1 ∧ mixedRun.total added = 2 := by decide +kernel
  have entered : Reaches (Deed.routine {}) (regime .empty) {}
      (cast.foldl (Pool.enter (Deed.routine {})) {}) :=
    .enter (.enter (.enter (.enter .refl trivial) trivial) trivial) trivial
  have reaches : Reaches (Deed.routine {}) (regime .empty) {} mixedRun := reaches_play valid entered
  obtain ⟨-, balances, rows⟩ := ledger_balances {} .empty reaches ended
  rw [sends, handled, added] at balances
  have blank : Click.Table.empty.rows.length = 0 := rfl
  rw [blank, Nat.zero_add] at rows
  exact ⟨ended, balances, rows⟩

end Ledger

end LinkShortener.Pipeline
