import LinkShortener.Proofs.Click.Growth
import LinkShortener.Proofs.Click.Rows

/-!
Tallies that race with stores. While a tally waits for one of its replies, other clicks are stored,
in either backend; each question is answered from all rows that are there by then. The tally mixes
what the store held at five moments, and yet its numbers fit together, as far as the rows of each
event agree when it begins.

Main statement: `tally_amid_adds`.
-/

namespace LinkShortener

open Routine
open Bench (World)
open Click (Distinguishes eventCount)

/-! ### Tables of clicks -/

namespace RowStore

/-- What is counted of clicks. -/
def ofClicks : View Click := ⟨Click.token, Click.along⟩

/-- The relational database holds a table of clicks, no two of one event. It takes a click of a new
event, and meters can be advanced. -/
structure Stores {σ : Type} (perform : Performer σ) (rows : σ → Multiset Click) : Prop
    extends Documented ofClicks perform rows where
  distinct : ∀ s, ((rows s).map (·.event)).Nodup
  insert : ∀ s click, (∀ r ∈ rows s, r.event ≠ click.event) →
    ∃ s', rows s' = click ::ₘ rows s ∧ perform (.database (.insertClick click)) s = (.ok (), s')
  meter : ∀ s meter, ∃ s', rows s' = rows s ∧ perform (.process (.count meter)) s = (.ok (), s')

variable {rows : Multiset Click} {token : String} {dimension : Dimension}
  {groups : List (String × Int)}

/-- Clicks of different events are as many events. -/
theorem eventCount_of_distinct (distinct : (rows.map (·.event)).Nodup) :
    eventCount rows.toFinset = rows.card := by
  rw [eventCount, ← Multiset.toFinset_map, Multiset.toFinset_card_of_nodup distinct,
    Multiset.card_map]

/-- Where no event has two rows, events are counted by rows. -/
theorem eventCount_ofToken (distinct : (rows.map (·.event)).Nodup) :
    eventCount (ColumnStore.ofToken rows token) = (ofClicks.ofToken rows token).card := by
  rw [ColumnStore.ofToken, ← Multiset.toFinset_filter]
  apply eventCount_of_distinct
  exact Multiset.nodup_of_le (Multiset.map_le_map (Multiset.filter_le _ _)) distinct

theorem eventCount_filter_ofToken (distinct : (rows.map (·.event)).Nodup) (value : String) :
    eventCount ((ColumnStore.ofToken rows token).filter (·.along dimension = value)) =
      (ofClicks.ofToken rows token).countP (ofClicks.along · dimension = value) := by
  rw [ColumnStore.ofToken, ← Multiset.toFinset_filter, ← Multiset.toFinset_filter,
    Multiset.countP_eq_card_filter]
  apply eventCount_of_distinct
  have sub := (Multiset.filter_le (·.along dimension = value) _).trans
    (Multiset.filter_le (·.token = token) rows)
  exact Multiset.nodup_of_le (Multiset.map_le_map sub) distinct

/-- Groups that divide up clicks of different events count the events. -/
theorem View.Divides.distinguishes (distinct : (rows.map (·.event)).Nodup)
    (divides : ofClicks.Divides (ofClicks.ofToken rows token) dimension groups) :
    Distinguishes (ColumnStore.ofToken rows token) dimension groups := by
  refine ⟨divides.distinct, fun value n => ?_⟩
  rw [eventCount_filter_ofToken distinct]
  constructor
  · intro listed
    obtain ⟨same, positive⟩ := divides.counts value n listed
    exact ⟨positive, same⟩
  · rintro ⟨positive, same⟩
    rw [same, Int.natCast_pos, Multiset.countP_pos] at positive
    obtain ⟨⟨_, m⟩, listed, rfl⟩ := List.mem_map.mp ((divides.keys value).mpr positive)
    rw [same, ← (divides.counts _ m listed).1]
    exact listed

/-- The table of clicks of the bench, on which no fault is switched on. -/
def cabinet : Performer Click.Table := fun c clicks =>
  let (reply, w) := World.perform c { clicks := clicks }
  (reply, w.clicks)

theorem documented_cabinet :
    Documented ofClicks cabinet fun clicks => (clicks.rows : Multiset Click) := by
  constructor
  case connect => exact fun clicks => ⟨clicks, rfl, rfl⟩
  case count =>
    intro clicks token
    refine ⟨clicks, rfl, ?_⟩
    rw [View.ofToken_coe]
    rfl
  case group =>
    intro clicks token dimension
    refine ⟨clicks, clicks.group token dimension, rfl, ?_, rfl⟩
    rw [View.ofToken_coe, View.groups_coe]
    rfl

/-- The table of the bench does what is documented. -/
theorem stores_cabinet : Stores cabinet fun clicks => (clicks.rows : Multiset Click) := by
  constructor
  case toDocumented => exact documented_cabinet
  case distinct =>
    intro clicks
    rw [Multiset.map_coe, Multiset.coe_nodup]
    exact List.pairwise_map.mpr clicks.apart
  case insert =>
    intro clicks click new
    cases inserted : clicks.insert click with
    | error fault =>
        obtain ⟨⟨r, mem, same⟩, -⟩ := Click.Table.insert_eq_error inserted
        exact absurd same (new r mem)
    | ok clicks' =>
        have calm : Traffic.Calm { clicks := clicks } := rfl
        obtain ⟨-, grown⟩ := Click.Table.insert_eq_ok.mp inserted
        refine ⟨clicks', ?_, ?_⟩
        · rw [grown, ← Multiset.coe_add, Multiset.coe_singleton, Multiset.add_comm,
            Multiset.singleton_add]
        · simp only [cabinet, Traffic.perform_eq, World.answer, World.database,
            Traffic.barring_of_calm calm, inserted]
          rfl
  case meter => exact fun clicks meter => ⟨clicks, rfl, rfl⟩

end RowStore

namespace ClickStore

open ColumnStore (ofToken mem_ofToken)
open Statistics (Totals Parts)

section Race

variable {σ : Type} {perform : Performer σ} {rows : σ → Multiset Click} {backend : Backend}

/-- The backends do what they are documented to do. -/
inductive Kept (perform : Performer σ) (rows : σ → Multiset Click) : Backend → Prop
  | rows (store : RowStore.Stores perform rows) : Kept perform rows .rows
  | columns (store : ColumnStore.Documented Eq perform rows) : Kept perform rows .columns

/-- Clicks are stored by others in the meantime: before each call, the next batch. -/
def amid (backend : Backend) (perform : Performer σ) : Performer (σ × List (List Click)) :=
  fun c (s, batches) =>
    let s := (((batches.headD []).forM (add backend)).run perform s).2
    let (reply, s) := perform c s
    (reply, s, batches.tail)

/-- The number of calls until the total is told; rows are asked over a connection. -/
def opening : Backend → Nat
  | .rows => 2
  | .columns => 1

/-- A click of a new event is stored. -/
theorem Kept.run_add (kept : Kept perform rows backend) (s : σ) (click : Click)
    (new : ∀ r ∈ rows s, r.event ≠ click.event) :
    ∃ s', (add backend click).run perform s = (.ok (), s') ∧ rows s' = click ::ₘ rows s := by
  cases kept with
  | rows store =>
      obtain ⟨s₁, same₁, connects⟩ := store.connect s
      rw [← same₁] at new ⊢
      obtain ⟨s₂, added, inserts⟩ := store.insert s₁ click new
      obtain ⟨s₃, same₃, counts⟩ := store.meter s₂ (.clicksStored .rows)
      refine ⟨s₃, ?_, same₃.trans added⟩
      simp only [add, addRow, Routine.rescue, call, bind_ask, outcome, run, connects, ofOutcome_ok,
        bind_done, inserts, pure_eq]
      exact (run_call perform _ s₂).trans counts
  | columns store =>
      obtain ⟨s', _, adds, rfl, stored⟩ := store.run_addColumn s click
      exact ⟨s', adds, stored.symm⟩

/-- Clicks of new events are stored one after the other. -/
theorem Kept.run_adds (kept : Kept perform rows backend) (s : σ) (clicks : List Click)
    (fresh : Fresh (rows s) clicks) :
    ∃ s', (clicks.forM (add backend)).run perform s = (.ok (), s') ∧ rows s' = rows s + clicks := by
  induction clicks generalizing s with
  | nil => exact ⟨s, rfl, (Multiset.add_zero _).symm⟩
  | cons click clicks ih =>
      have split : Fresh (rows s) ([click] ++ clicks) := fresh
      obtain ⟨one, rest⟩ := fresh_append.mp split
      obtain ⟨s₁, adds, added⟩ := kept.run_add s click (one.new click List.mem_cons_self)
      have grown : rows s₁ = rows s + ([click] : List Click) := by
        rw [added, Multiset.coe_singleton, Multiset.add_comm, Multiset.singleton_add]
      obtain ⟨s', adds', added'⟩ := ih s₁ (by rwa [grown])
      refine ⟨s', ?_, ?_⟩
      · change (add backend click >>= fun _ => clicks.forM _).run perform s = _
        rw [run_bind, adds]
        exact adds'
      · rw [added', grown, add_assoc, Multiset.coe_add, List.singleton_append]

variable {s : σ} {batches : List (List Click)}

/-- A call comes to a store that has taken one more batch. -/
theorem Kept.amid_eq (kept : Kept perform rows backend)
    (fresh : Fresh (rows s) batches.flatten) {p : σ} {n : Nat}
    (taken : rows p = held (rows s) batches n) :
    ∃ q, rows q = held (rows s) batches (n + 1) ∧ ∀ c, amid backend perform c (p, batches.drop n) =
      ((perform c q).1, (perform c q).2, batches.drop (n + 1)) := by
  have next : Fresh (rows p) ((batches.drop n).headD []) := by
    have fresh' := (fresh.held n).2
    rw [taken]
    cases rest : batches.drop n with
    | nil => exact ⟨.nil, List.forall_mem_nil _⟩
    | cons batch rest' =>
        rw [rest, List.flatten_cons] at fresh'
        exact (fresh_append.mp fresh').1
  obtain ⟨q, adds, added⟩ := kept.run_adds p _ next
  refine ⟨q, ?_, ?_⟩
  · rw [added, taken, held_succ]
  · intro c
    rw [amid, adds, List.tail_drop]

/-- The total is told of the rows that there are when it is asked for. -/
theorem Kept.totals (kept : Kept perform rows backend) (token : String)
    (fresh : Fresh (rows s) batches.flatten) :
    ∃ s', rows s' = held (rows s) batches (opening backend) ∧
      Totals (amid backend perform) token (s, batches) (eventCount (ofToken (rows s') token))
        (s', batches.drop (opening backend)) backend := by
  obtain ⟨q, taken, asks⟩ := kept.amid_eq fresh (held_zero _ _).symm
  cases kept with
  | rows store =>
      obtain ⟨q₁, same₁, connects⟩ := store.connect q
      obtain ⟨q', taken', asks'⟩ := (Kept.rows store).amid_eq fresh (same₁.trans taken)
      obtain ⟨q₂, same₂, counts⟩ := store.count q' token
      refine ⟨q₂, same₂.trans taken', .rows (q₁, batches.drop 1) ?_ ?_⟩
      · rw [← batches.drop_zero, asks, connects]
        rfl
      · rw [asks', counts, same₂, RowStore.eventCount_ofToken (store.distinct q')]
        rfl
  | columns store =>
      obtain ⟨q₁, same₁, counts⟩ := store.count q token
      refine ⟨q₁, same₁.symm.trans taken, .columns ?_⟩
      rw [← batches.drop_zero, asks, counts]
      rfl

/-- A part is told of the rows that there are when it is asked for. -/
theorem Kept.parts (kept : Kept perform rows backend) (token : String) (dimension : Dimension)
    (fresh : Fresh (rows s) batches.flatten) {p : σ} {n : Nat}
    (taken : rows p = held (rows s) batches n) :
    ∃ q groups, rows q = held (rows s) batches (n + 1) ∧
      Distinguishes (ofToken (held (rows s) batches (n + 1)) token) dimension groups ∧
      Parts (amid backend perform) token dimension (p, batches.drop n) (q, batches.drop (n + 1))
        groups backend := by
  obtain ⟨q, taken', asks⟩ := kept.amid_eq fresh taken
  cases kept with
  | rows store =>
      obtain ⟨q₁, groups, same, grouped, replies⟩ := store.group q token dimension
      have divides := RowStore.View.divides_groups grouped
      refine ⟨q₁, _, same.trans taken', ?_, .rows groups ?_⟩
      · rw [← taken']
        exact divides.distinguishes (store.distinct q)
      · rw [asks, replies]
  | columns store =>
      obtain ⟨q₁, groups, same, counts, replies⟩ := store.group q token dimension
      rw [← same, taken'] at counts
      refine ⟨q₁, groups, same.symm.trans taken', counts, .columns groups counts.distinct ?_⟩
      rw [asks, replies]

/-- A tally tells at each question of all rows that there are by then. -/
theorem Kept.tells (kept : Kept perform rows backend) (token : String)
    (fresh : Fresh (rows s) batches.flatten) :
    ∃ o s' rest,
      (Statistics.tally backend token).run (amid backend perform) (s, batches) = (o, s', rest) ∧
      Tells token (fun n => held (rows s) batches (opening backend + n)) o ∧
      ∀ tally, o = .ok tally → rows s' = held (rows s) batches (opening backend + 4) := by
  obtain ⟨s₁, taken₁, totals⟩ := kept.totals token fresh
  by_cases none : ofToken (rows s₁) token = ∅
  · rw [Click.eventCount_eq_zero.mpr none] at totals
    refine ⟨_, s₁, _, Statistics.run_tally_of_nothing totals, .nothing ?_, nofun⟩
    rwa [taken₁] at none
  · have some : eventCount (ofToken (rows s₁) token) ≠ 0 := mt Click.eventCount_eq_zero.mp none
    obtain ⟨s₂, byCountry, taken₂, country, asks₂⟩ := kept.parts token .country fresh taken₁
    obtain ⟨s₃, byCity, taken₃, city, asks₃⟩ := kept.parts token .city fresh taken₂
    obtain ⟨s₄, byDevice, taken₄, device, asks₄⟩ := kept.parts token .device fresh taken₃
    obtain ⟨s₅, byReferrer, taken₅, referrer, asks₅⟩ := kept.parts token .referrer fresh taken₄
    refine ⟨_, s₅, _, Statistics.run_tally_of_parts totals some asks₂ asks₃ asks₄ asks₅, ?_, ?_⟩
    · rw [taken₁, ← ne_eq, ← Finset.nonempty_iff_ne_empty] at none
      refine .told _ none rfl ?_ ?_
      · rw [taken₁]
        rfl
      · intro dimension
        cases dimension with
        | country => exact country
        | city => exact city
        | device => exact device
        | referrer => exact referrer
    · intro _ _
      exact taken₅

/-- Rows of one event agree in a table, which has no two. -/
theorem alike_of_distinct {table : Multiset Click} (distinct : (table.map (·.event)).Nodup)
    (token : String) (dimension : Dimension) : Alike (ofToken table token) dimension := by
  intro c mem c' mem' same
  rw [Multiset.inj_on_of_nodup_map distinct c (mem_ofToken.mp mem).1 c' (mem_ofToken.mp mem').1 same]

/-- While a tally is made in either backend, clicks of new events are stored, any number before each
of its calls. It tells that there is no click exactly if there is none when the total is asked
for; else its numbers lie between those of the rows before and after, and no part adds up to less
than the total. The sums of the parts are in order whatever is stored and when, exactly if the rows of
each event agree in the beginning; in a table they always do. -/
theorem tally_amid_adds (kept : Kept perform rows backend) (s : σ) (token : String) :
    (∀ batches, Fresh (rows s) batches.flatten → ∃ o s' rest,
      (Statistics.tally backend token).run (amid backend perform) (s, batches) = (o, s', rest) ∧
      (o = .error (.noClicks token) ↔
        ofToken (held (rows s) batches (opening backend)) token = ∅) ∧
      (o = .error (.noClicks token) ∨
        ∃ tally, o = .ok tally ∧ Spans token (rows s) (rows s') tally)) ∧
    ((∀ batches tally s' rest, Fresh (rows s) batches.flatten →
      (Statistics.tally backend token).run (amid backend perform) (s, batches) =
        (.ok tally, s', rest) →
      Ordered (eventCount (ofToken (rows s') token)) tally) ↔
      ∀ dimension, Alike (ofToken (rows s) token) dimension) ∧
    (backend = .rows → ∀ dimension, Alike (ofToken (rows s) token) dimension) := by
  have grows (batches : List (List Click)) :
      Monotone fun n => held (rows s) batches (opening backend + n) :=
    fun n m le => held_mono _ _ (Nat.add_le_add_left le _)
  refine ⟨?_, ⟨?_, ?_⟩, ?_⟩
  · intro batches fresh
    obtain ⟨o, s', rest, ends, tells, last⟩ := kept.tells token fresh
    refine ⟨o, s', rest, ends, tells.eq_noClicks_iff, ?_⟩
    rcases tells.nothing_or_told with ⟨nothing, -⟩ | ⟨tally, rfl⟩
    · exact .inl nothing
    · refine .inr ⟨tally, rfl, ?_⟩
      apply tells.spans (grows batches)
      · exact Multiset.le_add_right _ _
      · exact (last tally rfl).ge
  · -- Nothing is stored in the meantime, so that each question is about the same rows.
    intro ordered dimension
    have fresh : Fresh (rows s) ([] : List (List Click)).flatten := ⟨.nil, List.forall_mem_nil _⟩
    obtain ⟨o, s', rest, ends, tells, last⟩ := kept.tells token fresh
    simp only [held_nil] at tells last
    rcases tells.nothing_or_told with ⟨-, none⟩ | ⟨tally, rfl⟩
    · intro c mem
      rw [none] at mem
      cases mem
    · have sums := ordered [] tally s' rest fresh ends
      rw [last tally rfl] at sums
      exact tells.alike_of_ordered sums dimension
  · intro alike batches tally s' rest fresh ends
    obtain ⟨o, s'', rest', ends', tells, last⟩ := kept.tells token fresh
    cases ends.symm.trans ends'
    apply tells.ordered (grows batches)
    · intro dimension
      exact (alike dimension).add (fresh.held _).1
    · exact (last tally rfl).ge
  · rintro rfl dimension
    cases kept with
    | rows store => exact alike_of_distinct (store.distinct s) token dimension

end Race

/-! ### Rows that agree and rows that do not -/

/-- A click of the token `b`. -/
def click (event country city : String) : Click :=
  ⟨event, "b", Bench.databaseClock, country, city, .mobile, ""⟩

/-- One click is stored between the questions for the total and the countries, another between those
for the cities and the devices: the sums of the parts are in order, in either backend. -/
theorem tally_amid_two_clicks :
    let first := click "e" "Norway" "Oslo"
    let second := click "f" "Norway" "Bergen"
    let third := click "g" "Sweden" "Malmö"
    (∃ tally s rest, (Statistics.tally .columns "b").run
        (amid .columns (ColumnStore.shelf fun _ => .ok .nowhere))
        (([first], 0), [[], [second], [], [third], []]) = (.ok tally, s, rest) ∧
      tally.total = 1 ∧ tally.byCountry = [("Norway", 2)] ∧
      tally.byCity = [("Oslo", 1), ("Bergen", 1)] ∧ tally.byDevice = [("Mobile", 3)] ∧
      Ordered 3 tally) ∧
    ∃ tally s rest, (Statistics.tally .rows "b").run (amid .rows RowStore.cabinet)
        (⟨[first], .cons (List.forall_mem_nil _) .nil⟩, [[], [], [second], [], [third], []]) =
          (.ok tally, s, rest) ∧
      tally.total = 1 ∧ Ordered 3 tally := by
  intro first second third
  constructor
  · have kept := Kept.columns (ColumnStore.documented_shelf fun _ => .ok .nowhere)
    have alike : ∀ dimension, Alike (ColumnStore.ofToken ([first] : List Click) "b") dimension := by
      intro dimension c mem c' mem' _
      rw [mem_ofToken, Multiset.coe_singleton, Multiset.mem_singleton] at mem mem'
      rw [mem.1, mem'.1]
    have fresh : Fresh ([first] : List Click) [[], [second], [], [third], []].flatten := by
      constructor <;> decide
    have ran : (Statistics.tally .columns "b").run
        (amid .columns (ColumnStore.shelf fun _ => .ok .nowhere))
        (([first], 0), [[], [second], [], [third], []]) =
          (.ok ⟨"b", 1, [("Norway", 2)], [("Oslo", 1), ("Bergen", 1)], [("Mobile", 3)], [("", 3)]⟩,
            ([first, second, third], 0), []) := rfl
    obtain ⟨-, ordered, -⟩ := tally_amid_adds kept ([first], 0) "b"
    exact ⟨_, _, _, ran, rfl, rfl, rfl, rfl, ordered.mpr alike _ _ _ _ fresh ran⟩
  · have fresh : Fresh ([first] : List Click) [[], [], [second], [], [third], []].flatten := by
      constructor <;> decide
    obtain ⟨-, ordered, alike⟩ := tally_amid_adds (.rows RowStore.stores_cabinet)
      ⟨[first], .cons (List.forall_mem_nil _) .nil⟩ "b"
    exact ⟨_, _, _, rfl, rfl, ordered.mpr (alike rfl) _ _ _ _ fresh rfl⟩

/-- Two clicks of one event were stored as columns, in a city and without a place. Nothing is stored
while the tally is made, and the sums of its parts fall and go beyond the number of events. -/
theorem redelivered_click_out_of_order :
    let clicks := [click "e" "USA" "Boston", click "e" "Unknown" "Unknown"]
    let shelf := ColumnStore.shelf fun _ => .ok .nowhere
    Kept shelf (fun s => (s.1 : Multiset Click)) .columns ∧
      (clicks.forM (add .columns)).run shelf ([], 0) = (.ok (), clicks, 0) ∧
      ∃ tally s rest, (Statistics.tally .columns "b").run (amid .columns shelf) ((clicks, 0), []) =
          (.ok tally, s, rest) ∧
        tally.total = 1 ∧ ColumnStore.sumAlong tally .city = 2 ∧
        ColumnStore.sumAlong tally .device = 1 ∧
        eventCount (ofToken (s.1 : Multiset Click) "b") = 1 ∧ ¬ Ordered 1 tally := by
  intro clicks shelf
  refine ⟨.columns (ColumnStore.documented_shelf _), rfl, _, _, _, rfl, rfl, rfl, rfl, rfl, ?_⟩
  intro ordered
  have falls := ordered.device
  revert falls
  decide

end ClickStore

end LinkShortener
