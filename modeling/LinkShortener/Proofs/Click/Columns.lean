import LinkShortener.Proofs.Click.Statistics
import LinkShortener.Proofs.Visit.Intake
import Mathlib.Data.Finset.Card
import Mathlib.Data.Multiset.Filter

/-!
The column store as its documents have it. It keeps a multiset of rows, equal ones and all; a
count tells how many different event ids there are among the rows of a token, and a count along a
dimension tells it for each group of rows with one value. Between two calls the rows may drift:
the store may put rows together, or others may add some.

Main statements: a tally counts, question by question, what the store holds when it is asked
(`Documented.tallies`), and over rows that stay as they are it reports the events of the token
(`Tallies.reports_events`). The store of the bench does what is documented (`documented_shelf`).
-/

namespace LinkShortener

open Routine
open Bench (World)

/-! ### Events -/

namespace Click

/-- The number of events that clicks are of; an event counts once however many clicks it has. -/
def eventCount (clicks : Finset Click) : Nat := (clicks.image (·.event)).card

/-- Groups that count the events of clicks along a dimension: one group for each value that
occurs, with the number of events of its clicks. -/
structure Distinguishes (clicks : Finset Click) (dimension : Dimension)
    (groups : List (String × Int)) : Prop where
  distinct : (groups.map Prod.fst).Nodup
  mem : ∀ value n, (value, n) ∈ groups ↔
    0 < n ∧ n = (eventCount (clicks.filter (·.along dimension = value)) : Int)

variable {clicks : Finset Click} {dimension : Dimension} {groups groups' : List (String × Int)}

theorem eventCount_eq_zero : eventCount clicks = 0 ↔ clicks = ∅ := by
  rw [eventCount, Finset.card_eq_zero, Finset.image_eq_empty]

theorem eventCount_pos : 0 < eventCount clicks ↔ clicks.Nonempty := by
  rw [Nat.pos_iff_ne_zero, ne_eq, eventCount_eq_zero, Finset.nonempty_iff_ne_empty]

/-- Clicks are counted along a dimension in one way only, up to the order of the groups. -/
theorem Distinguishes.perm (counts : Distinguishes clicks dimension groups)
    (counts' : Distinguishes clicks dimension groups') : groups.Perm groups' := by
  apply (List.perm_ext_iff_of_nodup counts.distinct.of_map counts'.distinct.of_map).mpr
  rintro ⟨value, n⟩
  rw [counts.mem, counts'.mem]

/-- The clicks of one value are as many events as they make pairs of the value and an event. -/
theorem eventCount_filter (clicks : Finset Click) (dimension : Dimension) (value : String) :
    eventCount (clicks.filter (·.along dimension = value)) =
      ((clicks.image fun c => (c.along dimension, c.event)).filter (·.1 = value)).card := by
  have pairs : (clicks.image fun c => (c.along dimension, c.event)).filter (·.1 = value) =
      ((clicks.filter (·.along dimension = value)).image (·.event)).image (value, ·) := by
    ext ⟨v, e⟩
    simp only [Finset.mem_filter, Finset.mem_image, Prod.mk.injEq]
    constructor
    · rintro ⟨⟨c, mem, rfl, rfl⟩, rfl⟩
      exact ⟨_, ⟨c, ⟨mem, rfl⟩, rfl⟩, rfl, rfl⟩
    · rintro ⟨_, ⟨c, ⟨mem, rfl⟩, rfl⟩, rfl, rfl⟩
      exact ⟨⟨c, mem, rfl, rfl⟩, rfl⟩
  rw [eventCount, pairs, Finset.card_image_of_injective _ (Prod.mk_right_injective value)]

/-- The groups are those of the texts that occur. -/
theorem Distinguishes.mem_keys (counts : Distinguishes clicks dimension groups) (value : String) :
    value ∈ groups.map Prod.fst ↔ ∃ c ∈ clicks, c.along dimension = value := by
  simp only [List.mem_map, Prod.exists, exists_and_right, exists_eq_right, counts.mem,
    Int.natCast_pos, eventCount_pos, Finset.filter_nonempty_iff]

/-- The groups add up to the number of pairs that the clicks make of a value and an event. -/
theorem Distinguishes.sum (counts : Distinguishes clicks dimension groups) :
    (groups.map Prod.snd).sum =
      ((clicks.image fun c => (c.along dimension, c.event)).card : Int) := by
  generalize made : (clicks.image fun c => (c.along dimension, c.event)) = pairs
  have sizes : groups.map Prod.snd = (groups.map Prod.fst).map fun value =>
      ((pairs.filter (·.1 = value)).card : Int) := by
    rw [List.map_map]
    apply List.map_congr_left
    rintro ⟨value, n⟩ mem
    rw [((counts.mem value n).mp mem).2, eventCount_filter, made]
    rfl
  have keys : (groups.map Prod.fst).toFinset = pairs.image Prod.fst := by
    ext value
    rw [List.mem_toFinset, counts.mem_keys, ← made, Finset.image_image, Finset.mem_image]
    rfl
  rw [sizes, ← List.sum_toFinset _ counts.distinct, keys, Finset.card_eq_sum_card_image Prod.fst,
    Nat.cast_sum]

/-- The groups add up to the number of events or more; they do to that number exactly if clicks of
one event have one value. -/
theorem Distinguishes.eventCount_le_sum (counts : Distinguishes clicks dimension groups) :
    (eventCount clicks : Int) ≤ (groups.map Prod.snd).sum ∧
      ((groups.map Prod.snd).sum = eventCount clicks ↔ ∀ c ∈ clicks, ∀ c' ∈ clicks,
        c.event = c'.event → c.along dimension = c'.along dimension) := by
  generalize made : (clicks.image fun c => (c.along dimension, c.event)) = pairs
  have events : eventCount clicks = (pairs.image Prod.snd).card := by
    rw [← made, Finset.image_image]
    rfl
  rw [counts.sum, made, events]
  constructor
  · exact_mod_cast Finset.card_image_le
  · rw [Nat.cast_inj, eq_comm, Finset.card_image_iff, ← made]
    constructor
    · intro injective c mem c' mem' same
      exact congrArg Prod.fst (injective (Finset.mem_coe.mpr (Finset.mem_image_of_mem _ mem))
        (Finset.mem_coe.mpr (Finset.mem_image_of_mem _ mem')) same)
    · intro agree p made p' made' same
      obtain ⟨c, mem, rfl⟩ := Finset.mem_image.mp (Finset.mem_coe.mp made)
      obtain ⟨c', mem', rfl⟩ := Finset.mem_image.mp (Finset.mem_coe.mp made')
      exact Prod.ext (agree c mem c' mem' same) same

end Click

namespace Statistics

/-- A report on the events of clicks of a token: none of clicks that there are not, else a tally
that counts the events in all and along every dimension. -/
inductive ReportsEvents (token : String) (clicks : Finset Click) : Except Fault Tally → Prop
  | none (none : clicks = ∅) : ReportsEvents token clicks (.error (.noClicks token))
  | told (tally : Tally) (some : clicks.Nonempty) (named : tally.token = token)
      (total : tally.total = Click.eventCount clicks)
      (counts : ∀ dimension, Click.Distinguishes clicks dimension (tally.along dimension)) :
      ReportsEvents token clicks (.ok tally)

/-! ### Replies -/

/-- A reply to a count. -/
def countReply (n : Nat) : Datum := .list [.list [.ofInt n]]

def groupReply (groups : List (String × Int)) : Datum :=
  .list (groups.map fun (value, n) => .list [.ofText value, .ofInt n])

/-- Groups as they are read from a reply. -/
def textCells (groups : List (String × Int)) : List (Cell × Int) :=
  groups.map fun (value, n) => (.text value, n)

theorem totalOf_countReply (n : Nat) : totalOf (countReply n) = .ok (n : Int) := rfl

/-- Groups of values that have none yet are added at the end. -/
theorem foldl_including (before groups : List (String × Int))
    (distinct : ((before ++ groups).map Prod.fst).Nodup) :
    (textCells groups).foldl including (textCells before) = textCells (before ++ groups) := by
  induction groups generalizing before with
  | nil => simp [textCells]
  | cons group groups ih =>
      have new : (textCells before).any (·.1.worth == Cell.worth (.text group.1)) = false := by
        rw [List.map_append, List.nodup_append] at distinct
        simp only [textCells, List.any_map, List.any_eq_false, Function.comp_apply, beq_iff_eq]
        intro other mem same
        cases other
        cases same
        exact distinct.2.2 _ (List.mem_map_of_mem mem) _ List.mem_cons_self rfl
      have added : including (textCells before) (.text group.1, group.2) =
          textCells (before ++ [group]) := by
        rw [including, new]
        simp [textCells]
      rw [show textCells (group :: groups) = (.text group.1, group.2) :: textCells groups from rfl,
        List.foldl_cons, added, ih _ (by simpa using distinct), List.append_assoc,
        List.singleton_append]

/-- Groups are read from a reply as they were written into it. -/
theorem groupsOf_groupReply {groups : List (String × Int)}
    (distinct : (groups.map Prod.fst).Nodup) :
    groupsOf (groupReply groups) = .ok (textCells groups) := by
  have rows : (groups.map fun (value, n) => Datum.list [.ofText value, .ofInt n]).mapM groupOf =
      .ok (textCells groups) := by
    clear distinct
    induction groups with
    | nil => rfl
    | cons group groups ih =>
        rw [List.map_cons, List.mapM_cons, ih]
        rfl
  have items : (groupReply groups).items = .ok
      (groups.map fun (value, n) => Datum.list [.ofText value, .ofInt n]) := rfl
  simp only [groupsOf, items, bind, Except.bind, rows]
  exact congrArg Except.ok (foldl_including [] groups distinct)

@[simp] theorem textGroups_textCells (groups : List (String × Int)) :
    textGroups (textCells groups) = groups := by
  simp [textGroups, textCells, Cell.text?]

@[simp] theorem unfit_textCells (field : String) (groups : List (String × Int)) :
    unfit field (textCells groups) = [] := by
  simp [unfit, textCells, Cell.text?]

end Statistics

/-! ### The store -/

namespace ColumnStore

open Click (Distinguishes eventCount)
open Statistics (countReply groupReply)

/-- The clicks of a token among rows; equal rows are one click. -/
def ofToken (rows : Multiset Click) (token : String) : Finset Click :=
  rows.toFinset.filter (·.token = token)

theorem mem_ofToken {rows : Multiset Click} {token : String} {c : Click} :
    c ∈ ofToken rows token ↔ c ∈ rows ∧ c.token = token := by
  simp only [ofToken, Finset.mem_filter, Multiset.mem_toFinset]

/-- Calls that go to the column store. -/
def isColumns : Call → Bool
  | .columns _ => true
  | _ => false

/-- The column store holds rows and does what it is documented to do: a row that is inserted is
added to them, and queries count the rows that there are when they are made. Until a call is
answered the rows may drift in the given way. Nothing else touches them, and notes can always be
made. -/
structure Documented {σ : Type} (drifts : Multiset Click → Multiset Click → Prop)
    (perform : Performer σ) (rows : σ → Multiset Click) : Prop where
  insert : ∀ s click, ∃ s', perform (.columns (.insert click)) s = (.ok (), s') ∧
    drifts (click ::ₘ rows s) (rows s')
  count : ∀ s token, ∃ s', drifts (rows s) (rows s') ∧
    perform (.columns (.countClicks token)) s =
      (.ok (countReply (eventCount (ofToken (rows s') token))), s')
  group : ∀ s token dimension, ∃ s' groups, drifts (rows s) (rows s') ∧
    Distinguishes (ofToken (rows s') token) dimension groups ∧
    perform (.columns (.groupClicks token dimension)) s = (.ok (groupReply groups), s')
  note : ∀ s call, Visit.Noted call → ∃ a, (perform (.process call) s).1 = .ok a
  other : ∀ s c, isColumns c = false → drifts (rows s) (rows (perform c s).2)

/-- What can come of a tally of a token: there is no click when the total is asked for, or each
question is answered from what there is when it is asked. -/
inductive Tallies (drifts : Multiset Click → Multiset Click → Prop) (token : String)
    (rows : Multiset Click) : Except Fault Tally → Multiset Click → Prop
  | absent (rows₁ : Multiset Click) (drifts₁ : drifts rows rows₁)
      (none : ofToken rows₁ token = ∅) :
      Tallies drifts token rows (.error (.noClicks token)) rows₁
  | told (rows₁ rows₂ rows₃ rows₄ rows₅ : Multiset Click) (tally : Tally)
      (drifts₁ : drifts rows rows₁) (drifts₂ : drifts rows₁ rows₂) (drifts₃ : drifts rows₂ rows₃)
      (drifts₄ : drifts rows₃ rows₄) (drifts₅ : drifts rows₄ rows₅)
      (some : (ofToken rows₁ token).Nonempty) (named : tally.token = token)
      (total : tally.total = eventCount (ofToken rows₁ token))
      (byCountry : Distinguishes (ofToken rows₂ token) .country tally.byCountry)
      (byCity : Distinguishes (ofToken rows₃ token) .city tally.byCity)
      (byDevice : Distinguishes (ofToken rows₄ token) .device tally.byDevice)
      (byReferrer : Distinguishes (ofToken rows₅ token) .referrer tally.byReferrer) :
      Tallies drifts token rows (.ok tally) rows₅

section Store

variable {σ : Type} {drifts : Multiset Click → Multiset Click → Prop} {perform : Performer σ}
  {rows : σ → Multiset Click}

/-- A store whose rows drift in one way drifts in any looser way. -/
theorem Documented.mono {drifts' : Multiset Click → Multiset Click → Prop}
    (store : Documented drifts perform rows)
    (looser : ∀ before after, drifts before after → drifts' before after) :
    Documented drifts' perform rows := by
  constructor
  case insert =>
    intro s click
    obtain ⟨s', inserts, drifted⟩ := store.insert s click
    exact ⟨s', inserts, looser _ _ drifted⟩
  case count =>
    intro s token
    obtain ⟨s', drifted, counts⟩ := store.count s token
    exact ⟨s', looser _ _ drifted, counts⟩
  case group =>
    intro s token dimension
    obtain ⟨s', groups, drifted, counts, answers⟩ := store.group s token dimension
    exact ⟨s', groups, looser _ _ drifted, counts, answers⟩
  case note => exact store.note
  case other => exact fun s c other => looser _ _ (store.other s c other)

/-- Notes can be made. -/
theorem Documented.run_note (store : Documented drifts perform rows) (s : σ) {c : ProcessCall}
    (noted : Visit.Noted c) : ∃ a s', (call (.process c)).run perform s = (.ok a, s') ∧
      drifts (rows s) (rows s') := by
  obtain ⟨a, notes⟩ := store.note s c noted
  refine ⟨a, _, ?_, store.other s (.process c) rfl⟩
  rw [run_call, ← notes]

/-- The store takes a click. -/
theorem Documented.run_addColumn (store : Documented drifts perform rows) (s : σ)
    (click : Click) : ∃ s' stored, (ClickStore.add .columns click).run perform s = (.ok (), s') ∧
      drifts (click ::ₘ rows s) stored ∧ drifts stored (rows s') := by
  obtain ⟨s₁, inserts, drifts₁⟩ := store.insert s click
  obtain ⟨⟨⟩, s₂, notes, drifts₂⟩ := store.run_note s₁ (.stored .columns)
  have added : ((call (.columns (.insert click))).rescue Fault.isColumnOutage fun _ =>
      .fail (.clicks (.store click.event))).run perform s = (.ok (), s₁) := by
    rw [run_rescue, run_call, inserts]
    rfl
  refine ⟨s₂, rows s₁, ?_, drifts₁, drifts₂⟩
  rw [ClickStore.add, run_bind, added]
  exact notes

theorem run_query {token : String} {c : ColumnsCall} {a : c.Reply} {s s' : σ}
    (answers : perform (.columns c) s = (.ok a, s')) :
    (Statistics.query token c).run perform s = (.ok a, s') := by
  rw [Statistics.query, run_rescue, run_call, answers]
  rfl

/-- A store that does as it is documented divides the clicks that it has when it is asked. -/
theorem Documented.run_groupColumns (store : Documented drifts perform rows) (s : σ)
    (token : String) (dimension : Dimension) : ∃ s' groups, drifts (rows s) (rows s') ∧
      Distinguishes (ofToken (rows s') token) dimension groups ∧
      (Statistics.groupColumns token dimension).run perform s =
        (.ok (Statistics.textCells groups), s') := by
  obtain ⟨s', groups, drifted, counts, answers⟩ := store.group s token dimension
  refine ⟨s', groups, drifted, counts, ?_⟩
  rw [Statistics.groupColumns, run_bind, run_query answers, ofOutcome_ok, bind_done,
    Statistics.groupsOf_groupReply counts.distinct]
  rfl

/-- A tally counts, question by question, what the store holds when it is asked. -/
theorem Documented.tallies (store : Documented drifts perform rows) (s : σ) (token : String) :
    ∃ o s', (Statistics.tally .columns token).run perform s = (o, s') ∧
      Tallies drifts token (rows s) o (rows s') := by
  obtain ⟨s₁, drifts₁, counted⟩ := store.count s token
  by_cases none : ofToken (rows s₁) token = ∅
  · have zero : (eventCount (ofToken (rows s₁) token) : Int) = 0 := by
      exact_mod_cast Click.eventCount_eq_zero.mpr none
    refine ⟨_, s₁, ?_, .absent _ drifts₁ none⟩
    rw [Statistics.tally, Statistics.ofColumns, run_bind, run_query counted, ofOutcome_ok,
      bind_done, Statistics.totalOf_countReply, zero]
    rfl
  · have some : (eventCount (ofToken (rows s₁) token) : Int) ≠ 0 := by
      exact_mod_cast fun zero => none (Click.eventCount_eq_zero.mp zero)
    obtain ⟨s₂, byCountry, drifts₂, counts₂, asks₂⟩ := store.run_groupColumns s₁ token .country
    obtain ⟨s₃, byCity, drifts₃, counts₃, asks₃⟩ := store.run_groupColumns s₂ token .city
    obtain ⟨s₄, byDevice, drifts₄, counts₄, asks₄⟩ := store.run_groupColumns s₃ token .device
    obtain ⟨s₅, byReferrer, drifts₅, counts₅, asks₅⟩ :=
      store.run_groupColumns s₄ token .referrer
    let tally : Tally := ⟨token, eventCount (ofToken (rows s₁) token), byCountry, byCity, byDevice,
      byReferrer⟩
    refine ⟨.ok tally, s₅, ?_, .told _ _ _ _ _ tally drifts₁ drifts₂ drifts₃ drifts₄ drifts₅
      (Finset.nonempty_iff_ne_empty.mpr none) rfl rfl counts₂ counts₃ counts₄ counts₅⟩
    rw [Statistics.tally, Statistics.ofColumns, run_bind, run_query counted, ofOutcome_ok,
      bind_done, Statistics.totalOf_countReply]
    simp only [Except.mapError, ofOutcome_ok, bind_done, if_neg some, run_bind, asks₂, asks₃, asks₄,
      asks₅, Statistics.unfit_textCells, Statistics.textGroups_textCells, List.append_nil]
    rfl

/-- Where the clicks stay the same while the rows drift, a tally reports the events of the token. -/
theorem Tallies.reports_events {token : String} {before after : Multiset Click}
    {o : Except Fault Tally} (tallies : Tallies drifts token before o after)
    (steady : ∀ rows rows', drifts rows rows' → rows.toFinset = before.toFinset →
      rows'.toFinset = before.toFinset) :
    Statistics.ReportsEvents token (ofToken before token) o := by
  cases tallies with
  | absent rows₁ drifts₁ none =>
      rw [ofToken, steady _ _ drifts₁ rfl] at none
      exact .none none
  | told rows₁ rows₂ rows₃ rows₄ rows₅ tally drifts₁ drifts₂ drifts₃ drifts₄ drifts₅ some named
      total byCountry byCity byDevice byReferrer =>
      have same₁ := steady _ _ drifts₁ rfl
      have same₂ := steady _ _ drifts₂ same₁
      have same₃ := steady _ _ drifts₃ same₂
      have same₄ := steady _ _ drifts₄ same₃
      have same₅ := steady _ _ drifts₅ same₄
      rw [ofToken, same₁] at some total
      refine .told tally some named total fun dimension => ?_
      cases dimension with
      | country => rwa [ofToken, same₂] at byCountry
      | city => rwa [ofToken, same₃] at byCity
      | device => rwa [ofToken, same₄] at byDevice
      | referrer => rwa [ofToken, same₅] at byReferrer

end Store

/-! ### A store in memory -/

/-- The column store of the bench, on which no fault is switched on, beside an atlas that has a
reply for each of the questions to come. -/
def shelf (places : Nat → Except Fault Place) : Performer (List Click × Nat) := fun c (rows, n) =>
  match c with
  | .atlas (.locate _) => (places n, rows, n + 1)
  | c =>
    let (reply, w) := World.perform c { columns := rows }
    (reply, w.columns, n)

/-- The different items of a list are as many as its set has. -/
theorem length_eraseDups {α : Type} [DecidableEq α] [BEq α] [LawfulBEq α] (as : List α) :
    as.eraseDups.length = as.toFinset.card := by
  have same : as.eraseDups.toFinset = as.toFinset := by
    ext a
    simp only [List.mem_toFinset, List.mem_eraseDups]
  rw [← same, List.toFinset_card_of_nodup (Click.nodup_eraseDups as)]

theorem countRows_eq (rows : List Click) (token : String) :
    World.countRows { columns := rows } token =
      countReply (eventCount (ofToken (rows : Multiset Click) token)) := by
  have events : ((rows.filter (·.token == token)).map (·.event)).toFinset =
      (ofToken (rows : Multiset Click) token).image (·.event) := by
    ext event
    simp only [List.mem_toFinset, List.mem_map, List.mem_filter, beq_iff_eq, Finset.mem_image,
      mem_ofToken, Multiset.mem_coe]
  rw [eventCount, ← events, ← length_eraseDups]
  rfl

theorem groupRows_eq (rows : List Click) (token : String) (dimension : Dimension) :
    ∃ groups, World.groupRows { columns := rows } token dimension = groupReply groups ∧
      Distinguishes (ofToken (rows : Multiset Click) token) dimension groups := by
  let pairs := (rows.filter (·.token == token)).map fun c => (c.along dimension, c.event)
  have size (value : String) : (pairs.filter (·.1 == value)).eraseDups.length =
      eventCount ((ofToken (rows : Multiset Click) token).filter (·.along dimension = value)) := by
    rw [length_eraseDups, Click.eventCount_filter]
    congr 1
    ext ⟨v, e⟩
    simp only [pairs, List.mem_toFinset, List.mem_map, List.mem_filter, beq_iff_eq,
      Finset.mem_filter, Finset.mem_image, mem_ofToken, Multiset.mem_coe]
  refine ⟨(pairs.map (·.1)).eraseDups.map fun value =>
    (value, ((pairs.filter (·.1 == value)).eraseDups.length : Int)), ?_, ?_, fun value n => ?_⟩
  · rw [groupReply, List.map_map]
    rfl
  · rw [List.map_map]
    exact (List.map_id' (pairs.map (·.1)).eraseDups).symm ▸ Click.nodup_eraseDups _
  · simp only [List.mem_map, List.mem_eraseDups, Prod.mk.injEq, size]
    constructor
    · rintro ⟨_, ⟨p, mem, rfl⟩, rfl, rfl⟩
      refine ⟨?_, rfl⟩
      rw [Int.natCast_pos, ← size, length_eraseDups, Finset.card_pos]
      exact ⟨p, List.mem_toFinset.mpr (List.mem_filter.mpr ⟨mem, beq_self_eq_true _⟩)⟩
    · rintro ⟨positive, rfl⟩
      rw [Int.natCast_pos, ← size, length_eraseDups, Finset.card_pos] at positive
      obtain ⟨p, mem⟩ := positive
      obtain ⟨mem, same⟩ := List.mem_filter.mp (List.mem_toFinset.mp mem)
      exact ⟨value, ⟨p, mem, eq_of_beq same⟩, rfl, rfl⟩

/-- Other calls leave the columns of the bench as they are. -/
theorem columns_perform (rows : List Click) {c : Call} (other : isColumns c = false) :
    (World.perform c { columns := rows }).2.columns = rows := by
  have calm : Traffic.Calm { columns := rows } := rfl
  have kept (w : World) (b : Bool) : (w.keep c b).columns = w.columns := by
    unfold World.keep
    split <;> rfl
  rw [Traffic.perform_eq, kept]
  cases c with
  | columns c => cases other
  | database c =>
      cases c <;> simp only [World.answer, World.database, Traffic.barring_of_calm calm] <;>
        split <;> rfl
  | keys c =>
      cases c <;> simp only [World.answer, World.server, Traffic.barring_of_calm calm]
      split <;> rfl
  | producer c | consumer c | atlas c | process c => cases c <;> rfl

/-- The column store of the bench does what is documented. -/
theorem documented_shelf (places : Nat → Except Fault Place) :
    Documented Eq (shelf places) fun s => (s.1 : Multiset Click) := by
  constructor
  case insert =>
    rintro ⟨rows, n⟩ click
    refine ⟨(rows ++ [click], n), rfl, ?_⟩
    rw [← Multiset.coe_add, Multiset.coe_singleton, Multiset.add_comm, Multiset.singleton_add]
  case count =>
    rintro ⟨rows, n⟩ token
    refine ⟨(rows, n), rfl, ?_⟩
    rw [← countRows_eq]
    rfl
  case group =>
    rintro ⟨rows, n⟩ token dimension
    obtain ⟨groups, replies, counts⟩ := groupRows_eq rows token dimension
    refine ⟨(rows, n), groups, rfl, counts, ?_⟩
    rw [← replies]
    rfl
  case note =>
    rintro ⟨rows, n⟩ call noted
    cases noted <;> exact ⟨(), rfl⟩
  case other =>
    rintro ⟨rows, n⟩ c other
    have kept := congrArg ((↑) : List Click → Multiset Click) (columns_perform rows other).symm
    cases c with
    | columns c => cases other
    | atlas c =>
        cases c with
        | locate address => rfl
        | _ => exact kept
    | _ => exact kept

end ColumnStore

end LinkShortener
