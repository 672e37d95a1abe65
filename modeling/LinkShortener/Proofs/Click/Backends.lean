import LinkShortener.Proofs.Click.Columns
import Mathlib.Logic.Relation

/-!
The two backends tell the same. One refuses a click whose event is there already and counts rows;
the other takes every click, puts rows of one event together when it likes, and counts events. Both
come to hold the same clicks, however often each was stored, and both report the events of them.

Main statement: after the same clicks were stored in both, tallies of any token agree
(`backends_agree`).
-/

namespace LinkShortener

open Routine
open Bench (World)
open Traffic (Calm barring_of_calm perform_eq)

/-! ### Outcomes -/

namespace Statistics

/-- Outcomes of tallies of a token that tell the same: that there is no click of it, or the same
numbers. The parts are maps: no value has two groups, and the order of groups does not matter. -/
inductive Agree (token : String) : Except Fault Tally → Except Fault Tally → Prop
  | absent : Agree token (.error (.noClicks token)) (.error (.noClicks token))
  | told (t t' : Tally) (named : t.token = token) (named' : t'.token = token)
      (total : t.total = t'.total)
      (distinct : ∀ dimension, ((t.along dimension).map Prod.fst).Nodup)
      (perm : ∀ dimension, (t.along dimension).Perm (t'.along dimension)) :
      Agree token (.ok t) (.ok t')

variable {token : String} {clicks : Finset Click} {o o' : Except Fault Tally}

/-- There is one report on given clicks. -/
theorem ReportsEvents.agree (reports : ReportsEvents token clicks o)
    (reports' : ReportsEvents token clicks o') : Agree token o o' := by
  cases reports with
  | none none =>
      cases reports' with
      | none => exact .absent
      | told t some => exact absurd none some.ne_empty
  | told t some named total counts =>
      cases reports' with
      | none none => exact absurd none some.ne_empty
      | told t' some' named' total' counts' =>
          apply Agree.told t t' named named' (total.trans total'.symm)
          · exact fun dimension => (counts dimension).distinct
          · exact fun dimension => (counts dimension).perm (counts' dimension)

/-- Exactly where there are no clicks a report says so. -/
theorem ReportsEvents.eq_noClicks_iff (reports : ReportsEvents token clicks o) :
    o = .error (.noClicks token) ↔ clicks = ∅ := by
  cases reports with
  | none none => simp [none]
  | told t some => simp [some.ne_empty]

end Statistics

/-! ### Rows -/

namespace Click

variable {clicks : List Click}

/-- Clicks that may stand in one table are as many events. -/
theorem eventCount_of_apart (apart : clicks.Pairwise Apart) :
    eventCount clicks.toFinset = clicks.length := by
  have distinct : (clicks.map (·.event)).Nodup := List.pairwise_map.mpr apart
  have events : clicks.toFinset.image (·.event) = (clicks.map (·.event)).toFinset := by
    ext event
    simp only [Finset.mem_image, List.mem_toFinset, List.mem_map]
  rw [eventCount, events, List.toFinset_card_of_nodup distinct, List.length_map]

/-- What counts clicks that may stand in one table counts their events. -/
theorem Counts.distinguishes {dimension : Dimension} {groups : List (String × Int)}
    (counts : Counts clicks dimension groups) (apart : clicks.Pairwise Apart) :
    Distinguishes clicks.toFinset dimension groups := by
  refine ⟨counts.distinct, fun value n => ?_⟩
  have filtered : clicks.toFinset.filter (·.along dimension = value) =
      (clicks.filter (·.along dimension = value)).toFinset := by
    ext c
    simp only [Finset.mem_filter, List.mem_toFinset, List.mem_filter, decide_eq_true_eq]
  rw [counts.mem, filtered, eventCount_of_apart (apart.filter _), List.count_eq_countP,
    List.countP_map, List.countP_eq_length_filter]
  rfl

end Click

/-- Clicks no two of which are of one event are counted as events. -/
theorem Statistics.Reports.events {token : String} {clicks : List Click}
    {o : Except Fault Tally} (reports : Reports token clicks o)
    (apart : clicks.Pairwise Click.Apart) : ReportsEvents token clicks.toFinset o := by
  rcases reports with ⟨rfl, rfl⟩ | ⟨some, tally, rfl, named, total, counts⟩
  · exact .none rfl
  · apply ReportsEvents.told tally
    · exact (List.toFinset_nonempty_iff clicks).mpr some
    · exact named
    · rw [total, Click.eventCount_of_apart apart]
    · exact fun dimension => (counts dimension).distinguishes apart

/-! ### Rows that are put together -/

namespace ColumnStore

/-- Two rows of one event of a token are put together: one of them is kept. -/
inductive Merge : Multiset Click → Multiset Click → Prop
  | merge (kept gone : Click) (rest : Multiset Click) (token : kept.token = gone.token)
      (event : kept.event = gone.event) : Merge (kept ::ₘ gone ::ₘ rest) (kept ::ₘ rest)

/-- Any number of times rows are put together. -/
abbrev Merges : Multiset Click → Multiset Click → Prop := Relation.ReflTransGen Merge

/-- Clicks of one event are equal. -/
def Faithful (clicks : Finset Click) : Prop :=
  ∀ c ∈ clicks, ∀ c' ∈ clicks, c.event = c'.event → c = c'

theorem Faithful.mono {clicks clicks' : Finset Click} (faithful : Faithful clicks')
    (subset : clicks ⊆ clicks') : Faithful clicks :=
  fun c mem c' mem' => faithful c (subset mem) c' (subset mem')

/-- Putting rows together does not lose a click if those of one event are equal. -/
theorem toFinset_merge {before after : Multiset Click} (merge : Merge before after)
    (faithful : Faithful before.toFinset) : after.toFinset = before.toFinset := by
  cases merge with
  | merge kept gone rest token event =>
      have same : kept = gone := by
        apply faithful _ _ _ _ event <;> simp
      simp [same]

theorem toFinset_merges {before after : Multiset Click} (merges : Merges before after)
    (faithful : Faithful before.toFinset) : after.toFinset = before.toFinset := by
  induction merges with
  | refl => rfl
  | tail _ merge ih =>
      rw [← ih] at faithful
      rw [toFinset_merge merge faithful, ih]

/-! ### Storing -/

theorem insert_union_toFinset (held : Finset Click) (click : Click) (clicks : List Click) :
    insert click held ∪ clicks.toFinset = held ∪ (click :: clicks).toFinset := by
  rw [List.toFinset_cons, Finset.insert_union, Finset.union_insert]

section Columns

variable {σ : Type} {perform : Performer σ} {rows : σ → Multiset Click}

/-- The column store comes to hold the clicks that are stored in it. -/
theorem run_addColumns (store : Documented Merges perform rows) (s : σ) (clicks : List Click)
    (faithful : Faithful ((rows s).toFinset ∪ clicks.toFinset)) :
    ∃ s', (clicks.forM (ClickStore.add .columns)).run perform s = (.ok (), s') ∧
      (rows s').toFinset = (rows s).toFinset ∪ clicks.toFinset := by
  induction clicks generalizing s with
  | nil => exact ⟨s, rfl, by simp⟩
  | cons click clicks ih =>
      obtain ⟨s₁, stored, adds, merges, merges'⟩ := store.run_addColumn s click
      have all := insert_union_toFinset (rows s).toFinset click clicks
      have holds : (rows s₁).toFinset = insert click (rows s).toFinset := by
        rw [← Multiset.toFinset_cons]
        apply toFinset_merges (merges.trans merges')
        rw [Multiset.toFinset_cons]
        apply faithful.mono
        rw [← all]
        exact Finset.subset_union_left
      obtain ⟨s', rest, left⟩ := ih s₁ (by rwa [holds, all])
      refine ⟨s', ?_, by rw [left, holds, all]⟩
      change (ClickStore.add .columns click >>= fun _ => clicks.forM _).run perform s = _
      rw [run_bind, adds]
      exact rest

end Columns

variable {w : World}

/-- A click is inserted, or its event is there already. -/
theorem perform_insertClick (calm : Calm w) (click : Click) :
    ∃ o w', w.perform (.database (.insertClick click)) = (o, w') ∧ Calm w' ∧
      (o = .ok () ∧ w'.clicks.rows = w.clicks.rows ++ [click] ∨
        o = .error Click.Table.conflict ∧ w'.clicks = w.clicks ∧
          ∃ r ∈ w.clicks.rows, r.event = click.event) := by
  simp only [perform_eq, World.answer, World.database, barring_of_calm calm]
  cases inserted : w.clicks.insert click with
  | ok clicks =>
      obtain ⟨-, grown⟩ := Click.Table.insert_eq_ok.mp inserted
      refine ⟨_, _, rfl, (Traffic.switches_keep _ _ _).trans calm, .inl ⟨rfl, ?_⟩⟩
      rw [Statistics.clicks_keep, grown]
  | error fault =>
      obtain ⟨taken, rfl⟩ := Click.Table.insert_eq_error inserted
      refine ⟨_, _, rfl, (Traffic.switches_keep _ _ _).trans calm, .inr ⟨rfl, ?_, taken⟩⟩
      rw [Statistics.clicks_keep]

/-- A click is stored as a row, unless its event is there. -/
theorem run_addRow (calm : Calm w) (click : Click) :
    ∃ w', w.run (ClickStore.add .rows click) = (.ok (), w') ∧ Calm w' ∧
      (w'.clicks.rows = w.clicks.rows ++ [click] ∨
        w'.clicks = w.clicks ∧ ∃ r ∈ w.clicks.rows, r.event = click.event) := by
  have connects : w.perform (.database .connect) =
      (.ok (), w.keep (.database .connect) true) := by
    simp only [perform_eq, World.answer, World.database, barring_of_calm calm]
    rfl
  obtain ⟨o, w', inserts, calm', came⟩ :=
    perform_insertClick (w := w.keep (.database .connect) true) calm click
  rw [Statistics.clicks_keep] at came
  simp only [World.run, ClickStore.add, ClickStore.addRow, Routine.rescue, call, bind_ask,
    outcome, run, connects, ofOutcome_ok, bind_done, inserts]
  rcases came with ⟨rfl, grown⟩ | ⟨rfl, same, taken⟩
  · exact ⟨_, rfl, calm', .inl grown⟩
  · exact ⟨_, rfl, calm', .inr ⟨same, taken⟩⟩

/-- The table comes to hold the clicks that are stored in it. -/
theorem run_addRows (calm : Calm w) (clicks : List Click)
    (faithful : Faithful (w.clicks.rows.toFinset ∪ clicks.toFinset)) :
    ∃ w', w.run (clicks.forM (ClickStore.add .rows)) = (.ok (), w') ∧ Calm w' ∧
      w'.clicks.rows.toFinset = w.clicks.rows.toFinset ∪ clicks.toFinset := by
  induction clicks generalizing w with
  | nil => exact ⟨w, rfl, calm, by simp⟩
  | cons click clicks ih =>
      obtain ⟨w₁, adds, calm₁, came⟩ := run_addRow calm click
      have all := insert_union_toFinset w.clicks.rows.toFinset click clicks
      have holds : w₁.clicks.rows.toFinset = insert click w.clicks.rows.toFinset := by
        rcases came with grown | ⟨same, r, mem, event⟩
        · rw [grown, List.toFinset_append, Finset.union_comm]
          rfl
        · have is : r = click := by
            apply faithful _ _ _ _ event <;> simp [mem]
          rw [same, Finset.insert_eq_of_mem]
          rwa [List.mem_toFinset, ← is]
      obtain ⟨w', rest, calm', left⟩ := ih calm₁ (by rwa [holds, all])
      refine ⟨w', ?_, calm', by rw [left, holds, all]⟩
      change (ClickStore.add .rows click >>= fun _ => clicks.forM _).run World.perform w = _
      rw [World.run] at adds
      rw [run_bind, adds]
      exact rest

/-- What a tally of rows reports on. -/
theorem rows_report (calm : Calm w) (token : String) :
    Statistics.ReportsEvents token (w.clicks.rows.toFinset.filter (·.token = token))
      (w.run (Statistics.tally .rows token)).1 := by
  have filtered : (w.clicks.ofToken token).toFinset =
      w.clicks.rows.toFinset.filter (·.token = token) := by
    ext c
    simp only [Click.Table.ofToken, List.mem_toFinset, List.mem_filter, Finset.mem_filter,
      beq_iff_eq]
  rw [← filtered]
  exact (Statistics.reports calm token).events (w.clicks.apart.filter _)

/-- After the same clicks were stored in both backends, in any order and however often, tallies of
any token agree, whichever rows the column store has put together by then or does between two
questions. Both tell that there is nothing exactly for the tokens without a click. -/
theorem backends_agree {σ : Type} {perform : Performer σ} {rows : σ → Multiset Click}
    (store : Documented Merges perform rows) {s : σ} (blank : rows s = 0) (calm : Calm w)
    (unused : w.clicks = .empty) (clicks : List Click)
    (same : ∀ c ∈ clicks, ∀ c' ∈ clicks, c.event = c'.event → c = c') :
    ∃ w' s', w.run (clicks.forM (ClickStore.add .rows)) = (.ok (), w') ∧
      (clicks.forM (ClickStore.add .columns)).run perform s = (.ok (), s') ∧
      ∀ token,
        Statistics.Agree token (w'.run (Statistics.tally .rows token)).1
          ((Statistics.tally .columns token).run perform s').1 ∧
        ((w'.run (Statistics.tally .rows token)).1 = .error (.noClicks token) ↔
          ∀ c ∈ clicks, c.token ≠ token) := by
  have faithful : Faithful clicks.toFinset := by simpa [Faithful] using same
  obtain ⟨w', addsRows, calm', held⟩ :=
    run_addRows calm clicks (by simpa [unused, Click.Table.empty] using faithful)
  obtain ⟨s', addsColumns, held'⟩ :=
    run_addColumns store s clicks (by simpa [blank] using faithful)
  rw [unused, Click.Table.empty, List.toFinset_nil, Finset.empty_union] at held
  rw [blank, Multiset.toFinset_zero, Finset.empty_union] at held'
  refine ⟨w', s', addsRows, addsColumns, fun token => ?_⟩
  have reports := rows_report calm' token
  rw [held] at reports
  obtain ⟨o, s'', asked, tallies⟩ := store.tallies s' token
  have reports' := tallies.reports_events fun rows rows' merges alike => by
    rw [toFinset_merges merges (by rwa [alike, held']), alike]
  rw [ofToken, held'] at reports'
  constructor
  · rw [asked]
    exact reports.agree reports'
  · rw [reports.eq_noClicks_iff, Finset.filter_eq_empty_iff]
    simp only [List.mem_toFinset, ne_eq]

/-- Two clicks of one token, the first of which is stored twice: the rows hold it once, the columns
twice, and the tallies are the same. -/
theorem repeated_click_counted_alike :
    let click (event : String) : Click :=
      ⟨event, "b", Bench.databaseClock, "Norway", "Oslo", .mobile, ""⟩
    let clicks := [click "e", click "f", click "e"]
    ∃ (w : World) (s : List Click × Nat), w.clicks.rows = [click "e", click "f"] ∧ s.1 = clicks ∧
      Statistics.Agree "b" (w.run (Statistics.tally .rows "b")).1
        ((Statistics.tally .columns "b").run (shelf fun _ => .ok .nowhere) s).1 := by
  intro click clicks
  have store : Documented Merges (shelf fun _ => .ok .nowhere) fun s => (s.1 : Multiset Click) := by
    apply (documented_shelf _).mono
    rintro rows _ rfl
    exact .refl
  have same : ∀ c ∈ clicks, ∀ c' ∈ clicks, c.event = c'.event → c = c' := by
    decide +kernel
  have calm : Calm {} := rfl
  obtain ⟨w, s, rows, columns, agree⟩ :=
    backends_agree store (s := ([], 0)) rfl calm rfl clicks same
  have held : (World.run {} (clicks.forM (ClickStore.add .rows))).2.clicks.rows =
      [click "e", click "f"] := rfl
  have held' : ((clicks.forM (ClickStore.add .columns)).run (shelf fun _ => .ok .nowhere)
      ([], 0)).2.1 = clicks := rfl
  rw [rows] at held
  rw [columns] at held'
  exact ⟨w, s, held, held', (agree "b").1⟩

end ColumnStore

end LinkShortener
