import LinkShortener.Click.Table
import Mathlib.Algebra.BigOperators.Group.List.Lemmas
import Mathlib.Algebra.BigOperators.Ring.Finset
import Mathlib.Data.List.Dedup

/-!
What inserting does to the table of clicks, and what grouping tells of clicks. A click is added at
the end unless its event id is taken, which is the only reason for a refusal. Groups count every
click once, under its own value.

Main statements: `Click.Table.insert_eq_ok`, `Click.Table.insert_eq_error`, `Click.counts_groups`.
-/

namespace LinkShortener.Click

/-! ### Groups -/

theorem nodup_eraseDups {α : Type} [BEq α] [LawfulBEq α] (as : List α) : as.eraseDups.Nodup := by
  induction length : as.length using Nat.strongRecOn generalizing as with
  | ind n ih =>
      cases as with
      | nil => exact .nil
      | cons a as =>
          rw [List.eraseDups_cons, List.nodup_cons]
          constructor
          · intro mem
            have kept := (List.mem_filter.mp (List.mem_eraseDups.mp mem)).2
            simp at kept
          · refine ih _ ?_ _ rfl
            have le := List.length_filter_le (fun b => !b == a) as
            rw [List.length_cons] at length
            omega

/-- Groups that count clicks along a dimension: one for each value that occurs, with the number
of its clicks, and all of them together make up the clicks. -/
structure Counts (clicks : List Click) (dimension : Dimension) (groups : List (String × Int)) :
    Prop where
  distinct : (groups.map Prod.fst).Nodup
  mem : ∀ value n, (value, n) ∈ groups ↔
    0 < n ∧ n = ((clicks.map (·.along dimension)).count value : Nat)
  sum : (groups.map Prod.snd).sum = clicks.length

/-- The groups of clicks count them. -/
theorem counts_groups (clicks : List Click) (dimension : Dimension) :
    Counts clicks dimension
      ((groups clicks dimension).map fun (value, n) => (value, (n : Int))) := by
  generalize values : clicks.map (·.along dimension) = vs
  have length : clicks.length = vs.length := by rw [← values, List.length_map]
  have perm : vs.eraseDups.Perm vs.dedup := by
    refine (List.perm_ext_iff_of_nodup (nodup_eraseDups vs) vs.nodup_dedup).mpr fun value => ?_
    rw [List.mem_eraseDups, List.mem_dedup]
  have is : (groups clicks dimension).map (fun (value, n) => (value, (n : Int))) =
      vs.eraseDups.map fun value => (value, (vs.count value : Int)) := by
    rw [groups, values, List.map_map]
    rfl
  rw [is]
  refine ⟨?_, fun value n => ?_, ?_⟩
  · rw [List.map_map]
    exact (List.map_id' vs.eraseDups).symm ▸ nodup_eraseDups vs
  · rw [values]
    simp only [List.mem_map, List.mem_eraseDups, Prod.mk.injEq]
    constructor
    · rintro ⟨value, mem, rfl, rfl⟩
      exact ⟨by exact_mod_cast List.count_pos_iff.mpr mem, rfl⟩
    · rintro ⟨positive, rfl⟩
      exact ⟨value, List.count_pos_iff.mp (by exact_mod_cast positive), rfl, rfl⟩
  · rw [List.map_map, length, ← List.sum_map_count_dedup_eq_length vs,
      (perm.map _).sum_eq, Nat.cast_list_sum, List.map_map]
    rfl

/-- What counts clicks counts them in any order. -/
theorem Counts.perm {clicks clicks' : List Click} {dimension : Dimension}
    {groups : List (String × Int)} (counts : Counts clicks dimension groups)
    (perm : clicks.Perm clicks') : Counts clicks' dimension groups := by
  refine ⟨counts.distinct, fun value n => ?_, ?_⟩
  · rw [counts.mem, (perm.map _).count_eq]
  · rw [counts.sum, perm.length_eq]

/-! ### Inserting -/

namespace Table

variable {t t' : Table} {c : Click}

/-- A click is taken exactly if its event is new, and then it is the last row. -/
theorem insert_eq_ok : t.insert c = .ok t' ↔
    (∀ r ∈ t.rows, Apart r c) ∧ t'.rows = t.rows ++ [c] := by
  unfold insert
  split
  · rename_i apart
    constructor
    · rintro ⟨⟩
      exact ⟨apart, rfl⟩
    · rintro ⟨-, rows⟩
      cases t'
      simp only at rows
      simp only [rows]
  · rename_i clash
    simp only [reduceCtorEq, false_iff]
    exact fun holds => clash holds.1

/-- A click is refused because its event id is taken. -/
theorem insert_eq_error {fault : Fault} (refused : t.insert c = .error fault) :
    (∃ r ∈ t.rows, r.event = c.event) ∧ fault = conflict := by
  unfold insert at refused
  split at refused
  · cases refused
  · rename_i clash
    cases refused
    refine ⟨?_, rfl⟩
    simpa only [Apart, ne_eq, Classical.not_forall, Classical.not_not, exists_prop] using clash

end Table

end LinkShortener.Click
