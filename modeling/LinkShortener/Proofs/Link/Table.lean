import LinkShortener.Link.Table
import Mathlib.Data.List.Pairwise

/-!
What the operations of the table of links do to the link of a token. Retargeting and deleting
touch the link of their own token only; inserting adds one link and leaves those of the other
tokens alone. The greatest id bounds all ids.
-/

namespace LinkShortener.Link.Table

variable {t t' : Table} {token : String} {l : Link}

instance : Std.Symm Apart := ⟨fun _ _ apart => ⟨apart.1.symm, apart.2.symm⟩⟩

theorem mem_of_find? (found : t.find? token = some l) : l ∈ t.rows ∧ l.token = token := by
  refine ⟨List.mem_of_find?_eq_some found, ?_⟩
  have holds := List.find?_some found
  exact beq_iff_eq.mp holds

theorem find?_eq_none : t.find? token = none ↔ ∀ r ∈ t.rows, r.token ≠ token := by
  simp [find?, List.find?_eq_none]

/-! ### Inserting -/

/-- A link is inserted exactly if its number fits and no row has its number or its token. -/
theorem insert_eq_ok : t.insert l = .ok t' ↔
    fits l.id = true ∧ (∀ r ∈ t.rows, Apart r l) ∧ t'.rows = t.rows ++ [l] := by
  unfold insert
  split
  · rename_i fit
    split
    · rename_i apart
      constructor
      · rintro ⟨⟩
        exact ⟨fit, apart, rfl⟩
      · rintro ⟨-, -, rows⟩
        congr 1
        cases t'
        simp only at rows
        simp only [rows]
    · rename_i clash
      simp only [reduceCtorEq, false_iff]
      exact fun holds => clash holds.2.1
  · rename_i unfit
    simp only [reduceCtorEq, false_iff]
    exact fun holds => unfit holds.1

/-- A link that is apart from all others and whose id fits is inserted. -/
theorem exists_insert (fit : fits l.id = true) (apart : ∀ r ∈ t.rows, Apart r l) :
    ∃ t', t.insert l = .ok t' := by
  unfold insert
  rw [if_pos fit, dif_pos apart]
  exact ⟨_, rfl⟩

/-- A link that is apart from all others is refused at most for its id. -/
theorem insert_error_of_apart {fault : Fault} (apart : ∀ r ∈ t.rows, Apart r l)
    (refused : t.insert l = .error fault) : fault = .idOutOfRange := by
  unfold insert at refused
  rw [dif_pos apart] at refused
  split at refused
  · cases refused
  · cases refused
    rfl

/-- A link whose id fits is refused for a conflict only. -/
theorem insert_eq_conflict {fault : Fault} (fit : fits l.id = true)
    (refused : t.insert l = .error fault) :
    (∃ r ∈ t.rows, ¬ Apart r l) ∧ fault = conflict := by
  unfold insert at refused
  rw [if_pos fit] at refused
  split at refused
  · cases refused
  · rename_i clash
    cases refused
    exact ⟨by simpa only [Classical.not_forall, exists_prop] using clash, rfl⟩

theorem fits_of_between {m n : Int} (nonneg : 0 ≤ n) (le : n ≤ m) (fit : fits m = true) :
    fits n = true := by
  simp only [fits, Bool.and_eq_true, decide_eq_true_eq] at fit ⊢
  omega

/-- An inserted link is found by its token, and the others stay found. -/
theorem find?_insert (inserted : t.insert l = .ok t') (name : String) :
    t'.find? name = if name = l.token then some l else t.find? name := by
  obtain ⟨-, apart, rows⟩ := insert_eq_ok.mp inserted
  unfold find?
  rw [rows, List.find?_append]
  by_cases same : name = l.token
  · subst same
    have fresh : t.rows.find? (·.token == l.token) = none := by
      rw [List.find?_eq_none]
      intro r mem
      simpa using (apart r mem).2
    simp [fresh]
  · have other : (l.token == name) = false := by simpa using Ne.symm same
    simp [same, other]

theorem findId?_insert (inserted : t.insert l = .ok t') : t'.findId? l.id = some l := by
  obtain ⟨-, apart, rows⟩ := insert_eq_ok.mp inserted
  unfold findId?
  rw [rows, List.find?_append]
  have fresh : t.rows.find? (·.id == l.id) = none := by
    rw [List.find?_eq_none]
    intro r mem
    simpa using (apart r mem).1
  simp [fresh]

theorem mem_of_findId? {id : Int} (found : t.findId? id = some l) : l ∈ t.rows ∧ l.id = id := by
  refine ⟨List.mem_of_find?_eq_some found, ?_⟩
  have holds := List.find?_some found
  exact beq_iff_eq.mp holds

/-! ### Retargeting and deleting -/

/-- A retargeted link is found with its new address, and the others as they were. -/
theorem find?_retarget (t : Table) (token url : String) (time : Moment) (name : String) :
    (t.retarget token url time).find? name =
      (t.find? name).map (retargeted token url time) := by
  unfold find? retarget
  rw [List.find?_map]
  congr 2
  funext r
  simp

theorem mem_retarget {token url : String} {time : Moment} :
    l ∈ (t.retarget token url time).rows ↔ ∃ r ∈ t.rows, retargeted token url time r = l :=
  List.mem_map

theorem retargeted_of_ne {token url : String} {time : Moment} (other : l.token ≠ token) :
    retargeted token url time l = l := by
  simp [retargeted, other]

/-- Retargeting a token leaves the links of other tokens alone. -/
theorem find?_retarget_of_ne {token url name : String} {time : Moment} (other : name ≠ token) :
    (t.retarget token url time).find? name = t.find? name := by
  rw [find?_retarget]
  cases found : t.find? name with
  | none => rfl
  | some r =>
      have named := (mem_of_find? found).2
      rw [Option.map_some, retargeted_of_ne (by rw [named]; exact other)]

theorem ext_rows (same : t.rows = t'.rows) : t = t' := by
  cases t
  cases t'
  cases same
  rfl

/-- Where there is no link of a token, there is nothing to retarget. -/
theorem retarget_of_absent {token url : String} {time : Moment}
    (absent : (t.retarget token url time).find? token = none) :
    t.retarget token url time = t := by
  rw [find?_retarget, Option.map_eq_none_iff, find?_eq_none] at absent
  refine ext_rows ?_
  calc t.rows.map (retargeted token url time)
      = t.rows.map fun r => r := List.map_congr_left fun r mem => retargeted_of_ne (absent r mem)
    _ = t.rows := List.map_id' _

/-- A deleted link is not found, and the others stay found. -/
theorem find?_delete (t : Table) (token name : String) :
    (t.delete token).find? name = if name = token then none else t.find? name := by
  unfold find? delete
  rw [List.find?_filter]
  by_cases same : name = token
  · subst same
    rw [if_pos rfl, List.find?_eq_none]
    intro r _
    cases h : r.token == name <;> simp [bne, h]
  · rw [if_neg same]
    congr 1
    funext r
    by_cases named : r.token = name
    · subst named
      simp [same]
    · simp [named]

theorem mem_delete : l ∈ (t.delete token).rows ↔ l ∈ t.rows ∧ l.token ≠ token := by
  simp [delete, List.mem_filter]

/-- Where there is no link of a token, there is nothing to delete. -/
theorem delete_of_absent (absent : t.find? token = none) : t.delete token = t := by
  refine ext_rows (List.filter_eq_self.mpr fun r mem => ?_)
  exact bne_iff_ne.mpr (find?_eq_none.mp absent r mem)

theorem count_eq_zero : t.count token = 0 ↔ t.find? token = none := by
  simp [count, find?, List.find?_eq_none, List.filter_eq_nil_iff]

/-! ### The greatest id -/

/-- The greatest id of the table, zero when it is empty. -/
def lastId (t : Table) : Int := t.lastId?.getD 0

/-- No row has a number above the last one. -/
theorem le_lastId (mem : l ∈ t.rows) : l.id ≤ t.lastId := by
  unfold lastId lastId?
  have among : l.id ∈ t.rows.map (·.id) := List.mem_map_of_mem mem
  cases greatest : (t.rows.map (·.id)).max? with
  | none =>
      rw [List.max?_eq_none_iff.mp greatest] at among
      cases among
  | some m => exact (List.max?_le_iff greatest).mp (Int.le_refl m) _ among

theorem lastId_nonneg (nonneg : ∀ r ∈ t.rows, 0 ≤ r.id) : 0 ≤ t.lastId := by
  unfold lastId lastId?
  cases greatest : (t.rows.map (·.id)).max? with
  | none => exact Int.le_refl 0
  | some m =>
      obtain ⟨r, mem, rfl⟩ := List.mem_map.mp (List.max?_mem greatest)
      exact nonneg r mem

end LinkShortener.Link.Table
