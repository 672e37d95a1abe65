import LinkShortener.Proofs.Click.Table
import LinkShortener.Proofs.Json.Numbers
import LinkShortener.Proofs.Moment.RoundTrip
import LinkShortener.Tally

/-!
What the fields of a record are read of, and what is read of a field that was written. Texts,
points of time and the words of a choice are read back whatever they are. Whole numbers are read
back if they are writable, and those that were read of a document are. The names of a map are read
back if they are distinct, and those that were read are.
-/

namespace LinkShortener.Record

open Json (Value)
open Numeral (Writable)

variable {ms : List (String × Value)} {name : String} {v : Value}

/-! ### Fields -/

theorem mem_of_member? (member : Value.member? ms name = some v) : (name, v) ∈ ms := by
  obtain ⟨m, found, rfl⟩ := Option.map_eq_some_iff.mp member
  have same : m.1 = name := by simpa using List.find?_some found
  rw [← same]
  exact List.mem_reverse.mp (List.mem_of_find?_eq_some found)

section Fields

variable {α : Type} {read : Reader α} {a : α}

/-- A record reads exactly if each of its fields does. -/
theorem Checked.ap_eq_ok {β : Type} {f : Checked (α → β)} {x : Checked α} {b : β} :
    f.ap x = .ok b ↔ ∃ g a, f = .ok g ∧ x = .ok a ∧ g a = b := by
  cases f <;> cases x <;> simp [Checked.ap]

theorem located_eq_ok {place : List String} : located place read v = .ok a ↔ read v = .ok a := by
  unfold located
  cases read v <;> simp [Except.mapError]

theorem required_of_member (member : Value.member? ms name = some v) (reads : read v = .ok a) :
    required ms name read = .ok a := by
  simp only [required, member, located_eq_ok, reads]

theorem optional_of_member (member : Value.member? ms name = some v) (reads : read v = .ok a)
    (default : α) : optional ms name read default = .ok a := by
  simp only [optional, member, located_eq_ok, reads]

/-- A required field that reads is there. -/
theorem member_of_required (done : required ms name read = .ok a) :
    ∃ v, Value.member? ms name = some v ∧ read v = .ok a := by
  unfold required at done
  split at done
  · rename_i v member
    exact ⟨v, member, located_eq_ok.mp done⟩
  · cases done

theorem choice_text {options : List (String × α)} {text : String}
    (listed : options.lookup text = some a) : choice options (.text text) = .ok a := by
  rw [choice, listed]
  rfl

end Fields

theorem moment_text (m : Moment) : moment (.text m.text) = .ok m := by
  rw [moment, Moment.read_text]
  rfl

/-! ### Whole numbers -/

theorem writable_of_ofReal {x : Numeral.Binary64} {n : Int} (read : ofReal x = .ok n) :
    Writable n := by
  unfold ofReal at read
  split at read
  · split at read
    · cases read
    · split at read <;> cases read
      rename_i bounds
      exact Numeral.writable_of_natAbs_lt (by omega)
  · cases read

/-- A whole number that is read of a moderate value is writable. -/
theorem writable_of_int {v : Value} {n : Int} (moderate : v.Moderate) (read : int v = .ok n) :
    Writable n := by
  cases moderate with
  | int writable =>
      cases read
      exact writable
  | bool b =>
      cases read
      cases b <;> exact Numeral.writable_of_natAbs_lt (by decide)
  | text s =>
      rw [int, ofText] at read
      split at read <;> cases read
      rename_i number
      exact Numeral.writable_of_readLenient number
  | real d => exact writable_of_ofReal read
  | null | nan | infinite | broken | list | object => cases read

/-- A whole number among moderate members is writable. -/
theorem writable_of_required {n : Int} (moderate : ∀ m ∈ ms, m.2.Moderate)
    (done : required ms name int = .ok n) : Writable n := by
  obtain ⟨v, member, read⟩ := member_of_required done
  exact writable_of_int (moderate _ (mem_of_member? member)) read

/-! ### Maps -/

/-- What a map of counts is like that was read: no name stands twice, and the counts are
writable. -/
structure Tidy (counts : List (String × Int)) : Prop where
  distinct : (counts.map (·.1)).Nodup
  writable : ∀ count ∈ counts, Writable count.2

/-- Where names are distinct, each of them has its one value. -/
theorem member?_of_mem (nodup : (ms.map (·.1)).Nodup) (mem : (name, v) ∈ ms) :
    Value.member? ms name = some v := by
  have named : ∃ m ∈ ms.reverse, (m.1 == name) = true :=
    ⟨(name, v), List.mem_reverse.mpr mem, beq_self_eq_true name⟩
  obtain ⟨v', found⟩ : ∃ v', Value.member? ms name = some v' := by
    obtain ⟨m, found⟩ := Option.isSome_iff_exists.mp (List.find?_isSome.mpr named)
    exact ⟨m.2, by rw [Value.member?, found, Option.map_some]⟩
  cases List.inj_on_of_nodup_map nodup (mem_of_member? found) mem rfl
  exact found

theorem eraseDups_of_nodup {names : List String} (nodup : names.Nodup) :
    names.eraseDups = names := by
  induction names with
  | nil => rfl
  | cons n names ih =>
      rw [List.nodup_cons] at nodup
      have others : names.filter (fun m => !m == n) = names :=
        List.filter_eq_self.mpr fun m mem => by
          have other : m ≠ n := fun same => nodup.1 (same ▸ mem)
          simp [other]
      rw [List.eraseDups_cons, others, ih nodup.2]

/-- Members with distinct names stay as they are. -/
theorem distinct_of_nodup (nodup : (ms.map (·.1)).Nodup) : distinct ms = ms := by
  have own : ∀ m ∈ ms, (Value.member? ms m.1).map (m.1, ·) = some m := fun m mem => by
    rw [member?_of_mem nodup mem, Option.map_some]
  rw [distinct, eraseDups_of_nodup nodup, List.filterMap_map]
  exact (List.filterMap_congr own).trans List.filterMap_some

/-- Members kept apart have different names. -/
theorem nodup_distinct (ms : List (String × Value)) : ((distinct ms).map (·.1)).Nodup := by
  have sublist (names : List String) :
      ((names.filterMap fun n => (Value.member? ms n).map (n, ·)).map (·.1)).Sublist names := by
    induction names with
    | nil => exact .slnil
    | cons n names ih =>
        cases member : Value.member? ms n with
        | none =>
            rw [List.filterMap_cons_none (by rw [member]; rfl)]
            exact ih.cons n
        | some v =>
            rw [List.filterMap_cons_some (by rw [member]; rfl)]
            exact ih.cons_cons n
  exact (sublist _).nodup (Click.nodup_eraseDups _)

theorem mem_of_mem_distinct {m : String × Value} (mem : m ∈ distinct ms) : m ∈ ms := by
  obtain ⟨n, -, told⟩ := List.mem_filterMap.mp mem
  obtain ⟨v, member, rfl⟩ := Option.map_eq_some_iff.mp told
  exact mem_of_member? member

/-- Counts that are read stand under the names of their entries, each as its entry says. -/
theorem read_of_all {entries : List (String × Value)} {counts : List (String × Int)}
    (read : Checked.all (fun (k, v) => (located [name, k] int v).map (k, ·)) entries =
      .ok counts) :
    counts.map (·.1) = entries.map (·.1) ∧
      ∀ count ∈ counts, ∃ entry ∈ entries, int entry.2 = .ok count.2 := by
  induction entries generalizing counts with
  | nil =>
      cases read
      exact ⟨rfl, fun _ mem => nomatch mem⟩
  | cons entry entries ih =>
      obtain ⟨k, v⟩ := entry
      simp only [Checked.all, Checked.ap_eq_ok] at read
      obtain ⟨_, rest, ⟨_, count, made, first, rfl⟩, later, rfl⟩ := read
      cases made
      obtain ⟨names, values⟩ := ih later
      cases number : located [name, k] int v with
      | error flaws =>
          rw [number] at first
          cases first
      | ok n =>
          rw [number] at first
          cases first
          refine ⟨congrArg (k :: ·) names, List.forall_mem_cons.mpr ⟨?_, fun count mem => ?_⟩⟩
          · exact ⟨(k, v), List.mem_cons_self, located_eq_ok.mp number⟩
          · obtain ⟨entry, listed, read⟩ := values count mem
            exact ⟨entry, List.mem_cons_of_mem _ listed, read⟩

/-- A map of counts that is read of moderate members is tidy. -/
theorem tidy_of_counts {counts : List (String × Int)} (moderate : ∀ m ∈ ms, m.2.Moderate)
    (read : Record.counts ms name = .ok counts) : Tidy counts := by
  unfold Record.counts at read
  split at read
  · cases read
    exact ⟨.nil, fun _ mem => nomatch mem⟩
  · rename_i entries member
    obtain ⟨names, values⟩ := read_of_all read
    cases moderate _ (mem_of_member? member) with
    | object inside =>
        refine ⟨names ▸ nodup_distinct entries, fun count mem => ?_⟩
        obtain ⟨entry, listed, number⟩ := values count mem
        exact writable_of_int (inside entry (mem_of_mem_distinct listed)) number
  · cases read

/-- Counts are read as they were written. -/
theorem all_countsJson (counts : List (String × Int)) :
    Checked.all (fun (k, v) => (located [name, k] int v).map (k, ·))
      (counts.map fun (k, n) => (k, .int n)) = .ok counts := by
  induction counts with
  | nil => rfl
  | cons count counts ih =>
      rw [List.map_cons, Checked.all, ih]
      rfl

/-- A tidy map is read back from its record. -/
theorem counts_countsJson {counts : List (String × Int)} (tidy : Tidy counts)
    (member : Value.member? ms name = some (Tally.countsJson counts)) :
    Record.counts ms name = .ok counts := by
  have nodup : ((counts.map fun (k, n) => (k, Value.int n)).map (·.1)).Nodup := by
    rw [List.map_map]
    exact tidy.distinct
  unfold Record.counts
  rw [member]
  simp only [Tally.countsJson, distinct_of_nodup nodup]
  exact all_countsJson counts

theorem reads_countsJson {counts : List (String × Int)} (tidy : Tidy counts) :
    Json.Reads .record 1 (Tally.countsJson counts) := by
  refine Json.reads_object fun m mem => ?_
  obtain ⟨count, listed, rfl⟩ := List.mem_map.mp mem
  exact Json.reads_int (tidy.writable count listed) 0

end LinkShortener.Record
