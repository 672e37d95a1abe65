import LinkShortener.Proofs.Click.Questions
import LinkShortener.Proofs.Routine.Machine
import Mathlib.Algebra.BigOperators.Group.Finset.Basic

/-!
Tallies of rows of any kind. A table is a multiset of rows, of which a tally reads the token and
one text along each dimension; what else a row holds, and which texts there are, does not matter. A
count tells how many rows a token has, and a count along a dimension tells for each of their texts
how many rows have it. The parts of a tally are asked for apart from the total, and each of them
divides the same rows up.

Main statement: a tally of rows is exact (`tally_exact`).
-/

namespace LinkShortener.RowStore

open Routine
open Statistics (Totals Parts)

/-- What is counted of rows. -/
structure View (ρ : Type) where
  token : ρ → String
  along : ρ → Dimension → String

namespace View

variable {ρ : Type} (view : View ρ)

def ofToken (rows : Multiset ρ) (token : String) : Multiset ρ := rows.filter (view.token · = token)

/-- The different texts of rows along a dimension, each with the number of its rows. -/
def groups (rows : Multiset ρ) (dimension : Dimension) : Multiset (String × Nat) :=
  let values := rows.map (view.along · dimension)
  values.dedup.map fun value => (value, values.count value)

/-- Groups that divide rows up along a dimension: there is one group for each text that some row
has, with the number of the rows that have it, and together they are all rows. -/
structure Divides (rows : Multiset ρ) (dimension : Dimension) (groups : List (String × Int)) :
    Prop where
  distinct : (groups.map Prod.fst).Nodup
  keys : ∀ value, value ∈ groups.map Prod.fst ↔ ∃ r ∈ rows, view.along r dimension = value
  counts : ∀ value n, (value, n) ∈ groups →
    n = rows.countP (view.along · dimension = value) ∧ 1 ≤ n
  sum : (groups.map Prod.snd).sum = rows.card

variable {view} {rows : Multiset ρ} {dimension : Dimension} {groups : List (String × Nat)}

/-- Each text that occurs has a group, which tells how often. -/
theorem mem_groups {value : String} {n : Nat} : (value, n) ∈ view.groups rows dimension ↔
    (∃ r ∈ rows, view.along r dimension = value) ∧
      n = rows.countP (view.along · dimension = value) := by
  have count : (rows.map (view.along · dimension)).count value =
      rows.countP (view.along · dimension = value) := by
    simp only [Multiset.count, Multiset.countP_map, ← Multiset.countP_eq_card_filter, eq_comm]
  simp only [View.groups, Multiset.mem_map, Multiset.mem_dedup, Prod.mk.injEq]
  constructor
  · rintro ⟨_, mem, rfl, rfl⟩
    exact ⟨mem, count⟩
  · rintro ⟨mem, rfl⟩
    exact ⟨value, mem, rfl, count⟩

/-- Every row is in the group of its text and in no other, so the groups add up. -/
theorem sum_groups (rows : Multiset ρ) (dimension : Dimension) :
    ((view.groups rows dimension).map Prod.snd).sum = rows.card := by
  rw [View.groups, Multiset.map_map, ← Multiset.card_map (view.along · dimension) rows]
  exact Multiset.toFinset_sum_count_eq (rows.map (view.along · dimension))

/-- The groups of rows divide them up. -/
theorem divides_groups (same : (groups : Multiset (String × Nat)) = view.groups rows dimension) :
    view.Divides rows dimension (groups.map fun (value, n) => (value, (n : Int))) := by
  have mem (value : String) (n : Nat) : (value, n) ∈ groups ↔
      (∃ r ∈ rows, view.along r dimension = value) ∧
        n = rows.countP (view.along · dimension = value) := by
    rw [← Multiset.mem_coe, same, mem_groups]
  constructor
  case distinct =>
    rw [List.map_map]
    have keys : ((groups.map Prod.fst : List String) : Multiset String) =
        (rows.map (view.along · dimension)).dedup := by
      rw [← Multiset.map_coe, same, View.groups, Multiset.map_map]
      exact Multiset.map_id' _
    have nodup := Multiset.nodup_dedup (rows.map (view.along · dimension))
    rw [← keys, Multiset.coe_nodup] at nodup
    exact nodup
  case keys =>
    intro value
    simp only [List.mem_map, Prod.exists, Prod.mk.injEq, mem]
    constructor
    · rintro ⟨_, _, ⟨_, _, ⟨some, -⟩, rfl, -⟩, rfl⟩
      exact some
    · intro some
      exact ⟨value, _, ⟨value, _, ⟨some, rfl⟩, rfl, rfl⟩, rfl⟩
  case counts =>
    intro value n listed
    obtain ⟨⟨_, k⟩, counted, ⟨⟩⟩ := List.mem_map.mp listed
    obtain ⟨⟨r, mem, named⟩, rfl⟩ := (mem value k).mp counted
    refine ⟨rfl, ?_⟩
    have positive : 0 < rows.countP (view.along · dimension = value) :=
      Multiset.countP_pos.mpr ⟨r, mem, named⟩
    exact_mod_cast positive
  case sum =>
    have cast : (groups.map fun (value, n) => (value, (n : Int))).map Prod.snd =
        (groups.map Prod.snd).map Nat.cast := by
      rw [List.map_map, List.map_map]
      rfl
    rw [cast, ← Nat.cast_list_sum, ← sum_groups rows dimension, ← same, Multiset.map_coe,
      Multiset.sum_coe]

end View

/-! ### The store -/

section Store

variable {ρ σ : Type} {view : View ρ} {perform : Performer σ} {rows : σ → Multiset ρ}

/-- The relational database holds a table of rows and does what it is documented to do: it lets
itself be connected to, counts the rows of a token, and groups them along a dimension, in any order
of the groups. None of this touches the rows. -/
structure Documented (view : View ρ) (perform : Performer σ) (rows : σ → Multiset ρ) : Prop where
  connect : ∀ s, ∃ s', rows s' = rows s ∧ perform (.database .connect) s = (.ok (), s')
  count : ∀ s token, ∃ s', rows s' = rows s ∧
    perform (.database (.countClicks token)) s = (.ok (view.ofToken (rows s) token).card, s')
  group : ∀ s token dimension, ∃ (s' : σ) (groups : List (String × Nat)),
    rows s' = rows s ∧
    (groups : Multiset (String × Nat)) = view.groups (view.ofToken (rows s) token) dimension ∧
    perform (.database (.groupClicks token dimension)) s = (.ok groups, s')

theorem Documented.totals (store : Documented view perform rows) (s : σ) (token : String) :
    ∃ s', rows s' = rows s ∧
      Totals perform token s (view.ofToken (rows s) token).card s' .rows := by
  obtain ⟨s₁, same₁, connects⟩ := store.connect s
  obtain ⟨s₂, same₂, counted⟩ := store.count s₁ token
  rw [same₁] at same₂ counted
  exact ⟨s₂, same₂, .rows s₁ connects counted⟩

theorem Documented.parts (store : Documented view perform rows) (s : σ) (token : String)
    (dimension : Dimension) : ∃ s' groups, rows s' = rows s ∧
      view.Divides (view.ofToken (rows s) token) dimension groups ∧
      Parts perform token dimension s s' groups .rows := by
  obtain ⟨s', groups, same, grouped, answers⟩ := store.group s token dimension
  exact ⟨s', _, same, View.divides_groups grouped, .rows groups answers⟩

/-- A tally of rows is exact, whatever the texts in them are. If no row is of the token, there is
none; else its total is the number of the rows of the token, and each of its parts divides these rows
up. -/
theorem tally_exact (store : Documented view perform rows) (s : σ) (token : String) :
    ∃ o s', (Statistics.tally .rows token).run perform s = (o, s') ∧
      (view.ofToken (rows s) token = 0 → o = .error (.noClicks token)) ∧
      (view.ofToken (rows s) token ≠ 0 → ∃ tally, o = .ok tally ∧ tally.token = token ∧
        tally.total = (view.ofToken (rows s) token).card ∧
        ∀ dimension,
          view.Divides (view.ofToken (rows s) token) dimension (tally.along dimension)) := by
  obtain ⟨s₁, same₁, totals⟩ := store.totals s token
  by_cases none : view.ofToken (rows s) token = 0
  · rw [none, Multiset.card_zero] at totals
    refine ⟨_, s₁, Statistics.run_tally_of_nothing totals, ?_, ?_⟩
    · intro _
      rfl
    · intro some
      exact absurd none some
  · have some : (view.ofToken (rows s) token).card ≠ 0 := mt Multiset.card_eq_zero.mp none
    obtain ⟨s₂, byCountry, same₂, country, asks₂⟩ := store.parts s₁ token .country
    obtain ⟨s₃, byCity, same₃, city, asks₃⟩ := store.parts s₂ token .city
    obtain ⟨s₄, byDevice, same₄, device, asks₄⟩ := store.parts s₃ token .device
    obtain ⟨s₅, byReferrer, same₅, referrer, asks₅⟩ := store.parts s₄ token .referrer
    refine ⟨_, s₅, Statistics.run_tally_of_parts totals some asks₂ asks₃ asks₄ asks₅, ?_, ?_⟩
    · intro none'
      exact absurd none' none
    · intro _
      refine ⟨_, rfl, rfl, rfl, ?_⟩
      rw [same₁] at same₂ country
      rw [same₂] at same₃ city
      rw [same₃] at same₄ device
      rw [same₄] at referrer
      intro dimension
      cases dimension with
      | country => exact country
      | city => exact city
      | device => exact device
      | referrer => exact referrer

end Store

/-! ### A table in memory -/

section Archive

variable {ρ : Type}

/-- A listed table of rows, beside machinery of which everything else is as smooth as can be. -/
def archive (view : View ρ) : Performer (List ρ) := fun c rows =>
  match c with
  | .database (.countClicks token) => (.ok (rows.filter (view.token · == token)).length, rows)
  | .database (.groupClicks token dimension) =>
    let values := (rows.filter (view.token · == token)).map (view.along · dimension)
    (.ok (values.eraseDups.map fun value => (value, values.count value)), rows)
  | c => (smooth c, rows)

theorem coe_eraseDups (values : List String) :
    (values.eraseDups : Multiset String) = (values : Multiset String).dedup := by
  rw [Multiset.coe_dedup, Multiset.coe_eq_coe,
    List.perm_ext_iff_of_nodup (Click.nodup_eraseDups values) values.nodup_dedup]
  intro value
  rw [List.mem_eraseDups, List.mem_dedup]

theorem View.ofToken_coe (view : View ρ) (rows : List ρ) (token : String) :
    view.ofToken (rows : Multiset ρ) token = (rows.filter (view.token · == token) : List ρ) := by
  rw [View.ofToken, Multiset.filter_coe]
  rfl

/-- The groups of listed rows can be listed in the order of the first rows. -/
theorem View.groups_coe (view : View ρ) (rows : List ρ) (dimension : Dimension) :
    view.groups (rows : Multiset ρ) dimension =
      ((rows.map (view.along · dimension)).eraseDups.map fun value =>
        (value, (rows.map (view.along · dimension)).count value) : List (String × Nat)) := by
  rw [View.groups, ← Multiset.map_coe, coe_eraseDups]
  simp only [Multiset.map_coe, Multiset.coe_count]

theorem documented_archive (view : View ρ) :
    Documented view (archive view) fun rows => (rows : Multiset ρ) := by
  constructor
  case connect => exact fun rows => ⟨rows, rfl, rfl⟩
  case count =>
    intro rows token
    refine ⟨rows, rfl, ?_⟩
    rw [View.ofToken_coe]
    rfl
  case group =>
    intro rows token dimension
    refine ⟨rows, _, rfl, ?_, rfl⟩
    rw [View.ofToken_coe, View.groups_coe]

end Archive

/-- A row with any texts. -/
structure Row where
  token : String
  country : String
  city : String
  device : String
  referrer : String
  deriving DecidableEq, Repr

/-- The texts of a row. -/
def Row.view : View Row where
  token := Row.token
  along r
    | .country => r.country
    | .city => r.city
    | .device => r.device
    | .referrer => r.referrer

/-- Rows of two tokens, some with texts that are empty or differ in case only. -/
def assorted : List Row :=
  [⟨"b", "Norway", "", "Mobile", "x"⟩, ⟨"c", "Norway", "Oslo", "mobile", ""⟩,
   ⟨"b", "norway", "", "", "x"⟩, ⟨"b", "Norway", "Oslo", "mobile", ""⟩]

/-- A text counts apart from one that differs in case, an empty text counts as any other, and the
row of the other token does not count. -/
theorem assorted_rows_tallied :
    ∃ tally s, (Statistics.tally .rows "b").run (archive Row.view) assorted = (.ok tally, s) ∧
      tally.total = 3 ∧ tally.byCountry = [("Norway", 2), ("norway", 1)] ∧
      tally.byCity = [("", 2), ("Oslo", 1)] ∧
      tally.byDevice = [("Mobile", 1), ("", 1), ("mobile", 1)] ∧
      (tally.byReferrer.map Prod.snd).sum = 3 := by
  obtain ⟨o, s', asked, -, exact⟩ := tally_exact (documented_archive Row.view) assorted "b"
  obtain ⟨tally, rfl, -, total, divides⟩ := exact (by decide)
  have told : ((Statistics.tally .rows "b").run (archive Row.view) assorted).1 =
      .ok ⟨"b", 3, [("Norway", 2), ("norway", 1)], [("", 2), ("Oslo", 1)],
        [("Mobile", 1), ("", 1), ("mobile", 1)], [("x", 2), ("", 1)]⟩ := rfl
  rw [asked] at told
  cases told
  exact ⟨_, s', asked, total, rfl, rfl, rfl, (divides .referrer).sum⟩

end LinkShortener.RowStore
