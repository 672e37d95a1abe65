import LinkShortener.Proofs.Click.Redelivery

/-!
Tallies of a store that grows. While a tally is made, clicks of new events may be added, so that
every question is answered from more rows than the one before. The total is asked for first, so no
part adds up to less than it. Between the parts there is such an order too, provided that the rows
that were there in the beginning agree: rows of one event with different texts along a dimension
count as often as there are texts.

Main statements: `Tells.spans`, `Tells.ordered`.
-/

namespace LinkShortener.ClickStore

open Click (Distinguishes eventCount)
open ColumnStore (ofToken mem_ofToken sumAlong)

/-! ### Rows that are added -/

/-- Clicks of new events, no two of which are of the same. -/
structure Fresh (rows : Multiset Click) (clicks : List Click) : Prop where
  distinct : (clicks.map (·.event)).Nodup
  new : ∀ c ∈ clicks, ∀ r ∈ rows, r.event ≠ c.event

/-- The rows after so many batches of clicks. -/
def held (rows : Multiset Click) (batches : List (List Click)) (n : Nat) : Multiset Click :=
  rows + (batches.take n).flatten

/-- Clicks of one event have one text along a dimension. -/
def Alike (clicks : Finset Click) (dimension : Dimension) : Prop :=
  ∀ c ∈ clicks, ∀ c' ∈ clicks, c.event = c'.event → c.along dimension = c'.along dimension

section Rows

variable {rows rows' : Multiset Click} {clicks later : List Click} {batches : List (List Click)}
  {token : String} {dimension : Dimension}

/-- Clicks of new events are new one after the other. -/
theorem fresh_append :
    Fresh rows (clicks ++ later) ↔ Fresh rows clicks ∧ Fresh (rows + clicks) later := by
  constructor
  · rintro ⟨distinct, new⟩
    rw [List.map_append, List.nodup_append] at distinct
    obtain ⟨first, second, apart⟩ := distinct
    rw [List.forall_mem_append] at new
    refine ⟨⟨first, new.1⟩, second, ?_⟩
    intro c mem r among
    rcases Multiset.mem_add.mp among with among | among
    · exact new.2 c mem r among
    · exact apart _ (List.mem_map_of_mem among) _ (List.mem_map_of_mem mem)
  · rintro ⟨⟨first, new⟩, second, new'⟩
    constructor
    · rw [List.map_append, List.nodup_append]
      refine ⟨first, second, ?_⟩
      intro event mem event' mem'
      obtain ⟨r, among, rfl⟩ := List.mem_map.mp mem
      obtain ⟨c, added, rfl⟩ := List.mem_map.mp mem'
      exact new' c added r (Multiset.mem_add.mpr (.inr among))
    · rw [List.forall_mem_append]
      exact ⟨new, fun c mem r among => new' c mem r (Multiset.mem_add.mpr (.inl among))⟩

theorem held_zero (rows : Multiset Click) (batches : List (List Click)) :
    held rows batches 0 = rows :=
  Multiset.add_zero rows

theorem held_nil (rows : Multiset Click) (n : Nat) : held rows [] n = rows := by
  rw [held, List.take_nil]
  exact Multiset.add_zero rows

/-- One more batch is added at a time. -/
theorem held_succ (rows : Multiset Click) (batches : List (List Click)) (n : Nat) :
    held rows batches (n + 1) = held rows batches n + ((batches.drop n).headD [] : List Click) := by
  have next : (batches.take (n + 1)).flatten =
      (batches.take n).flatten ++ (batches.drop n).headD [] := by
    rw [List.take_add_one, List.flatten_append, List.headD_eq_head?_getD, List.head?_drop]
    cases batches[n]? <;> simp
  rw [held, next, ← Multiset.coe_add, ← add_assoc]
  rfl

theorem held_mono (rows : Multiset Click) (batches : List (List Click)) :
    Monotone (held rows batches) := by
  refine monotone_nat_of_le_succ fun n => ?_
  rw [held_succ]
  exact Multiset.le_add_right _ _

/-- The batches to come are fresh as well. -/
theorem Fresh.held (fresh : Fresh rows batches.flatten) (n : Nat) :
    Fresh rows (batches.take n).flatten ∧
      Fresh (held rows batches n) (batches.drop n).flatten := by
  rw [← List.take_append_drop n batches, List.flatten_append] at fresh
  exact fresh_append.mp fresh

theorem ofToken_mono (le : rows ≤ rows') : ofToken rows token ⊆ ofToken rows' token :=
  Finset.filter_subset_filter _ (Multiset.toFinset_subset.mpr (Multiset.subset_of_le le))

theorem eventCount_mono {few many : Finset Click} (subset : few ⊆ many) :
    eventCount few ≤ eventCount many :=
  Finset.card_le_card (Finset.image_subset_image subset)

/-- Clicks of new events do not differ from any that are there. -/
theorem Alike.add (alike : Alike (ofToken rows token) dimension) (fresh : Fresh rows clicks) :
    Alike (ofToken (rows + clicks) token) dimension := by
  intro c mem c' mem' same
  obtain ⟨among, named⟩ := mem_ofToken.mp mem
  obtain ⟨among', named'⟩ := mem_ofToken.mp mem'
  rcases Multiset.mem_add.mp among with among | added <;>
    rcases Multiset.mem_add.mp among' with among' | added'
  · exact alike c (mem_ofToken.mpr ⟨among, named⟩) c' (mem_ofToken.mpr ⟨among', named'⟩) same
  · exact absurd same (fresh.new c' added' c among)
  · exact absurd same.symm (fresh.new c added c' among')
  · rw [List.inj_on_of_nodup_map fresh.distinct added added' same]

end Rows

/-! ### Counts -/

/-- How many clicks a tally tells of one text along a dimension. -/
def countAlong (tally : Tally) (dimension : Dimension) (value : String) : Int :=
  ((tally.along dimension).lookup value).getD 0

/-- The events of a token that have a text along a dimension. -/
def eventsOf (rows : Multiset Click) (token : String) (dimension : Dimension) (value : String) :
    Nat :=
  eventCount ((ofToken rows token).filter (·.along dimension = value))

theorem eventsOf_mono {rows rows' : Multiset Click} (le : rows ≤ rows') (token : String)
    (dimension : Dimension) (value : String) :
    eventsOf rows token dimension value ≤ eventsOf rows' token dimension value :=
  eventCount_mono (Finset.filter_subset_filter _ (ofToken_mono le))

/-- A text without a group has no events. -/
theorem lookup_of_distinguishes {clicks : Finset Click} {dimension : Dimension}
    {groups : List (String × Int)} (counts : Distinguishes clicks dimension groups)
    (value : String) : (groups.lookup value).getD 0 =
      (eventCount (clicks.filter (·.along dimension = value)) : Int) := by
  cases found : groups.lookup value with
  | some n =>
      obtain ⟨before, after, rfl, -⟩ := List.lookup_eq_some_iff.mp found
      exact ((counts.mem value n).mp (by simp)).2
  | none =>
      by_contra differs
      have positive : 0 < (eventCount (clicks.filter (·.along dimension = value)) : Int) := by
        rw [Option.getD_none] at differs
        omega
      have listed := (counts.mem value _).mpr ⟨positive, rfl⟩
      have apart := List.lookup_eq_none_iff.mp found _ listed
      simp at apart

/-! ### What a tally tells -/

/-- How many questions after the total the part along a dimension is asked for. -/
def turn : Dimension → Nat
  | .country => 1
  | .city => 2
  | .device => 3
  | .referrer => 4

/-- What a tally tells of rows that are others at each question: that there is no click, if there
is none when the total is asked for; else the events that there are at each question. -/
inductive Tells (token : String) (seen : Nat → Multiset Click) : Except Fault Tally → Prop
  | nothing (none : ofToken (seen 0) token = ∅) : Tells token seen (.error (.noClicks token))
  | told (tally : Tally) (some : (ofToken (seen 0) token).Nonempty) (named : tally.token = token)
      (total : tally.total = eventCount (ofToken (seen 0) token))
      (counts : ∀ dimension, Distinguishes (ofToken (seen (turn dimension)) token) dimension
        (tally.along dimension)) : Tells token seen (.ok tally)

/-- A tally that was made while rows became others: every number in it lies between what it would
be of the former and of the latter, and no part adds up to less than the total. -/
structure Spans (token : String) (before after : Multiset Click) (tally : Tally) : Prop where
  named : tally.token = token
  total : (eventCount (ofToken before token) : Int) ≤ tally.total ∧
    tally.total ≤ eventCount (ofToken after token)
  count : ∀ dimension value, (eventsOf before token dimension value : Int) ≤
    countAlong tally dimension value ∧
      countAlong tally dimension value ≤ eventsOf after token dimension value
  total_le_sum : ∀ dimension, tally.total ≤ sumAlong tally dimension

/-- The total and the sums of the parts, in the order of the questions, do not decrease and stay
within a bound. -/
structure Ordered (most : Nat) (tally : Tally) : Prop where
  country : tally.total ≤ sumAlong tally .country
  city : sumAlong tally .country ≤ sumAlong tally .city
  device : sumAlong tally .city ≤ sumAlong tally .device
  referrer : sumAlong tally .device ≤ sumAlong tally .referrer
  most : sumAlong tally .referrer ≤ most

section Tells

variable {token : String} {seen : Nat → Multiset Click} {tally : Tally} {before after : Multiset Click}

theorem Tells.eq_noClicks_iff {o : Except Fault Tally} (tells : Tells token seen o) :
    o = .error (.noClicks token) ↔ ofToken (seen 0) token = ∅ := by
  cases tells with
  | nothing none => simp [none]
  | told tally some => simp [some.ne_empty]

/-- There is no other fault. -/
theorem Tells.nothing_or_told {o : Except Fault Tally} (tells : Tells token seen o) :
    (o = .error (.noClicks token) ∧ ofToken (seen 0) token = ∅) ∨ ∃ tally, o = .ok tally := by
  cases tells with
  | nothing none => exact .inl ⟨rfl, none⟩
  | told tally => exact .inr ⟨tally, rfl⟩

/-- A part adds up to at least the number of events seen by it. -/
theorem Tells.sum_ge (tells : Tells token seen (.ok tally)) (dimension : Dimension) :
    (eventCount (ofToken (seen (turn dimension)) token) : Int) ≤ sumAlong tally dimension := by
  cases tells with
  | told _ some named total counts => exact (counts dimension).eventCount_le_sum.1

/-- A part adds up to the number of events exactly if the clicks of an event are alike along it. -/
theorem Tells.sum_eq_iff (tells : Tells token seen (.ok tally)) (dimension : Dimension) :
    sumAlong tally dimension = eventCount (ofToken (seen (turn dimension)) token) ↔
      Alike (ofToken (seen (turn dimension)) token) dimension := by
  cases tells with
  | told _ some named total counts => exact (counts dimension).eventCount_le_sum.2

/-- The numbers of a tally lie between those of any former rows and any latter ones. -/
theorem Tells.spans (tells : Tells token seen (.ok tally)) (grows : Monotone seen)
    (first : before ≤ seen 0) (last : seen 4 ≤ after) : Spans token before after tally := by
  have since (n : Nat) : before ≤ seen n := first.trans (grows n.zero_le)
  have upTo (n : Nat) (le : n ≤ 4) : seen n ≤ after := (grows le).trans last
  have sums := tells.sum_ge
  cases tells with
  | told _ some named total counts =>
      constructor
      case named => exact named
      case total =>
        rw [total]
        constructor
        · exact_mod_cast eventCount_mono (ofToken_mono first)
        · exact_mod_cast eventCount_mono (ofToken_mono (upTo 0 (by decide)))
      case count =>
        intro dimension value
        rw [countAlong, lookup_of_distinguishes (counts dimension) value]
        constructor
        · exact_mod_cast eventsOf_mono (since (turn dimension)) token dimension value
        · have le : turn dimension ≤ 4 := by cases dimension <;> decide
          exact_mod_cast eventsOf_mono (upTo (turn dimension) le) token dimension value
      case total_le_sum =>
        intro dimension
        rw [total]
        have le : (eventCount (ofToken (seen 0) token) : Int) ≤
            eventCount (ofToken (seen (turn dimension)) token) := by
          exact_mod_cast eventCount_mono (ofToken_mono (grows (Nat.zero_le _)))
        exact le.trans (sums dimension)

/-- Where rows of one event agree at each question, the sums are in order. -/
theorem Tells.ordered (tells : Tells token seen (.ok tally)) (grows : Monotone seen)
    (alike : ∀ dimension, Alike (ofToken (seen (turn dimension)) token) dimension)
    (last : seen 4 ≤ after) : Ordered (eventCount (ofToken after token)) tally := by
  have sum (dimension : Dimension) := (tells.sum_eq_iff dimension).mpr (alike dimension)
  have le {n m : Nat} (before : n ≤ m) : (eventCount (ofToken (seen n) token) : Int) ≤
      eventCount (ofToken (seen m) token) := by
    exact_mod_cast eventCount_mono (ofToken_mono (grows before))
  cases tells with
  | told _ some named total counts =>
      constructor
      case country =>
        rw [total, sum]
        exact le (by decide)
      case city =>
        rw [sum, sum]
        exact le (by decide)
      case device =>
        rw [sum, sum]
        exact le (by decide)
      case referrer =>
        rw [sum, sum]
        exact le (by decide)
      case most =>
        rw [sum]
        exact_mod_cast eventCount_mono (ofToken_mono last)

/-- Where nothing is added, the sums are in order only if rows of one event agree. -/
theorem Tells.alike_of_ordered {rows : Multiset Click}
    (tells : Tells token (fun _ => rows) (.ok tally))
    (ordered : Ordered (eventCount (ofToken rows token)) tally) (dimension : Dimension) :
    Alike (ofToken rows token) dimension := by
  have sums := tells.sum_ge
  have le : sumAlong tally dimension ≤ sumAlong tally .referrer := by
    have city := ordered.city
    have device := ordered.device
    have referrer := ordered.referrer
    cases dimension <;> omega
  apply (tells.sum_eq_iff dimension).mp
  exact le_antisymm (le.trans ordered.most) (sums dimension)

end Tells

end LinkShortener.ClickStore
