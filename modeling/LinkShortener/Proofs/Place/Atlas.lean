import LinkShortener.Visit.Enrichment

/-!
What an atlas tells of an address. The text of the address is read as a number, and of the regions
that hold the number the narrowest supplies the place, of equally narrow ones the last. An atlas
fails a lookup in two ways. It may find no place, which enrichment puts up with; or it may not be
one of cities, or be given a text with a null character, and then it tells nothing at all.

Main statements: `region?_eq_some`, `locate_of_tells`, `locate_of_not_tells`.
-/

namespace LinkShortener.Place

/-! ### The narrowest region -/

/-- The narrowest of regions, of equally narrow ones the last. -/
def Narrowest (regions : List Region) (r : Region) : Prop :=
  ∃ before after, regions = before ++ r :: after ∧
    (∀ s ∈ before, s.network.bits ≤ r.network.bits) ∧ ∀ s ∈ after, s.network.bits < r.network.bits

variable {regions : List Region} {r r' : Region}

theorem Narrowest.bits_le (narrowest : Narrowest regions r) :
    ∀ s ∈ regions, s.network.bits ≤ r.network.bits := by
  obtain ⟨before, after, rfl, earlier, later⟩ := narrowest
  intro s mem
  rw [List.mem_append, List.mem_cons] at mem
  rcases mem with mem | rfl | mem
  · exact earlier s mem
  · exact Nat.le_refl _
  · exact Nat.le_of_lt (later s mem)

/-- Of two regions that are both the narrowest, neither stands before the other. -/
theorem Narrowest.unique (narrowest : Narrowest regions r) (narrowest' : Narrowest regions r') :
    r = r' := by
  obtain ⟨before, after, split, earlier, later⟩ := narrowest
  obtain ⟨before', after', split', earlier', later'⟩ := narrowest'
  rcases List.append_eq_append_iff.mp (split.symm.trans split') with
    ⟨between, rfl, rest⟩ | ⟨between, rfl, rest⟩
  · cases between with
    | nil => exact (List.cons.inj rest).1
    | cons first between =>
        obtain ⟨rfl, rfl⟩ := List.cons.inj rest
        have wider := earlier' r (by simp)
        have narrower := later r' (by simp)
        omega
  · cases between with
    | nil => exact (List.cons.inj rest).1.symm
    | cons first between =>
        obtain ⟨rfl, rfl⟩ := List.cons.inj rest
        have wider := earlier r' (by simp)
        have narrower := later' r (by simp)
        omega

namespace Atlas

/-- The search keeps the narrowest of the regions that it has passed. -/
theorem foldl_narrower (best : Region) (regions : List Region) :
    ∃ r, regions.foldl narrower (some best) = some r ∧ Narrowest (best :: regions) r := by
  induction regions generalizing best with
  | nil => exact ⟨best, rfl, [], [], rfl, by simp, by simp⟩
  | cons s regions ih =>
      rw [List.foldl_cons, narrower]
      by_cases wider : best.network.bits ≤ s.network.bits
      · rw [if_pos wider]
        obtain ⟨r, found, narrowest⟩ := ih s
        have most := narrowest.bits_le s List.mem_cons_self
        obtain ⟨before, after, split, earlier, later⟩ := narrowest
        refine ⟨r, found, best :: before, after, by rw [split, List.cons_append], ?_, later⟩
        intro s' mem
        rcases List.mem_cons.mp mem with rfl | mem
        · exact Nat.le_trans wider most
        · exact earlier s' mem
      · rw [if_neg wider]
        obtain ⟨r, found, before, after, split, earlier, later⟩ := ih best
        cases before with
        | nil =>
            obtain ⟨rfl, rfl⟩ := List.cons.inj split
            refine ⟨best, found, [], s :: regions, rfl, by simp, ?_⟩
            intro s' mem
            rcases List.mem_cons.mp mem with rfl | mem
            · omega
            · exact later s' mem
        | cons first before =>
            obtain ⟨rfl, rfl⟩ := List.cons.inj split
            refine ⟨r, found, best :: s :: before, after, by simp, ?_, later⟩
            intro s' mem
            have most := earlier best List.mem_cons_self
            simp only [List.mem_cons] at mem
            rcases mem with rfl | rfl | mem
            · exact most
            · omega
            · exact earlier s' (List.mem_cons_of_mem _ mem)

variable {atlas : Atlas} {text : String}

/-- The region that supplies a place is the narrowest of those that hold the address. -/
theorem region?_eq_some {address : Nat} : atlas.region? address = some r ↔
    Narrowest (atlas.regions.filter (·.network.contains address)) r := by
  unfold region?
  cases atlas.regions.filter (·.network.contains address) with
  | nil => simp [Narrowest]
  | cons best regions =>
      obtain ⟨found, same, narrowest⟩ := foldl_narrower best regions
      have first : narrower none best = some best := rfl
      rw [List.foldl_cons, first, same, Option.some_inj]
      constructor
      · rintro rfl
        exact narrowest
      · exact narrowest.unique

/-! ### Lookups -/

/-- The region that an address lies in: the text of the address is that of a number, which may be
looked up in this atlas, and the region is the narrowest of those that hold the number. -/
def Locates (atlas : Atlas) (text : String) (r : Region) : Prop :=
  ∃ address, Address.ofText? text = some address ∧
    (atlas.tree = .four → address.version = .four) ∧
    Narrowest (atlas.regions.filter (·.network.contains address.value)) r

/-- Whether an atlas can tell of an address that it has no place. -/
def Tells (atlas : Atlas) (text : String) : Prop :=
  Text.occurs "City" atlas.kind.toList = true ∧ '\x00' ∉ text.toList

instance (atlas : Atlas) (text : String) : Decidable (atlas.Tells text) :=
  inferInstanceAs (Decidable (_ ∧ _))

/-- A place is located in one way. -/
theorem Locates.unique (locates : atlas.Locates text r) (locates' : atlas.Locates text r') :
    r = r' := by
  obtain ⟨address, read, -, narrowest⟩ := locates
  obtain ⟨address', read', -, narrowest'⟩ := locates'
  cases read.symm.trans read'
  exact narrowest.unique narrowest'

/-- An atlas that can tell finds the place of the region that the address lies in; if there is none,
it tells that the address has no place. -/
theorem locate_of_tells (tells : atlas.Tells text) :
    (∃ r, atlas.Locates text r ∧ atlas.locate text = .ok (atlas.place r)) ∨
      (∀ r, ¬ atlas.Locates text r) ∧ ∃ why, atlas.locate text = .error (.unplaced text why) := by
  obtain ⟨cities, plain⟩ := tells
  simp only [locate, cities, Bool.not_true, Bool.false_eq_true, if_false, List.contains_eq_mem,
    plain, decide_false]
  cases read : Address.ofText? text with
  | none =>
      refine .inr ⟨?_, _, rfl⟩
      rintro r ⟨address, read', -⟩
      cases read.symm.trans read'
  | some address =>
      dsimp only
      by_cases foreign : atlas.tree = .four ∧ address.version = .six
      · rw [if_pos foreign]
        refine .inr ⟨?_, _, rfl⟩
        rintro r ⟨address', read', version, -⟩
        cases read.symm.trans read'
        have four := version foreign.1
        rw [foreign.2] at four
        cases four
      · rw [if_neg foreign]
        cases found : atlas.region? address.value with
        | some r =>
            refine .inl ⟨r, ⟨address, read, fun four => ?_, region?_eq_some.mp found⟩, rfl⟩
            cases version : address.version with
            | four => rfl
            | six => exact absurd ⟨four, version⟩ foreign
        | none =>
            refine .inr ⟨?_, _, rfl⟩
            rintro r ⟨address', read', -, narrowest⟩
            cases read.symm.trans read'
            rw [region?_eq_some.mpr narrowest] at found
            cases found

/-- An atlas that cannot tell fails in a way that enrichment does not put up with. -/
theorem locate_of_not_tells (mute : ¬ atlas.Tells text) :
    ∃ fault, atlas.locate text = .error fault ∧ fault.unplaced? = none := by
  unfold locate
  by_cases cities : Text.occurs "City" atlas.kind.toList = true
  · by_cases null : '\x00' ∈ text.toList
    · refine ⟨.nullInAddress, ?_, rfl⟩
      simp [cities, null]
    · exact absurd ⟨cities, null⟩ mute
  · refine ⟨.notPlaceAtlas atlas.kind, ?_, rfl⟩
    simp [cities]

end Atlas

end LinkShortener.Place
