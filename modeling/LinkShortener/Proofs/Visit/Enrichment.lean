import LinkShortener.Proofs.Place.Atlas
import LinkShortener.Proofs.Visit.Arrival

/-!
What enrichment makes of a visit. The address may be missing from the atlas, be of the wrong
version, or be no address at all, and its region may lack a name or have an empty one: the visit
becomes a click all the same, of which the country or the city is called unknown. Only an atlas that
cannot tell of the address fails it, which enrichment takes for more than a missing place, and a
user agent with a version that cannot be read.

Main statements: `Names.unique`, `enriched_iff_tells`.
-/

namespace LinkShortener.Visit

open Routine
open Bench (World)
open Place (Region Atlas)

/-- The name of an address is the one that its region has in the language of the atlas; a name that
is missing or empty is not known. -/
def Names (atlas : Atlas) (address : String) (part : Region → List (String × String))
    (name : String) : Prop :=
  (∃ r, atlas.Locates address r ∧ (part r).lookup atlas.language = some name ∧ name ≠ "") ∨
    (∀ r named, atlas.Locates address r → (part r).lookup atlas.language = some named →
      named = "") ∧ name = Place.unknownName

section

variable {atlas : Atlas} {address : String} {part : Region → List (String × String)} {v : Visit}
  {w : World}

/-- A located address has the names of its region. -/
theorem names_of_locates {r : Region} (locates : atlas.Locates address r) :
    Names atlas address part (Place.known ((part r).lookup atlas.language)) := by
  cases named : (part r).lookup atlas.language with
  | none =>
      refine .inr ⟨?_, rfl⟩
      intro r' name locates' named'
      rw [← locates.unique locates', named] at named'
      cases named'
  | some name =>
      by_cases empty : name.isEmpty = true
      · have called : Place.known (some name) = Place.unknownName := if_pos empty
        refine .inr ⟨?_, called⟩
        intro r' name' locates' named'
        rw [← locates.unique locates', named] at named'
        cases named'
        exact String.isEmpty_iff.mp empty
      · have called : Place.known (some name) = name := if_neg empty
        rw [called]
        exact .inl ⟨r, locates, named, fun same => empty (String.isEmpty_iff.mpr same)⟩

/-- An address that is nowhere has no names. -/
theorem names_of_unplaced (nowhere : ∀ r, ¬ atlas.Locates address r) :
    Names atlas address part (Place.known none) :=
  .inr ⟨fun r _ locates => absurd locates (nowhere r), rfl⟩

/-- An address has one name. -/
theorem Names.unique {name name' : String} (names : Names atlas address part name)
    (names' : Names atlas address part name') : name = name' := by
  rcases names with ⟨r, locates, named, full⟩ | ⟨missing, rfl⟩ <;>
    rcases names' with ⟨r', locates', named', full'⟩ | ⟨missing', rfl⟩
  · rw [← locates.unique locates', named] at named'
    exact Option.some.inj named'
  · exact absurd (missing' r name locates named) full
  · exact absurd (missing r' name' locates' named') full'
  · rfl

/-! ### The outcome -/

/-- What becomes of a visit from a place: a click, if its user agent can be read. -/
def atPlace (v : Visit) (place : Place) : Except Fault Click :=
  ((Agent.classify v.agent).mapError Fault.oversized).map (v.placed place)

/-- A visit is placed exactly if its device is told. -/
theorem atPlace_eq_ok {place : Place} {click : Click} : v.atPlace place = .ok click ↔
    ∃ device, Agent.classify v.agent = .ok device ∧ click = v.placed place device := by
  unfold atPlace
  cases Agent.classify v.agent with
  | error flaw => simp [Except.map, Except.mapError]
  | ok device => simp [Except.map, Except.mapError, eq_comm]

/-- Once the place is known, enrichment fails only for the user agent. -/
theorem run_placed (place : Place) :
    (w.run (ofOutcome ((Agent.classify v.agent).mapError Fault.oversized) >>= fun device =>
      pure (v.placed place device))).1 = v.atPlace place := by
  unfold atPlace
  cases Agent.classify v.agent <;> rfl

/-- A place that is told is the place of the click. -/
theorem run_enrich_of_place {place : Place} (told : w.places v.address = .ok place) :
    (w.run v.enrich).1 = v.atPlace place := by
  have answered : w.perform (.atlas (.locate v.address)) =
      (.ok place, w.keep (.atlas (.locate v.address)) true) := by
    simp only [Traffic.perform_eq, World.answer, World.atlas, told]
    rfl
  unfold enrich
  simp only [World.run, call, Routine.rescue, Routine.outcome, bind_ask, run, answered,
    ofOutcome_ok, bind_done]
  exact run_placed place

/-- A fault that says that there is no place is put up with. -/
theorem run_enrich_of_unplaced {why : Unplaced} {text : String}
    (told : w.places v.address = .error (.unplaced text why)) :
    (w.run v.enrich).1 = v.atPlace .nowhere := by
  have answered : w.perform (.atlas (.locate v.address)) =
      (.error (.unplaced text why), w.keep (.atlas (.locate v.address)) false) := by
    simp only [Traffic.perform_eq, World.answer, World.atlas, told]
    rfl
  unfold enrich
  simp only [World.run, call, Routine.rescue, Routine.outcome, bind_ask, run, answered,
    ofOutcome_error, bind_done, Fault.unplaced?, Option.isSome_some, if_true, noteUnplaced, log]
  exact run_placed .nowhere

/-- Any other fault fails the visit. -/
theorem run_enrich_of_fault {fault : Fault} (told : w.places v.address = .error fault)
    (other : fault.unplaced? = none) : (w.run v.enrich).1 = .error fault := by
  have answered : w.perform (.atlas (.locate v.address)) =
      (.error fault, w.keep (.atlas (.locate v.address)) false) := by
    simp only [Traffic.perform_eq, World.answer, World.atlas, told]
    rfl
  unfold enrich
  simp only [World.run, call, Routine.rescue, Routine.outcome, bind_ask, run, answered,
    ofOutcome_error, bind_done, other, Option.isSome_none, Bool.false_eq_true, if_false]
  rfl

end

/-- Over any atlas, in any world, a visit becomes a click exactly if the atlas can tell of its
address and its user agent can be read. The click has the event, the token, the time and the
referrer of the visit, the names that its address has in the atlas, and the device of its user
agent; and no other way leads out of enrichment than with such a click or with a fault. -/
theorem enriched_iff_tells (atlas : Atlas) (v : Visit) (w : World) :
    let o := (World.run { w with places := atlas.locate } v.enrich).1
    ((∃ click, o = .ok click) ↔
      atlas.Tells v.address ∧ ∃ device, Agent.classify v.agent = .ok device) ∧
    ∀ click, o = .ok click →
      v.Keeps click ∧
      Names atlas v.address Region.country click.country ∧
      Names atlas v.address Region.city click.city ∧
      Agent.classify v.agent = .ok click.device := by
  intro o
  by_cases tells : atlas.Tells v.address
  · -- The place of the region, or none at all: the names of the click are those of the address.
    have placed : ∃ place, o = v.atPlace place ∧
        Names atlas v.address Region.country (Place.known place.country) ∧
        Names atlas v.address Region.city (Place.known place.city) := by
      rcases Atlas.locate_of_tells tells with ⟨r, locates, told⟩ | ⟨nowhere, why, told⟩
      · exact ⟨_, run_enrich_of_place told, names_of_locates locates, names_of_locates locates⟩
      · exact ⟨_, run_enrich_of_unplaced told, names_of_unplaced nowhere,
          names_of_unplaced nowhere⟩
    obtain ⟨place, came, country, city⟩ := placed
    rw [came]
    constructor
    · simp only [atPlace_eq_ok, tells, true_and]
      constructor
      · rintro ⟨_, device, read, -⟩
        exact ⟨device, read⟩
      · rintro ⟨device, read⟩
        exact ⟨_, device, read, rfl⟩
    · intro click made
      obtain ⟨device, read, rfl⟩ := atPlace_eq_ok.mp made
      exact ⟨keeps_placed v place device, country, city, read⟩
  · obtain ⟨fault, told, other⟩ := Atlas.locate_of_not_tells tells
    have failed : o = .error fault := run_enrich_of_fault told other
    rw [failed]
    constructor
    · constructor
      · rintro ⟨_, ⟨⟩⟩
      · rintro ⟨tells', -⟩
        exact absurd tells' tells
    · rintro _ ⟨⟩

/-- An atlas of countries. -/
def countries : Atlas where
  kind := "GeoLite2-Country"
  tree := .six
  language := "en"
  regions := [⟨⟨0xC0000200, 120⟩, [("en", "Norway")], []⟩]

/-- A visit from an address that the atlas of countries holds. -/
def norwegian : Visit where
  event := "e"
  token := "b"
  time := Bench.clock 0
  address := "192.0.2.1"
  agent := ""
  referrer := ""

/-- An atlas of countries has a name for the country of an address, but fails the visit. -/
theorem country_atlas_fails_visit :
    Names countries norwegian.address Region.country "Norway" ∧
    Names countries norwegian.address Region.city "Unknown" ∧
    (World.run { places := countries.locate } norwegian.enrich).1 =
      .error (.notPlaceAtlas "GeoLite2-Country") := by
  have locates : countries.Locates norwegian.address
      ⟨⟨0xC0000200, 120⟩, [("en", "Norway")], []⟩ := by
    refine ⟨⟨0xC0000201, .four⟩, by decide +kernel, by decide, [], [], by decide +kernel, ?_, ?_⟩
    · exact List.forall_mem_nil _
    · exact List.forall_mem_nil _
  constructor
  · exact names_of_locates locates
  · constructor
    · exact names_of_locates locates
    · decide +kernel

end LinkShortener.Visit
