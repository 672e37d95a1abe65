import LinkShortener.Bench.World
import LinkShortener.Health
import LinkShortener.Link.Basic
import LinkShortener.Proofs.Visit.Wire

/-!
Records that are written and read again. Many documents stand for one record, and a record is
written in one way only; what is written is read as the record that it was written of. So reading,
writing and reading again ends where the first reading did, and nothing that was filled in at the
first reading is filled in again.

Main statement: every kind of record is stable in this sense (`records_stable`).
-/

namespace LinkShortener.Record

open Json (Value)

/-! ### Stable records -/

section Stable

variable {α : Type}

/-- Reads a document as a record. -/
def parse (read : Value → Checked α) (bytes : List UInt8) : Checked α := document bytes >>= read

/-- The bytes that a record is written as. -/
def dump (shown : α → Value) (a : α) : List UInt8 := (Json.write (shown a)).toUTF8.toList

/-- A record that is read again from its value, which is what is written of it. -/
structure Settled (read : Value → Checked α) (shown : α → Value) (a : α) : Prop where
  again : read (shown a) = .ok a
  written : document (dump shown a) = .ok (shown a)

/-- Whatever document a record was read of, what is written of it is read as the record again, and
so is every other document that stands for the same value. The second reading may fill in other
defaults than the first. -/
def Stable (read again : Value → Checked α) (shown : α → Value) : Prop :=
  ∀ bytes a, parse read bytes = .ok a → parse again (dump shown a) = .ok a ∧
    ∀ bytes', document bytes' = .ok (shown a) → parse again bytes' = .ok a

variable {read again : Value → Checked α} {shown : α → Value} {a : α}

/-- A document that is accepted is moderate. -/
theorem moderate_of_document {bytes : List UInt8} {v : Value} (done : document bytes = .ok v) :
    v.Moderate := by
  unfold document at done
  split at done <;> cases done
  rename_i read
  exact Json.moderate_of_readBytes rfl read

/-- What settles for each reading is stable. -/
theorem stable_of_settled
    (settled : ∀ v a, v.Moderate → read v = .ok a → Settled again shown a) :
    Stable read again shown := by
  intro bytes a parsed
  unfold parse at parsed
  cases documented : document bytes with
  | error flaws =>
      rw [documented] at parsed
      cases parsed
  | ok v =>
      rw [documented] at parsed
      obtain ⟨back, written⟩ := settled v a (moderate_of_document documented) parsed
      have reads (bytes' : List UInt8) (stands : document bytes' = .ok (shown a)) :
          parse again bytes' = .ok a := by
        rw [parse, stands]
        exact back
      exact ⟨reads _ written, reads⟩

/-- What is written of a record is the document of its value, if its members are read back. -/
theorem document_dump {ms : List (String × Value)} (members : shown a = .object ms)
    (reads : ∀ m ∈ ms, Json.Reads .record 1 m.2) : document (dump shown a) = .ok (shown a) := by
  rw [document, dump, members, Json.readBytes_write (Json.reads_object reads) (by decide)]

end Stable

end LinkShortener.Record

namespace LinkShortener

open Record

/-! ### Records of texts and points of time -/

theorem LinkRequest.settled (r : LinkRequest) : Settled ofJson toJson r where
  again := rfl
  written := document_dump rfl (by simp [Json.reads_text])

theorem Visit.settled (fresh : String) (now : Moment) (v : Visit) :
    Settled (ofJson fresh now) toJson v :=
  ⟨ofJson_toJson v fresh now, document_payload v⟩

theorem Device.lookup_text (d : Device) : options.lookup d.text = some d := by
  cases d <;> rfl

theorem Condition.lookup_text (c : Condition) : options.lookup c.text = some c := by
  cases c <;> rfl

theorem Click.settled (c : Click) : Settled ofJson toJson c where
  again := by
    have members : Record.members c.toJson = .ok _ := rfl
    rw [ofJson, members]
    simp only [bind, Except.bind]
    rw [required_of_member (a := c.event) rfl rfl, required_of_member (a := c.token) rfl rfl,
      required_of_member (a := c.time) rfl (moment_text c.time),
      required_of_member (a := c.country) rfl rfl, required_of_member (a := c.city) rfl rfl,
      required_of_member (a := c.device) rfl (choice_text c.device.lookup_text),
      optional_of_member (a := c.referrer) rfl rfl]
    rfl
  written := document_dump rfl (by simp [Json.reads_text])

theorem Health.settled (h : Health) : Settled ofJson toJson h where
  again := by
    have members : Record.members h.toJson = .ok _ := rfl
    rw [ofJson, members]
    simp only [bind, Except.bind]
    rw [required_of_member (a := h.service) rfl (choice_text h.service.lookup_text),
      required_of_member (a := h.database) rfl (choice_text h.database.lookup_text),
      required_of_member (a := h.copies) rfl (choice_text h.copies.lookup_text)]
    rfl
  written := document_dump rfl (by simp [Json.reads_text])

/-! ### Records with whole numbers -/

/-- A link settles if its number is not too long to write. -/
theorem Link.settled {l : Link} (id : Numeral.Writable l.id) : Settled ofJson toJson l where
  again := by
    have members : Record.members l.toJson = .ok _ := rfl
    rw [ofJson, members]
    simp only [bind, Except.bind]
    rw [required_of_member (a := l.id) rfl rfl, required_of_member (a := l.url) rfl rfl,
      required_of_member (a := l.token) rfl rfl,
      required_of_member (a := l.createdAt) rfl (moment_text l.createdAt),
      required_of_member (a := l.updatedAt) rfl (moment_text l.updatedAt)]
    rfl
  written := document_dump rfl (by simp [Json.reads_text, Json.reads_int id])

/-- The number of a link that was read is not too long to write. -/
theorem Link.writable_of_ofJson {v : Json.Value} {l : Link} (moderate : v.Moderate)
    (read : ofJson v = .ok l) : Numeral.Writable l.id := by
  cases moderate with
  | object inside =>
      simp only [ofJson, members, bind, Except.bind, Checked.ap_eq_ok] at read
      obtain ⟨_, _, ⟨_, _, ⟨_, _, ⟨_, _, ⟨_, _, made, id, rfl⟩, -, rfl⟩, -, rfl⟩, -, rfl⟩, -,
        rfl⟩ := read
      cases made
      exact writable_of_required inside id
  | _ => cases read

/-- A tally whose total is writable and whose maps are tidy. -/
structure Tally.Tidy (t : Tally) : Prop where
  total : Numeral.Writable t.total
  byCountry : Record.Tidy t.byCountry
  byCity : Record.Tidy t.byCity
  byDevice : Record.Tidy t.byDevice
  byReferrer : Record.Tidy t.byReferrer

/-- A tally settles if it is tidy. -/
theorem Tally.settled {t : Tally} (tidy : t.Tidy) : Settled ofJson toJson t where
  again := by
    have members : Record.members t.toJson = .ok _ := rfl
    rw [ofJson, members]
    simp only [bind, Except.bind]
    rw [required_of_member (a := t.token) rfl rfl, required_of_member (a := t.total) rfl rfl,
      counts_countsJson tidy.byCountry rfl, counts_countsJson tidy.byCity rfl,
      counts_countsJson tidy.byDevice rfl, counts_countsJson tidy.byReferrer rfl]
    rfl
  written := document_dump rfl (by simp [Json.reads_text, Json.reads_int tidy.total,
    reads_countsJson tidy.byCountry, reads_countsJson tidy.byCity,
    reads_countsJson tidy.byDevice, reads_countsJson tidy.byReferrer])

/-- A tally that was read is tidy. -/
theorem Tally.tidy_of_ofJson {v : Json.Value} {t : Tally} (moderate : v.Moderate)
    (read : ofJson v = .ok t) : t.Tidy := by
  cases moderate with
  | object inside =>
      simp only [ofJson, members, bind, Except.bind, Checked.ap_eq_ok] at read
      obtain ⟨_, _, ⟨_, _, ⟨_, _, ⟨_, _, ⟨_, _, ⟨_, _, made, -, rfl⟩, total, rfl⟩, country, rfl⟩,
        city, rfl⟩, device, rfl⟩, referrer, rfl⟩ := read
      cases made
      exact ⟨writable_of_required inside total, tidy_of_counts inside country,
        tidy_of_counts inside city, tidy_of_counts inside device, tidy_of_counts inside referrer⟩
  | _ => cases read

/-! ### Every kind of record -/

/-- Every kind of record is stable. A visit is, whatever event id and time are at hand at the second
reading, also where the document brought none and the first reading filled them in. -/
theorem Record.records_stable :
    Stable LinkRequest.ofJson LinkRequest.ofJson LinkRequest.toJson ∧
    Stable Link.ofJson Link.ofJson Link.toJson ∧
    (∀ fresh now fresh' now', Stable (Visit.ofJson fresh now) (Visit.ofJson fresh' now')
      Visit.toJson) ∧
    Stable Click.ofJson Click.ofJson Click.toJson ∧
    Stable Tally.ofJson Tally.ofJson Tally.toJson ∧
    Stable Health.ofJson Health.ofJson Health.toJson := by
  refine ⟨?request, ?link, ?visit, ?click, ?tally, ?health⟩
  case request => exact stable_of_settled fun _ r _ _ => r.settled
  case link =>
    exact stable_of_settled fun _ _ moderate read =>
      Link.settled (Link.writable_of_ofJson moderate read)
  case visit =>
    intro fresh now fresh' now'
    exact stable_of_settled fun _ v _ _ => v.settled fresh' now'
  case click => exact stable_of_settled fun _ c _ _ => c.settled
  case tally =>
    exact stable_of_settled fun _ _ moderate read =>
      Tally.settled (Tally.tidy_of_ofJson moderate read)
  case health => exact stable_of_settled fun _ h _ _ => h.settled

/-- A visit that brings neither an event id nor a time, and two tokens. -/
def Record.terseVisit : List UInt8 :=
  "\x7b\"url_token\": \"a\", \"url_token\": \"b\"\x7d".toUTF8.toList

/-- A tally with numbers in loose spelling, a name that stands twice, a map that is missing and a
member that no tally has. -/
def Record.looseTally : List UInt8 :=
  ("\x7b\"url_token\": \"b\", \"total_clicks\": \" +01_0.0 \", \"count_by_city\": " ++
    "\x7b\"a\": true, \"b\": 1, \"a\": 2.0\x7d, \"more\": null\x7d").toUTF8.toList

/-- Documents that leave defaults to the reader are restored from what the reader made of them. -/
theorem Record.loose_documents_restored :
    (∃ v : Visit, parse (Visit.ofJson "e" (Bench.clock 0)) terseVisit = .ok v ∧ v.event = "e" ∧
      parse (Visit.ofJson "f" Bench.databaseClock) (dump Visit.toJson v) = .ok v) ∧
    ∃ t : Tally, parse Tally.ofJson looseTally = .ok t ∧ t.byCity = [("a", 2), ("b", 1)] ∧
      parse Tally.ofJson (dump Tally.toJson t) = .ok t := by
  obtain ⟨-, -, visits, -, tallies, -⟩ := records_stable
  have visit : parse (Visit.ofJson "e" (Bench.clock 0)) terseVisit =
      .ok ⟨"e", "b", Bench.clock 0, "", "", ""⟩ := by decide +kernel
  have tally : parse Tally.ofJson looseTally =
      .ok ⟨"b", 10, [], [("a", 2), ("b", 1)], [], []⟩ := by decide +kernel
  exact ⟨⟨_, visit, rfl, (visits "e" _ "f" Bench.databaseClock _ _ visit).1⟩,
    ⟨_, tally, rfl, (tallies _ _ tally).1⟩⟩

end LinkShortener
