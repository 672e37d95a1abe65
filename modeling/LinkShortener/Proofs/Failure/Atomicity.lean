import LinkShortener.Proofs.Failure.Outcome
import LinkShortener.Proofs.KeyValue.Keyspace
import LinkShortener.Proofs.Traffic.Basic

/-!
Failed writes. A shortening, an update or a deletion that fails leaves the catalog and the copies
as they were and advances the counter by one at most. Every failing step lies before the commit,
with one exception: a new link is read back after its insertion has been committed, and a failure
of that is told like a failure of the insertion.

Main statement: failed writes are atomic, that one failure apart (`failed_writes_atomic`).
-/

namespace LinkShortener.Failure

open Routine
open Bench (World)
open Link (Table)
open Traffic (Calm Request freshLink)

/-- The requests that write to the catalog. -/
def IsWrite : Request → Prop
  | .shorten _ | .update _ _ | .delete _ => True
  | _ => False

/-- No key but the counter has changed, and the counter was advanced by one at most. -/
structure AdvancedAtMostOnce (s : Settings.KeyValue) (before after : KeyValue.Keyspace) : Prop where
  others : ∀ key, key ≠ s.counterKey → after.get? key = before.get? key
  lifetimes : after.lifetimes = before.lifetimes
  counter : after.get? s.counterKey = before.get? s.counterKey ∨
    ∃ n, before.tally? s.counterKey = some n ∧ after.get? s.counterKey = some (toString (n + 1))

/-- A new link is in the catalog and cannot be read back. -/
def Unread (fates : Fates) (s : Settings.KeyValue) (request : Request) (k : Contents) : Prop :=
  ∃ url id token keys links, request = .shorten url ∧
    k.keys.increment s.counterKey = .ok (id, keys) ∧ Token.ofId id = .ok token ∧
    fates.denies (.insertLink id url token) = false ∧
    k.links.insert (freshLink id url token) = .ok links ∧
    fates.fails (.database (.readBack id)) = true

variable {fates : Fates} {s : Settings.KeyValue} {k k' : Contents} {fault : Fault}

theorem AdvancedAtMostOnce.refl (s : Settings.KeyValue) (keys : KeyValue.Keyspace) :
    AdvancedAtMostOnce s keys keys :=
  ⟨fun _ _ => rfl, rfl, .inl rfl⟩

theorem AdvancedAtMostOnce.increment {keys keys' : KeyValue.Keyspace} {n : Int}
    (counted : keys.increment s.counterKey = .ok (n, keys')) :
    AdvancedAtMostOnce s keys keys' := by
  obtain ⟨tally, -, rfl⟩ := KeyValue.Keyspace.increment_eq_ok.mp counted
  refine ⟨fun key other => ?_, rfl, .inr ⟨n - 1, tally, ?_⟩⟩
  · rw [KeyValue.Keyspace.get?_put, if_neg other]
  · rw [KeyValue.Keyspace.get?_put, if_pos rfl, Int.sub_add_cancel]

/-! ### The operations -/

section Operations

variable (kept : ∀ c, fates.loses (.database c) = false)

include kept

/-- A failed deletion changes nothing. -/
theorem Deletes.eq_of_error {token : String} {o : Except Fault Unit}
    (deletes : Deletes fates s token k o k') (failed : o = .error fault) : k' = k := by
  cases deletes with
  | unwritten k' denied left => exact eq_of_leaves (kept _) left
  | absent => rfl
  | deleted => cases failed

/-- A failed update changes nothing. -/
theorem Updates.eq_of_error {token url : String} {o : Except Fault Link}
    (updates : Updates fates s token url k o k') (failed : o = .error fault) : k' = k := by
  cases updates with
  | refused => rfl
  | unwritten k' accepted denied left => exact eq_of_leaves (kept _) left
  | absent => rfl
  | updated => cases failed

/-- A failed insertion changes nothing, unless it is the reading back that failed. -/
theorem Inserts.eq_of_error {id : Int} {url token : String} {o : Except Fault Link}
    (inserts : Inserts fates id url token k o k') (failed : o = .error fault) :
    k' = k ∨ k'.keys = k.keys ∧ fates.denies (.insertLink id url token) = false ∧
      (∃ links, k.links.insert (freshLink id url token) = .ok links) ∧
      fates.fails (.database (.readBack id)) = true := by
  cases inserts with
  | unwritten fault k' denied left => exact .inl (eq_of_leaves (kept _) left)
  | taken => exact .inl rfl
  | unfit => exact .inl rfl
  | unread fault links granted inserted unread =>
      exact .inr ⟨rfl, granted, ⟨links, inserted⟩, Fates.fails_of_fault? unread⟩
  | made => cases failed

/-- A failed shortening has taken one number at most. -/
theorem Shortens.atomic {url : String} {o : Except Fault Link}
    (shortens : Shortens fates s url k o k') (failed : o = .error fault) :
    AdvancedAtMostOnce s k.keys k'.keys ∧
      (k'.links = k.links ∨ Unread fates s (.shorten url) k) := by
  cases shortens with
  | refused => exact ⟨.refl s _, .inl rfl⟩
  | uncounted k' accepted failed left =>
      rcases left with rfl | ⟨-, _, performed⟩
      · exact ⟨.refl s _, .inl rfl⟩
      · cases performed with
        | count key n keys counted => exact ⟨.increment counted, .inl rfl⟩
        | uncounted => exact ⟨.refl s _, .inl rfl⟩
        | quiet c a quiet => cases quiet
  | uncoded id keys fault accepted granted counted => exact ⟨.increment counted, .inl rfl⟩
  | numbered id token keys o k' accepted granted counted coded inserts =>
      rcases inserts.eq_of_error kept failed with rfl | ⟨same, opened, ⟨links, inserted⟩, unread⟩
      · exact ⟨.increment counted, .inl rfl⟩
      · rw [same]
        exact ⟨.increment counted,
          .inr ⟨url, id, token, keys, links, rfl, counted, coded, opened, inserted, unread⟩⟩

omit kept in
theorem error_of_map {α β : Type} {o : Except Fault α} {f : α → β}
    (failed : o.map f = .error fault) : o = .error fault := by
  cases o with
  | ok a => cases failed
  | error fault =>
      cases failed
      rfl

/-- What is done for a write fails as the write does. -/
theorem yields_write {request : Request} (write : IsWrite request) :
    Yields fates (request.routine s) k fun o k' => ∀ fault, o = .error fault →
      AdvancedAtMostOnce s k.keys k'.keys ∧ (k'.links = k.links ∨ Unread fates s request k) := by
  cases request with
  | shorten url =>
      refine (yields_shorten url).map ?_
      intro o k' shortens fault failed
      exact shortens.atomic kept (error_of_map failed)
  | update token url =>
      refine (yields_update token url).map ?_
      intro o k' updates fault failed
      rw [updates.eq_of_error kept (error_of_map failed)]
      exact ⟨.refl s _, .inl rfl⟩
  | delete token =>
      refine (yields_delete token).map ?_
      intro o k' deletes fault failed
      rw [deletes.eq_of_error kept (error_of_map failed)]
      exact ⟨.refl s _, .inl rfl⟩
  | boot | resolve => cases write

end Operations

/-! ### Failed writes -/

/-- Failed writes are atomic: whatever calls of a shortening, an update or a deletion fail, if it
ends with a fault then no key but the counter has changed, the counter was advanced by one at
most, and the catalog is as it was, unless a new link was inserted and could not be read back. A
failing call to the database writes nothing; the replies of the key-value server may be lost. -/
theorem failed_writes_atomic {request : Request} {w w' : World} (write : IsWrite request)
    (calm : Calm w) (kept : ∀ c, fates.loses (.database c) = false)
    (fails : (request.routine s).run (undergo fates) w = (.error fault, w')) :
    AdvancedAtMostOnce s w.keys w'.keys ∧
      (w'.links = w.links ∨ Unread fates s request (contents w)) := by
  obtain ⟨-, came⟩ := yields_write kept write w calm rfl
  rw [fails] at came
  exact came fault rfl

/-- The service over an empty catalog, after its boot. -/
def booted (s : Settings.KeyValue) : World := (World.run {} (Counter.seed s)).2

theorem calm_booted (s : Settings.KeyValue) : Calm (booted s) := rfl

theorem keys_booted (s : Settings.KeyValue) :
    (booted s).keys = ⟨[(s.counterKey, "0")], [(s.counterKey, none)]⟩ := rfl

/-- The first number is one. -/
theorem increment_booted (s : Settings.KeyValue) : (booted s).keys.increment s.counterKey =
    .ok (1, ⟨[(s.counterKey, "1")], [(s.counterKey, none)]⟩) := by
  have found : (booted s).keys.get? s.counterKey = some (toString (0 : Int)) :=
    List.lookup_cons_self
  refine KeyValue.Keyspace.increment_eq_ok.mpr
    ⟨KeyValue.Keyspace.tally?_of_get? found, rfl, ?_⟩
  have replaced : KeyValue.Keyspace.put [(s.counterKey, "0")] s.counterKey "1" =
      [(s.counterKey, "1")] := by simp [KeyValue.Keyspace.put]
  rw [keys_booted, ← replaced]
  rfl

/-- What comes of the first shortening where the address is accepted and the counter advances. -/
theorem yields_first (fates : Fates) (s : Settings.KeyValue)
    (granted : fates.fails (.keys (.increment s.counterKey)) = false) :
    Yields fates ((Request.shorten "https://a.example/").routine s) (contents (booted s))
      fun o k' => ∃ o', o = o'.map .link ∧ Inserts fates 1 "https://a.example/" "b"
        { contents (booted s) with
          keys := ⟨[(s.counterKey, "1")], [(s.counterKey, none)]⟩ } o' k' := by
  refine (yields_shorten "https://a.example/").map fun o k' shortens => ⟨o, rfl, ?_⟩
  exact shortens.inserts rfl granted (increment_booted s)
    (Token.ofId_eq_ok.mpr ⟨by decide, by decide +kernel⟩)

theorem yields_unreached (s : Settings.KeyValue) :
    Yields .unreached ((Request.shorten "https://a.example/").routine s) (contents (booted s))
      fun o k' => o = .error (.catalog (.insert "b")) ∧
        k'.keys = ⟨[(s.counterKey, "1")], [(s.counterKey, none)]⟩ := by
  refine (yields_first .unreached s rfl).mono ?_
  rintro _ k' ⟨o, rfl, inserts⟩
  obtain ⟨rfl, rfl⟩ := inserts.of_denied rfl rfl
  exact ⟨rfl, rfl⟩

/-- A shortening that cannot reach the database takes an id and leaves the rest as it was. -/
theorem unreached_shortening_atomic : ∃ w',
    ((Request.shorten "https://a.example/").routine {}).run (undergo .unreached) (booted {}) =
      (.error (.catalog (.insert "b")), w') ∧
    AdvancedAtMostOnce {} (booted {}).keys w'.keys ∧ (w'.links = (booted {}).links ∨
      Unread .unreached {} (.shorten "https://a.example/") (contents (booted {}))) := by
  obtain ⟨-, fails, -⟩ := yields_unreached {} _ (calm_booted {}) rfl
  have write : IsWrite (.shorten "https://a.example/") := trivial
  exact ⟨_, Prod.ext fails rfl,
    failed_writes_atomic write (calm_booted {}) (fun _ => rfl) (Prod.ext fails rfl)⟩

/-- A new link that cannot be read back. -/
def unreadable : Fates := .only (.database (.readBack 1)) (.outage .database "boom") rfl

/-- Settings under which the counter has the key of a copy. -/
def mingled : Settings.KeyValue := { copyMark := "mapping_" }

/-- Two ways in which a failed shortening shows: the link stays in the catalog when it could not
be read back, and where the counter has the key of a copy, the copy changes. -/
theorem failed_shortening_shows :
    (∃ w', ((Request.shorten "https://a.example/").routine {}).run (undergo unreadable)
      (booted {}) = (.error (.catalog (.insert "b")), w') ∧
      w'.links.find? "b" ≠ (booted {}).links.find? "b") ∧
    ∃ w', ((Request.shorten "https://a.example/").routine mingled).run (undergo .unreached)
      (booted mingled) = (.error (.catalog (.insert "b")), w') ∧
      w'.keys.get? (Copies.key mingled "count") ≠
        (booted mingled).keys.get? (Copies.key mingled "count") := by
  constructor
  · obtain ⟨-, _, told, inserts⟩ := yields_first unreadable {} rfl _ (calm_booted {}) rfl
    obtain ⟨rfl, left⟩ := inserts.of_unread rfl rfl rfl
    refine ⟨_, Prod.ext told rfl, ?_⟩
    rw [show World.links _ = Contents.links _ from congrArg Contents.links left]
    decide +kernel
  · obtain ⟨-, fails, keys⟩ := yields_unreached mingled _ (calm_booted _) rfl
    refine ⟨_, Prod.ext fails rfl, ?_⟩
    rw [show World.keys _ = _ from keys, keys_booted]
    decide +kernel

end LinkShortener.Failure
