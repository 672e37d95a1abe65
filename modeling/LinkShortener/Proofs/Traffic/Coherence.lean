import LinkShortener.Proofs.Traffic.Sequence

/-!
Coherence of the copies when requests are served one after the other and any call may fail. A
token is tainted while a change of it is committed whose drop of the copy has not succeeded;
dropping or filling the copy cleanses it. A token that is not tainted has the copy of its link or
none.

Main statement: coherence is kept by whatever is served (`coherent_serveAll`).
-/

namespace LinkShortener.Traffic

open Bench (World)
open Directory (Phase Advances)

/-- A token is tainted: an update or a deletion of it was committed and no fill or drop of its
copy has succeeded since. An operation that commits drops the copy next, so between two requests
a token is tainted only when that drop failed. -/
def Tainted (s : Settings.KeyValue) (token : String) : List Event → Prop
  | [] => False
  | e :: past => e.Commits token ∨ (Tainted s token past ∧ ¬ e.Touches s token)

instance (s : Settings.KeyValue) (token : String) : DecidablePred (Tainted s token)
  | [] => .isFalse fun tainted => tainted
  | e :: past =>
      have := instDecidablePredListEventTainted s token past
      inferInstanceAs (Decidable (e.Commits token ∨ (Tainted s token past ∧ ¬ e.Touches s token)))

/-- Every copy of a token that is not tainted is the address that the catalog has. -/
def Coherent (s : Settings.KeyValue) (w : World) (past : List Event) : Prop :=
  ∀ token url, ¬ Tainted s token past → w.keys.get? (Copies.key s token) = some url →
    Current w token url

/-- A link that is held is the one that the catalog has. -/
def Held (p : Phase) (w : World) : Prop :=
  ∀ token link, p = .holding token link → w.links.find? token = some link

variable {s : Settings.KeyValue} {w w' : World} {past : List Event} {p q : Phase}

/-- A call keeps the copies coherent, as long as a fill fills in what the catalog has. -/
theorem Coherent.step {e : Event} (apart : Copies.Apart s) (coherent : Coherent s w past)
    (held : Held p w) (does : Does s w w' p e.deed? q) : Coherent s w' (e :: past) := by
  intro token url untainted cached
  have uncommitted : ¬ e.Commits token := fun commits => untainted (.inl commits)
  by_cases touches : e.Touches s token
  · obtain ⟨deed, is, concerns⟩ := touches
    generalize e.deed? = deed? at does is
    cases is
    cases does with
    | fill t link keys links =>
        obtain rfl := Copies.key_injective concerns
        rw [keys, KeyValue.Keyspace.get?_set, if_pos rfl] at cached
        cases cached
        exact ⟨link, by rw [links]; exact held t link rfl, rfl⟩
    | drop t link? keys links =>
        obtain rfl := Copies.key_injective concerns
        rw [keys, KeyValue.Keyspace.get?_delete, if_pos rfl] at cached
        cases cached
    | seed last keys links => exact absurd concerns (apart.key_ne token).symm
    | _ => exact concerns.elim
  · obtain ⟨copy, -⟩ := does.copy_eq apart token
      fun deed is concerns => touches ⟨deed, is, concerns⟩
    rw [copy] at cached
    have before := coherent token url (fun tainted => untainted (.inr ⟨tainted, touches⟩)) cached
    rcases current_or_commits does before with current | commits
    · exact current
    · exact absurd commits uncommitted

/-- A held link stays the one that the catalog has while its operation advances. -/
theorem Held.step {c : Call} {reply : Except Fault c.Reply} {outage : Option Fault}
    (calm : Calm w) (held : Held p w) (advances : Advances s p c reply q)
    (made : attempt outage c w = (reply, w')) : Held q w' := by
  rintro token link rfl
  cases advances with
  | noted p call incidental a =>
      rw [(untouched_of_process made).links]
      exact held token link rfl
  | connect =>
      rw [(untouched_of_connect calm made).links]
      exact held token link rfl
  | find =>
      obtain ⟨found, untouched⟩ := findLink_of_attempt made
      rw [untouched.links]
      exact found

theorem held_phase (request : Request) (w : World) : Held request.phase w := by
  refine request.phase_of_first (Held · w) ?_ fun fault token link is => by cases is
  intro token link is
  cases request <;> cases is

variable {σ : State}

/-- Serving a request to its end keeps the copies coherent. -/
theorem coherent_serve (request : Request) (outages : Outages) (apart : Copies.Apart s)
    (calm : Calm σ.world) (coherent : Coherent s σ.world σ.past) :
    Calm (σ.serve s request outages).world ∧
      Coherent s (σ.serve s request outages).world (σ.serve s request outages).past := by
  obtain ⟨q, outcome, -, -, -, calm', coherent', -⟩ := State.serve_keeps s outages
    (fun p w past => Coherent s w past ∧ Held p w) calm
    ⟨coherent, held_phase request σ.world⟩ fun calm visits holds advances made =>
      ⟨holds.1.step apart holds.2 (does_of_attempt calm advances made _ _),
        holds.2.step calm advances made⟩
  exact ⟨calm', coherent'⟩

/-- Whatever is served and whichever calls fail, the copies of tokens that are not tainted are
what the catalog has. -/
theorem coherent_serveAll (apart : Copies.Apart s) (calm : Calm σ.world)
    (coherent : Coherent s σ.world σ.past) (history : List (Request × Outages)) :
    Calm (σ.serveAll s history).world ∧
      Coherent s (σ.serveAll s history).world (σ.serveAll s history).past := by
  induction history generalizing σ with
  | nil => exact ⟨calm, coherent⟩
  | cons first rest ih =>
      obtain ⟨calm', coherent'⟩ := coherent_serve first.1 first.2 apart calm coherent
      exact ih calm' coherent'

end LinkShortener.Traffic
