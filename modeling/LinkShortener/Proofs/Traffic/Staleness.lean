import LinkShortener.Proofs.Traffic.Deed

/-!
Stale copies under concurrency. A copy is stale when it is not the address that the catalog has
for its token. As long as no call for a copy fails, there is one way only to a stale copy that no
pending drop will remove: a resolution read the catalog before an update or a deletion changed
it, and filled the copy after that update or deletion had dropped it. The entry then has the
lifetime of copies, which ends it.

The argument keeps, for every copy, the calls that brought it about: the fill and the reading
before it. As long as no change of the token lies behind the reading, the copy is what the
catalog has. A change that lies behind it owes a drop, and a drop after the fill would have
removed the copy.

Main statement: `stale_only_by_overtaken_fill`.
-/

namespace LinkShortener.Traffic

open Bench (World)
open Directory (Phase Advances)

/-! ### What events say of a token -/

namespace Event

/-- The catalog was read and had the address for the token. -/
def Reads (token url : String) : Event → Prop
  | ⟨_, _, .database (.findLink t), .ok (some link)⟩ => t = token ∧ link.url = url
  | _ => False

/-- The copy of the token was filled with the address and the lifetime of copies. -/
def Fills (s : Settings.KeyValue) (token url : String) (e : Event) : Prop :=
  e.deed? = some (.set (Copies.key s token) url (Copies.lifetime s))

/-- The drop of the copy of the token was asked for. -/
def AsksDrop (s : Settings.KeyValue) (token : String) (e : Event) : Prop :=
  e.call = .keys (.delete (Copies.key s token))

/-- The copy of the token was dropped. -/
def Drops (s : Settings.KeyValue) (token : String) (e : Event) : Prop :=
  e.deed? = some (.drop (Copies.key s token))

instance (s : Settings.KeyValue) (token : String) (e : Event) : Decidable (e.AsksDrop s token) :=
  inferInstanceAs (Decidable (_ = _))

theorem Drops.touches {s : Settings.KeyValue} {token : String} {e : Event}
    (drops : e.Drops s token) : e.Touches s token := ⟨_, drops, rfl⟩

end Event

/-- The tasks that have changed the catalog for a token and have not yet asked for the drop of
its copy. -/
def owing (s : Settings.KeyValue) (token : String) : List Event → List Nat
  | [] => []
  | e :: past =>
      if e.Commits token then e.task :: owing s token past
      else if e.AsksDrop s token then (owing s token past).filter (· ≠ e.task)
      else owing s token past

/-- No call for a copy fails. The calls for the counter and those to the catalog may, and one that
fails has no effect. -/
def copiesAvailable (s : Settings.KeyValue) : Regime where
  admits _ _ := True
  lets _ _ c outage := ∀ fault k, outage = some fault → c = .keys k →
    k = .increment s.counterKey ∨ ∃ text seconds, k = .set s.counterKey text seconds
  loses _ _ _ _ := False

/-- A fill that was overtaken: it reads the catalog, then an update or a deletion changes it and
drops the copy, and the copy is filled with what was read before, the latest event first. -/
def Overtaken (s : Settings.KeyValue) (token url : String) (past : List Event) : Prop :=
  ∃ later fill newer drop between commit older read earlier,
    past = later ++ fill :: (newer ++ drop :: (between ++ commit :: (older ++ read :: earlier))) ∧
    read.Reads token url ∧ commit.Commits token ∧ drop.Drops s token ∧ fill.Fills s token url ∧
    fill.request = .resolve token ∧ fill.task = read.task ∧ drop.task = commit.task ∧
    ∀ e ∈ later, ¬ e.Touches s token

/-! ### Changes and the drops they owe -/

variable {s : Settings.KeyValue} {token url : String}

/-- A change of a token has asked for the drop since, or it still owes it. -/
theorem owing_or_asked (s : Settings.KeyValue) (newer older : List Event) {commit : Event}
    (commits : commit.Commits token) :
    commit.task ∈ owing s token (newer ++ commit :: older) ∨
      ∃ e ∈ newer, e.AsksDrop s token ∧ e.task = commit.task := by
  induction newer with
  | nil => exact .inl (by simp [owing, commits])
  | cons e newer ih =>
      rcases ih with owes | ⟨drop, mem, asks⟩
      · simp only [List.cons_append, owing]
        split
        · exact .inl (List.mem_cons_of_mem _ owes)
        · split
          · rename_i asks
            by_cases same : e.task = commit.task
            · exact .inr ⟨e, List.mem_cons_self, asks, same⟩
            · exact .inl (List.mem_filter.mpr ⟨owes, by simpa using Ne.symm same⟩)
          · exact .inl owes
      · exact .inr ⟨drop, List.mem_cons_of_mem _ mem, asks⟩

/-! ### The outline -/

/-- The address was read by a task and is still current, or a change lies behind the reading. -/
def Read (token url : String) (task : Nat) (w : World) (past : List Event) : Prop :=
  ∃ newer read earlier, past = newer ++ read :: earlier ∧ read.Reads token url ∧
    read.task = task ∧ (Current w token url ∨ ∃ e ∈ newer, e.Commits token)

/-- What is known of a copy: who filled it, after which reading, and that it is current unless
a change lies behind that reading. Nothing has touched the copy since. -/
def Copied (s : Settings.KeyValue) (token url : String) (w : World) (past : List Event) : Prop :=
  ∃ later fill newer read earlier, past = later ++ fill :: (newer ++ read :: earlier) ∧
    read.Reads token url ∧ fill.Fills s token url ∧ fill.request = .resolve token ∧
    fill.task = read.task ∧ (∀ e ∈ later, ¬ e.Touches s token) ∧
    (Current w token url ∨ ∃ e ∈ later ++ newer, e.Commits token)

/-- Every copy is accounted for, and every drop that was asked for was done. A resolution that
holds a link has read it. -/
def staleness (s : Settings.KeyValue) : Outline where
  shared w past :=
    (∀ token url, w.keys.get? (Copies.key s token) = some url →
      w.keys.lifetimes.lookup (Copies.key s token) = some (Copies.lifetime s) ∧
        Copied s token url w past) ∧
    ∀ e ∈ past, ∀ token, e.AsksDrop s token → e.Drops s token
  stands p n _ w past :=
    ∀ token link, p = .holding token link → Read token link.url n w past

/-- What was read stays so, current or changed since. -/
theorem Read.step {w w' : World} {p q : Phase} {e : Event} {n : Nat} {past : List Event}
    (reads : Read token url n w past) (does : Does s w w' p e.deed? q) :
    Read token url n w' (e :: past) := by
  obtain ⟨newer, read, earlier, rfl, reads, task, fresh⟩ := reads
  refine ⟨e :: newer, read, earlier, rfl, reads, task, ?_⟩
  rcases fresh with current | ⟨commit, mem, commits⟩
  · rcases current_or_commits does current with current | commits
    · exact .inl current
    · exact .inr ⟨e, List.mem_cons_self, commits⟩
  · exact .inr ⟨commit, List.mem_cons_of_mem _ mem, commits⟩

/-- What is known of a copy stays so while it is not touched. -/
theorem Copied.step {w w' : World} {p q : Phase} {e : Event} {past : List Event}
    (copied : Copied s token url w past) (does : Does s w w' p e.deed? q)
    (untouched : ¬ e.Touches s token) : Copied s token url w' (e :: past) := by
  obtain ⟨later, fill, newer, read, earlier, rfl, reads, fills, asked, task, kept, fresh⟩ :=
    copied
  refine ⟨e :: later, fill, newer, read, earlier, rfl, reads, fills, asked, task, ?_, ?_⟩
  · intro e' mem
    rcases List.mem_cons.mp mem with rfl | mem
    · exact untouched
    · exact kept e' mem
  · rcases fresh with current | ⟨commit, mem, commits⟩
    · rcases current_or_commits does current with current | commits
      · exact .inl current
      · exact .inr ⟨e, List.mem_cons_self, commits⟩
    · exact .inr ⟨commit, List.mem_cons_of_mem _ mem, commits⟩

section Turn

variable {σ₀ σ : State} {o : Outline} {n : Nat} {request : Request} {p q : Phase} {c : Call}
  {reply : Except Fault c.Reply} {w : World}

/-- Each turn does what its event is a deed of. -/
theorem does_of_turn
    (turn : Outline.Turn s (copiesAvailable s) o σ₀ σ n request p c reply q w) :
    Does s σ.world w p (Event.deed? ⟨n, request, c, reply⟩) q := by
  rcases turn.does with does | ⟨fault, answer, q', -, loses, -⟩
  · exact does
  · exact loses.elim

/-- Where no call for a copy fails, a drop that is asked for is done. -/
theorem drops_of_asked
    (turn : Outline.Turn s (copiesAvailable s) o σ₀ σ n request p c reply q w)
    (asks : Event.AsksDrop s token ⟨n, request, c, reply⟩) :
    Event.Drops s token ⟨n, request, c, reply⟩ := by
  obtain rfl : c = .keys (.delete (Copies.key s token)) := asks
  cases reply with
  | ok count => rfl
  | error fault =>
      rcases turn.failed with ⟨outage, lets, made⟩ | ⟨loses, -⟩
      · rcases fault_of_attempt turn.holds.calm turn.advances made with strikes | refuses
        · have met := (struck_eq_some.mp strikes).1
          rcases lets fault _ met rfl with same | ⟨text, seconds, same⟩ <;> cases same
        · cases refuses
      · exact loses.elim

/-- A call that touches a copy and leaves one has filled it. -/
theorem copied_of_touches (apart : Copies.Apart s)
    (turn : Outline.Turn s (copiesAvailable s) (staleness s) σ₀ σ n request p c reply q w)
    (cached : w.keys.get? (Copies.key s token) = some url)
    (touches : Event.Touches s token ⟨n, request, c, reply⟩) :
    w.keys.lifetimes.lookup (Copies.key s token) = some (Copies.lifetime s) ∧
      Copied s token url w (⟨n, request, c, reply⟩ :: σ.past) := by
  have does := does_of_turn turn
  have stands := turn.stands
  have visits := turn.visits
  obtain ⟨deed, is, concerns⟩ := touches
  generalize made : Event.deed? ⟨n, request, c, reply⟩ = deed? at does is
  cases is
  cases does with
  | fill t link keys links =>
      obtain rfl := Copies.key_injective concerns
      rw [keys, KeyValue.Keyspace.get?_set, if_pos rfl] at cached
      cases cached
      have asked : request = .resolve t := Request.visits_holding.mp visits
      obtain ⟨newer, read, earlier, past, reads, task, fresh⟩ := stands t link rfl
      refine ⟨?_, [], _, newer, read, earlier, ?_, reads, made, asked, task.symm, ?_, ?_⟩
      · rw [keys, KeyValue.Keyspace.lifetimes_set, if_pos rfl]
      · rw [past]
        rfl
      · intro e mem
        cases mem
      · rcases fresh with ⟨l, found, same⟩ | changed
        · exact .inl ⟨l, by rw [links]; exact found, same⟩
        · exact .inr changed
  | drop t link? keys links =>
      obtain rfl := Copies.key_injective concerns
      rw [keys, KeyValue.Keyspace.get?_delete, if_pos rfl] at cached
      cases cached
  | seed last keys links => exact absurd concerns (apart.key_ne token).symm
  | _ => exact concerns.elim

end Turn

theorem outlasts_staleness (s : Settings.KeyValue) : Outline.Outlasts s (staleness s) where
  shared _ holds := ⟨fun token url cached => holds.1 token url (copied_of_lapse cached), holds.2⟩
  stands holds := holds

/-- The staleness is kept by every step. -/
theorem kept_staleness (apart : Copies.Apart s) (σ₀ : State) :
    Outline.Kept s (copiesAvailable s) (staleness s) σ₀ where
  outlasts := outlasts_staleness s
  enters {σ request} reaches holds admitted := by
    refine request.phase_of_first
      (fun p => (staleness s).stands p _ request σ.world σ.past) ?_
      fun fault token link is => by cases is
    intro token link is
    cases request <;> cases is
  shares {σ n request p c reply q w} turn := by
    obtain ⟨copies, drops⟩ := turn.holds.shared
    have does := does_of_turn turn
    refine ⟨fun token url cached => ?_, fun e mem token asks => ?_⟩
    · by_cases touches : Event.Touches s token ⟨n, request, c, reply⟩
      · exact copied_of_touches apart turn cached touches
      · obtain ⟨copy, lifetime⟩ := does.copy_eq apart token
          fun deed is concerns => touches ⟨deed, is, concerns⟩
        rw [copy] at cached
        obtain ⟨lived, copied⟩ := copies token url cached
        exact ⟨lifetime.trans lived, copied.step does touches⟩
    · rcases List.mem_cons.mp mem with rfl | mem
      · exact drops_of_asked turn asks
      · exact drops e mem token asks
  arrives {σ n request p c reply q w} turn := by
    intro token link is
    subst is
    have does := does_of_turn turn
    have stands := turn.stands
    cases turn.advances with
    | noted => exact (stands token link rfl).step does
    | connect => exact (stands token link rfl).step does
    | find =>
        obtain ⟨outage, -, made⟩ := turn.answered
        obtain ⟨found, untouched⟩ := findLink_of_attempt made
        refine ⟨[], _, _, rfl, ⟨rfl, rfl⟩, rfl, .inl ⟨link, ?_, rfl⟩⟩
        rw [untouched.links, found]
  spares {σ n request p c reply q w m task p'} turn other found place := by
    intro token link is
    have does := does_of_turn turn
    exact (place.stands token link is).step does

/-- The staleness holds wherever requests lead. -/
theorem holds_staleness {w : World} {σ : State} (apart : Copies.Apart s) (calm : Calm w)
    (uncopied : ∀ token, w.keys.get? (Copies.key s token) = none)
    (reaches : Reaches s (copiesAvailable s) (State.start w) σ) :
    Outline.Holds s (staleness s) σ := by
  refine Outline.holds_of_reaches (kept_staleness apart _) (Outline.holds_start calm ?_) reaches
  refine ⟨fun token url cached => ?_, fun e mem => ?_⟩
  · rw [uncopied token] at cached
    cases cached
  · cases mem

/-! ### Stale copies -/

/-- As long as no call for a copy fails, a copy that no pending drop will remove and that is not
the address of its token is one of a fill that was overtaken: it was read before an update or a
deletion changed the catalog, and made after the same operation had dropped the copy. It has the
lifetime of copies. -/
theorem stale_only_by_overtaken_fill {w : World} {σ : State} (apart : Copies.Apart s)
    (calm : Calm w) (uncopied : ∀ token, w.keys.get? (Copies.key s token) = none)
    (reaches : Reaches s (copiesAvailable s) (State.start w) σ) {token url : String}
    (settled : owing s token σ.past = [])
    (cached : σ.world.keys.get? (Copies.key s token) = some url)
    (stale : ∀ link, σ.world.links.find? token = some link → link.url ≠ url) :
    Overtaken s token url σ.past ∧
      σ.world.keys.lifetimes.lookup (Copies.key s token) = some (Copies.lifetime s) := by
  have holds := holds_staleness apart calm uncopied reaches
  obtain ⟨copies, drops⟩ := holds.shared
  obtain ⟨lifetime, later, fill, newer, read, earlier, past, reads, fills, asked, task, kept,
    fresh⟩ := copies token url cached
  refine ⟨?_, lifetime⟩
  have dropped : ∀ recent older : List Event, ∀ commit : Event, commit.Commits token →
      σ.past = recent ++ commit :: older →
      ∃ e ∈ recent, e.Drops s token ∧ e.task = commit.task := by
    intro recent older commit commits split
    rcases owing_or_asked s recent older commits with owes | ⟨e, mem, asks, same⟩
    · rw [← split, settled] at owes
      cases owes
    · exact ⟨e, mem, drops e (by rw [split]; exact List.mem_append_left _ mem) token asks, same⟩
  rcases fresh with ⟨link, found, same⟩ | ⟨commit, mem, commits⟩
  · exact absurd same (stale link found)
  rcases List.mem_append.mp mem with mem | mem
  · obtain ⟨recent, older, rfl⟩ := List.append_of_mem mem
    obtain ⟨e, memE, droppedE, -⟩ := dropped recent _ commit commits
      (by rw [past, List.append_assoc]; rfl)
    exact absurd droppedE.touches (kept e (List.mem_append_left _ memE))
  · obtain ⟨recent, older, rfl⟩ := List.append_of_mem mem
    obtain ⟨e, memE, droppedE, same⟩ := dropped (later ++ fill :: recent)
      (older ++ read :: earlier) commit commits (by rw [past]; simp)
    rcases List.mem_append.mp memE with memE | memE
    · exact absurd droppedE.touches (kept e memE)
    · rcases List.mem_cons.mp memE with rfl | memE
      · rw [Event.Drops, fills] at droppedE
        cases droppedE
      · obtain ⟨first, between, rfl⟩ := List.append_of_mem memE
        refine ⟨later, fill, first, e, between, commit, older, read, earlier, ?_, reads, commits,
          droppedE, fills, asked, task, same, kept⟩
        rw [past]
        simp

/-- A resolution of the link reads the catalog, then the link is deleted and its copy dropped,
and then the resolution fills the copy. -/
def overtaken : State :=
  (((State.start lonely).enter {} (.resolve "b")).enter {} (.delete "b")).turns
    [0, 0, 0, 0, 1, 1, 1, 0]

theorem reaches_overtaken : Reaches {} (copiesAvailable {}) (State.start lonely) overtaken :=
  Reaches.turns (fun _ _ _ _ _ met => by cases met) (.enter (.enter .refl trivial) trivial) _

/-- The copy of a deleted link is left by a fill that the deletion has overtaken. -/
theorem overtaken_deletion_leaves_copy :
    overtaken.world.links.find? "b" = none ∧
      Overtaken {} "b" "https://a.example/" overtaken.past ∧
      overtaken.world.keys.lifetimes.lookup (Copies.key {} "b") = some (some 3600) := by
  have gone : overtaken.world.links.find? "b" = none := rfl
  have calm : Calm lonely := rfl
  refine ⟨gone, stale_only_by_overtaken_fill (by decide) calm (fun _ => rfl) reaches_overtaken
    rfl rfl ?_⟩
  intro link found
  rw [gone] at found
  cases found

end LinkShortener.Traffic
