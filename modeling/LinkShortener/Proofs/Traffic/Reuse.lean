import LinkShortener.Proofs.Traffic.Ledger
import LinkShortener.Proofs.Traffic.Numbering

/-!
Whether ids are used again. A restart seeds the counter with the greatest id that is left in the
table, not with the greatest that was ever given out. As long as every restart seeds at least
every id that was returned before, no id and no token is returned twice. Once the link with the
greatest id is deleted, a restart forgets its id, and the links made after that come to it again.

Main statement: `ids_unique_unless_greatest_lost`.
-/

namespace LinkShortener.Traffic

open Routine
open Bench (World Answer)
open Directory (Phase Advances)
open KeyValue (Keyspace)
open Link (Table)

/-! ### Ids that were returned -/

/-- The id of a link that was read back, after which its shortening returns it. -/
def Event.returned? : Event → Option Int
  | ⟨_, _, .database (.readBack _), .ok link⟩ => some link.id
  | _ => none

/-- The ids that were returned, each with the task that returned it. -/
def returned (past : List Event) : List (Nat × Int) :=
  past.filterMap fun e => e.returned?.map (e.task, ·)

/-- Whenever the counter was set, no greater id had been returned. -/
def Covered (s : Settings.KeyValue) : List Event → Prop
  | [] => True
  | e :: past => Covered s past ∧
      ∀ S, e.seed? s = some S → ∀ entry ∈ returned past, entry.2 ≤ S

/-- A shortening has returned a link. -/
def State.Returns (σ : State) (n : Nat) (link : Link) : Prop :=
  ∃ url, σ.tasks[n]? = some ⟨.shorten url, .done (.link link)⟩

variable {s : Settings.KeyValue} {w w' : World} {p q : Phase} {past : List Event} {e : Event}

theorem returned_idle (idle : e.returned? = none) : returned (e :: past) = returned past := by
  simp [returned, idle]

theorem returned_cons {id : Int} (returns : e.returned? = some id) :
    returned (e :: past) = (e.task, id) :: returned past := by
  simp [returned, returns]

/-- Only reading a link back returns an id, and it is the id that the task has inserted. -/
theorem Outline.Turn.returned?_cases {regime : Regime} {o : Outline} {σ₀ σ : State} {n : Nat}
    {request : Request} {c : Call} {reply : Except Fault c.Reply}
    (turn : Turn s regime o σ₀ σ n request p c reply q w) :
    Event.returned? ⟨n, request, c, reply⟩ = none ∨
      ∃ id token, p = .inserted id token ∧
        Event.returned? ⟨n, request, c, reply⟩ = some id := by
  cases turn.advances with
  | readBack id token link =>
      obtain ⟨outage, -, made⟩ := turn.answered
      obtain ⟨-, rfl⟩ := Table.mem_of_findId? (readBack_of_attempt made).1
      exact .inr ⟨link.id, token, rfl, rfl⟩
  | _ => exact .inl rfl

/-! ### The outline -/

/-- What is known of a task by its phase. An id that a task has and has not returned was not
returned by any other task, as long as restarts cover what was returned. -/
def Lasts (s : Settings.KeyValue) (n : Nat) (past : List Event) : Phase → Prop
  | .numbered _ id _ => Covered s past → ∀ m, (m, id) ∉ returned past
  | .inserted id _ => Table.fits id = true ∧ (Covered s past → ∀ m, (m, id) ∉ returned past)
  | .made link => (n, link.id) ∈ returned past ∧ Table.fits link.id = true ∧
      Token.ofId link.id = .ok link.token
  | _ => True

/-- No two tasks have returned the same id, and the counter is beyond all of them. -/
structure Distinct (s : Settings.KeyValue) (past : List Event) : Prop where
  unique : ∀ m n id, (m, id) ∈ returned past → (n, id) ∈ returned past → m = n
  bounded : ∀ S, lastSeed? s past = some S →
    ∀ entry ∈ returned past, entry.2 ≤ S + (taken s past).length

/-- As long as restarts cover what was returned, the returned ids are distinct. -/
def lasting (s : Settings.KeyValue) : Outline where
  shared _ past := Covered s past → Distinct s past
  stands p n _ _ past := Lasts s n past p

/-- What is known of a task lasts while the id that it has is not returned. -/
theorem Lasts.kept {n : Nat} (lasts : Lasts s n past p)
    (unreturned : ∀ id, e.returned? = some id →
      (∀ url token, p ≠ .numbered url id token) ∧ ∀ token, p ≠ .inserted id token) :
    Lasts s n (e :: past) p := by
  have fresh {id : Int} (before : Covered s past → ∀ m, (m, id) ∉ returned past)
      (other : e.returned? ≠ some id) :
      Covered s (e :: past) → ∀ m, (m, id) ∉ returned (e :: past) := by
    rintro ⟨covered, -⟩ m mem
    cases returns : e.returned? with
    | none =>
        rw [returned_idle returns] at mem
        exact before covered m mem
    | some id' =>
        rw [returned_cons returns] at mem
        rcases List.mem_cons.mp mem with same | mem
        · cases same
          exact other returns
        · exact before covered m mem
  cases p with
  | numbered url id token =>
      exact fresh lasts fun returns => (unreturned id returns).1 url token rfl
  | inserted id token =>
      exact ⟨lasts.1, fresh lasts.2 fun returns => (unreturned id returns).2 token rfl⟩
  | made link =>
      obtain ⟨mem, fits, coded⟩ := lasts
      refine ⟨?_, fits, coded⟩
      cases returns : e.returned? with
      | none => rwa [returned_idle returns]
      | some id =>
          rw [returned_cons returns]
          exact List.mem_cons_of_mem _ mem
  | _ => trivial

section Kept

variable {σ₀ σ : State} {n : Nat} {request : Request} {c : Call} {reply : Except Fault c.Reply}

/-- The assertions of the numbering and of the distinctness of what was returned. -/
abbrev lastingNumbering (s : Settings.KeyValue) : Outline := (numbering s).also (lasting s)

/-- When a shortening takes its turn, the counter counts from its seed. -/
theorem counts_of_turn
    (turn : Outline.Turn s (guarded s) (lastingNumbering s) σ₀ σ n request p c reply q w)
    (shortens : request.isShorten = true) :
    ∃ S, lastSeed? s σ.past = some S ∧ CountsFrom s S σ.world σ.past := by
  obtain ⟨S, last⟩ := Option.isSome_iff_exists.mp (turn.stands.1.1 shortens)
  exact ⟨S, last, turn.holds.shared.1.counts S last⟩

/-- A call keeps the returned ids distinct and the counter beyond them. -/
theorem Distinct.step
    (turn : Outline.Turn s (guarded s) (lastingNumbering s) σ₀ σ n request p c reply q w)
    (covered : Covered s (⟨n, request, c, reply⟩ :: σ.past)) :
    Distinct s (⟨n, request, c, reply⟩ :: σ.past) := by
  obtain ⟨before, covers⟩ := covered
  obtain ⟨unique, bounded⟩ := turn.holds.shared.2 before
  have stands := turn.stands
  rcases turn.returned?_cases with idle | ⟨id, token, rfl, returns⟩
  · refine ⟨?_, fun S last entry mem => ?_⟩
    · rw [returned_idle idle]
      exact unique
    · rw [returned_idle idle] at mem
      rcases turn.moves with ⟨unseeded, uncounted, -⟩ | ⟨seed, -, seeds, -⟩ |
        ⟨url, id, -, unseeded, number, -⟩
      · rw [lastSeed?_idle unseeded] at last
        rw [taken_idle unseeded uncounted]
        exact bounded S last entry mem
      · rw [lastSeed?_seed seeds] at last
        cases last
        have := covers S seeds entry mem
        omega
      · rw [lastSeed?_idle unseeded] at last
        have := bounded S last entry mem
        rw [taken_number unseeded number, List.length_append]
        omega
  · have absent := stands.2.2 before
    rcases turn.moves with ⟨unseeded, uncounted, -⟩ | ⟨_, elsewhere, -⟩ |
      ⟨_, _, elsewhere, -⟩
    · refine ⟨fun m m' id mem mem' => ?_, fun S last entry mem => ?_⟩
      · rw [returned_cons returns] at mem mem'
        rcases List.mem_cons.mp mem with same | mem <;>
          rcases List.mem_cons.mp mem' with same' | mem'
        · cases same
          cases same'
          rfl
        · cases same
          exact absurd mem' (absent m')
        · cases same'
          exact absurd mem (absent m)
        · exact unique m m' id mem mem'
      · rw [lastSeed?_idle unseeded] at last
        rw [taken_idle unseeded uncounted]
        rw [returned_cons returns] at mem
        rcases List.mem_cons.mp mem with rfl | mem
        · exact (turn.holds.shared.1.counts S last).le_of_mem (List.mem_map_of_mem stands.1.2)
        · exact bounded S last entry mem
    · cases elsewhere
    · cases elsewhere

/-- What is known of the phase that a call leads to. -/
theorem Lasts.arrives
    (turn : Outline.Turn s (guarded s) (lastingNumbering s) σ₀ σ n request p c reply q w) :
    Lasts s n (⟨n, request, c, reply⟩ :: σ.past) q := by
  have calm := turn.holds.calm
  have stands := turn.stands
  have lasts : Lasts s n σ.past p := stands.2
  cases turn.advances with
  | noted | connect => exact lasts.kept fun id returns => by cases returns
  | number url id token coded =>
      obtain ⟨outage, -, made⟩ := turn.answered
      obtain ⟨counted, links⟩ := increment_of_attempt calm made
      have shortens : request.isShorten = true := by
        rw [Request.visits_counting.mp turn.visits]
        rfl
      obtain ⟨S, last, counts⟩ := counts_of_turn turn shortens
      have next := counts.next counted
      rintro ⟨covered, -⟩ m mem
      rw [returned_idle rfl] at mem
      have := (turn.holds.shared.2 covered).bounded S last _ mem
      omega
  | insert url id token =>
      obtain ⟨outage, -, made⟩ := turn.answered
      obtain ⟨inserted, -⟩ := insertLink_of_attempt calm made
      refine ⟨(Table.insert_eq_ok.mp inserted).1, ?_⟩
      rintro ⟨covered, -⟩
      rw [returned_idle rfl]
      exact lasts covered
  | readBack id token link =>
      obtain ⟨outage, -, made⟩ := turn.answered
      obtain ⟨found, -⟩ := readBack_of_attempt made
      obtain ⟨mem, rfl⟩ := Table.mem_of_findId? found
      refine ⟨?_, lasts.1, turn.holds.shared.1.coded link mem⟩
      rw [returned_cons rfl]
      exact List.mem_cons_self
  | _ => trivial

/-- What is known of the other tasks outlasts a call. -/
theorem Lasts.spares {m : Nat} {task : Task} {p' : Phase}
    (turn : Outline.Turn s (guarded s) (lastingNumbering s) σ₀ σ n request p c reply q w)
    (other : m ≠ n) (place : Outline.Places s (lastingNumbering s) σ m task p') :
    Lasts s m (⟨n, request, c, reply⟩ :: σ.past) p' := by
  have lasts : Lasts s m σ.past p' := place.stands.2
  refine lasts.kept fun id returns => ?_
  have stands := turn.stands
  have visits := turn.visits
  rcases turn.returned?_cases with idle | ⟨id, token, rfl, returns'⟩
  · rw [idle] at returns
    cases returns
  · rw [returns'] at returns
    cases returns
    obtain ⟨S, last, counts⟩ := counts_of_turn turn (shortens_of_inserted visits)
    have mine : (n, id) ∈ taken s σ.past := stands.1.2
    refine ⟨?_, ?_⟩
    · rintro url token rfl
      exact other (counts.task_unique place.stands.1.2.1 mine)
    · rintro token rfl
      exact other (counts.task_unique place.stands.1.2 mine)

end Kept

/-- The lasting numbering is kept by every step. -/
theorem kept_lasting (s : Settings.KeyValue) (σ₀ : State) :
    Outline.Kept s (guarded s) (lastingNumbering s) σ₀ where
  outlasts := (outlasts_numbering s).also ⟨fun _ holds => holds, fun holds => holds⟩
  enters {σ request} reaches holds admitted := by
    refine ⟨(kept_numbering s σ₀).enters reaches holds.left admitted, ?_⟩
    refine request.phase_of_first (Lasts s _ σ.past) ?_ fun fault => trivial
    cases request <;> trivial
  shares turn := ⟨(kept_numbering s σ₀).shares turn.left, Distinct.step turn⟩
  arrives turn := ⟨(kept_numbering s σ₀).arrives turn.left, Lasts.arrives turn⟩
  spares turn other found place :=
    ⟨(kept_numbering s σ₀).spares turn.left other found place.left,
      Lasts.spares turn other place⟩

variable {σ σ₀ : State}

/-- The lasting numbering holds wherever orderly requests lead. -/
theorem holds_lasting (apart : Copies.Apart s) (calm : Calm w)
    (coded : ∀ link ∈ w.links.rows, Token.ofId link.id = .ok link.token)
    (reaches : Reaches s (orderly s) (State.start w) σ) :
    Outline.Holds s (lastingNumbering s) σ := by
  have undisputed : Undisputed s σ.past :=
    undisputed_of_spared (.of_apart apart) calm coded reaches
  refine Outline.holds_of_reaches (kept_lasting s _) (Outline.holds_start calm ?_)
    (reaches.guarded undisputed)
  refine ⟨⟨coded, (fun S last => by cases last), fun e mem => by cases mem⟩, fun _ => ⟨?_, ?_⟩⟩
  · exact fun m n id mem => by cases mem
  · exact fun S last => by cases last

/-- A shortening that has returned a link has read it back. -/
theorem lasts_of_returns (holds : Outline.Holds s (lastingNumbering s) σ) {n : Nat} {link : Link}
    (returns : σ.Returns n link) :
    (lastSeed? s σ.past).isSome = true ∧ (n, link.id) ∈ returned σ.past ∧
      Table.fits link.id = true ∧ Token.ofId link.id = .ok link.token := by
  obtain ⟨url, found⟩ := returns
  obtain ⟨p, place⟩ := holds.places n _ found
  have tells : p.outcome? s = some (.ok (.link link)) := place.outcome? rfl
  have visits := place.visits
  have stands := place.stands
  cases p with
  | made link' =>
      cases tells
      exact ⟨stands.1.1 rfl, stands.2⟩
  | settled link? => cases link? <;> cases visits
  | _ => cases tells

/-! ### Counting up to an id -/

/-- The counter stands at a number that no id exceeds, and rows have the tokens of their ids. -/
structure Primed (s : Settings.KeyValue) (n : Int) (w : World) : Prop where
  calm : Calm w
  counter : (ledger s w).counter = some n
  bounded : ∀ e ∈ (ledger s w).entries, e.id ≤ n
  coded : ∀ e ∈ (ledger s w).entries, Token.ofId e.id = .ok e.token

/-- A restart sets the counter to the greatest id. -/
theorem primed_serve_boot (apart : Copies.Apart s) (calm : Calm σ.world)
    (coded : ∀ link ∈ σ.world.links.rows, Token.ofId link.id = .ok link.token) :
    Primed s σ.world.links.lastId (σ.serve s .boot clear).world := by
  have answers : Answers clear .boot := fun _ => rfl
  obtain ⟨outcome, -, refines⟩ := serve_refines apart calm answers
    fun _ _ looks => by cases looks
  have after : ledger s (σ.serve s .boot clear).world =
      { ledger s σ.world with counter := some σ.world.links.lastId } := by
    have served := congrArg Prod.snd refines
    rw [← lastId_ledger s]
    exact served.symm
  refine ⟨State.calm_serve s .boot clear calm, by rw [after], ?_, ?_⟩
  · rw [after]
    intro e mem
    obtain ⟨link, memLink, rfl⟩ := List.mem_map.mp mem
    exact Table.le_lastId memLink
  · rw [after]
    intro e mem
    obtain ⟨link, memLink, rfl⟩ := List.mem_map.mp mem
    exact coded link memLink

/-- The next link gets the next number. -/
theorem primed_serve_shorten {n : Int} {url : String} (apart : Copies.Apart s)
    (primed : Primed s n σ.world) (nonneg : 0 ≤ n) (fits : Table.fits (n + 1) = true)
    (accepted : Url.check url = .ok ()) :
    ∃ link, (σ.serve s (.shorten url) clear).tasks =
        σ.tasks ++ [⟨.shorten url, .done (.link link)⟩] ∧
      link.id = n + 1 ∧ Token.ofId link.id = .ok link.token ∧
      Primed s (n + 1) (σ.serve s (.shorten url) clear).world := by
  have answers : Answers clear (.shorten url) := fun _ => rfl
  obtain ⟨outcome, tasks, refines⟩ := serve_refines apart primed.calm answers
    fun _ _ looks => by cases looks
  obtain ⟨token, code⟩ := Token.exists_ofId (show 0 ≤ n + 1 by omega)
  have next : (ledger s σ.world).next s clear = some (n + 1) := by
    simp [Ledger.next, clear, struck, primed.counter, hasNext_of_fits nonneg fits]
  have fresh : ¬ ∃ e ∈ (ledger s σ.world).entries, e.id = n + 1 ∨ e.token = token := by
    rintro ⟨e, mem, near⟩
    have bound := primed.bounded e mem
    have same : e.id = n + 1 := near.elim id fun same =>
      Token.ofId_injective (primed.coded e mem) (same ▸ code)
    omega
  have served : (ledger s σ.world).serve s clear (.shorten url) =
      (ledger s σ.world).accept s clear (.shorten url) := by
    simp only [Ledger.serve, Request.check, accepted]
  rw [served, accept_shorten next code fresh] at refines
  obtain ⟨tells, after⟩ := Prod.mk.inj refines
  obtain ⟨link, rfl, entry⟩ := eq_of_told_entry tells.symm
  obtain ⟨same, -, named⟩ : link.id = n + 1 ∧ link.url = url ∧ link.token = token :=
    Entry.mk.inj entry
  refine ⟨link, tasks, same, by rw [same, named, code],
    State.calm_serve s _ clear primed.calm, ?_, ?_, ?_⟩
  · rw [← after]
  · rw [← after]
    intro e mem
    rcases List.mem_append.mp mem with mem | mem
    · have := primed.bounded e mem
      omega
    · cases List.mem_singleton.mp mem
      exact Int.le_refl _
  · rw [← after]
    intro e mem
    rcases List.mem_append.mp mem with mem | mem
    · exact primed.coded e mem
    · cases List.mem_singleton.mp mem
      exact code

/-- A number of links more counts the counter up by that number. -/
theorem climbs {url : String} {τ : State} (apart : Copies.Apart s)
    (accepted : Url.check url = .ok ()) (k : Nat) {n : Int} (nonneg : 0 ≤ n)
    (fits : Table.fits (n + k) = true) (primed : Primed s n σ.world)
    (reaches : Reaches s (orderly s) σ₀ σ) (seeded : (lastSeed? s σ.past).isSome = true)
    (served : σ.serveAll s (List.replicate k (.shorten url, clear)) = τ) :
    Reaches s (orderly s) σ₀ τ ∧ (lastSeed? s τ.past).isSome = true ∧ σ.tasks <+: τ.tasks ∧
      Primed s (n + k) τ.world := by
  induction k generalizing σ n with
  | zero =>
      subst served
      rw [Int.natCast_zero, Int.add_zero]
      exact ⟨reaches, seeded, List.prefix_rfl, primed⟩
  | succ k ih =>
      have fitsNext : Table.fits (n + 1) = true :=
        Table.fits_of_between (by omega) (by omega) fits
      have sum : n + ((k + 1 : Nat) : Int) = n + 1 + k := by omega
      obtain ⟨-, -, -, -, primed'⟩ :=
        primed_serve_shorten apart primed nonneg fitsNext accepted
      have step : Reaches s (orderly s) σ (σ.serve s (.shorten url) clear) :=
        Reaches.serve .refl (fun _ => seeded) (lets_other (by simp))
      rw [sum] at fits ⊢
      rw [List.replicate_succ, serveAll_cons] at served
      obtain ⟨reaches', seeded', tasks', climbed⟩ := ih (by omega) fits primed'
        (reaches.trans step) (seeded_of_reaches step seeded) served
      exact ⟨reaches', seeded', (prefix_serve s σ _ clear).trans tasks', climbed⟩

/-! ### Sequential runs -/

theorem covered_of_unreturned (unreturned : returned past = []) : Covered s past := by
  induction past with
  | nil => trivial
  | cons e past ih =>
      have before : returned past = [] := by
        cases returns : e.returned? with
        | none => rwa [returned_idle returns] at unreturned
        | some id =>
            rw [returned_cons returns] at unreturned
            cases unreturned
      refine ⟨ih before, fun S _ entry mem => ?_⟩
      rw [before] at mem
      cases mem

/-- Where the copies are apart from the counter, only a restart sets the counter. -/
theorem Does.boots_of_apart {deed? : Option Deed} (does : Does s w w' p deed? q)
    (apart : Copies.Apart s) :
    ∀ deed ∈ deed?, deed.Concerns s.counterKey → ∃ last, p = .measured last := by
  intro deed is concerns
  cases is
  cases does with
  | seed last => exact ⟨last, rfl⟩
  | fill token | drop token => exact absurd concerns (apart.key_ne token)
  | _ => exact concerns.elim

/-- Only a restart can leave uncovered what was returned. -/
theorem covered_serve {request : Request} {outages : Outages} (apart : Copies.Apart s)
    (calm : Calm σ.world) (other : request ≠ .boot) (covered : Covered s σ.past) :
    Covered s (σ.serve s request outages).past := by
  obtain ⟨_, _, -, -, -, -, covered'⟩ := State.serve_keeps s outages
    (fun _ _ past => Covered s past) calm covered fun calm visits covered advances made => by
      refine ⟨covered, fun S seeds => ?_⟩
      have does := does_of_attempt calm advances made σ.tasks.length request
      rcases does.moves (does.boots_of_apart apart) with ⟨idle, -⟩ | ⟨_, rfl, -⟩ | ⟨_, _, -, idle, -⟩
      · rw [idle] at seeds
        cases seeds
      · exact absurd (Request.visits_measured.mp visits) other
      · rw [idle] at seeds
        cases seeds
  exact covered'

/-- Requests that are no restart keep the returned ids covered. -/
theorem covered_serveAll (apart : Copies.Apart s) (history : List (Request × Outages))
    (others : ∀ served ∈ history, served.1 ≠ .boot) (calm : Calm σ.world)
    (covered : Covered s σ.past) : Covered s (σ.serveAll s history).past := by
  induction history generalizing σ with
  | nil => exact covered
  | cons served rest ih =>
      obtain ⟨request, outages⟩ := served
      have covered' : Covered s (σ.serve s request outages).past :=
        covered_serve apart calm (others _ List.mem_cons_self) covered
      rw [serveAll_cons]
      exact ih (fun served mem => others served (List.mem_cons_of_mem _ mem))
        (State.calm_serve s request outages calm) covered'

theorem requests_serveAll (s : Settings.KeyValue) (σ : State)
    (history : List (Request × Outages)) :
    (σ.serveAll s history).tasks.map Task.request =
      σ.tasks.map Task.request ++ history.map Prod.fst := by
  induction history generalizing σ with
  | nil => simp [State.serveAll]
  | cons served rest ih =>
      obtain ⟨request, outages⟩ := served
      rw [serveAll_cons, ih]
      simp [State.serve]

/-- A shortening returns what it returns on the ledger. -/
theorem returns_of_ledger {history : List (Request × Outages)} {n : Nat} {url : String}
    {entry : Entry} (apart : Copies.Apart s) (calm : Calm w)
    (uncopied : ∀ token, w.keys.get? (Copies.key s token) = none)
    (unhindered : ∀ served ∈ history, Unhindered served.2)
    (asked : (history.map Prod.fst)[n]? = some (.shorten url))
    (answered : ((ledger s w).serveAll s history).1[n]? = some (.ok (.entry entry))) :
    ∃ link, ((State.start w).serveAll s history).Returns n link ∧ Entry.ofLink link = entry := by
  have coherent : Coherent s (State.start w).world (State.start w).past := by
    intro token url _ cached
    cases (uncopied token).symm.trans cached
  have calm : Calm (State.start w).world := calm
  obtain ⟨outcomes, -⟩ := serveAll_refines apart calm coherent (fun _ tainted => tainted) history
    unhindered
  have requests := requests_serveAll s (State.start w) history
  generalize (State.start w).serveAll s history = τ at *
  have outcome := congrArg (·[n]?) outcomes
  have request := congrArg (·[n]?) requests
  simp only [State.start, State.outcomes, List.map_nil, List.nil_append, List.getElem?_map,
    answered, asked, Option.map_some, Option.map_eq_some_iff] at outcome request
  obtain ⟨task, found, same⟩ := request
  obtain ⟨_, ⟨_, found', rfl⟩, answer⟩ := outcome
  cases found.symm.trans found'
  obtain ⟨outcome, ended, tells⟩ := answer
  obtain ⟨link, rfl, made⟩ := eq_of_told_entry tells
  refine ⟨link, ⟨url, ?_⟩, made⟩
  rw [found, ← same, ← Task.rest_of_outcome? ended]

/-! ### Runs from a restart without links -/

/-- A restart without links, and what is served after it. -/
def afterBoot (history : List (Request × Outages)) : State :=
  (State.start {}).serveAll {} ((.boot, clear) :: history)

theorem ended_afterBoot (history : List (Request × Outages)) :
    ∀ task ∈ (afterBoot history).tasks, task.outcome?.isSome = true :=
  ended_serveAll {} _ fun _ mem => by cases mem

/-- A history in which nothing fails is an orderly run. -/
theorem reaches_afterBoot {history : List (Request × Outages)}
    (unfailing : ∀ served ∈ history, served.2 = clear) :
    Reaches {} (orderly {}) (State.start {}) (afterBoot history) := by
  have reaches : Reaches {} (orderly {}) (State.start {})
      ((State.start {}).serve {} .boot clear) :=
    Reaches.serve .refl (fun shortens => by cases shortens)
      (lets_boot (fun _ mem => by cases mem) fun _ mem => by cases mem)
  have seed : lastSeed? {} ((State.start {}).serve {} .boot clear).past = some 0 :=
    (lastSeed?_idle rfl).trans (lastSeed?_seed (seed?_set 0 .boot 0))
  rw [afterBoot, serveAll_cons]
  refine reaches_serveAll history unfailing reaches ?_ (by rw [seed]; rfl)
  exact ended_serve {} .boot clear fun _ mem => by cases mem

theorem covered_afterBoot {history : List (Request × Outages)}
    (others : ∀ served ∈ history, served.1 ≠ .boot) : Covered {} (afterBoot history).past := by
  have calm : Calm (State.start {}).world := rfl
  have unreturned : returned ((State.start {}).serve {} .boot clear).past = [] := rfl
  rw [afterBoot, serveAll_cons]
  exact covered_serveAll (by decide) history others (State.calm_serve {} .boot clear calm)
    (covered_of_unreturned unreturned)

theorem unhindered_afterBoot {history : List (Request × Outages)}
    (unfailing : ∀ served ∈ history, served.2 = clear) :
    ∀ served ∈ (Request.boot, clear) :: history, Unhindered served.2 := by
  intro served mem
  rcases List.mem_cons.mp mem with rfl | mem
  · exact unhindered_clear
  · rw [unfailing served mem]
    exact unhindered_clear

/-- What the ledger enters for a shortening is returned by it. -/
theorem returns_afterBoot {history : List (Request × Outages)} {n : Nat} {url : String}
    {entry : Entry} (unfailing : ∀ served ∈ history, served.2 = clear)
    (asked : (history.map Prod.fst)[n]? = some (.shorten url))
    (answered : ((ledger {} {}).serveAll {} ((.boot, clear) :: history)).1[n + 1]? =
      some (.ok (.entry entry))) :
    ∃ link, (afterBoot history).Returns (n + 1) link ∧ Entry.ofLink link = entry := by
  have calm : Calm {} := rfl
  exact returns_of_ledger (by decide) calm (fun _ => rfl) (unhindered_afterBoot unfailing) asked
    answered

theorem lastId_afterBoot {history : List (Request × Outages)}
    (unfailing : ∀ served ∈ history, served.2 = clear) :
    (afterBoot history).world.links.lastId =
      ((ledger {} {}).serveAll {} ((.boot, clear) :: history)).2.lastId := by
  have calm : Calm (State.start {}).world := rfl
  have coherent : Coherent {} (State.start {}).world (State.start {}).past :=
    fun token url _ cached => by cases cached
  obtain ⟨-, last⟩ := serveAll_refines (by decide) calm coherent (fun _ tainted => tainted) _
    (unhindered_afterBoot unfailing)
  rw [← lastId_ledger {}, afterBoot, last]
  rfl

/-- Two links. -/
def twoLinks : List (Request × Outages) :=
  [(.shorten "https://a.example/", clear), (.shorten "https://b.example/", clear)]

/-- A link that is deleted. -/
def lostLink : List (Request × Outages) :=
  [(.shorten "https://a.example/", clear), (.delete "b", clear)]

/-- A link that is deleted, and after a further restart another one. -/
def forgottenLink : List (Request × Outages) :=
  lostLink ++ [(.boot, clear), (.shorten "https://b.example/", clear)]

/-! ### Main statement -/

theorem returns_of_prefix {τ : State} {n : Nat} {link : Link} (tasks : σ.tasks <+: τ.tasks)
    (returns : σ.Returns n link) : τ.Returns n link := by
  obtain ⟨url, found⟩ := returns
  obtain ⟨rest, same⟩ := tasks
  refine ⟨url, ?_⟩
  rw [← same, List.getElem?_append_left (List.getElem?_eq_some_iff.mp found).1, found]

/-- Once an id that was returned is greater than all ids of the table, a restart and some more
shortenings return it again. -/
theorem returned_again {n : Nat} {link : Link} {url : String} (apart : Copies.Apart s)
    (holds : Outline.Holds s (lastingNumbering s) σ)
    (earlier : ∀ e ∈ σ.past, e.task < σ.tasks.length)
    (idle : ∀ task ∈ σ.tasks, task.request.isShorten = true → task.outcome?.isSome = true)
    (returns : σ.Returns n link) (lost : σ.world.links.lastId < link.id)
    (accepted : Url.check url = .ok ()) :
    ∃ k τ, σ.serveAll s ((.boot, clear) :: List.replicate k (.shorten url, clear)) = τ ∧
      Reaches s (orderly s) σ τ ∧ τ.Returns n link ∧
      ∃ m again, m ≠ n ∧ τ.Returns m again ∧ again.id = link.id ∧ again.token = link.token := by
  obtain ⟨seeded, -, fits, code⟩ := lasts_of_returns holds returns
  have sound : Sound s σ.world σ.past := holds.shared.1
  have nonneg : 0 ≤ σ.world.links.lastId :=
    Table.lastId_nonneg fun row mem => Token.nonneg_of_ofId (sound.coded row mem)
  obtain ⟨k, next⟩ : ∃ k : Nat, link.id = σ.world.links.lastId + k + 1 :=
    ⟨(link.id - σ.world.links.lastId - 1).toNat, by omega⟩
  have fitsBefore : Table.fits (σ.world.links.lastId + k) = true :=
    Table.fits_of_between (by omega) (by omega) fits
  -- The restart forgets the id, and the shortenings come to the number before it.
  have primed := primed_serve_boot apart holds.calm sound.coded
  have restart : Reaches s (orderly s) σ (σ.serve s .boot clear) :=
    Reaches.serve .refl (fun shortens => by cases shortens) (lets_boot idle earlier)
  obtain ⟨reaches, seeded', climbed, primed'⟩ := climbs apart accepted k nonneg fitsBefore primed
    restart (seeded_of_reaches restart seeded) rfl
  generalize before : (σ.serve s .boot clear).serveAll s
    (List.replicate k (.shorten url, clear)) = ρ at *
  -- One more shortening returns the id again.
  obtain ⟨again, tasks, sameId, code', -⟩ :=
    primed_serve_shorten apart primed' (by omega) (by rwa [← next]) accepted
  have kept : σ.tasks <+: ρ.tasks := (prefix_serve s σ .boot clear).trans climbed
  refine ⟨k + 1, ρ.serve s (.shorten url) clear, ?_, ?_, ?_, ρ.tasks.length, again, ?_, ?_, ?_, ?_⟩
  · rw [serveAll_cons, List.replicate_succ', serveAll_append, before]
    rfl
  · exact Reaches.serve reaches (fun _ => seeded') (lets_other (by simp))
  · exact returns_of_prefix (kept.trans (prefix_serve s ρ _ clear)) returns
  · obtain ⟨_, found⟩ := returns
    have inside := (List.getElem?_eq_some_iff.mp found).1
    have := kept.length_le
    omega
  · exact ⟨url, by rw [tasks]; simp⟩
  · rw [sameId, next]
  · rw [sameId, ← next] at code'
    exact Except.ok.inj (code'.symm.trans code)

/-- From an empty table and as long as every restart seeds at least every id that was returned
before, no two shortenings return the same id or the same token, whatever else is done, however
the calls interleave and whichever of them fail. But once the table has lost the greatest id that
was returned, a restart and some more shortenings of any address return an id and a token again
that were returned before. -/
theorem ids_unique_unless_greatest_lost (apart : Copies.Apart s) (calm : Calm w)
    (blank : w.links.rows = []) (reaches : Reaches s (orderly s) (State.start w) σ) :
    (Covered s σ.past → ∀ m n link link', m ≠ n → σ.Returns m link → σ.Returns n link' →
      link.id ≠ link'.id ∧ link.token ≠ link'.token) ∧
    ∀ n link url, σ.Returns n link → σ.world.links.lastId < link.id →
      (∀ task ∈ σ.tasks, task.request.isShorten = true → task.outcome?.isSome = true) →
      Url.check url = .ok () →
      ∃ k τ, σ.serveAll s ((.boot, clear) :: List.replicate k (.shorten url, clear)) = τ ∧
        Reaches s (orderly s) (State.start w) τ ∧ τ.Returns n link ∧
        ∃ m again, m ≠ n ∧ τ.Returns m again ∧ again.id = link.id ∧
          again.token = link.token := by
  have coded : ∀ link ∈ w.links.rows, Token.ofId link.id = .ok link.token := by
    rw [blank]
    exact fun link mem => by cases mem
  have holds := holds_lasting apart calm coded reaches
  refine ⟨fun covered m n link link' other first second => ?_, ?_⟩
  · obtain ⟨-, memM, -, codedM⟩ := lasts_of_returns holds first
    obtain ⟨-, memN, -, codedN⟩ := lasts_of_returns holds second
    have unique := (holds.shared.2 covered).unique m n
    refine ⟨fun same => ?_, fun same => ?_⟩
    · exact other (unique link.id memM (same ▸ memN))
    · have ids := Token.ofId_injective codedM (same ▸ codedN)
      exact other (unique link.id memM (ids ▸ memN))
  · intro n link url returns lost idle accepted
    obtain ⟨k, τ, served, reaches', again⟩ := returned_again apart holds
      (task_lt_of_reaches reaches) idle returns lost accepted
    exact ⟨k, τ, served, reaches.trans reaches', again⟩

/-- Two links differ in ids and tokens, until the greatest is lost before a restart. -/
theorem distinct_until_lost :
    (∃ first second, (afterBoot twoLinks).Returns 1 first ∧
      (afterBoot twoLinks).Returns 2 second ∧ first.id ≠ second.id ∧
      first.token ≠ second.token) ∧
    ∃ link k τ, (afterBoot lostLink).serveAll {}
        ((.boot, clear) :: List.replicate k (.shorten "https://b.example/", clear)) = τ ∧
      τ.Returns 1 link ∧ ∃ m again, m ≠ 1 ∧ τ.Returns m again ∧ again.id = link.id ∧
        again.token = link.token := by
  have calm : Calm {} := rfl
  refine ⟨?_, ?_⟩
  · have unfailing : ∀ served ∈ twoLinks, served.2 = clear := by simp [twoLinks]
    have answered : ((ledger {} {}).serveAll {} ((.boot, clear) :: twoLinks)).1[1]? =
        some (.ok (.entry ⟨1, "https://a.example/", "b"⟩)) := by decide +kernel
    have answered' : ((ledger {} {}).serveAll {} ((.boot, clear) :: twoLinks)).1[2]? =
        some (.ok (.entry ⟨2, "https://b.example/", "c"⟩)) := by decide +kernel
    obtain ⟨first, returns, -⟩ := returns_afterBoot unfailing rfl answered
    obtain ⟨second, returns', -⟩ := returns_afterBoot unfailing rfl answered'
    have covered : Covered {} (afterBoot twoLinks).past := covered_afterBoot (by simp [twoLinks])
    obtain ⟨distinct, -⟩ :=
      ids_unique_unless_greatest_lost (by decide) calm rfl (reaches_afterBoot unfailing)
    exact ⟨first, second, returns, returns',
      distinct covered 1 2 first second (by decide) returns returns'⟩
  · have unfailing : ∀ served ∈ lostLink, served.2 = clear := by simp [lostLink]
    have answered : ((ledger {} {}).serveAll {} ((.boot, clear) :: lostLink)).1[1]? =
        some (.ok (.entry ⟨1, "https://a.example/", "b"⟩)) := by decide +kernel
    obtain ⟨link, returns, made⟩ := returns_afterBoot unfailing rfl answered
    have lost : (afterBoot lostLink).world.links.lastId < link.id := by
      rw [lastId_afterBoot unfailing, show link.id = 1 from congrArg Entry.id made]
      decide +kernel
    obtain ⟨-, again⟩ :=
      ids_unique_unless_greatest_lost (by decide) calm rfl (reaches_afterBoot unfailing)
    obtain ⟨k, τ, served, -, kept, reused⟩ := again 1 link "https://b.example/" returns lost
      (fun task mem _ => ended_afterBoot lostLink task mem) rfl
    exact ⟨link, k, τ, served, kept, reused⟩

/-- The id of a link that was deleted before a restart is returned again. -/
theorem id_returned_twice :
    Reaches {} (orderly {}) (State.start {}) (afterBoot forgottenLink) ∧
      ∃ first again, (afterBoot forgottenLink).Returns 1 first ∧
        (afterBoot forgottenLink).Returns 4 again ∧ first.id = again.id ∧
        first.token = again.token := by
  have unfailing : ∀ served ∈ forgottenLink, served.2 = clear := by
    simp [forgottenLink, lostLink]
  have answered : ((ledger {} {}).serveAll {} ((.boot, clear) :: forgottenLink)).1[1]? =
      some (.ok (.entry ⟨1, "https://a.example/", "b"⟩)) := by decide +kernel
  have answered' : ((ledger {} {}).serveAll {} ((.boot, clear) :: forgottenLink)).1[4]? =
      some (.ok (.entry ⟨1, "https://b.example/", "b"⟩)) := by decide +kernel
  obtain ⟨first, returns, made⟩ := returns_afterBoot unfailing rfl answered
  obtain ⟨again, returns', made'⟩ := returns_afterBoot unfailing rfl answered'
  refine ⟨reaches_afterBoot unfailing, first, again, returns, returns', ?_, ?_⟩
  · exact (congrArg Entry.id made).trans (congrArg Entry.id made').symm
  · exact (congrArg Entry.token made).trans (congrArg Entry.token made').symm

end LinkShortener.Traffic
