import LinkShortener.Proofs.Traffic.Deed

/-!
Where the targets of redirects come from. Requests enter at any time, any call may fail, and any
reply may be lost after the call was done. Along such a run, from an empty catalog without copies,
an address gets to a token in one way only: a shortening or an update of that very token, whose
address passed the check, commits it to the catalog. Copies and the addresses that resolutions
hold come from the catalog.

The argument carries along the run which addresses were committed to which token so far; the
catalog, the copies and the resolutions under way have no others. That a failed operation leaves
the copies alone is an assertion about the past: no operation that halted or has still to write
touches a copy.

Main statement: `targets_committed_before`.
-/

namespace LinkShortener.Traffic

open Bench (World)
open Directory (Phase Advances Incidental)
open KeyValue (Keyspace)
open Link (Table)

/-! ### Runs and what their steps commit -/

/-- Anything may happen: every call may fail and every reply may be lost. -/
def anyhow : Regime := ⟨fun _ _ => True, fun _ _ _ _ => True, fun _ _ _ _ => True⟩

/-- A step commits an address to the catalog as that of a token: a shortening inserts the link,
or an update of the token points it there. The reply may tell or be lost. -/
inductive Assigns (token url : String) (σ σ' : State) : Prop
  | insert (n : Nat) (id : Int) (reply : Except Fault Unit)
      (past : σ'.past = ⟨n, .shorten url, .database (.insertLink id url token), reply⟩ :: σ.past)
      (inserted : σ.world.links.insert (freshLink id url token) = .ok σ'.world.links)
  | retarget (n : Nat) (time : Moment) (reply : Except Fault (Option Link))
      (past : σ'.past =
        ⟨n, .update token url, .database (.retargetLink token url time), reply⟩ :: σ.past)
      (retargeted : σ'.world.links = σ.world.links.retarget token url time)
      (current : Current σ'.world token url)

/-- The copy of a token with its lifetime. -/
def copyEntry (s : Settings.KeyValue) (token : String) (w : World) :
    Option String × Option (Option Int) :=
  (w.keys.get? (Copies.key s token), w.keys.lifetimes.lookup (Copies.key s token))

namespace Event

/-- The catalog was asked for a change. -/
def Writes (e : Event) : Prop :=
  match e.call with
  | .database (.insertLink _ _ _) | .database (.retargetLink _ _ _)
  | .database (.deleteLink _) => True
  | _ => False

/-- The catalog was asked for a change and did not report one. -/
def FailsToWrite (e : Event) : Prop := e.Writes ∧ e.deed? = none

/-- The server was asked to set or drop a key. -/
def Stirs (e : Event) : Prop :=
  match e.call with
  | .keys (.set _ _ _) | .keys (.delete _) => True
  | _ => False

end Event

variable {s : Settings.KeyValue} {w w' : World} {σ σ' : State} {p q : Phase} {n : Nat}
  {request : Request} {c : Call} {reply answer : Except Fault c.Reply} {token url : String}
  {deed? : Option Deed}

theorem deed?_eq_insert {id : Int}
    (is : Event.deed? ⟨n, request, c, answer⟩ = some (.insert id url token)) :
    c = .database (.insertLink id url token) := by
  unfold Event.deed? at is
  split at is <;> simp_all

theorem deed?_eq_retarget {time : Moment} {link : Link}
    (is : Event.deed? ⟨n, request, c, answer⟩ = some (.retarget token url time link)) :
    c = .database (.retargetLink token url time) := by
  unfold Event.deed? at is
  split at is <;> simp_all

/-- What concerns a key stirs it. -/
theorem stirs_of_concerns {deed : Deed} {key : String}
    (is : Event.deed? ⟨n, request, c, answer⟩ = some deed) (concerns : deed.Concerns key)
    (reply : Except Fault c.Reply) : Event.Stirs ⟨n, request, c, reply⟩ := by
  rcases call_of_concerns is concerns with ⟨text, seconds, rfl⟩ | rfl <;> trivial

theorem find?_inserted {t t' : Table} {id : Int}
    (inserted : t.insert (freshLink id url token) = .ok t') (name : String) :
    t'.find? name = if name = token then some (freshLink id url token) else t.find? name :=
  Table.find?_insert inserted name

/-- An address that a token has after a step it had before, or the step commits it. -/
theorem current_or_assigns
    (does : Does s σ.world σ'.world p (Event.deed? ⟨n, request, c, answer⟩) q)
    (visits : request.Visits p) (past : σ'.past = ⟨n, request, c, reply⟩ :: σ.past)
    (current : Current σ'.world token url) :
    Current σ.world token url ∨ Assigns token url σ σ' := by
  obtain ⟨link, found, same⟩ := current
  generalize is : Event.deed? ⟨n, request, c, answer⟩ = deed? at does
  cases does with
  | nothing _ _ untouched => exact .inl ⟨link, by rw [← untouched.links, found], same⟩
  | fill _ _ _ links | drop _ _ _ links | number _ _ _ _ _ links | uncoded _ _ _ _ _ links
  | seed _ _ links => exact .inl ⟨link, by rw [← links, found], same⟩
  | delete t links =>
      rw [links, Table.find?_delete] at found
      split at found
      · cases found
      · exact .inl ⟨link, found, same⟩
  | retarget t u time l links =>
      by_cases other : token = t
      · subst other
        obtain rfl := deed?_eq_retarget is
        obtain rfl := Request.visits_retargeting.mp visits
        have pointed : link.url = u := by
          rw [links, Table.find?_retarget] at found
          obtain ⟨row, here, rfl⟩ := Option.map_eq_some_iff.mp found
          simp [Table.retargeted, (Table.mem_of_find? here).2]
        obtain rfl : url = u := same.symm.trans pointed
        refine .inr (.retarget n time reply past links ⟨link, ?_, same⟩)
        exact found
      · rw [links, Table.find?_retarget_of_ne other] at found
        exact .inl ⟨link, found, same⟩
  | insert u id t inserted =>
      by_cases other : token = t
      · subst other
        obtain rfl := deed?_eq_insert is
        obtain rfl := Request.visits_numbered.mp visits
        rw [find?_inserted inserted, if_pos rfl] at found
        cases found
        cases same
        exact .inr (.insert n id reply past inserted)
      · rw [find?_inserted inserted, if_neg other] at found
        exact .inl ⟨link, found, same⟩

/-! ### The addresses known to a run -/

/-- An operation on a token has an address for it: a resolution that holds or tells one. -/
def Knows (token url : String) : Phase → Prop
  | .holding t link => t = token ∧ link.url = url
  | .told t u => t = token ∧ u = url
  | _ => False

/-- The addresses that the catalog and the copies have for tokens, and those that operations
know, were assigned to these tokens. -/
def provenance (s : Settings.KeyValue) (assigned : String → String → Prop) : Outline where
  shared w _ := ∀ token url,
    Current w token url ∨ w.keys.get? (Copies.key s token) = some url → assigned token url
  stands p _ _ _ _ := ∀ token url, Knows token url p → assigned token url

/-- A copy is made of what a resolution holds. -/
theorem Does.copied (does : Does s w w' p deed? q) (apart : Copies.Apart s)
    (cached : w'.keys.get? (Copies.key s token) = some url) :
    w.keys.get? (Copies.key s token) = some url ∨ Knows token url p := by
  by_cases concerned : ∃ deed ∈ deed?, deed.Concerns (Copies.key s token)
  · obtain ⟨deed, is, concerns⟩ := concerned
    cases is
    cases does with
    | fill t link keys links =>
        obtain rfl := Copies.key_injective concerns
        rw [keys, Keyspace.get?_set, if_pos rfl] at cached
        cases cached
        exact .inr ⟨rfl, rfl⟩
    | drop t link? keys links =>
        obtain rfl := Copies.key_injective concerns
        rw [keys, Keyspace.get?_delete, if_pos rfl] at cached
        cases cached
    | seed last keys links => exact absurd concerns (apart.key_ne token).symm
    | _ => exact concerns.elim
  · obtain ⟨copy, -⟩ := does.copy_eq apart token
      fun deed is concerns => concerned ⟨deed, is, concerns⟩
    exact .inl (copy ▸ cached)

variable {o : Outline} {σ₀ : State}

/-- What an operation knows after a call it knew before, or it has read it. -/
theorem knows_or_read {regime : Regime}
    (turn : Outline.Turn s regime o σ₀ σ n request p c reply q w) (knows : Knows token url q) :
    Knows token url p ∨ Current σ.world token url ∨
      σ.world.keys.get? (Copies.key s token) = some url := by
  cases turn.advances with
  | noted | connect => exact .inl knows
  | fill | unfilled => exact .inl knows
  | hit t u =>
      obtain ⟨outage, -, made⟩ := turn.answered
      obtain ⟨rfl, rfl⟩ := knows
      exact .inr (.inr (get_of_attempt turn.holds.calm made).1)
  | find t link =>
      obtain ⟨outage, -, made⟩ := turn.answered
      obtain ⟨rfl, rfl⟩ := knows
      exact .inr (.inl ⟨link, (findLink_of_attempt made).1, rfl⟩)
  | _ => exact knows.elim

/-- A turn does what some deed says, told or not. -/
theorem does_of_turn_anyhow
    (turn : Outline.Turn s anyhow o σ₀ σ n request p c reply q w) :
    ∃ answer q', Does s σ.world w p (Event.deed? ⟨n, request, c, answer⟩) q' := by
  rcases turn.does with does | ⟨-, answer, q', -, -, -, does⟩
  · exact ⟨reply, q, does⟩
  · exact ⟨answer, q', does⟩

theorem outlasts_provenance (assigned : String → String → Prop) :
    Outline.Outlasts s (provenance s assigned) where
  shared _ holds token url has := holds token url (has.imp_right copied_of_lapse)
  stands holds := holds

/-- One step keeps the provenance of addresses, if what it commits counts as assigned. -/
theorem provenance_step {assigned assigned' : String → String → Prop} (apart : Copies.Apart s)
    (reaches : Reaches s anyhow σ₀ σ) (holds : Outline.Holds s (provenance s assigned) σ)
    (steps : Steps s anyhow σ σ')
    (keeps : ∀ token url, assigned token url → assigned' token url)
    (gains : ∀ token url, Assigns token url σ σ' → assigned' token url) :
    Outline.Holds s (provenance s assigned') σ' := by
  have before : Outline.Holds s (provenance s assigned') σ := by
    refine ⟨holds.calm, fun token url has => keeps _ _ (holds.shared token url has), ?_⟩
    intro n task found
    obtain ⟨p, place⟩ := holds.places n task found
    exact ⟨p, place.follows, place.visits, fun token url knows =>
      keeps _ _ (place.stands token url knows)⟩
  refine before.step reaches steps (outlasts_provenance assigned') (fun request _ => ?_) ?_
  · refine request.phase_of_first
      (fun p => ∀ token url, Knows token url p → assigned' token url) ?_ ?_
    · intro token url knows
      cases request <;> exact knows.elim
    · exact fun fault token url knows => knows.elim
  · intro n request p c reply q turn past
    obtain ⟨answer, q', does⟩ := does_of_turn_anyhow turn
    refine ⟨?_, ?_, fun m task p' _ _ place => place.stands⟩
    · rintro token url (current | cached)
      · rcases current_or_assigns does turn.visits past current with current | assigns
        · exact before.shared token url (.inl current)
        · exact gains token url assigns
      · rcases does.copied apart cached with cached | knows
        · exact before.shared token url (.inr cached)
        · exact turn.stands token url knows
    · intro token url knows
      rcases knows_or_read turn knows with knows | has
      · exact turn.stands token url knows
      · exact before.shared token url has

/-! ### Operations that fail -/

/-- An operation that was turned down or stopped by a failure. -/
def Halted : Phase → Prop
  | .refused _ | .failed _ _ | .broken _ => True
  | _ => False

/-- An operation that has still to write to the catalog. -/
def Unwritten : Phase → Prop
  | .counting _ | .numbered _ _ _ | .retargeting _ _ | .deleting _ => True
  | _ => False

/-- Whoever writes to the catalog or stirs a copy has passed the check, and whoever stirs a copy
fails no write, before or after. -/
def discipline : Outline where
  shared _ past := ∀ e ∈ past, (e.Writes ∨ e.Stirs → e.request.check = .ok ()) ∧
    (e.Stirs → ∀ e' ∈ past, e'.task = e.task → ¬ e'.FailsToWrite)
  stands p n request _ past :=
    (Halted p ∨ request.check = .ok () ∧ ∀ e ∈ past, e.task = n → ¬ e.FailsToWrite) ∧
      (Unwritten p → ∀ e ∈ past, e.task = n → ¬ e.Stirs)

section Protocol

variable (advances : Advances s p c reply q) (n : Nat) (request : Request)
include advances

/-- An operation that has halted stays so and neither writes nor stirs a copy. -/
theorem idle_of_halted (halted : Halted p) : Halted q ∧
    ¬ Event.Writes ⟨n, request, c, reply⟩ ∧ ¬ Event.Stirs ⟨n, request, c, reply⟩ := by
  cases advances <;> first | exact halted.elim | exact ⟨trivial, id, id⟩ | exact ⟨halted, id, id⟩

/-- A write that fails halts its operation. -/
theorem halted_of_failsToWrite (fails : Event.FailsToWrite ⟨n, request, c, reply⟩) :
    Halted q := by
  obtain ⟨writes, undone⟩ := fails
  cases advances with
  | retarget | insert => cases undone
  | delete token n found =>
      rw [Event.deed?, if_neg found] at undone
      cases undone
  | nothingRetargeted | unretargeted | nothingDeleted | undeleted | uninserted => trivial
  | _ => exact writes.elim

/-- Whoever writes has not written before. -/
theorem unwritten_of_writes (writes : Event.Writes ⟨n, request, c, reply⟩) : Unwritten p := by
  cases advances <;> trivial

/-- Before an operation has written, it stirs no copy. -/
theorem unstirred_of_unwritten (unwritten : Unwritten q) :
    Unwritten p ∧ ¬ Event.Stirs ⟨n, request, c, reply⟩ := by
  cases advances <;> first | exact unwritten.elim | exact ⟨unwritten, id⟩

theorem not_writes_of_stirs (stirs : Event.Stirs ⟨n, request, c, reply⟩) :
    ¬ Event.Writes ⟨n, request, c, reply⟩ := by
  cases advances <;> first | exact stirs.elim | exact id

end Protocol

/-- The discipline is kept by every step. -/
theorem kept_discipline (w₀ : World) : Outline.Kept s anyhow discipline (State.start w₀) where
  outlasts := ⟨fun _ holds => holds, fun holds => holds⟩
  enters {σ request} reaches holds admitted := by
    have unseen : ∀ e ∈ σ.past, e.task ≠ σ.tasks.length := fun e mem =>
      Nat.ne_of_lt (task_lt_of_reaches reaches e mem)
    refine ⟨?_, fun _ e mem own => absurd own (unseen e mem)⟩
    rcases request.phase_cases with ⟨accepted, -⟩ | ⟨fault, -, enters⟩
    · exact .inr ⟨accepted, fun e mem own => absurd own (unseen e mem)⟩
    · exact .inl (enters ▸ trivial)
  shares {σ n request p c reply q w} turn := by
    obtain ⟨clean, unstirred⟩ := turn.stands
    intro e mem
    constructor
    · intro acts
      rcases List.mem_cons.mp mem with rfl | mem
      · rcases clean with halted | ⟨accepted, -⟩
        · obtain ⟨-, unwritten, unstirring⟩ := idle_of_halted turn.advances n request halted
          exact absurd acts (by simp [unwritten, unstirring])
        · exact accepted
      · exact (turn.holds.shared e mem).1 acts
    · intro stirs e' mem' same fails
      rcases List.mem_cons.mp mem with rfl | mem <;> rcases List.mem_cons.mp mem' with rfl | mem'
      · exact not_writes_of_stirs turn.advances n request stirs fails.1
      · rcases clean with halted | ⟨-, unfailed⟩
        · exact (idle_of_halted turn.advances n request halted).2.2 stirs
        · exact unfailed e' mem' same fails
      · exact unstirred (unwritten_of_writes turn.advances n request fails.1) e mem same.symm stirs
      · exact (turn.holds.shared e mem).2 stirs e' mem' same fails
  arrives {σ n request p c reply q w} turn := by
    obtain ⟨clean, unstirred⟩ := turn.stands
    constructor
    · by_cases halted : Halted q
      · exact .inl halted
      rcases clean with before | ⟨accepted, unfailed⟩
      · exact absurd (idle_of_halted turn.advances n request before).1 halted
      · refine .inr ⟨accepted, fun e mem own fails => ?_⟩
        rcases List.mem_cons.mp mem with rfl | mem
        · exact halted (halted_of_failsToWrite turn.advances n request fails)
        · exact unfailed e mem own fails
    · intro unwritten e mem own
      obtain ⟨before, quiet⟩ := unstirred_of_unwritten turn.advances n request unwritten
      rcases List.mem_cons.mp mem with rfl | mem
      · exact quiet
      · exact unstirred before e mem own
  spares {σ n request p c reply q w m task p'} turn other found place := by
    obtain ⟨clean, unstirred⟩ := place.stands
    have others : ∀ e ∈ ⟨n, request, c, reply⟩ :: σ.past, e.task = m → e ∈ σ.past := by
      intro e mem own
      rcases List.mem_cons.mp mem with rfl | mem
      · exact absurd own.symm other
      · exact mem
    constructor
    · rcases clean with halted | ⟨accepted, unfailed⟩
      · exact .inl halted
      · exact .inr ⟨accepted, fun e mem own => unfailed e (others e mem own) own⟩
    · intro unwritten e mem own
      exact unstirred unwritten e (others e mem own) own

/-- Only a call that stirs changes a copy. -/
theorem copyEntry_of_unstirred (apart : Copies.Apart s)
    (turn : Outline.Turn s anyhow o σ₀ σ n request p c reply q w)
    (unstirring : ¬ Event.Stirs ⟨n, request, c, reply⟩) (token : String) :
    copyEntry s token w = copyEntry s token σ.world := by
  obtain ⟨answer, q', does⟩ := does_of_turn_anyhow turn
  obtain ⟨copy, lifetime⟩ := does.copy_eq apart token
    fun deed is concerns => unstirring (stirs_of_concerns is concerns reply)
  simp only [copyEntry, copy, lifetime]

/-! ### Whole runs -/

section Run

variable {run : Nat → State} {k : Nat} (steps : ∀ i < k, Steps s anyhow (run i) (run (i + 1)))
include steps

theorem reaches_along (i : Nat) (le : i ≤ k) : Reaches s anyhow (run 0) (run i) := by
  induction i with
  | zero => exact .refl
  | succ i ih => exact (ih (by omega)).tail (steps i (by omega))

/-- What was called stays in the past. -/
theorem past_along {i d : Nat} (le : i + d ≤ k) : (run i).past <:+ (run (i + d)).past := by
  induction d with
  | zero => exact List.suffix_refl _
  | succ d ih =>
      refine (ih (by omega)).trans ?_
      have step := steps (i + d) (by omega)
      rw [← Nat.add_assoc]
      generalize run (i + d + 1) = σ' at step
      cases step with
      | enter | expire => exact List.suffix_refl _
      | call => exact List.suffix_cons _ _

/-- Along a run the provenance of each copy is known. -/
theorem holds_provenance {w : World} (start : run 0 = State.start w) (apart : Copies.Apart s)
    (calm : Calm w) (unlinked : w.links = Table.empty)
    (uncopied : ∀ token, w.keys.get? (Copies.key s token) = none) (i : Nat) (le : i ≤ k) :
    Outline.Holds s (provenance s fun token url =>
      ∃ j < i, Assigns token url (run j) (run (j + 1))) (run i) := by
  induction i with
  | zero =>
      rw [start]
      refine Outline.holds_start calm fun token url has => ?_
      rcases has with ⟨link, found, -⟩ | cached
      · rw [unlinked] at found
        cases found
      · rw [uncopied token] at cached
        cases cached
  | succ i ih =>
      refine provenance_step apart (reaches_along steps i (by omega)) (ih (by omega))
        (steps i (by omega)) ?_ ?_
      · rintro token url ⟨j, before, assigns⟩
        exact ⟨j, by omega, assigns⟩
      · intro token url assigns
        exact ⟨i, by omega, assigns⟩

/-- Along a run the discipline holds. -/
theorem holds_discipline {w : World} (start : run 0 = State.start w) (calm : Calm w) (i : Nat)
    (le : i ≤ k) : Outline.Holds s discipline (run i) := by
  have reaches := reaches_along steps i le
  rw [start] at reaches
  exact Outline.holds_of_reaches (kept_discipline w)
    (Outline.holds_start calm fun e mem => by cases mem) reaches

end Run

/-- The address that a task has ended with. -/
def Task.address? (task : Task) : Option String :=
  match task.outcome? with
  | some (.ok (.url url)) => some url
  | _ => none

theorem Task.outcome?_of_address? {task : Task} (ended : task.address? = some url) :
    task.outcome? = some (.ok (.url url)) := by
  unfold Task.address? at ended
  split at ended
  · rename_i outcome
    cases ended
    exact outcome
  · cases ended

/-- A request to resolve the token was answered with the address. -/
def Serves (token url : String) (σ : State) : Prop :=
  ∃ task ∈ σ.tasks, task.request = .resolve token ∧ task.address? = some url

instance (token url : String) (σ : State) : Decidable (Serves token url σ) :=
  inferInstanceAs (Decidable (∃ task ∈ σ.tasks, _))

/-- An operation whose address is refused, or one of whose writes to the catalog fails at any
time of the run. -/
def Fails (past : List Event) (e : Event) : Prop :=
  e.request.check ≠ .ok () ∨ ∃ e' ∈ past, e'.task = e.task ∧ e'.FailsToWrite

/-- An address that a resolution has returned was assigned to its token. -/
theorem assigned_of_serves {assigned : String → String → Prop} {token url : String}
    (holds : Outline.Holds s (provenance s assigned) σ) (serves : Serves token url σ) :
    assigned token url := by
  obtain ⟨task, mem, asked, ended⟩ := serves
  obtain ⟨n, found⟩ := List.getElem?_of_mem mem
  obtain ⟨p, place⟩ := holds.places n task found
  have visits := place.visits
  have told := place.outcome? (Task.outcome?_of_address? ended)
  cases p with
  | told t u =>
      cases told
      rw [asked] at visits
      exact place.stands token url ⟨visits, rfl⟩
  | settled link? => cases link? <;> cases told
  | _ => cases told

/-- An address that is committed has passed the check. -/
theorem check_of_assigns {token url : String} (holds : Outline.Holds s discipline σ')
    (assigns : Assigns token url σ σ') : Url.check url = .ok () := by
  have shared := holds.shared
  cases assigns with
  | insert n id reply past | retarget n time reply past =>
      rw [past] at shared
      exact (shared _ List.mem_cons_self).1 (.inl trivial)

/-- An operation that is refused or fails to write makes no call that stirs. -/
theorem not_stirs_of_fails {e : Event} (holds : Outline.Holds s discipline σ) (mem : e ∈ σ.past)
    (fails : Fails σ.past e) : ¬ e.Stirs := by
  intro stirs
  obtain ⟨acts, succeeds⟩ := holds.shared e mem
  rcases fails with refused | ⟨e', mem', same, fails⟩
  · exact refused (acts (.inr stirs))
  · exact succeeds stirs e' mem' same fails

/-- Along every run from an empty catalog without copies, whatever fails: an address that a
resolution of a token returns, or that the copy of the token holds, passed the check and was
committed to the catalog as the address of this token by a shortening or an update before; and no
call of an operation that is refused or fails to write changes any copy. -/
theorem targets_committed_before {run : Nat → State} {k : Nat} {w : World}
    (apart : Copies.Apart s) (calm : Calm w) (unlinked : w.links = Table.empty)
    (uncopied : ∀ token, w.keys.get? (Copies.key s token) = none)
    (start : run 0 = State.start w) (steps : ∀ i < k, Steps s anyhow (run i) (run (i + 1))) :
    (∀ token url, Serves token url (run k) ∨
        (run k).world.keys.get? (Copies.key s token) = some url →
      Url.check url = .ok () ∧ ∃ i < k, Assigns token url (run i) (run (i + 1))) ∧
    ∀ i < k, ∀ e, (run (i + 1)).past = e :: (run i).past → Fails (run k).past e →
      ∀ token, copyEntry s token (run (i + 1)).world = copyEntry s token (run i).world := by
  have disciplined := holds_discipline steps start calm
  constructor
  · intro token url has
    have holds := holds_provenance steps start apart calm unlinked uncopied k (Nat.le_refl k)
    obtain ⟨i, before, assigns⟩ : ∃ i < k, Assigns token url (run i) (run (i + 1)) := by
      rcases has with serves | cached
      · exact assigned_of_serves holds serves
      · exact holds.shared token url (.inr cached)
    exact ⟨check_of_assigns (disciplined (i + 1) before) assigns, i, before, assigns⟩
  · intro i before e past fails token
    have mem : e ∈ (run (i + 1)).past := by
      rw [past]
      exact List.mem_cons_self
    have later : e ∈ (run k).past := by
      obtain ⟨d, rfl⟩ := Nat.exists_eq_add_of_le before
      exact (past_along steps (Nat.le_refl _)).mem mem
    have unstirring := not_stirs_of_fails (disciplined k (Nat.le_refl k)) later fails
    have step := steps i before
    generalize run (i + 1) = σ' at step past
    cases step with
    | enter | expire => exact absurd (congrArg List.length past) (by simp [State.enter])
    | call n request c next reply w found comes =>
        cases past
        obtain ⟨p, q, turn, -⟩ := (disciplined i (by omega)).turn
          (reaches_along steps i (by omega)) found comes
        exact copyEntry_of_unstirred apart turn unstirring token

/-! ### A first link -/

def firstNumbered : State :=
  match Request.routine {} (.shorten "https://a.example/") with
  | .ask (.keys (.increment key)) next =>
      ⟨World.keep { keys := ⟨[(key, "1")], []⟩ } (.keys (.increment key)) true,
        [⟨.shorten "https://a.example/", next (.ok (1 : Int))⟩],
        [⟨0, .shorten "https://a.example/", .keys (.increment key), .ok (1 : Int)⟩]⟩
  | _ => State.start {}

/-- The first link is made, and a resolution reads it and fills the copy. -/
def firstServed : Nat → State
  | 0 => State.start {}
  | 1 => (State.start {}).enter {} (.shorten "https://a.example/")
  | 2 => firstNumbered
  | 3 => firstNumbered.enter {} (.resolve "b")
  | i + 4 => (firstServed (i + 3)).advance (if i < 3 then 0 else 1) none

/-- A task has a call to make. -/
def State.asks (σ : State) (n : Nat) : Bool :=
  match σ.tasks[n]? with
  | some ⟨_, .ask _ _⟩ => true
  | _ => false

theorem steps_advance (asks : σ.asks n = true) : Steps s anyhow σ (σ.advance n none) := by
  unfold State.asks at asks
  split at asks
  · rename_i request c next found
    unfold State.advance
    rw [found]
    exact .call σ n request c next _ _ found (.attempted none trivial rfl)
  · cases asks

theorem attempt_firstNumber : attempt none (.keys (.increment "mapping_count")) {} =
    (.ok (1 : Int), firstNumbered.world) := by
  have counted : Keyspace.increment ⟨[], []⟩ "mapping_count" =
      .ok (1, ⟨[("mapping_count", "1")], []⟩) :=
    Keyspace.increment_eq_ok.mpr ⟨Keyspace.number?_toString 0, rfl, rfl⟩
  have calm : Calm {} := rfl
  have made : World.server (.increment "mapping_count") {} =
      (.ok (1 : Int), { keys := ⟨[("mapping_count", "1")], []⟩ }) := by
    rw [World.server, barring_of_calm calm]
    exact counted ▸ rfl
  change World.perform (.keys (.increment "mapping_count")) {} = _
  rw [perform_eq, World.answer, made]
  rfl

theorem steps_firstServed : ∀ i < 13, Steps {} anyhow (firstServed i) (firstServed (i + 1)) := by
  have asks : ∀ j < 10, (firstServed (j + 3)).asks (if j < 3 then 0 else 1) = true := by
    decide +kernel
  intro i before
  rcases i with _ | _ | _ | j
  · exact .enter _ _ trivial
  · exact .call (firstServed 1) 0 _ (.keys (.increment "mapping_count")) _ (.ok (1 : Int)) _ rfl
      (.attempted none trivial attempt_firstNumber)
  · exact .enter _ _ trivial
  · exact steps_advance (asks j (by omega))

/-- The first link is served by the address that it was assigned, from its copy. -/
theorem first_link_served :
    Serves "b" "https://a.example/" (firstServed 13) ∧
      (firstServed 13).world.keys.get? "url:b" = some "https://a.example/" ∧
      Url.check "https://a.example/" = .ok () ∧
      ∃ i < 13, Assigns "b" "https://a.example/" (firstServed i) (firstServed (i + 1)) := by
  have served : Serves "b" "https://a.example/" (firstServed 13) := by decide +kernel
  have calm : Calm {} := rfl
  have committed := (targets_committed_before (s := {}) (by decide) calm rfl (fun _ => rfl) rfl
    steps_firstServed).1 "b" "https://a.example/" (.inl served)
  exact ⟨served, by decide +kernel, committed⟩

end LinkShortener.Traffic
