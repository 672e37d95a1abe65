import LinkShortener.Proofs.Traffic.Authorship
import LinkShortener.Proofs.Traffic.Sequence
import Mathlib.Data.List.Nodup

/-!
How links are numbered. The counter is seeded with the greatest id of the table and counted on
for every link, atomically. As long as nothing else writes the counter and no restart sets it while
a link is in the making, the ids that are handed out after a seeding with `S` are `S + 1`, `S + 2`
and so on, whichever tasks take them in whichever order and whatever fails on the way.

The argument keeps three bounds together: the text of the counter is `S` and the number of ids
handed out since, every row has an id that is not greater, and every task that has an id and has
not inserted it yet finds no row with it.

Main statement: `numbering_never_conflicts`.
-/

namespace LinkShortener.Traffic

open Bench (World)
open Directory (Phase Advances)
open KeyValue (Keyspace)
open Link (Table)

/-! ### What events say of the counter -/

/-- The number that a deed sets the counter to. -/
def Deed.seed? (s : Settings.KeyValue) : Deed → Option Int
  | set key text _ => if key = s.counterKey then Keyspace.number? text else none
  | _ => none

/-- The number that a deed counts the counter on to. -/
def Deed.number? (s : Settings.KeyValue) : Deed → Option Int
  | count key n => if key = s.counterKey then some n else none
  | _ => none

namespace Event

/-- The number that the counter was set to. -/
def seed? (s : Settings.KeyValue) (e : Event) : Option Int := e.deed?.bind (Deed.seed? s)

/-- The number that was handed out. -/
def number? (s : Settings.KeyValue) (e : Event) : Option Int := e.deed?.bind (Deed.number? s)

end Event

/-- The number that the counter was last set to. -/
def lastSeed? (s : Settings.KeyValue) (past : List Event) : Option Int :=
  past.findSome? (Event.seed? s)

/-- The ids that were handed out since the counter was last set, the earliest first, each with
the task that took it. -/
def taken (s : Settings.KeyValue) : List Event → List (Nat × Int)
  | [] => []
  | e :: past =>
      if (e.seed? s).isSome then []
      else taken s past ++ ((e.number? s).map fun id => (e.task, id)).toList

/-- The ids that were handed out since the counter was last set, the earliest first. -/
def handedOut (s : Settings.KeyValue) (past : List Event) : List Int :=
  (taken s past).map Prod.snd

variable {s : Settings.KeyValue} {w w' : World} {p q : Phase} {past : List Event} {e : Event}

theorem lastSeed?_seed {S : Int} (seeds : e.seed? s = some S) :
    lastSeed? s (e :: past) = some S := by
  simp [lastSeed?, seeds]

theorem lastSeed?_idle (idle : e.seed? s = none) :
    lastSeed? s (e :: past) = lastSeed? s past := by
  simp [lastSeed?, idle]

theorem lastSeed?_isSome_cons (seeded : (lastSeed? s past).isSome) :
    (lastSeed? s (e :: past)).isSome := by
  cases seeds : e.seed? s with
  | none => rwa [lastSeed?_idle seeds]
  | some S => rw [lastSeed?_seed seeds]; rfl

theorem taken_seed {S : Int} (seeds : e.seed? s = some S) : taken s (e :: past) = [] := by
  simp [taken, seeds]

theorem taken_number {id : Int} (idle : e.seed? s = none) (number : e.number? s = some id) :
    taken s (e :: past) = taken s past ++ [(e.task, id)] := by
  simp [taken, idle, number]

theorem taken_idle (idle : e.seed? s = none) (uncounted : e.number? s = none) :
    taken s (e :: past) = taken s past := by
  simp [taken, idle, uncounted]

/-- Unless the counter is set, what was taken remains so. -/
theorem taken_mono (idle : e.seed? s = none) {entry : Nat × Int} (mem : entry ∈ taken s past) :
    entry ∈ taken s (e :: past) := by
  simp only [taken, idle, Option.isSome_none, Bool.false_eq_true, if_false]
  exact List.mem_append_left _ mem

theorem seed?_set (n : Nat) (request : Request) (S : Int) :
    Event.seed? s ⟨n, request, .keys (.set s.counterKey (toString S) none), .ok ()⟩ = some S := by
  simp only [Event.seed?, Event.deed?, Option.bind_some, Deed.seed?, if_true,
    Keyspace.number?_toString]

/-- Only calls that write the counter set it or count it on. -/
theorem idle_of_spared (e : Event) (spared : ¬ WritesCounter s e.call) :
    e.seed? s = none ∧ e.number? s = none := by
  unfold Event.seed? Event.number? Event.deed?
  split
  · exact ⟨if_neg spared, rfl⟩
  · exact ⟨rfl, rfl⟩
  · exact ⟨rfl, if_neg spared⟩
  · exact ⟨rfl, rfl⟩
  · exact ⟨rfl, rfl⟩
  · split <;> exact ⟨rfl, rfl⟩
  · exact ⟨rfl, rfl⟩

/-! ### What deeds do to the counter and the rows -/

/-- What an event does to the counter in a phase: nothing, or it sets it or counts it on. -/
inductive Moves (s : Settings.KeyValue) (w w' : World) (p : Phase) (e : Event) : Prop
  | idle (idle : e.seed? s = none) (uncounted : e.number? s = none)
      (counter : w'.keys.get? s.counterKey = w.keys.get? s.counterKey)
  | seed (last : Int) (measured : p = .measured last) (seeds : e.seed? s = some last)
      (uncounted : e.number? s = none)
      (counter : w'.keys.get? s.counterKey = some (toString last)) (links : w'.links = w.links)
  | number (url : String) (id : Int) (counting : p = .counting url) (idle : e.seed? s = none)
      (number : e.number? s = some id)
      (counted : w.keys.increment s.counterKey = .ok (id, w'.keys)) (links : w'.links = w.links)

namespace Does

/-- A deed sets the counter, counts it on or leaves it alone, if it is the deed of a restart
whenever it sets or drops the key of the counter. -/
theorem moves (does : Does s w w' p e.deed? q)
    (boots : ∀ deed ∈ e.deed?, deed.Concerns s.counterKey → ∃ last, p = .measured last) :
    Moves s w w' p e := by
  generalize is : e.deed? = deed? at does boots
  have seed? : e.seed? s = deed?.bind (Deed.seed? s) := by rw [Event.seed?, is]
  have number? : e.number? s = deed?.bind (Deed.number? s) := by rw [Event.number?, is]
  cases does with
  | nothing p q untouched => exact .idle seed? number? (by rw [untouched.keys])
  | retarget _ _ _ _ _ keys | delete _ _ keys | insert _ _ _ _ keys =>
      exact .idle seed? number? (by rw [keys])
  | fill token link keys =>
      have other : Copies.key s token ≠ s.counterKey := fun same => nomatch boots _ rfl same
      refine .idle (seed?.trans (if_neg other)) number? ?_
      rw [keys, Keyspace.get?_set, if_neg other.symm]
  | drop token link? keys =>
      have other : Copies.key s token ≠ s.counterKey := fun same => nomatch boots _ rfl same
      refine .idle seed? number? ?_
      rw [keys, Keyspace.get?_delete, if_neg other.symm]
  | number url id token coded counted links | uncoded url id fault uncoded counted links =>
      exact .number url id rfl seed? (number?.trans (if_pos rfl)) counted links
  | seed last keys links =>
      refine .seed last rfl (seed?.trans ?_) number? ?_ links
      · exact (if_pos rfl).trans (Keyspace.number?_toString last)
      · rw [keys, Keyspace.get?_set, if_pos rfl]

end Does

/-! ### Counting from a seed -/

/-- The counter was set to a number and has been counted on since: the ids handed out are the
next ones, one after the other, and no row has a greater one. -/
structure CountsFrom (s : Settings.KeyValue) (S : Int) (w : World) (past : List Event) :
    Prop where
  counter : w.keys.get? s.counterKey = some (toString (S + (taken s past).length))
  contiguous : handedOut s past = (List.range (taken s past).length).map fun k : Nat => S + 1 + k
  bounded : ∀ row ∈ w.links.rows, row.id ≤ S + (taken s past).length

namespace CountsFrom

variable {S id : Int} {m n : Nat}

/-- No id is handed out twice. -/
theorem nodup (counts : CountsFrom s S w past) : (handedOut s past).Nodup := by
  rw [counts.contiguous]
  refine List.Nodup.map (fun i j same => ?_) List.nodup_range
  have same : S + 1 + (i : Int) = S + 1 + j := same
  omega

theorem le_of_mem (counts : CountsFrom s S w past) (mem : id ∈ handedOut s past) :
    id ≤ S + (taken s past).length := by
  rw [counts.contiguous] at mem
  obtain ⟨i, inRange, rfl⟩ := List.mem_map.mp mem
  have := List.mem_range.mp inRange
  omega

/-- No two tasks have the same id. -/
theorem task_unique (counts : CountsFrom s S w past) (first : (m, id) ∈ taken s past)
    (second : (n, id) ∈ taken s past) : m = n :=
  congrArg Prod.fst (List.inj_on_of_nodup_map counts.nodup first second rfl)

/-- The next number is greater by one than the count so far. -/
theorem next (counts : CountsFrom s S w past) {k : Keyspace}
    (counted : w.keys.increment s.counterKey = .ok (id, k)) :
    id = S + (taken s past).length + 1 := by
  obtain ⟨tally, -, -⟩ := Keyspace.increment_eq_ok.mp counted
  rw [Keyspace.tally?_of_get? counts.counter] at tally
  have same := Option.some.inj tally
  omega

/-- From the greatest id on nothing has been handed out. -/
theorem seeded (seeds : e.seed? s = some S)
    (counter : w.keys.get? s.counterKey = some (toString S))
    (bounded : ∀ row ∈ w.links.rows, row.id ≤ S) : CountsFrom s S w (e :: past) where
  counter := by simpa [taken_seed seeds] using counter
  contiguous := by simp [handedOut, taken_seed seeds]
  bounded := by simpa [taken_seed seeds] using bounded

/-- A counter that is counted on still counts from its seed. -/
theorem counted (counts : CountsFrom s S w past) (idle : e.seed? s = none)
    (number : e.number? s = some id)
    (counted : w.keys.increment s.counterKey = .ok (id, w'.keys)) (links : w'.links = w.links) :
    CountsFrom s S w' (e :: past) := by
  have issued : taken s (e :: past) = taken s past ++ [(e.task, id)] := taken_number idle number
  have next := counts.next counted
  obtain ⟨-, -, keys⟩ := Keyspace.increment_eq_ok.mp counted
  constructor
  · rw [keys, Keyspace.get?_put, if_pos rfl, issued, next]
    simp [Int.add_assoc]
  · rw [handedOut, issued, List.map_append, List.length_append, List.length_singleton,
      List.range_succ, List.map_append, ← counts.contiguous]
    simp only [handedOut, List.map_singleton, next]
    congr 2
    omega
  · intro row mem
    rw [links] at mem
    have := counts.bounded row mem
    rw [issued, List.length_append]
    simp only [List.length_singleton]
    omega

/-- What neither seeds nor counts leaves the counter counting from its seed. -/
theorem idle (counts : CountsFrom s S w past) (idle : e.seed? s = none)
    (uncounted : e.number? s = none)
    (counter : w'.keys.get? s.counterKey = w.keys.get? s.counterKey)
    (rows : ∀ row ∈ w'.links.rows, (∃ old ∈ w.links.rows, old.id = row.id) ∨
      row.id ∈ handedOut s past) : CountsFrom s S w' (e :: past) := by
  have issued : taken s (e :: past) = taken s past := taken_idle idle uncounted
  constructor
  · rw [counter, issued, counts.counter]
  · rw [handedOut, issued]
    exact counts.contiguous
  · intro row mem
    rw [issued]
    rcases rows row mem with ⟨old, memOld, same⟩ | out
    · rw [← same]
      exact counts.bounded old memOld
    · exact counts.le_of_mem out

end CountsFrom

/-! ### Restarts and shortenings -/

/-- The making of a link. -/
def Request.isShorten : Request → Bool
  | .shorten _ => true
  | _ => false

theorem shortens_of_numbered {request : Request} {url token : String} {id : Int}
    (visits : request.Visits (.numbered url id token)) : request.isShorten = true := by
  rw [Request.visits_numbered.mp visits]
  rfl

theorem shortens_of_inserted {request : Request} {token : String} {id : Int}
    (visits : request.Visits (.inserted id token)) : request.isShorten = true := by
  cases request <;> first | rfl | cases visits

/-- A shortening has made a call since the task has begun. -/
def Disturbed (n : Nat) : List Event → Prop
  | [] => False
  | e :: past => (e.request.isShorten = true ∧ ∃ own ∈ past, own.task = n) ∨ Disturbed n past

/-- No shortening is in flight, and none has made a call since the task has begun. -/
structure Quiet (σ : State) (n : Nat) : Prop where
  ended : ∀ task ∈ σ.tasks, task.request.isShorten = true → task.outcome?.isSome = true
  undisturbed : ¬ Disturbed n σ.past

/-- Links are made after the counter was set for the first time, and a restart sets it only while
no link is in the making. Any call may fail, but not by a conflict of keys that there is not, and
may be done although it fails, unless it writes the counter. -/
def orderly (s : Settings.KeyValue) : Regime where
  admits σ request := request.isShorten = true → (lastSeed? s σ.past).isSome = true
  lets σ n c outage :=
    (∀ fault, outage = some fault → fault.isKeyConflict = false) ∧
      ∀ rest text, σ.tasks[n]? = some ⟨.boot, rest⟩ →
        c = .keys (.set s.counterKey text none) → struck outage c = none → Quiet σ n
  loses _ _ c fault := fault.isKeyConflict = false ∧ ¬ WritesCounter s c

/-- A task that writes the counter restarts the service or makes a link. -/
def Entitled (s : Settings.KeyValue) (σ : State) (n : Nat) (c : Call) : Prop :=
  WritesCounter s c → ∀ request rest, σ.tasks[n]? = some ⟨request, rest⟩ → request.Counts

/-- In order, and nothing but restarts and the making of links writes the counter. -/
def guarded (s : Settings.KeyValue) : Regime where
  admits := (orderly s).admits
  lets σ n c outage := (orderly s).lets σ n c outage ∧ Entitled s σ n c
  loses σ n c fault := (orderly s).loses σ n c fault ∧ Entitled s σ n c

/-- A run in order is guarded if nothing else has written the counter by its end. -/
theorem Reaches.guarded {σ₀ σ : State} (reaches : Reaches s (orderly s) σ₀ σ)
    (undisputed : Undisputed s σ.past) : Reaches s (guarded s) σ₀ σ := by
  induction reaches with
  | refl => exact .refl
  | @tail before _ _ steps ih =>
      cases steps with
      | enter request admitted => exact (ih undisputed).tail (.enter _ request admitted)
      | expire token other => exact (ih undisputed).tail (.expire _ token other)
      | call n request c next reply w found comes =>
          have earlier := ih fun e mem => undisputed e (List.mem_cons_of_mem _ mem)
          refine earlier.tail (.call _ n request c next reply w found ?_)
          have entitled : Entitled s before n c := by
            intro writes request' rest found'
            cases found.symm.trans found'
            exact undisputed _ List.mem_cons_self writes
          cases comes with
          | attempted outage lets made => exact .attempted outage ⟨lets, entitled⟩ made
          | lost fault loses strike made => exact .lost fault ⟨loses, entitled⟩ strike made

namespace Outline.Turn

variable {o : Outline} {σ₀ σ : State} {n : Nat} {request : Request} {c : Call}
  {reply : Except Fault c.Reply}

/-- Only a restart sets the counter, and nothing drops it. -/
theorem boots_of_concerns (turn : Turn s (guarded s) o σ₀ σ n request p c reply q w)
    (answer : Except Fault c.Reply) {deed : Deed}
    (is : Event.deed? ⟨n, request, c, answer⟩ = some deed)
    (concerns : deed.Concerns s.counterKey) {q' : Phase}
    (does : Does s σ.world w p (Event.deed? ⟨n, request, c, answer⟩) q') :
    ∃ last, p = .measured last := by
  have writes : WritesCounter s c := by
    rcases call_of_concerns is concerns with ⟨text, seconds, rfl⟩ | rfl <;> rfl
  obtain ⟨next, found⟩ := turn.found
  have counts : request.Counts := by
    cases turn.comes with
    | attempted outage lets => exact lets.2 writes _ _ found
    | lost fault loses => exact loses.2 writes _ _ found
  have visits := turn.visits
  rw [is] at does
  cases does with
  | seed last => exact ⟨last, rfl⟩
  | fill token link =>
      rw [Request.visits_holding.mp visits] at counts
      exact counts.elim
  | drop token link? => cases request <;> first | exact counts.elim | exact visits.elim
  | _ => exact concerns.elim

/-- A call sets the counter, counts it on or leaves it alone, also when its reply is lost. -/
theorem moves (turn : Turn s (guarded s) o σ₀ σ n request p c reply q w) :
    Moves s σ.world w p ⟨n, request, c, reply⟩ := by
  rcases turn.does with does | ⟨fault, answer, q', rfl, ⟨⟨-, spared⟩, -⟩, -, does⟩
  · exact does.moves fun deed is concerns => turn.boots_of_concerns _ is concerns does
  · have moves := does.moves fun deed is concerns => turn.boots_of_concerns _ is concerns does
    obtain ⟨idle, uncounted⟩ := idle_of_spared ⟨n, request, c, .error fault⟩ spared
    obtain ⟨idle', uncounted'⟩ := idle_of_spared ⟨n, request, c, answer⟩ spared
    cases moves with
    | idle _ _ counter => exact .idle idle uncounted counter
    | seed last _ seeds => cases idle'.symm.trans seeds
    | number url id _ _ number => cases uncounted'.symm.trans number

/-- A call that fails meets a fault that is no conflict of keys, or it is refused. -/
theorem fault_cases {fault : Fault}
    (turn : Turn s (guarded s) o σ₀ σ n request p c (.error fault) q w) :
    (strikes fault c = true ∧ fault.isKeyConflict = false) ∨ Refuses σ.world c fault := by
  rcases turn.failed with ⟨outage, lets, made⟩ | ⟨⟨⟨clear, -⟩, -⟩, strike⟩
  · rcases fault_of_attempt turn.holds.calm turn.advances made with met | refuses
    · obtain ⟨rfl, strike⟩ := struck_eq_some.mp met
      exact .inl ⟨strike, lets.1.1 fault rfl⟩
    · exact .inr refuses
  · exact .inl ⟨strike, clear⟩

/-- The counter is set while no link is in the making. -/
theorem quiet_of_seed {last S : Int}
    (turn : Turn s (guarded s) o σ₀ σ n request (.measured last) c reply q w)
    (seeds : Event.seed? s ⟨n, request, c, reply⟩ = some S) : Quiet σ n := by
  obtain rfl := Request.visits_measured.mp turn.visits
  obtain ⟨next, found⟩ := turn.found
  cases turn.advances with
  | seed =>
      obtain ⟨outage, lets, made⟩ := turn.answered
      exact lets.1.2 _ _ found rfl (performed_of_attempt made).1
  | noted p call incidental => cases incidental <;> cases seeds
  | unnoted | connect | unconnected | unseeded => cases seeds

/-- A shortening that is still under way keeps the counter from being set. -/
theorem idle_of_underway {last S : Int} {m : Nat} {task : Task} {p' : Phase}
    (turn : Turn s (guarded s) o σ₀ σ n request (.measured last) c reply q w)
    (found : σ.tasks[m]? = some task) (place : Places s o σ m task p')
    (shortens : task.request.isShorten = true) (underway : p'.outcome? s = none) :
    Event.seed? s ⟨n, request, c, reply⟩ ≠ some S := by
  intro seeds
  have ended := (turn.quiet_of_seed seeds).ended task (List.mem_of_getElem? found) shortens
  obtain ⟨outcome, is⟩ := Option.isSome_iff_exists.mp ended
  rw [place.outcome? is] at underway
  cases underway

end Outline.Turn

/-! ### Faults -/

/-- A fault that is neither a conflict of keys nor the report of one. -/
structure Plain (fault : Fault) : Prop where
  clear : fault.isKeyConflict = false
  unreported : ∀ id token, fault ≠ .duplicateLink id token

theorem Plain.reported {fault : Fault} (plain : Plain fault) (p : Phase) (id : Int)
    (token : String) : p.reported s fault ≠ .duplicateLink id token := by
  have other := plain.unreported id token
  cases p <;> simp only [Phase.reported, plain.clear] <;> (try split) <;> simp [other]

/-- Outages are plain unless they are conflicts of keys. -/
theorem plain_of_strikes {fault : Fault} {c : Call} (strike : strikes fault c = true)
    (clear : fault.isKeyConflict = false) : Plain fault := by
  refine ⟨clear, ?_⟩
  rintro id token rfl
  cases c <;> cases strike

theorem plain_of_check {request : Request} {fault : Fault}
    (refused : request.check = .error fault) : Plain fault := by
  have checked {url : String} (refused : Url.check url = .error fault) : Plain fault := by
    unfold Url.check at refused
    repeat' split at refused
    all_goals cases refused
    all_goals exact ⟨rfl, fun _ _ same => by cases same⟩
  cases request with
  | shorten url | update _ url => exact checked refused
  | boot | resolve | delete => cases refused

/-! ### The outline -/

/-- What is known of a task by its phase. A task that has an id is the only one that has it, and
finds no row with it when it inserts its own; a restart has read a bound of the rows, unless a
shortening came after. -/
def Numbers (s : Settings.KeyValue) (n : Nat) (w : World) (past : List Event) : Phase → Prop
  | .counting url => Url.check url = .ok ()
  | .numbered _ id token => (n, id) ∈ taken s past ∧ Token.ofId id = .ok token ∧
      ∀ row ∈ w.links.rows, row.id ≠ id
  | .inserted id _ => (n, id) ∈ taken s past
  | .measured last => (∃ own ∈ past, own.task = n) ∧
      ((∀ row ∈ w.links.rows, row.id ≤ last) ∨ Disturbed n past)
  | .refused fault | .failed _ fault => Plain fault
  | .broken _ => False
  | _ => True

/-- The rows have the tokens of their ids, the ids go on from where the counter was set, and only
the shortening of an accepted address has cost one. -/
structure Sound (s : Settings.KeyValue) (w : World) (past : List Event) : Prop where
  coded : ∀ row ∈ w.links.rows, Token.ofId row.id = .ok row.token
  counts : ∀ S, lastSeed? s past = some S → CountsFrom s S w past
  accepted : ∀ e ∈ past, ∀ id, e.number? s = some id →
    ∃ url, e.request = .shorten url ∧ Url.check url = .ok ()

/-- The numbering of links: what is shared is sound, a shortening is under way only after the
counter has been set, and its phase tells what is known of its id. -/
def numbering (s : Settings.KeyValue) : Outline where
  shared := Sound s
  stands p n request w past :=
    (request.isShorten = true → (lastSeed? s past).isSome = true) ∧ Numbers s n w past p

/-- What is known of a task outlasts a call that brings about no row with its id and does not set
the counter while the task has an id that is not inserted or not read back. -/
theorem Numbers.kept {n : Nat} (numbers : Numbers s n w past p)
    (takes : e.seed? s = none ∨
      (∀ url id token, p ≠ .numbered url id token) ∧ ∀ id token, p ≠ .inserted id token)
    (rows : ∀ row ∈ w'.links.rows, (∃ old ∈ w.links.rows, old.id = row.id) ∨
      (e.request.isShorten = true ∧ (n, row.id) ∉ taken s past)) :
    Numbers s n w' (e :: past) p := by
  cases p with
  | numbered url id token =>
      obtain ⟨mem, coded, fresh⟩ := numbers
      rcases takes with idle | ⟨other, -⟩
      · refine ⟨taken_mono idle mem, coded, fun row memRow same => ?_⟩
        rcases rows row memRow with ⟨old, memOld, sameOld⟩ | ⟨-, apart⟩
        · exact fresh old memOld (sameOld.trans same)
        · exact apart (same ▸ mem)
      · exact absurd rfl (other url id token)
  | inserted id token =>
      rcases takes with idle | ⟨-, other⟩
      · exact taken_mono idle numbers
      · exact absurd rfl (other id token)
  | measured last =>
      obtain ⟨⟨own, memOwn, mine⟩, bound⟩ := numbers
      refine ⟨⟨own, List.mem_cons_of_mem _ memOwn, mine⟩, ?_⟩
      by_cases shortens : e.request.isShorten = true
      · exact .inr (.inl ⟨shortens, own, memOwn, mine⟩)
      · rcases bound with bound | disturbed
        · refine .inl fun row memRow => ?_
          rcases rows row memRow with ⟨old, memOld, same⟩ | ⟨does, -⟩
          · exact same ▸ bound old memOld
          · exact absurd does shortens
        · exact .inr (.inr disturbed)
  | _ => exact numbers

/-- What is known of numbers outlasts a step that does nothing to them. -/
theorem Numbers.of_idle {n : Nat} (numbers : Numbers s n w past p) (idle : e.seed? s = none)
    (untouched : Untouched w w') : Numbers s n w' (e :: past) p := by
  refine numbers.kept (.inl idle) fun row mem => .inl ⟨row, ?_, rfl⟩
  rw [← untouched.links]
  exact mem

section Kept

variable {σ₀ σ : State} {n : Nat} {request : Request} {c : Call} {reply : Except Fault c.Reply}

/-- A call keeps what is shared sound. -/
theorem Sound.step
    (turn : Outline.Turn s (guarded s) (numbering s) σ₀ σ n request p c reply q w) :
    Sound s w (⟨n, request, c, reply⟩ :: σ.past) := by
  have sound : Sound s σ.world σ.past := turn.holds.shared
  obtain ⟨seeded, numbers⟩ := turn.stands
  have visits := turn.visits
  constructor
  · intro row mem
    rcases turn.row_cases mem with ⟨old, memOld, sameId, sameToken⟩ | ⟨url, rfl⟩
    · rw [← sameId, ← sameToken]
      exact sound.coded old memOld
    · exact numbers.2.1
  · intro S last
    rcases turn.moves with ⟨idle, uncounted, counter⟩ |
      ⟨seed, rfl, seeds, -, counter, links⟩ | ⟨url, id, rfl, idle, number, counted, links⟩
    · rw [lastSeed?_idle idle] at last
      refine (sound.counts S last).idle idle uncounted counter fun row mem => ?_
      rcases turn.row_cases mem with ⟨old, memOld, same, -⟩ | ⟨url, rfl⟩
      · exact .inl ⟨old, memOld, same⟩
      · exact .inr (List.mem_map_of_mem numbers.1)
    · rw [lastSeed?_seed seeds] at last
      cases last
      refine CountsFrom.seeded seeds counter ?_
      rw [links]
      exact numbers.2.resolve_right (turn.quiet_of_seed seeds).undisturbed
    · rw [lastSeed?_idle idle] at last
      exact (sound.counts S last).counted idle number counted links
  · intro e mem id number
    rcases List.mem_cons.mp mem with rfl | mem
    · rcases turn.moves with ⟨-, uncounted, -⟩ | ⟨seed, rfl, -, uncounted, -⟩ |
        ⟨url, id, rfl, -⟩
      · rw [uncounted] at number
        cases number
      · rw [uncounted] at number
        cases number
      · exact ⟨url, Request.visits_counting.mp visits, numbers⟩
    · exact sound.accepted e mem id number

/-- A call that fails does so plainly: what the table refuses is an id out of range, since no row
has the id or the token of the link. -/
theorem plain_of_error {fault : Fault}
    (turn : Outline.Turn s (guarded s) (numbering s) σ₀ σ n request p c (.error fault) q w) :
    Plain fault := by
  have sound : Sound s σ.world σ.past := turn.holds.shared
  have numbers := turn.stands.2
  rcases turn.fault_cases with ⟨strike, clear⟩ | refuses
  · exact plain_of_strikes strike clear
  · have advances := turn.advances
    cases refuses with
    | insert id url token fault refused =>
        cases advances
        obtain ⟨-, coded, fresh⟩ := numbers
        have apart : ∀ row ∈ σ.world.links.rows, Link.Apart row (freshLink id url token) :=
          fun row mem => ⟨fresh row mem, fun same =>
            fresh row mem (Token.ofId_injective (sound.coded row mem) (same ▸ coded))⟩
        cases Table.insert_error_of_apart apart refused
        exact ⟨rfl, fun _ _ same => by cases same⟩
    | readBack => exact ⟨rfl, fun _ _ same => by cases same⟩
    | increment key fault refused =>
        unfold Keyspace.increment at refused
        split at refused <;> cases refused
        exact ⟨rfl, fun _ _ same => by cases same⟩

/-- What is known of the phase that a call leads to. -/
theorem Numbers.arrives
    (turn : Outline.Turn s (guarded s) (numbering s) σ₀ σ n request p c reply q w) :
    Numbers s n w (⟨n, request, c, reply⟩ :: σ.past) q := by
  have sound : Sound s σ.world σ.past := turn.holds.shared
  have calm := turn.holds.calm
  have numbers := turn.stands.2
  cases turn.advances with
  | noted p call incidental a =>
      obtain ⟨outage, -, made⟩ := turn.answered
      have idle : Event.seed? s ⟨n, request, .process call, .ok a⟩ = none := by
        cases incidental <;> rfl
      exact numbers.of_idle idle (untouched_of_process made)
  | connect =>
      obtain ⟨outage, -, made⟩ := turn.answered
      exact numbers.of_idle rfl (untouched_of_connect calm made)
  | unnoted p call incidental =>
      obtain ⟨outage, -, made⟩ | ⟨-, strike⟩ := turn.failed
      · exact absurd made (answered_of_incidental incidental)
      · cases strike
  | unconnected | unlooked | unread | unfillable | unretargeted | undeleted | undroppable
  | unnumbered | uninserted | unreadBack | unmeasured | unseeded => exact plain_of_error turn
  | absent | nothingRetargeted | nothingDeleted => exact ⟨rfl, fun _ _ same => by cases same⟩
  | hit | miss | blind | find | fill | unfilled | retarget | delete | drop | undropped
  | readBack | seed => trivial
  | uncoded url id fault uncoded =>
      obtain ⟨-, rfl⟩ := Token.ofId_eq_error uncoded
      exact ⟨rfl, fun _ _ same => by cases same⟩
  | number url id token coded =>
      obtain ⟨outage, -, made⟩ := turn.answered
      obtain ⟨counted, links⟩ := increment_of_attempt calm made
      have shortens : request.isShorten = true := by
        rw [Request.visits_counting.mp turn.visits]
        rfl
      obtain ⟨S, last⟩ := Option.isSome_iff_exists.mp (turn.stands.1 shortens)
      have counts := sound.counts S last
      have next := counts.next counted
      have number : Event.number? s ⟨n, request, .keys (.increment s.counterKey), .ok id⟩ =
          some id := if_pos rfl
      refine ⟨?_, coded, fun row mem same => ?_⟩
      · rw [taken_number rfl number]
        exact List.mem_append_right _ (List.mem_singleton.mpr rfl)
      · rw [links] at mem
        have := counts.bounded row mem
        omega
  | insert url id token => exact taken_mono rfl numbers.1
  | measure last? =>
      obtain ⟨outage, -, made⟩ := turn.answered
      obtain ⟨found, untouched⟩ := lastId_of_attempt made
      refine ⟨⟨_, List.mem_cons_self, rfl⟩, .inl fun row mem => ?_⟩
      rw [untouched.links] at mem
      have bound := Table.le_lastId mem
      rwa [Table.lastId, found] at bound

end Kept

theorem outlasts_numbering (s : Settings.KeyValue) : Outline.Outlasts s (numbering s) where
  shared {token w past} other sound := by
    refine ⟨sound.coded, fun S last => ?_, sound.accepted⟩
    obtain ⟨counter, contiguous, bounded⟩ := sound.counts S last
    refine ⟨?_, contiguous, bounded⟩
    rw [lapse, Keyspace.get?_delete, if_neg other.symm, counter]
  stands stands := stands

/-- The numbering is kept by every step. -/
theorem kept_numbering (s : Settings.KeyValue) (σ₀ : State) :
    Outline.Kept s (guarded s) (numbering s) σ₀ where
  outlasts := outlasts_numbering s
  enters {σ request} reaches holds admitted := by
    refine ⟨admitted, ?_⟩
    rcases request.phase_cases with ⟨accepted, enters⟩ | ⟨fault, refused, enters⟩
    · rw [enters]
      cases request with
      | shorten url => exact accepted
      | boot | resolve | update | delete => trivial
    · rw [enters]
      exact plain_of_check refused
  shares turn := Sound.step turn
  arrives turn := ⟨fun shortens => lastSeed?_isSome_cons (turn.stands.1 shortens),
    Numbers.arrives turn⟩
  spares {σ n request p c reply q w m task p'} turn other found place := by
    obtain ⟨seeded, numbers⟩ := place.stands
    refine ⟨fun shortens => lastSeed?_isSome_cons (seeded shortens), numbers.kept ?_ ?_⟩
    · rcases turn.moves with ⟨idle, -⟩ | ⟨seed, rfl, seeds, -⟩ | ⟨_, _, -, idle, -⟩
      · exact .inl idle
      · refine .inr ⟨?_, ?_⟩
        · rintro url id token rfl
          exact turn.idle_of_underway found place (shortens_of_numbered place.visits) rfl seeds
        · rintro id token rfl
          exact turn.idle_of_underway found place (shortens_of_inserted place.visits) rfl seeds
      · exact .inl idle
    · intro row mem
      rcases turn.row_cases mem with ⟨old, memOld, same, -⟩ | ⟨url, rfl⟩
      · exact .inl ⟨old, memOld, same⟩
      · have shortens := shortens_of_numbered turn.visits
        obtain ⟨S, last⟩ := Option.isSome_iff_exists.mp (turn.stands.1 shortens)
        have counts := turn.holds.shared.counts S last
        exact .inr ⟨shortens, fun same => other (counts.task_unique same turn.stands.2.1)⟩

variable {w : World} {σ : State}

/-- The numbering holds wherever orderly requests lead. -/
theorem holds_numbering (calm : Calm w)
    (coded : ∀ link ∈ w.links.rows, Token.ofId link.id = .ok link.token)
    (reaches : Reaches s (guarded s) (State.start w) σ) : Outline.Holds s (numbering s) σ := by
  refine Outline.holds_of_reaches (kept_numbering s _) (Outline.holds_start calm ?_) reaches
  exact ⟨coded, (fun S last => by cases last), fun e mem => by cases mem⟩

/-! ### Serving in order -/

/-- A restart that goes on alone is not disturbed. -/
theorem undisturbed_alone {n : Nat} {recent past : List Event}
    (own : ∀ e ∈ recent, e.request = .boot) (earlier : ∀ e ∈ past, e.task < n) :
    ¬ Disturbed n (recent ++ past) := by
  induction recent with
  | nil =>
      induction past with
      | nil => exact id
      | cons e past ih =>
          rintro (⟨-, own, mem, same⟩ | disturbed)
          · exact absurd same (Nat.ne_of_lt (earlier own (List.mem_cons_of_mem _ mem)))
          · exact ih (fun e mem => earlier e (List.mem_cons_of_mem _ mem)) disturbed
  | cons e recent ih =>
      rintro (⟨shortens, -⟩ | disturbed)
      · rw [own e List.mem_cons_self] at shortens
        cases shortens
      · exact ih (fun e mem => own e (List.mem_cons_of_mem _ mem)) disturbed

/-- A restart may go on alone once no link is in the making. -/
theorem lets_boot {tasks : List Task} {past : List Event}
    (idle : ∀ task ∈ tasks, task.request.isShorten = true → task.outcome?.isSome = true)
    (earlier : ∀ e ∈ past, e.task < tasks.length) :
    LetsAlone (orderly s) tasks past .boot clear := by
  intro w c next recent own
  refine ⟨fun fault met => (by cases met), fun _ _ _ _ _ => ⟨fun task mem shortens => ?_, ?_⟩⟩
  · rcases List.mem_append.mp mem with mem | mem
    · exact idle task mem shortens
    · cases List.mem_singleton.mp mem
      cases shortens
  · exact undisturbed_alone own earlier

/-- Any other request may go on at any time. -/
theorem lets_other {tasks : List Task} {past : List Event} {request : Request}
    (other : request ≠ .boot) : LetsAlone (orderly s) tasks past request clear := by
  intro w c next recent own
  refine ⟨fun fault met => (by cases met), fun rest text found => ?_⟩
  simp only [List.getElem?_concat_length, Option.some.injEq, Task.mk.injEq] at found
  exact absurd found.1 other

/-- Once the counter has been set, it has been set for good. -/
theorem seeded_of_reaches {regime : Regime} {σ₀ : State} (reaches : Reaches s regime σ₀ σ)
    (seeded : (lastSeed? s σ₀.past).isSome = true) : (lastSeed? s σ.past).isSome = true := by
  induction reaches with
  | refl => exact seeded
  | tail _ steps ih =>
      cases steps with
      | enter | expire => exact ih
      | call => exact lastSeed?_isSome_cons ih

/-- After a first restart, whatever is served one after the other is in order. -/
theorem reaches_serveAll (history : List (Request × Outages))
    (unfailing : ∀ served ∈ history, served.2 = clear)
    (reaches : Reaches s (orderly s) (State.start w) σ)
    (ended : ∀ task ∈ σ.tasks, task.outcome?.isSome = true)
    (seeded : (lastSeed? s σ.past).isSome = true) :
    Reaches s (orderly s) (State.start w) (σ.serveAll s history) := by
  induction history generalizing σ with
  | nil => exact reaches
  | cons served rest ih =>
      obtain ⟨request, outages⟩ := served
      obtain rfl : outages = clear := unfailing _ List.mem_cons_self
      have lets : LetsAlone (orderly s) σ.tasks σ.past request clear := by
        by_cases restarts : request = .boot
        · subst restarts
          exact lets_boot (fun task mem _ => ended task mem) (task_lt_of_reaches reaches)
        · exact lets_other restarts
      have step : Reaches s (orderly s) σ (σ.serve s request clear) :=
        Reaches.serve .refl (fun _ => seeded) lets
      exact ih (fun served mem => unfailing served (List.mem_cons_of_mem _ mem))
        (reaches.trans step) (ended_serve s request clear ended) (seeded_of_reaches step seeded)

/-- Settings without a mark for copies: nothing but the spelling of tokens keeps their copies apart
from the counter. -/
def markless : Settings.KeyValue := { copyMark := "" }

/-- A restart that finds a link with the id 1. -/
def booted : State := (State.start lonely).serve markless .boot clear

/-- Another link in the making, which has just taken its id. -/
def numbered : State := (booted.enter markless (.shorten "https://c.example/")).advance 1 none

theorem past_numbered : numbered.past =
    ⟨1, .shorten "https://c.example/", .keys (.increment "mapping_count"), .ok 2⟩ ::
      booted.past := by
  have counted : booted.world.keys.increment "mapping_count" =
      .ok (2, ⟨[("mapping_count", "2")], [("mapping_count", none)]⟩) :=
    Keyspace.increment_eq_ok.mpr ⟨Keyspace.tally?_of_get? rfl, rfl, rfl⟩
  have calm : Calm booted.world := rfl
  have reply : (World.server (.increment "mapping_count") booted.world).1 = .ok 2 := by
    rw [World.server, barring_of_calm calm, counted]
  rw [← reply]
  rfl

theorem lastSeed?_booted : lastSeed? markless booted.past = some 1 :=
  (lastSeed?_idle rfl).trans (lastSeed?_seed (seed?_set 0 .boot 1))

theorem reaches_numbered : Reaches markless (orderly markless) (State.start lonely) numbered := by
  have reaches : Reaches markless (orderly markless) (State.start lonely) booted :=
    Reaches.serve .refl (fun shortens => by cases shortens)
      (lets_boot (fun _ mem => by cases mem) fun _ mem => by cases mem)
  have seeded : (lastSeed? markless booted.past).isSome = true := by
    rw [lastSeed?_booted]
    rfl
  refine (reaches.enter fun _ => seeded).advance 1 fun c => ?_
  exact ⟨fun fault met => (by cases met), fun rest text found => by cases found⟩

/-! ### Main statement -/

/-- Whichever requests come and however their calls interleave and fail, those that do not write
the counter even after they took effect: as long as the counter is set before links are made and
only while none is in the making, and nothing else has written it, every link has the token of its
id, the ids handed out since the counter was set to `S` are `S + 1`, `S + 2` and so on, none of
them and of the ids in the table is greater than the counter, an address that is refused costs no
id, and no link is refused because its id or its token is taken. -/
theorem numbering_never_conflicts (calm : Calm w)
    (coded : ∀ link ∈ w.links.rows, Token.ofId link.id = .ok link.token)
    (reaches : Reaches s (orderly s) (State.start w) σ) (undisputed : Undisputed s σ.past) :
    (∀ link ∈ σ.world.links.rows, Token.ofId link.id = .ok link.token) ∧
      σ.world.links.rows.Pairwise Link.Apart ∧
      (∀ S, lastSeed? s σ.past = some S → ∃ n : Nat,
        handedOut s σ.past = (List.range n).map (fun k : Nat => S + 1 + k) ∧
        (handedOut s σ.past).Nodup ∧
        σ.world.keys.get? s.counterKey = some (toString (S + n)) ∧
        (∀ link ∈ σ.world.links.rows, link.id ≤ S + n) ∧
        ∀ id ∈ handedOut s σ.past, id ≤ S + n) ∧
      (∀ e ∈ σ.past, ∀ id, e.number? s = some id →
        ∃ url, e.request = .shorten url ∧ Url.check url = .ok ()) ∧
      ∀ task ∈ σ.tasks, ∀ id token, task.outcome? ≠ some (.error (.duplicateLink id token)) := by
  have holds := holds_numbering calm coded (reaches.guarded undisputed)
  have sound : Sound s σ.world σ.past := holds.shared
  refine ⟨sound.coded, σ.world.links.apart, fun S last => ?_, sound.accepted, ?_⟩
  · have counts := sound.counts S last
    exact ⟨_, counts.contiguous, counts.nodup, counts.counter, counts.bounded,
      fun id mem => counts.le_of_mem mem⟩
  · intro task mem id token ended
    obtain ⟨n, found⟩ := List.getElem?_of_mem mem
    obtain ⟨p, place⟩ := holds.places n task found
    have tells := place.outcome? ended
    have numbers := place.stands.2
    cases p with
    | refused fault =>
        cases tells
        exact numbers.unreported id token rfl
    | failed before fault =>
        rw [Directory.Phase.outcome?, Option.some.injEq, Except.error.injEq] at tells
        exact numbers.reported before id token tells
    | broken fault => exact numbers
    | settled link? => cases link? <;> cases tells
    | _ => cases tells

/-- Where the greatest link was kept, numbers go on after it. -/
theorem numbered_after_greatest :
    handedOut markless numbered.past = [2] ∧
      ∃ n : Nat,
        handedOut markless numbered.past = (List.range n).map (fun k : Nat => 1 + 1 + (k : Int)) ∧
        numbered.world.keys.get? "mapping_count" = some (toString (1 + (n : Int))) := by
  have calm : Calm lonely := rfl
  have coded : ∀ link ∈ lonely.links.rows, Token.ofId link.id = .ok link.token := by
    intro link mem
    cases List.mem_singleton.mp mem
    exact Token.ofId_eq_ok.mpr ⟨by decide, by decide +kernel⟩
  have seeded : lastSeed? markless numbered.past = some 1 := by
    rw [past_numbered, lastSeed?_idle rfl, lastSeed?_booted]
  have spared : Copies.CounterSpared markless :=
    spared_of_foreign ⟨'_', by decide, by decide, by decide⟩
  have undisputed : Undisputed markless numbered.past :=
    undisputed_of_spared spared calm coded reaches_numbered
  obtain ⟨-, -, counts, -⟩ := numbering_never_conflicts calm coded reaches_numbered undisputed
  obtain ⟨n, ids, -, counter, -⟩ := counts 1 seeded
  refine ⟨?_, n, ids, counter⟩
  have unnumbered : taken markless booted.past = [] :=
    (taken_idle rfl rfl).trans (taken_seed (seed?_set 0 .boot 1))
  rw [handedOut, past_numbered, taken_number rfl rfl, unnumbered]
  rfl

end LinkShortener.Traffic
