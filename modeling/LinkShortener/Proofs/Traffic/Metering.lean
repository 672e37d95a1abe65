import LinkShortener.Proofs.Routine.Pool
import LinkShortener.Proofs.Traffic.Basic

/-!
The meters of the directory as a ledger. Requests make calls in any order between one another, and
every call to a store may fail, with any fault that is foreign to the service. What a request does
to the meters is settled by its own calls alone: an account of them holds the meters that it has
counted and whether it has looked for a copy and learned whether there is one.

Main statement: the meters agree with the requests (`meters_keep_ledger`). An operation is counted
once for each request that has ended, under the ending that its outcome is of, and so is its
duration; and a lookup is counted once for each reading of the copies that did not fail.
-/

namespace LinkShortener.Metering

open Routine Directory
open Bench (Answer)
open Feed (Made)
open Pool (Task Regime Reaches own whole)
open Traffic (Request)

/-! ### Accounts -/

/-- What the calls of a request have come to: the meters that it has counted, the latest first,
and whether it has learned about a copy. -/
structure Account where
  meters : List Meter := []
  learned : Bool := false
  deriving DecidableEq

/-- Whether a call looks for a copy and the reply tells about it; an outage of the key-value
server counts as no copy. -/
def learns : (c : Call) → Except Fault c.Reply → Bool
  | .keys (.get _), .ok _ => true
  | .keys (.get _), .error fault => fault.isKeyValueOutage
  | _, _ => false

/-- Stores fail with faults that are foreign to the service; the process does not fail. -/
def Fails : Call → Fault → Prop
  | .process _, _ => False
  | _, fault => fault.family = .foreign

/-- The meter that a call counts, if any. -/
def meter? : Call → Option Meter
  | .process (.count meter) => some meter
  | _ => none

/-- The account after a call. -/
def Account.after (a : Account) (c : Call) (reply : Except Fault c.Reply) : Account :=
  ⟨(meter? c).toList ++ a.meters, learns c reply || a.learned⟩

/-- How calls enter into the account. -/
def account : Machine Account where
  admits _ c reply := ∀ fault, reply = .error fault → Fails c fault
  after := Account.after

/-- Calls that leave the account as it is. -/
def isQuiet : Call → Bool
  | .process (.count _) | .keys (.get _) => false
  | _ => true

theorem after_of_quiet {c : Call} (quiet : isQuiet c = true) (a : Account)
    (reply : Except Fault c.Reply) : a.after c reply = a := by
  have uncounted : meter? c = none := by
    unfold meter?
    split
    · cases quiet
    · rfl
  have unlearned : learns c reply = false := by
    unfold learns
    split <;> first | rfl | cases quiet
  rw [Account.after, uncounted, unlearned]
  rfl

/-! ### Routines that count nothing -/

/-- A routine leaves the account as it is, and the faults that it fails with are of a kind. -/
def Keeps {α : Type} (a : Account) (kind : Fault → Prop) (r : Routine α) : Prop :=
  Secures account (fun a' o => a' = a ∧ ∀ fault, o = .error fault → kind fault) r a

/-- A fault that is neither a refusal nor an absence. -/
def Plain (fault : Fault) : Prop := fault.family ≠ .refusal ∧ fault.family ≠ .absence

/-- Machinery fails with plain faults only. -/
theorem plain_of_fails {c : Call} {fault : Fault} (fails : Fails c fault) : Plain fault := by
  have foreign : fault.family = .foreign := by
    unfold Fails at fails
    split at fails
    · exact fails.elim
    · exact fails
  exact ⟨foreign ▸ nofun, foreign ▸ nofun⟩

section Keeps

variable {α β : Type} {a : Account} {kind : Fault → Prop} {r : Routine α}

theorem keeps_done {x : α} : Keeps a kind (.done x) := secures_done.mpr ⟨rfl, nofun⟩

theorem keeps_fail {fault : Fault} (fits : kind fault) : Keeps a kind (.fail fault : Routine α) :=
  secures_fail.mpr ⟨rfl, by rintro _ ⟨⟩; exact fits⟩

theorem keeps_ofOutcome {o : Except Fault α} (fits : ∀ fault, o = .error fault → kind fault) :
    Keeps a kind (ofOutcome o) :=
  secures_ofOutcome.mpr ⟨rfl, fits⟩

theorem Keeps.mono {kind' : Fault → Prop} (keeps : Keeps a kind r)
    (weaker : ∀ fault, kind fault → kind' fault) : Keeps a kind' r :=
  Secures.mono keeps fun _ _ ⟨same, fits⟩ =>
    ⟨same, fun fault came => weaker fault (fits fault came)⟩

theorem keeps_call {c : Call} (quiet : isQuiet c = true)
    (fits : ∀ fault, Fails c fault → kind fault) : Keeps a kind (call c) := by
  refine secures_call.mpr fun reply expected => ⟨after_of_quiet quiet a reply, fun fault came => ?_⟩
  exact fits fault (expected fault came)

/-- A call to a store fails with a plain fault. -/
theorem keeps_store {c : Call} (quiet : isQuiet c = true) : Keeps a Plain (call c) :=
  keeps_call quiet fun _ => plain_of_fails

theorem keeps_log (level : Log.Level) (source : Log.Source) (text : String) :
    Keeps a kind (log level source text) :=
  keeps_call rfl fun _ => False.elim

theorem Keeps.bind {f : α → Routine β} (first : Keeps a kind r)
    (rest : ∀ x, Keeps a kind (f x)) : Keeps a kind (r >>= f) := by
  refine secures_bind.mpr (Secures.mono first fun a' o ⟨same, fits⟩ => ?_)
  subst same
  cases o with
  | ok x => exact rest x
  | error fault => exact keeps_fail (fits fault rfl)

/-- A first part may keep to plain faults. -/
theorem Keeps.plain_bind {f : α → Routine β} (weaker : ∀ fault, Plain fault → kind fault)
    (first : Keeps a Plain r) (rest : ∀ x, Keeps a kind (f x)) : Keeps a kind (r >>= f) :=
  (first.mono weaker).bind rest

/-- Faults that are handled may be of any kind; those that pass must be of the kind. -/
theorem Keeps.rescue {raised : Fault → Prop} {handled : Fault → Bool}
    {handle : Fault → Routine α} (first : Keeps a raised r)
    (handles : ∀ fault, raised fault → handled fault = true → Keeps a kind (handle fault))
    (passes : ∀ fault, raised fault → handled fault ≠ true → kind fault) :
    Keeps a kind (r.rescue handled handle) := by
  refine secures_rescue.mpr (Secures.mono first fun a' o ⟨same, fits⟩ => ?_)
  subst same
  cases o with
  | ok x => exact keeps_done
  | error fault =>
      rw [ofOutcome_error, rescue_fail]
      split
      · rename_i met
        exact handles fault (fits fault rfl) met
      · rename_i unmet
        exact keeps_fail (passes fault (fits fault rfl) unmet)

/-- A routine whose plain faults are handled, if of some kind, by one that keeps to plain faults. -/
theorem Keeps.rescue_plain {handled : Fault → Bool} {handle : Fault → Routine α}
    (first : Keeps a Plain r) (handles : ∀ fault, Keeps a Plain (handle fault)) :
    Keeps a Plain (r.rescue handled handle) :=
  first.rescue (fun fault _ _ => handles fault) fun _ plain _ => plain

end Keeps

/-! ### The stores -/

section Stores

variable {a : Account}

theorem keeps_session (c : DatabaseCall) : Keeps a Plain (Catalog.session (Catalog.database c)) :=
  Keeps.bind (keeps_store (c := .database .connect) rfl) fun _ => keeps_store (c := .database c) rfl

theorem keeps_find (token : String) : Keeps a Plain (Catalog.find token) :=
  (keeps_session _).rescue_plain fun _ => (keeps_log _ _ _).bind fun _ => keeps_fail ⟨nofun, nofun⟩

theorem keeps_insert (id : Int) (url token : String) :
    Keeps a Plain (Catalog.insert id url token) := by
  refine Keeps.rescue_plain ?_ fun fault => ?_
  · refine Keeps.bind (keeps_store (c := .database .connect) rfl) fun _ => ?_
    refine Keeps.bind (keeps_store (c := .database _) rfl) fun _ => ?_
    exact keeps_store (c := .database (.readBack id)) rfl
  · split
    · exact keeps_fail ⟨nofun, nofun⟩
    · exact (keeps_log _ _ _).bind fun _ => keeps_fail ⟨nofun, nofun⟩

theorem keeps_retarget (token url : String) :
    Keeps a (fun _ => True) (Catalog.retarget token url) := by
  refine Keeps.bind (keeps_call (c := .process .now) rfl fun _ => False.elim) fun time => ?_
  refine Keeps.plain_bind (fun _ _ => trivial) ?_ fun link? => ?_
  · exact (keeps_session (.retargetLink token url time)).rescue_plain fun _ =>
      (keeps_log _ _ _).bind fun _ => keeps_fail ⟨nofun, nofun⟩
  · cases link? with
    | none => exact keeps_fail trivial
    | some link => exact keeps_done

/-- Deleting fails with no refusal. -/
theorem keeps_delete (token : String) :
    Keeps a (fun fault => fault.family ≠ .refusal) (Catalog.delete token) := by
  refine Keeps.plain_bind (fun _ plain => plain.1) ?_ fun found => ?_
  · exact (keeps_session (.deleteLink token)).rescue_plain fun _ =>
      (keeps_log _ _ _).bind fun _ => keeps_fail ⟨nofun, nofun⟩
  · split
    · exact keeps_fail nofun
    · exact keeps_done

theorem keeps_lastId : Keeps a Plain Catalog.lastId := by
  refine Keeps.bind ?_ fun last? => ?_
  · exact (keeps_session .lastId).rescue_plain fun _ => keeps_fail ⟨nofun, nofun⟩
  · cases last? with
    | some id => exact keeps_done
    | none => exact (keeps_log _ _ _).bind fun _ => keeps_done

theorem keeps_seed (settings : Settings.KeyValue) : Keeps a Plain (Counter.seed settings) := by
  refine keeps_lastId.bind fun last => ?_
  refine Keeps.bind ?_ fun _ => keeps_log _ _ _
  exact (keeps_store (c := .keys (.set _ _ _)) rfl).rescue_plain fun _ => keeps_fail ⟨nofun, nofun⟩

theorem keeps_next (settings : Settings.KeyValue) : Keeps a Plain (Counter.next settings) :=
  (keeps_store (c := .keys (.increment _)) rfl).rescue_plain fun _ => keeps_fail ⟨nofun, nofun⟩

theorem keeps_refill (settings : Settings.KeyValue) (link : Link) (token : String) :
    Keeps a Plain (refill settings link token) := by
  refine Keeps.rescue_plain ?_ fun _ => keeps_log _ _ _
  exact (keeps_store (c := .keys (.set _ _ _)) rfl).rescue_plain fun _ => keeps_fail ⟨nofun, nofun⟩

/-- That there was no copy to drop is absorbed, so only plain faults pass. -/
theorem keeps_invalidate (settings : Settings.KeyValue) (token : String) (level : Log.Level) :
    Keeps a Plain (invalidate settings token level) := by
  have drops : Keeps a (fun fault => Plain fault ∨ fault = .notCopied token)
      (Copies.drop settings token) := by
    refine Keeps.plain_bind (fun _ => .inl) ?_ fun found => ?_
    · exact (keeps_store (c := .keys (.delete _)) rfl).rescue_plain fun _ =>
        keeps_fail ⟨nofun, nofun⟩
    · split
      · exact keeps_fail (.inr rfl)
      · exact keeps_done
  refine drops.rescue (fun fault _ _ => ?_) fun fault raised passes => ?_
  · split <;> exact keeps_log _ _ _
  · rcases raised with plain | rfl
    · exact plain
    · exact absurd rfl passes

theorem secures_log_bind {α : Type} {post : Account → Except Fault α → Prop}
    {level : Log.Level} {source : Log.Source} {text : String} {f : Unit → Routine α}
    (rest : Secures account post (f ()) a) :
    Secures account post (log level source text >>= f) a := by
  refine secures_call_bind.mpr fun reply expected => ?_
  cases reply with
  | ok _ => exact rest
  | error fault => exact (expected fault rfl).elim

/-- A reading of the copies has learned about a copy exactly if it does not fail. -/
theorem secures_read (settings : Settings.KeyValue) (token : String) :
    Secures account (fun a o => a = ⟨[], o.isOk⟩ ∧ ∀ fault, o = .error fault → Plain fault)
      (Copies.read settings token) {} := by
  refine secures_rescue.mpr (secures_call (c := .keys (.get _)) |>.mpr fun reply expected => ?_)
  cases reply with
  | ok url? => exact secures_done.mpr ⟨rfl, nofun⟩
  | error fault =>
      have after : account.after {} (.keys (.get (Copies.key settings token))) (.error fault) =
          ⟨[], fault.isKeyValueOutage⟩ := congrArg (Account.mk []) (Bool.or_false _)
      rw [after, ofOutcome_error, rescue_fail]
      cases outage : fault.isKeyValueOutage with
      | true => exact secures_log_bind (secures_done.mpr ⟨rfl, nofun⟩)
      | false =>
          refine secures_fail.mpr ⟨rfl, ?_⟩
          rintro _ ⟨⟩
          exact plain_of_fails (expected fault rfl)

end Stores

/-! ### The operations -/

/-- The ending that an outcome is of. -/
def verdict {α : Type} : Except Fault α → Ending
  | .ok _ => .success
  | .error fault => endingOf fault

theorem verdict_map {α β : Type} (f : α → β) (o : Except Fault α) :
    verdict (o.map f) = verdict o := by
  cases o <;> rfl

/-- Only lookups were counted, one if a copy was learned about, which only resolving does. -/
def Looked (operation : Operation) (a : Account) : Prop :=
  ∃ seen : List Bool, a.meters = seen.map .lookups ∧ seen.length = a.learned.toNat ∧
    (a.learned = true → operation = .resolve)

/-- After the lookups the operation was counted, under the ending of its outcome, and then its
duration. -/
def Settled {α : Type} (operation : Operation) (a : Account) (o : Except Fault α) : Prop :=
  ∃ before : Account, Looked operation before ∧ a = { before with
    meters := .durations operation :: .operations operation (verdict o) :: before.meters }

section Operations

variable {α : Type} {operation : Operation} {ending : Fault → Ending} {body : Routine α}

theorem secures_count_bind {β : Type} {post : Account → Except Fault β → Prop} {a : Account}
    {meter : Meter} {f : Unit → Routine β}
    (rest : Secures account post (f ()) { a with meters := meter :: a.meters }) :
    Secures account post (count meter >>= f) a := by
  refine secures_call_bind.mpr fun reply expected => ?_
  cases reply with
  | ok _ => exact rest
  | error fault => exact (expected fault rfl).elim

/-- An operation whose endings tell the families of its faults settles its account. -/
theorem secures_measured
    (first : Secures account (fun a o => Looked operation a ∧
      ∀ fault, o = .error fault → ending fault = endingOf fault) body {}) :
    Secures account (Settled operation) (measured operation ending body) {} := by
  refine secures_concluding.mpr (first.mono fun a o ⟨looked, fits⟩ => ?_)
  rw [bind_assoc]
  cases o with
  | ok x => exact secures_count_bind (secures_count_bind (secures_done.mpr ⟨a, looked, rfl⟩))
  | error fault =>
      refine secures_count_bind (secures_count_bind (secures_fail.mpr ⟨a, looked, ?_⟩))
      simp only [fits fault rfl, verdict]

/-- An operation that looks for no copy settles its account if its endings tell the families of
its faults. -/
theorem secures_measured_of_keeps {kind : Fault → Prop} (keeps : Keeps {} kind body)
    (tells : ∀ fault, kind fault → ending fault = endingOf fault) :
    Secures account (Settled operation) (measured operation ending body) {} := by
  refine secures_measured (Secures.mono keeps fun a o ⟨same, fits⟩ => ⟨?_, fun fault came => ?_⟩)
  · exact same ▸ ⟨[], rfl, rfl, nofun⟩
  · exact tells fault (fits fault came)

/-- A plain fault counts as a failure. -/
theorem endingOf_of_plain {fault : Fault} (plain : Plain fault) : endingOf fault = .failed := by
  unfold endingOf
  split
  · exact absurd ‹_› plain.1
  · exact absurd ‹_› plain.2
  · rfl

/-- A shortening ends as its fault has it, since it finds nothing absent. -/
theorem shortenEnding_eq {fault : Fault} (present : fault.family ≠ .absence) :
    shortenEnding fault = endingOf fault := by
  unfold shortenEnding endingOf
  cases family : fault.family <;> simp_all

/-- A deletion ends as its fault has it, since it refuses nothing. -/
theorem deleteEnding_eq {fault : Fault} (unrefused : fault.family ≠ .refusal) :
    deleteEnding fault = endingOf fault := by
  unfold deleteEnding endingOf
  cases family : fault.family <;> simp_all

/-- Resolving tells a token without a link and plain faults. -/
theorem resolveEnding_eq {fault : Fault}
    (kind : Plain fault ∨ ∃ token, fault = .unknownUrl token) :
    resolveEnding fault = endingOf fault := by
  rcases kind with plain | ⟨token, rfl⟩
  · rw [endingOf_of_plain plain]
    unfold resolveEnding
    split
    · exact absurd rfl plain.2
    · rfl
  · rfl

theorem keeps_check {a : Account} (url : String) :
    Keeps a (fun fault => fault.family ≠ .absence) (ofOutcome (Url.check url)) := by
  refine keeps_ofOutcome fun fault refused => ?_
  unfold Url.check at refused
  split at refused
  · cases refused
    nofun
  · split at refused
    · cases refused
      nofun
    · split at refused
      · cases refused
        nofun
      · split at refused
        · cases refused
          nofun
        · cases refused

variable (settings : Settings.KeyValue)

/-- A shortening settles its account. -/
theorem secures_shorten (url : String) :
    Secures account (Settled .shorten) (shorten settings url) {} := by
  refine secures_measured_of_keeps ?_ fun _ => shortenEnding_eq
  refine (keeps_check url).bind fun _ => ?_
  refine Keeps.plain_bind (fun _ plain => plain.2) (keeps_next settings) fun id => ?_
  refine Keeps.bind (keeps_ofOutcome fun fault uncoded => ?_) fun token => ?_
  · cases id with
    | ofNat n => cases uncoded
    | negSucc n =>
        cases uncoded
        nofun
  · refine Keeps.plain_bind (fun _ plain => plain.2) (keeps_insert id url token) fun link => ?_
    exact (keeps_log _ _ _).bind fun _ => keeps_done

theorem secures_update (token url : String) :
    Secures account (Settled .update) (update settings token url) {} := by
  refine @secures_measured_of_keeps _ _ _ _ (fun _ => True) ?_ fun _ _ => rfl
  refine Keeps.bind ((keeps_check url).mono fun _ _ => trivial) fun _ => ?_
  refine (keeps_retarget token url).bind fun link => ?_
  refine Keeps.plain_bind (fun _ _ => trivial) (keeps_invalidate settings token .debug) fun _ => ?_
  exact (keeps_log _ _ _).bind fun _ => keeps_done

theorem secures_delete (token : String) :
    Secures account (Settled .delete) (delete settings token) {} := by
  refine secures_measured_of_keeps ?_ fun _ => deleteEnding_eq
  refine (keeps_delete token).bind fun _ => ?_
  refine Keeps.plain_bind (fun _ plain => plain.1) (keeps_invalidate settings token .warning) ?_
  exact fun _ => keeps_log _ _ _

/-- Where no copy was found, the lookup is counted before the catalog is asked. -/
theorem secures_resolve (token : String) :
    Secures account (Settled .resolve) (resolve settings token) {} := by
  refine secures_measured (secures_bind.mpr ((secures_read settings token).mono ?_))
  rintro _ o ⟨rfl, fits⟩
  cases o with
  | error fault =>
      refine secures_fail.mpr ⟨⟨[], rfl, rfl, fun _ => rfl⟩, ?_⟩
      rintro _ ⟨⟩
      exact resolveEnding_eq (.inl (fits fault rfl))
  | ok url? =>
      cases url? with
      | some url =>
          refine secures_count_bind (secures_done.mpr ⟨?_, nofun⟩)
          exact ⟨[true], rfl, rfl, fun _ => rfl⟩
      | none =>
          refine secures_count_bind ?_
          refine Secures.mono (show Keeps ⟨[.lookups false], true⟩
            (fun fault => Plain fault ∨ ∃ token, fault = .unknownUrl token) _ from ?_)
            fun a o ⟨same, fits⟩ => ⟨?_, fun fault came => ?_⟩
          · refine Keeps.plain_bind (fun _ => .inl) (keeps_find token) fun link? => ?_
            cases link? with
            | none => exact keeps_fail (.inr ⟨token, rfl⟩)
            | some link =>
                refine Keeps.plain_bind (fun _ => .inl) (keeps_refill settings link token) ?_
                exact fun _ => keeps_done
          · exact same ▸ ⟨[false], rfl, rfl, fun _ => rfl⟩
          · exact resolveEnding_eq (fits fault came)

end Operations

/-! ### Requests -/

/-- The operation of the directory that a request asks for, if any. -/
def operation? : Request → Option Operation
  | .boot => none
  | .shorten _ => some .shorten
  | .resolve _ => some .resolve
  | .update _ _ => some .update
  | .delete _ => some .delete

/-- What holds of the account of a request that has ended. -/
def Rests (request : Request) (a : Account) (o : Except Fault Answer) : Prop :=
  match operation? request with
  | some operation => Settled operation a o
  | none => a = {}

/-- Every request rests with its account settled. -/
theorem secures_routine (settings : Settings.KeyValue) (request : Request) :
    Secures account (Rests request) (request.routine settings) {} := by
  have told {α : Type} {operation : Operation} {r : Routine α} {f : α → Answer}
      (settles : Secures account (Settled operation) r {}) :
      Secures account (Settled operation) (f <$> r) {} :=
    secures_map.mpr (settles.mono fun _ _ settled => by rwa [Settled, verdict_map])
  cases request with
  | boot => exact secures_map.mpr (Secures.mono (keeps_seed settings) fun _ _ keeps => keeps.1)
  | shorten url => exact told (secures_shorten settings url)
  | resolve token => exact told (secures_resolve settings token)
  | update token url => exact told (secures_update settings token url)
  | delete token => exact told (secures_delete settings token)

/-! ### The ledger -/

/-- Requests enter at any time, and stores may fail. -/
def regime : Regime Request Answer where
  admits _ _ := True
  lets _ _ c reply := ∀ fault, reply = .error fault → Fails c fault

def counted (meter : Meter) (past : List Made) : Nat :=
  past.countP fun made => made.call = .process (.count meter)

def looked (past : List Made) : Bool := past.any fun made => learns made.call made.reply

def endings : List Ending := [.success, .refused, .notFound, .failed]

/-- The account has counted what the calls have counted. -/
theorem count_meters_reached (meter : Meter) (past : List Made) :
    (account.reached {} past).meters.count meter = counted meter past := by
  induction past with
  | nil => rfl
  | cons made past ih =>
      have one : (meter? made.call).toList.count meter =
          if made.call = .process (.count meter) then 1 else 0 := by
        unfold meter?
        split
        · rename_i advanced same
          by_cases this : advanced = meter <;> simp [same, this]
        · rename_i other
          simpa using other meter
      rw [counted, List.countP_cons, ← counted, ← ih, Nat.add_comm]
      simp only [decide_eq_true_eq, ← one]
      exact List.count_append

/-- The account has learned about a copy exactly if the calls have looked one up. -/
theorem learned_reached (past : List Made) :
    (account.reached {} past).learned = looked past := by
  induction past with
  | nil => rfl
  | cons made past ih =>
      rw [looked, List.any_cons, ← looked, ← ih]
      rfl

section Ledger

variable {settings : Settings.KeyValue} {π : Pool Request Answer}

/-- A request for an operation has settled the account of its calls. -/
theorem rests_of_ended (reaches : Reaches (Request.routine settings) regime {} π) {n : Nat}
    {task : Task Request Answer} (found : π.tasks[n]? = some task)
    {o : Except Fault Answer} (ended : task.outcome? = some o) :
    Rests task.name (account.reached {} (own π.past n)) o := by
  have secures := Pool.secures_of_reaches (secures_routine settings)
    (fun _ _ _ _ _ _ _ _ lets => lets) reaches found
  exact Task.post_of_outcome? secures ended

/-- What the meters of a settled account come to. -/
theorem counts_of_settled {operation : Operation} {a : Account} {o : Except Fault Answer}
    (settled : Settled operation a o) :
    (∀ op ending, a.meters.count (.operations op ending) =
        (decide (operation = op) && decide (verdict o = ending)).toNat) ∧
      (∀ op, a.meters.count (.durations op) = (decide (operation = op)).toNat) ∧
      a.meters.count (.lookups true) + a.meters.count (.lookups false) =
        (decide (operation = .resolve) && a.learned).toNat := by
  obtain ⟨before, ⟨seen, meters, once, resolves⟩, rfl⟩ := settled
  have counts (meter : Meter) (other : ∀ copied, meter ≠ .lookups copied) :
      before.meters.count meter = 0 := by
    rw [meters]
    refine List.count_eq_zero.mpr fun mem => ?_
    obtain ⟨copied, -, same⟩ := List.mem_map.mp mem
    exact other copied same.symm
  refine ⟨fun op ending => ?_, fun op => ?_, ?_⟩
  · simp only [List.count_cons, counts (.operations op ending) nofun]
    by_cases one : operation = op <;> by_cases two : verdict o = ending <;> simp [one, two]
  · simp only [List.count_cons, counts (.durations op) nofun]
    by_cases one : operation = op <;> simp [one]
  · simp only [List.count_cons, meters]
    cases learned : before.learned with
    | true =>
        rw [learned] at once
        obtain ⟨copied, rfl⟩ := List.length_eq_one_iff.mp once
        rw [resolves learned]
        cases copied <;> rfl
    | false =>
        rw [learned] at once
        rw [List.eq_nil_of_length_eq_zero once, Bool.and_false]
        rfl

/-- What the calls of a request that has ended did to the meters. -/
theorem counts_of_ended (reaches : Reaches (Request.routine settings) regime {} π) {n : Nat}
    {task : Task Request Answer} (found : π.tasks[n]? = some task)
    (ended : task.outcome? ≠ none) :
    (∀ op ending, counted (.operations op ending) (own π.past n) =
        (decide (operation? task.name = some op) &&
          decide (task.outcome?.map verdict = some ending)).toNat) ∧
      (∀ op, counted (.durations op) (own π.past n) =
        (decide (operation? task.name = some op)).toNat) ∧
      counted (.lookups true) (own π.past n) + counted (.lookups false) (own π.past n) =
        (decide (operation? task.name = some .resolve) && looked (own π.past n)).toNat := by
  obtain ⟨o, came⟩ := Option.ne_none_iff_exists'.mp ended
  have rests := rests_of_ended reaches found came
  rw [Rests] at rests
  simp only [← count_meters_reached, ← learned_reached, came, Option.map_some]
  cases asked : operation? task.name with
  | none =>
      rw [asked] at rests
      rw [rests]
      exact ⟨fun _ _ => rfl, fun _ => rfl, rfl⟩
  | some operation =>
      rw [asked] at rests
      simpa only [Option.some.injEq] using counts_of_settled rests

/-- The meters agree with the requests. When all requests have ended, in whatever order they made
their calls and whatever failed, every operation was counted once for each request for it, under
the ending that its outcome is of; its duration was recorded as often; and the lookups that found a
copy and those that did not are together as many as the resolving requests whose reading of the
copies did not fail. -/
theorem meters_keep_ledger (settings : Settings.KeyValue) {π : Pool Request Answer}
    (reaches : Reaches (Request.routine settings) regime {} π)
    (ended : ∀ task ∈ π.tasks, task.outcome? ≠ none) :
    (∀ op,
      (endings.map fun ending => counted (.operations op ending) (whole π.past)).sum =
        π.tally (fun _ task => operation? task.name = some op) ∧
      counted (.durations op) (whole π.past) =
        π.tally (fun _ task => operation? task.name = some op) ∧
      ∀ ending, counted (.operations op ending) (whole π.past) =
        π.tally fun _ task =>
          operation? task.name = some op && task.outcome?.map verdict = some ending) ∧
    counted (.lookups true) (whole π.past) + counted (.lookups false) (whole π.past) =
      π.tally fun n task => operation? task.name = some .resolve && looked (own π.past n) := by
  have counts {n : Nat} {task : Task Request Answer} (found : π.tasks[n]? = some task) :=
    counts_of_ended reaches found (ended task (List.mem_of_getElem? found))
  have adds (meter : Meter) : Pool.Adds (counted meter) := Pool.adds_countP _
  refine ⟨fun op => ⟨?_, ?_, fun ending => ?_⟩, ?_⟩
  · simp only [endings, List.map_cons, List.map_nil, List.sum_cons, List.sum_nil, Nat.add_zero]
    have sums := (adds (.operations op .success)).add ((adds (.operations op .refused)).add
      ((adds (.operations op .notFound)).add (adds (.operations op .failed))))
    refine Pool.eq_tally sums reaches fun n task found => ?_
    obtain ⟨o, came⟩ := Option.ne_none_iff_exists'.mp (ended task (List.mem_of_getElem? found))
    simp only [(counts found).1 op, came, Option.map_some]
    cases decide (operation? task.name = some op)
    · rfl
    · cases verdict o <;> rfl
  · exact Pool.eq_tally (adds _) reaches fun n task found => (counts found).2.1 op
  · exact Pool.eq_tally (adds _) reaches fun n task found => (counts found).1 op ending
  · exact Pool.eq_tally ((adds _).add (adds _)) reaches fun n task found => (counts found).2.2

/-- There is no copy and no link, and nothing can be written. -/
def barren : (c : Call) → Except Fault c.Reply
  | .process .now => .ok (Bench.clock 0)
  | .process .freshEvent | .process .freshRequest => .ok ""
  | .process .recollect => .ok {}
  | .process (.joinFeed _) => .ok true
  | .process (.awaitStop _) => .ok true
  | .process (.page _) => .ok ⟨"", ""⟩
  | .process (.log _) | .process (.count _) | .process (.remember _)
  | .process (.handOff _) | .process (.spawnFeed ..) | .process (.serveMeters _) => .ok ()
  | .keys (.get _) | .database (.findLink _) => .ok none
  | .database .connect => .ok ()
  | _ => .error (.outage .crash "boom")

def lostLink : Pool Request Answer :=
  let program := Request.routine {}
  [0, 1, 0, 0, 1, 1, 0, 0, 1, 0].foldl (Pool.answer barren)
    ((Pool.enter program {} (.resolve "b")).enter program (.delete "b"))

/-- A link that is resolved while it is deleted is metered by how each request has ended. -/
theorem lost_link_metered :
    (∀ task ∈ lostLink.tasks, task.outcome? ≠ none) ∧
      counted (.operations .resolve .notFound) (whole lostLink.past) = 1 ∧
      counted (.operations .delete .failed) (whole lostLink.past) = 1 ∧
      counted (.lookups true) (whole lostLink.past) +
        counted (.lookups false) (whole lostLink.past) = 1 := by
  have lets (π : Pool Request Answer) (n : Nat) (c : Call) : regime.lets π n c (barren c) := by
    cases c with
    | process c => cases c <;> nofun
    | keys c => cases c <;> rintro _ ⟨⟩ <;> rfl
    | database c => cases c <;> rintro _ ⟨⟩ <;> rfl
    | producer | consumer | columns | atlas => rintro _ ⟨⟩; rfl
  have reaches : Reaches (Request.routine {}) regime {} lostLink :=
    Reaches.answers lets (Reaches.enter (Reaches.enter .refl trivial) trivial) _
  have ended : ∀ task ∈ lostLink.tasks, task.outcome? ≠ none := by decide +kernel
  obtain ⟨operations, lookups⟩ := meters_keep_ledger {} reaches ended
  refine ⟨ended, ?_, ?_, ?_⟩
  · rw [(operations .resolve).2.2 .notFound]
    decide +kernel
  · rw [(operations .delete).2.2 .failed]
    decide +kernel
  · rw [lookups]
    decide +kernel

end Ledger

end LinkShortener.Metering
