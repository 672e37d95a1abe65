import LinkShortener.Proofs.Routine.Trace
import LinkShortener.Proofs.Traffic.Metering

/-!
The balance of the pipeline of visits: what its meters have counted against what happened at the
bus and in the table of clicks. Balances are taken of lists of calls, so that those of the parts of
a run add up to that of the run (`Balances.append`). Most calls leave all of it alone; they are
silent.
-/

namespace LinkShortener.Pipeline

open Routine
open Feed (Made)
open Metering (counted)

/-- Whether the bus acknowledged a message. -/
def isAcknowledgement : Made → Bool
  | ⟨.producer (.send ..), .ok _⟩ => true
  | _ => false

/-- Whether a feed asked the bus for messages in vain. -/
def isFailedFetch : Made → Bool
  | ⟨.consumer (.poll ..), .error _⟩ => true
  | _ => false

/-- Whether a feed tried to connect to the bus in vain. -/
def isFailedStart : Made → Bool
  | ⟨.consumer .start, .error _⟩ => true
  | _ => false

/-- The click that was stored as a row, if any. -/
def stored? : Made → Option Click
  | ⟨.database (.insertClick click), .ok _⟩ => some click
  | _ => none

/-- Whether a click was stored as a row. -/
def isNewRow (made : Made) : Bool := (stored? made).isSome

/-- The meters have counted what these calls did, in which so many visits were to be published, so
many messages were handled and so many clicks were added. -/
structure Balances (past : List Made) (sends handled added : Nat) : Prop where
  published : counted .published past = past.countP isAcknowledgement
  sends : counted .published past + counted .publishFailures past = sends
  handled : counted .consumed past + counted (.feedFailures .process) past +
    counted (.feedFailures .commit) past = handled
  fetches : counted (.feedFailures .fetch) past = past.countP isFailedFetch
  starts : counted (.feedFailures .connect) past = past.countP isFailedStart
  rows : counted (.clicksStored .rows) past = past.countP isNewRow
  added : counted (.clicksStored .rows) past + counted .clicksRepeated past = added

/-- The sums of a balance as the meters show them. -/
def shown (past : List Made) : List Nat :=
  [counted .published past,
    counted .published past + counted .publishFailures past,
    counted .consumed past + counted (.feedFailures .process) past +
      counted (.feedFailures .commit) past,
    counted (.feedFailures .fetch) past,
    counted (.feedFailures .connect) past,
    counted (.clicksStored .rows) past,
    counted (.clicksStored .rows) past + counted .clicksRepeated past]

/-- The sums of a balance as they should be. -/
def happened (past : List Made) (sends handled added : Nat) : List Nat :=
  [past.countP isAcknowledgement, sends, handled, past.countP isFailedFetch,
    past.countP isFailedStart, past.countP isNewRow, added]

/-- The balance of calls that are known is computed. -/
theorem balances_of_shown {past : List Made} {s h a : Nat}
    (same : shown past = happened past s h a) : Balances past s h a := by
  simp only [shown, happened, List.cons.injEq, and_true] at same
  obtain ⟨published, sends, handled, fetches, starts, rows, added⟩ := same
  exact ⟨published, sends, handled, fetches, starts, rows, added⟩

theorem balances_nil : Balances [] 0 0 0 := balances_of_shown rfl

/-- Balances of parts add up. -/
theorem Balances.append {past calls : List Made} {s s' h h' a a' : Nat}
    (first : Balances past s h a) (later : Balances calls s' h' a') :
    Balances (calls ++ past) (s + s') (h + h') (a + a') := by
  obtain ⟨published, sends, handled, fetches, starts, rows, added⟩ := first
  obtain ⟨published', sends', handled', fetches', starts', rows', added'⟩ := later
  constructor
  all_goals
    simp only [counted, List.countP_append] at *
    omega

/-- Calls that count for nothing may come before. -/
theorem Balances.after {past calls : List Made} {s h a : Nat} (later : Balances calls s h a)
    (first : Balances past 0 0 0) : Balances (calls ++ past) s h a := by
  have sum := first.append later
  rwa [Nat.zero_add, Nat.zero_add, Nat.zero_add] at sum

/-! ### Silent calls -/

/-- A call that neither counts for the pipeline, nor asks whether the publisher runs or a feed is to
stop, nor goes to the bus, nor stores a click. -/
def isSilent : Call → Bool
  | .producer _ | .consumer _ | .database (.insertClick _) | .process .recollect => false
  | .process (.count (.operations ..)) | .process (.count (.durations _))
  | .process (.count (.lookups _)) => true
  | .process (.count _) => false
  | _ => true

/-- Only silent calls. -/
abbrev Silent (calls : List Made) : Prop := ∀ made ∈ calls, isSilent made.call = true

theorem Silent.append {past calls : List Made} (first : Silent past) (later : Silent calls) :
    Silent (calls ++ past) :=
  List.forall_mem_append.mpr ⟨later, first⟩

theorem countP_of_silent {p : Made → Bool} {calls : List Made} (silent : Silent calls)
    (other : ∀ made, isSilent made.call = true → p made = false) : calls.countP p = 0 :=
  List.countP_eq_zero.mpr fun made mem => by simp [other made (silent made mem)]

theorem counted_of_silent {meter : Meter} {calls : List Made} (silent : Silent calls)
    (loud : isSilent (.process (.count meter)) = false) : counted meter calls = 0 := by
  refine countP_of_silent silent fun made quiet => decide_eq_false fun same => ?_
  rw [same, loud] at quiet
  cases quiet

/-- Silent calls balance at nothing. -/
theorem balances_of_silent {calls : List Made} (silent : Silent calls) : Balances calls 0 0 0 := by
  have sent : calls.countP isAcknowledgement = 0 := countP_of_silent silent fun made quiet => by
    unfold isAcknowledgement
    split <;> first | rfl | cases quiet
  have fetched : calls.countP isFailedFetch = 0 := countP_of_silent silent fun made quiet => by
    unfold isFailedFetch
    split <;> first | rfl | cases quiet
  have started : calls.countP isFailedStart = 0 := countP_of_silent silent fun made quiet => by
    unfold isFailedStart
    split <;> first | rfl | cases quiet
  have stored : calls.countP isNewRow = 0 := countP_of_silent silent fun made quiet => by
    unfold isNewRow stored?
    split <;> first | rfl | cases quiet
  have counts (meter : Meter) (loud : isSilent (.process (.count meter)) = false) :
      counted meter calls = 0 := counted_of_silent silent loud
  constructor
  · rw [counts .published rfl, sent]
  · rw [counts .published rfl, counts .publishFailures rfl]
  · rw [counts .consumed rfl, counts (.feedFailures .process) rfl,
      counts (.feedFailures .commit) rfl]
  · rw [counts (.feedFailures .fetch) rfl, fetched]
  · rw [counts (.feedFailures .connect) rfl, started]
  · rw [counts (.clicksStored .rows) rfl, stored]
  · rw [counts (.clicksStored .rows) rfl, counts .clicksRepeated rfl]

/-! ### Event ids -/

/-- The event id that a call gave, if any. -/
def given? : Made → Option String
  | ⟨.process .freshEvent, .ok event⟩ => some event
  | _ => none

/-- The event ids that were given, the latest first. -/
def given (past : List Made) : List String := past.filterMap given?

/-- A silent call that gives no event id either. -/
def isIdle (c : Call) : Bool := isSilent c && c != .process .freshEvent

/-- Only idle calls. -/
abbrev Idle (calls : List Made) : Prop := ∀ made ∈ calls, isIdle made.call = true

theorem Idle.append {past calls : List Made} (first : Idle past) (later : Idle calls) :
    Idle (calls ++ past) :=
  List.forall_mem_append.mpr ⟨later, first⟩

theorem Idle.silent {calls : List Made} (idle : Idle calls) : Silent calls := fun made mem =>
  (Bool.and_eq_true _ _ ▸ idle made mem).1

theorem given_of_idle {calls : List Made} (idle : Idle calls) : given calls = [] := by
  refine List.filterMap_eq_nil_iff.mpr fun made mem => ?_
  have quiet := idle made mem
  unfold given?
  split
  · cases quiet
  · rfl

theorem given_append (later past : List Made) : given (later ++ past) = given later ++ given past :=
  List.filterMap_append

/-! ### Runs -/

/-- One run of a routine, with silent calls before and after it. -/
def RunsOnce {α : Type} (r : Routine α) (o : Except Fault α) (past : List Made) : Prop :=
  ∃ before calls after, past = after ++ calls ++ before ∧ Silent before ∧ Silent after ∧
    Ran r calls o

/-- Silent calls may come before. -/
theorem RunsOnce.append {α : Type} {r : Routine α} {o : Except Fault α} {past calls : List Made}
    (runs : RunsOnce r o calls) (silent : Silent past) : RunsOnce r o (calls ++ past) := by
  obtain ⟨before, run, after, rfl, before', after', ran⟩ := runs
  exact ⟨before ++ past, run, after, List.append_assoc _ _ _, Silent.append silent before', after',
    ran⟩

/-- The process does not fail. -/
def Steady (fails : Call → Fault → Prop) : Prop := ∀ c fault, ¬ fails (.process c) fault

section Steady

variable {fails : Call → Fault → Prop} {c : ProcessCall} {α : Type}

/-- A call of the process never fails where the regime is steady, so its one outcome is due. -/
theorem performs_process {due : List Made → Except Fault c.Reply → Prop} (steady : Steady fails)
    (holds : ∀ a, due [⟨.process c, .ok a⟩] (.ok a)) : Performs fails due (call (.process c)) :=
  performs_call fun reply expected => by
    cases reply with
    | ok a => exact holds a
    | error fault => exact absurd (expected fault rfl) (steady c fault)

theorem performs_process_bind {due : List Made → Except Fault α → Prop} {f : c.Reply → Routine α}
    (steady : Steady fails)
    (rest : ∀ a, Performs fails (fun later o => due (later ++ [⟨.process c, .ok a⟩]) o) (f a)) :
    Performs fails due (call (.process c) >>= f) :=
  performs_bind (performs_process steady rest)

end Steady

end LinkShortener.Pipeline
