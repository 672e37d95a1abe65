import LinkShortener.Routine.Call

/-!
Routines, what the service does in answer to a request. A routine is a finite tree: it is done
with a value, fails with a fault, or asks the machinery something and goes on with the reply,
which may be a fault. Nothing is done by a routine itself; a performer that answers the calls
from a state runs it, and the state says what the calls did.
-/

namespace LinkShortener

/-- What the service does until it has a value or fails. -/
inductive Routine (α : Type) : Type
  | done (value : α)
  | fail (fault : Fault)
  | ask (call : Call) (next : Except Fault call.Reply → Routine α)

namespace Routine

variable {α β : Type}

/-- Goes on with the value of a routine. -/
def andThen (r : Routine α) (f : α → Routine β) : Routine β :=
  match r with
  | done a => f a
  | fail fault => fail fault
  | ask call next => ask call fun reply => andThen (next reply) f

instance : Monad Routine where
  pure := done
  bind := andThen

@[simp] theorem pure_eq (a : α) : (pure a : Routine α) = done a := rfl

@[simp] theorem bind_done (a : α) (f : α → Routine β) : (done a >>= f) = f a := rfl

@[simp] theorem bind_fail (fault : Fault) (f : α → Routine β) :
    (fail fault >>= f) = fail fault := rfl

@[simp] theorem bind_ask (call : Call) (next : Except Fault call.Reply → Routine α)
    (f : α → Routine β) :
    (ask call next >>= f) = ask call fun reply => next reply >>= f := rfl

theorem andThen_done (r : Routine α) : andThen r done = r := by
  induction r with
  | done a => rfl
  | fail fault => rfl
  | ask call next ih => simp only [andThen]; congr 1; funext reply; exact ih reply

theorem andThen_assoc {γ : Type} (r : Routine α) (f : α → Routine β) (g : β → Routine γ) :
    andThen (andThen r f) g = andThen r fun a => andThen (f a) g := by
  induction r with
  | done a => rfl
  | fail fault => rfl
  | ask call next ih => simp only [andThen]; congr 1; funext reply; exact ih reply

instance : LawfulMonad Routine :=
  LawfulMonad.mk' Routine andThen_done (fun _ _ => rfl) andThen_assoc

/-- What a value or a fault amounts to. -/
def ofOutcome : Except Fault α → Routine α
  | .ok a => done a
  | .error fault => fail fault

def call (c : Call) : Routine c.Reply := ask c ofOutcome

/-- What comes of a routine, as a value. -/
def outcome : Routine α → Routine (Except Fault α)
  | done a => done (.ok a)
  | fail fault => done (.error fault)
  | ask call next => ask call fun reply => outcome (next reply)

/-- Handles the faults of one kind. -/
def rescue (r : Routine α) (kind : Fault → Bool) (handle : Fault → Routine α) : Routine α :=
  r.outcome >>= fun
    | .ok a => done a
    | .error fault => if kind fault then handle fault else fail fault

/-- Does something at the end, whatever the outcome; only a fault of it replaces the outcome. -/
def concluding (r : Routine α) (last : Except Fault α → Routine Unit) : Routine α :=
  r.outcome >>= fun o => last o >>= fun _ => ofOutcome o

/-! ### Running -/

/-- How calls are answered from a state. -/
abbrev Performer (σ : Type) := (c : Call) → σ → Except Fault c.Reply × σ

def run {σ : Type} (perform : Performer σ) : Routine α → σ → Except Fault α × σ
  | done a, s => (.ok a, s)
  | fail fault, s => (.error fault, s)
  | ask call next, s =>
    let (reply, s') := perform call s
    run perform (next reply) s'

/-! ### Calls by their names -/

def log (level : Log.Level) (source : Log.Source) (text : String) : Routine Unit :=
  call (.process (.log ⟨level, source, text⟩))

def count (meter : Meter) : Routine Unit := call (.process (.count meter))

/-- The memory of the process. -/
def recollect : Routine Daemon.Memory := call (.process .recollect)

def modify (change : Daemon.Memory → Daemon.Memory) : Routine Unit :=
  recollect >>= fun memory => call (.process (.remember (change memory)))

def now : Routine Moment := call (.process .now)

/-- An event id that was not given before. -/
def freshEvent : Routine String := call (.process .freshEvent)

end Routine

end LinkShortener
