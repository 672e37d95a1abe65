import LinkShortener.Proofs.Feed.Course
import LinkShortener.Proofs.Routine.Machine

/-!
Shifts of the feed, from its first turn to its last. Unlike a loop, which is laid out for so many
turns beforehand, a shift takes a turn after the other for as long as it goes on, and it can be asked
to stop only where it waits: before its first call, or while a call is under way that lets others go
on. A pause is waited out if its time has run out and nobody has asked to stop.

Main statements: what the steps keep, a shift keeps (`Shift.keeps`); and a shift that has been asked
to stop, or that leaves the bus, comes to its end (`Shift.ends_of_asked`, `Shift.ends_of_departing`).
-/

namespace LinkShortener.Feed

open Routine

/-- The feed at work. -/
structure Shift where
  asked : Bool
  rest : Routine Phase
  past : List Made

/-- Whether the time of a wait has run out. -/
def Made.runsOut : Made → Bool
  | ⟨.process (.awaitStop _), .ok false⟩ => true
  | _ => false

namespace Shift

def begin : Shift := ⟨false, .done .connecting, []⟩

/-- How many pauses were waited out. -/
def waits (σ : Shift) : Nat := σ.past.countP Made.runsOut

def stopped (σ : Shift) : Shift := { σ with asked := true }

/-- The feed with the reply to its next call. -/
def answered (σ : Shift) (c : Call) (next : Except Fault c.Reply → Routine Phase)
    (reply : Except Fault c.Reply) : Shift :=
  ⟨σ.asked, next reply, ⟨c, reply⟩ :: σ.past⟩

/-- The feed takes the turn of a phase. -/
def turned (σ : Shift) (settings : Settings.Consumer) (phase : Phase) : Shift :=
  { σ with rest := advance settings (Bench.processor false) phase }

/-- The feed waits, so that it can be asked to stop: it has not called anything yet, or a call is
under way that lets others go on. -/
inductive Idle (σ : Shift) : Prop
  | new (unused : σ.past = [])
  | suspended (c : Call) (next : Except Fault c.Reply → Routine Phase) (left : σ.rest = .ask c next)
      (suspends : c.suspends = true)

/-- What the feed does by itself: it gets a reply to its next call, or takes its next turn, until it
has ended. -/
inductive Works (settings : Settings.Consumer) (σ : Shift) : Shift → Prop
  | call (c : Call) (next : Except Fault c.Reply → Routine Phase) (reply : Except Fault c.Reply)
      (left : σ.rest = .ask c next) (fair : Fair ⟨c, reply⟩) (recalls : Recalls σ.asked ⟨c, reply⟩) :
      Works settings σ (σ.answered c next reply)
  | turn (phase : Phase) (left : σ.rest = .done phase) (goes : ∀ outcome, phase ≠ .ended outcome) :
      Works settings σ (σ.turned settings phase)

/-- One step of a shift. -/
inductive Steps (settings : Settings.Consumer) (σ : Shift) : Shift → Prop
  | work (σ' : Shift) (works : Works settings σ σ') : Steps settings σ σ'
  | stop (idle : Idle σ) : Steps settings σ σ.stopped

abbrev Reaches (settings : Settings.Consumer) : Shift → Shift → Prop :=
  Relation.ReflTransGen (Steps settings)

def Ended (σ : Shift) : Prop := ∃ outcome, σ.rest = .done (.ended outcome)

variable {settings : Settings.Consumer} {σ σ' : Shift}

/-! ### What a shift keeps -/

/-- What is kept by replies, turns and being asked to stop is kept by a shift that goes on. -/
theorem keeps (inv : Shift → Course → Prop)
    (replies : ∀ {σ p c next reply q}, inv σ p → σ.rest = .ask c next → Charts p c reply q →
      Fair ⟨c, reply⟩ → Recalls σ.asked ⟨c, reply⟩ → p ≠ .broken →
      inv (σ.answered c next reply) q)
    (turns : ∀ {σ p phase}, inv σ p → σ.rest = .done phase → inv (σ.turned settings phase) p)
    (stops : ∀ {σ p}, inv σ p → inv σ.stopped p) {p : Course} (whole : p ≠ .broken)
    (follows : Follows Charts Lands σ.rest p) (holds : inv σ p) (reaches : Reaches settings σ σ') :
    ∃ q, q ≠ .broken ∧ Follows Charts Lands σ'.rest q ∧ inv σ' q := by
  induction reaches with
  | refl => exact ⟨p, whole, follows, holds⟩
  | tail _ step ih =>
      obtain ⟨p, whole, follows, holds⟩ := ih
      cases step with
      | stop idle => exact ⟨p, whole, follows, stops holds⟩
      | work _ works =>
          cases works with
          | call c next reply left fair recalls =>
              rw [left] at follows
              obtain ⟨q, charts, rest⟩ := follows_ask.mp follows reply
              have holds' := replies holds left charts fair recalls whole
              exact ⟨q, charts.whole fair whole, rest, holds'⟩
          | turn phase left goes =>
              rw [left] at follows
              rcases follows_done.mp follows with same | ⟨_, ⟨⟩, docks⟩
              · exact absurd same whole
              · exact ⟨p, whole, Course.follows_advance docks, turns holds left⟩

/-- What speaks of the calls only is kept by a shift if every call keeps it. -/
theorem keeps_calls (inv : Bool → List Made → Course → Prop)
    (start : inv false [] (.looking []))
    (asks : ∀ {asked past p}, inv asked past p → inv true past p)
    (calls : ∀ {asked past p c reply q}, inv asked past p → Charts p c reply q → Fair ⟨c, reply⟩ →
      Recalls asked ⟨c, reply⟩ → p ≠ .broken → inv asked (⟨c, reply⟩ :: past) q)
    (reaches : Reaches settings begin σ) :
    ∃ p, p ≠ .broken ∧ Follows Charts Lands σ.rest p ∧ inv σ.asked σ.past p := by
  have docks : Docks .connecting (.looking []) := rfl
  have whole : Course.looking [] ≠ .broken := nofun
  refine keeps (fun σ p => inv σ.asked σ.past p) ?_ ?_ ?_ whole (Course.follows_return docks) start
    reaches
  · intro σ p c next reply q holds _ charts fair recalls whole
    exact calls holds charts fair recalls whole
  · intro σ p phase holds _
    exact holds
  · intro σ p holds
    exact asks holds

/-! ### Shifts with given replies -/

def move (settings : Settings.Consumer) (replies : Bool → (c : Call) → Except Fault c.Reply)
    (σ : Shift) : Shift :=
  match σ.rest with
  | .ask c next => σ.answered c next (replies σ.asked c)
  | .done (.ended _) | .fail _ => σ
  | .done phase => σ.turned settings phase

/-- Lets the feed do a number of things. -/
def moves (settings : Settings.Consumer) (replies : Bool → (c : Call) → Except Fault c.Reply) :
    Nat → Shift → Shift
  | 0, σ => σ
  | n + 1, σ => moves settings replies n (σ.move settings replies)

/-- Moves by fair replies that recall the stop lead to where a shift may come. -/
theorem reaches_moves {replies : Bool → (c : Call) → Except Fault c.Reply}
    (fair : ∀ asked c, Fair ⟨c, replies asked c⟩)
    (recalls : ∀ asked c, Recalls asked ⟨c, replies asked c⟩) (n : Nat) (σ : Shift) :
    Reaches settings σ (moves settings replies n σ) := by
  induction n generalizing σ with
  | zero => exact .refl
  | succ n ih =>
      refine .trans ?_ (ih _)
      unfold move
      split
      · rename_i c next left
        exact .single (.work _ (.call c next _ left (fair _ c) (recalls _ c)))
      · exact .refl
      · exact .refl
      · rename_i phase goes left
        exact .single (.work _ (.turn phase left goes))

/-! ### Coming to an end -/

/-- The feed comes to an end, whatever replies it gets and whether or not it is asked to stop in the
meantime. -/
inductive Ends (settings : Settings.Consumer) : Shift → Prop
  | ended (σ : Shift) (ended : σ.Ended) : Ends settings σ
  | later (σ : Shift) (goes : ∃ σ', Works settings σ σ')
      (all : ∀ σ', Works settings σ σ' ∨ Works settings σ.stopped σ' → Ends settings σ') :
      Ends settings σ

/-- The replies that are expected, of those that are fair. -/
def expecting (expected : Made → Prop) : Machine Unit where
  admits _ c reply := Fair ⟨c, reply⟩ ∧ expected ⟨c, reply⟩
  after _ _ _ := ()

/-- A routine comes to a phase of this kind. -/
abbrev Comes (expected : Made → Prop) (kind : Phase → Prop) (r : Routine Phase) : Prop :=
  Secures (expecting expected) (fun _ o => ∃ phase, o = .ok phase ∧ kind phase) r ()

/-- A reply that may come to any call. -/
def prompt (asked : Bool) : (c : Call) → Except Fault c.Reply
  | .process .recollect => .ok { stopping := asked }
  | .process (.awaitStop _) => .ok asked
  | c => smooth c

theorem prompt_ok (asked : Bool) (c : Call) : ∃ a, prompt asked c = .ok a := by
  unfold prompt
  split
  · exact ⟨_, rfl⟩
  · exact ⟨_, rfl⟩
  · cases given : smooth c with
    | ok a => exact ⟨a, rfl⟩
    | error fault => exact (of_smooth_error (P := fun _ _ => False) c fault given).elim

theorem fair_ok (c : Call) (a : c.Reply) : Fair ⟨c, .ok a⟩ := by
  unfold Fair
  split
  · rename_i same
    cases same
    nofun
  · rename_i same
    cases same
  · trivial

theorem fair_prompt (asked : Bool) (c : Call) : Fair ⟨c, prompt asked c⟩ := by
  obtain ⟨a, ok⟩ := prompt_ok asked c
  rw [ok]
  exact fair_ok c a

theorem recalls_prompt (asked : Bool) (c : Call) : Recalls asked ⟨c, prompt asked c⟩ := by
  unfold Recalls
  split
  · rename_i memory same
    cases same
    rfl
  · rename_i seconds inTime same
    cases same
    rfl
  · trivial

/-- A routine that comes to a phase of a kind is carried on to that phase, with the replies that are
expected. -/
theorem ends_of_comes {expected : Made → Prop} {kind : Phase → Prop}
    (comes : Comes expected kind σ.rest)
    (expects : ∀ made, Recalls σ.asked made ∨ Recalls true made → expected made)
    (goal : ∀ σ', (σ'.asked = σ.asked ∨ σ'.asked = true) →
      ∀ phase, σ'.rest = .done phase → kind phase → Ends settings σ') : Ends settings σ := by
  generalize left : σ.rest = r at comes
  induction r generalizing σ with
  | done phase =>
      obtain ⟨_, ⟨⟩, holds⟩ := secures_done.mp comes
      exact goal σ (.inl rfl) phase left holds
  | fail fault =>
      obtain ⟨_, ⟨⟩, _⟩ := secures_fail.mp comes
  | ask c next ih =>
      have goes : Works settings σ (σ.answered c next (prompt σ.asked c)) :=
        .call c next _ left (fair_prompt _ c) (recalls_prompt _ c)
      refine .later σ ⟨_, goes⟩ fun σ' works => ?_
      have onward (τ : Shift) (same : τ.rest = .ask c next)
          (asked : τ.asked = σ.asked ∨ τ.asked = true) (works : Works settings τ σ') :
          Ends settings σ' := by
        cases works with
        | turn phase left' => cases same.symm.trans left'
        | call c' next' reply left' fair recalls =>
            cases same.symm.trans left'
            have recalls' : Recalls σ.asked ⟨c, reply⟩ ∨ Recalls true ⟨c, reply⟩ := by
              rcases asked with asked | asked <;> rw [asked] at recalls
              · exact .inl recalls
              · exact .inr recalls
            refine ih reply ?_ ?_ rfl (secures_ask.mp comes reply ⟨fair, expects _ recalls'⟩)
            · rintro made (recalls | recalls)
              · rcases asked with asked | asked
                · exact expects made (.inl (asked ▸ recalls))
                · exact expects made (.inr (asked ▸ recalls))
              · exact expects made (.inr recalls)
            · rintro σ'' (asked' | asked') phase done holds
              · refine goal σ'' ?_ phase done holds
                rcases asked with asked | asked
                · exact .inl (asked'.trans asked)
                · exact .inr (asked'.trans asked)
              · exact goal σ'' (.inr asked') phase done holds
      rcases works with works | works
      · exact onward σ left (.inl rfl) works
      · exact onward σ.stopped left (.inr rfl) works

/-- The only thing to do between two turns is to take the next. -/
theorem ends_of_turn {phase : Phase} (left : σ.rest = .done phase)
    (goes : ∀ outcome, phase ≠ .ended outcome)
    (turn : ∀ τ, (τ = σ ∨ τ = σ.stopped) → Ends settings (τ.turned settings phase)) :
    Ends settings σ := by
  refine .later σ ⟨_, .turn phase left goes⟩ fun σ' works => ?_
  rcases works with works | works
  · cases works with
    | call c next reply left' => cases left.symm.trans left'
    | turn phase' left' =>
        cases left.symm.trans left'
        exact turn σ (.inl rfl)
  · cases works with
    | call c next reply left' => cases left.symm.trans left'
    | turn phase' left' =>
        cases left.symm.trans left'
        exact turn σ.stopped (.inr rfl)

/-! ### Turns that lead to the end -/

section Comes

variable {expected : Made → Prop} {kind : Phase → Prop}

/-- A routine on a course of some kind, which fair replies keep, comes to a phase on such a course. -/
theorem comes_of_follows {along : Course → Prop}
    (kept : ∀ {p c reply q}, along p → Charts p c reply q → Fair ⟨c, reply⟩ → along q)
    (whole : ¬ along .broken) {r : Routine Phase} {p : Course} (follows : Follows Charts Lands r p)
    (holds : along p) : Comes expected (fun phase => ∃ q, along q ∧ Docks phase q) r := by
  induction r generalizing p with
  | done phase =>
      rcases follows_done.mp follows with rfl | ⟨_, ⟨⟩, docks⟩
      · exact absurd holds whole
      · exact secures_done.mpr ⟨phase, rfl, p, holds, docks⟩
  | fail fault =>
      rcases follows_fail.mp follows with rfl | ⟨_, ⟨⟩, _⟩
      exact absurd holds whole
  | ask c next ih =>
      refine secures_ask.mpr fun reply admits => ?_
      obtain ⟨q, charts, rest⟩ := follows_ask.mp follows reply
      exact ih reply rest (kept holds charts admits.1)

/-- What has to come after a call comes, if the call may not fail and each of its answers leads
there. -/
theorem comes_process_bind {c : ProcessCall} {f : c.Reply → Routine Phase}
    (sure : ∀ fault, ¬ Fair ⟨.process c, .error fault⟩)
    (rest : ∀ a, expected ⟨.process c, .ok a⟩ → Comes expected kind (f a)) :
    Comes expected kind (call (.process c) >>= f) := by
  refine secures_call_bind.mpr fun reply admits => ?_
  cases reply with
  | ok a => exact rest a admits.2
  | error fault => exact absurd admits.1 (sure fault)

theorem comes_log_bind {level : Log.Level} {source : Log.Source} {text : String}
    {f : Unit → Routine Phase} (rest : Comes expected kind (f ())) :
    Comes expected kind (log level source text >>= f) :=
  comes_process_bind (c := .log _) (fun _ => id) fun _ _ => rest

/-- A feed that leaves the bus has ended then. -/
theorem comes_close (cause : Option Fault) :
    Comes expected (fun phase => ∃ outcome, phase = .ended outcome) (close cause) := by
  refine secures_bind.mpr (secures_outcome.mpr ((secures_call (c := .consumer .stop)).mpr ?_))
  intro reply _
  rw [ofOutcome_ok, bind_done]
  cases reply with
  | ok a => exact comes_log_bind (secures_done.mpr ⟨_, rfl, cause, rfl⟩)
  | error late =>
      dsimp only
      split
      · exact comes_log_bind (comes_log_bind (secures_done.mpr ⟨_, rfl, cause, rfl⟩))
      · exact secures_done.mpr ⟨_, rfl, some late, rfl⟩

/-- The feed reads that it should stop. -/
theorem comes_unlessStopping {stopped : Phase} {next : Routine Phase} (holds : kind stopped) :
    Comes (Recalls true) kind (unlessStopping stopped next) := by
  refine comes_process_bind (c := .recollect) (fun _ => id) fun memory recalls => ?_
  have asked : memory.stopping = true := recalls
  rw [if_pos asked]
  exact secures_done.mpr ⟨stopped, rfl, holds⟩

/-- How far a phase is from the end, once the feed was asked to stop. -/
def distance : Phase → Nat
  | .connecting | .polling => 2
  | .handling messages => messages.length + 3
  | .closing _ => 1
  | .ended _ => 0

/-- Each turn brings a feed that was asked to stop nearer to the end. -/
theorem comes_advance {phase : Phase} (goes : ∀ outcome, phase ≠ .ended outcome) :
    Comes (Recalls true) (fun phase' => distance phase' < distance phase)
      (advance settings (Bench.processor false) phase) := by
  cases phase with
  | connecting | polling => exact comes_unlessStopping (by decide)
  | handling messages =>
      cases messages with
      | nil => exact secures_done.mpr ⟨_, rfl, by decide⟩
      | cons message rest => exact comes_unlessStopping (Nat.lt_succ_self _)
  | closing cause =>
      refine (comes_close cause).mono fun _ o => ?_
      rintro ⟨_, rfl, outcome, rfl⟩
      exact ⟨_, rfl, Nat.zero_lt_one⟩
  | ended outcome => exact absurd rfl (goes outcome)

end Comes

/-- Between two turns, a feed that was asked to stop comes to its end. -/
theorem ends_of_phase {phase : Phase} (asked : σ.asked = true) (left : σ.rest = .done phase) :
    Ends settings σ := by
  induction near : distance phase using Nat.strongRecOn generalizing σ phase with
  | ind n ih =>
      by_cases ended : ∃ outcome, phase = .ended outcome
      · obtain ⟨outcome, rfl⟩ := ended
        exact .ended σ ⟨outcome, left⟩
      · have goes (outcome : Option Fault) : phase ≠ .ended outcome :=
          fun same => ended ⟨outcome, same⟩
        refine ends_of_turn left goes fun τ same => ?_
        have asked' : τ.asked = true := by
          rcases same with rfl | rfl
          · exact asked
          · rfl
        refine ends_of_comes (comes_advance goes) ?_ ?_
        · rintro made (recalls | recalls)
          · exact asked' ▸ recalls
          · exact recalls
        · intro σ' later phase' left' nearer
          refine ih _ (near ▸ nearer) ?_ left' rfl
          rcases later with later | later
          · exact later.trans asked'
          · exact later

/-- A feed that was asked to stop comes to its end, wherever it is. -/
theorem ends_of_asked (asked : σ.asked = true) {p : Course} (whole : p ≠ .broken)
    (follows : Follows Charts Lands σ.rest p) : Ends settings σ := by
  have comes : Comes (Recalls true) (fun phase => ∃ q, q ≠ .broken ∧ Docks phase q) σ.rest :=
    comes_of_follows (fun whole charts fair => charts.whole fair whole) (fun whole => whole rfl)
      follows whole
  refine ends_of_comes comes ?_ ?_
  · rintro made (recalls | recalls)
    · exact asked ▸ recalls
    · exact recalls
  · intro σ' later phase left _
    refine ends_of_phase ?_ left
    rcases later with later | later
    · exact later.trans asked
    · exact later

/-- The feed leaves the bus, or has left it. -/
inductive Departing : Course → Prop
  | leaving (cause : Option Fault) : Departing (.leaving cause)
  | left (outcome : Option Fault) : Departing (.left outcome)

/-- There is no way back. -/
theorem Departing.next {p q : Course} {c : Call} {reply : Except Fault c.Reply}
    (departing : Departing p) (charts : Charts p c reply q) (fair : Fair ⟨c, reply⟩) :
    Departing q := by
  cases departing with
  | leaving cause =>
      cases charts with
      | unfair _ _ _ unfair => exact absurd fair unfair
      | fall _ c fault risks => cases risks
      | close => exact .left _
  | left outcome =>
      cases charts with
      | unfair _ _ _ unfair => exact absurd fair unfair
      | fall _ c fault risks => cases risks
      | farewell => exact .left _

/-- A feed that leaves the bus comes to its end, asked to stop or not. -/
theorem ends_of_departing {p : Course} (departing : Departing p)
    (follows : Follows Charts Lands σ.rest p) : Ends settings σ := by
  have comes : Comes (fun _ => True) (fun phase => ∃ q, Departing q ∧ Docks phase q) σ.rest :=
    comes_of_follows (fun departing charts fair => departing.next charts fair) nofun follows
      departing
  refine ends_of_comes comes (fun _ _ => trivial) ?_
  rintro σ' - phase left ⟨q, departing, docks⟩
  cases departing with
  | left outcome =>
      cases phase with
      | ended outcome' => exact .ended σ' ⟨outcome', left⟩
      | _ => cases docks
  | leaving cause =>
      cases phase with
      | closing cause' =>
          refine ends_of_turn left nofun fun τ _ => ?_
          refine ends_of_comes (comes_close cause') (fun _ _ => trivial) ?_
          rintro σ'' - _ left' ⟨outcome, rfl⟩
          exact .ended σ'' ⟨outcome, left'⟩
      | _ => cases docks

end Shift

end LinkShortener.Feed
