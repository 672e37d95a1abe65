import LinkShortener.Proofs.Feed.Protocol
import Mathlib.Data.List.Infix
import Mathlib.Logic.Relation

/-!
Runs of the feed. A loop is what is left of the routine, the calls that were made with their
replies, the latest first, and whether somebody has asked it to stop. In one step the loop makes
its next call, to which any reply may come, or it is asked to stop, which may happen between any
two calls and is never taken back.

Main statements: what every call keeps, a run keeps (`Loop.keeps`); and in every run the payloads
are handed over in the order in which their messages were fetched, each once, with what is left
over at the end (`Lines.step`).
-/

namespace LinkShortener.Feed

open Routine

/-- A call that was made, with its reply. -/
structure Made where
  call : Call
  reply : Except Fault call.Reply

/-- The feed between two of its calls. -/
structure Loop where
  asked : Bool
  rest : Routine Phase
  past : List Made

/-- The memory that is read says whether the feed was asked to stop, and so does the end of a wait
until it is asked to: the time runs out only if it was not. -/
def Recalls (asked : Bool) : Made → Prop
  | ⟨.process .recollect, .ok memory⟩ => memory.stopping = asked
  | ⟨.process (.awaitStop _), .ok inTime⟩ => inTime = asked
  | _ => True

namespace Loop

/-- The feed before its first call, for as many turns as you like. -/
def start (settings : Settings.Consumer) (processor : Processor) (n : Nat) : Loop :=
  ⟨false, turns settings processor n .connecting, []⟩

/-- One step: the feed is asked to stop, or it makes its next call. -/
inductive Steps : Loop → Loop → Prop
  | ask (ℓ : Loop) : Steps ℓ { ℓ with asked := true }
  | call (ℓ : Loop) (c : Call) (next : Except Fault c.Reply → Routine Phase)
      (reply : Except Fault c.Reply) (left : ℓ.rest = .ask c next)
      (recalls : Recalls ℓ.asked ⟨c, reply⟩) :
      Steps ℓ ⟨ℓ.asked, next reply, ⟨c, reply⟩ :: ℓ.past⟩

abbrev Reaches : Loop → Loop → Prop := Relation.ReflTransGen Steps

variable {φ : Type} {conduct : Conduct φ} {settings : Settings.Consumer}
  {processor : Processor} {n : Nat} {ℓ : Loop}

/-- What being asked to stop and every call of the protocol keep, a run keeps. -/
theorem keeps (suits : conduct.Suits processor) (inv : Bool → List Made → Stand φ → Prop)
    (start : inv false [] (.ready []))
    (asks : ∀ {asked past p}, inv asked past p → inv true past p)
    (calls : ∀ {asked past p c reply q}, inv asked past p → Feeds conduct p c reply q →
      Recalls asked ⟨c, reply⟩ → inv asked (⟨c, reply⟩ :: past) q)
    (reaches : Reaches (Loop.start settings processor n) ℓ) :
    ∃ p, Follows (Feeds conduct) Leaves ℓ.rest p ∧ inv ℓ.asked ℓ.past p := by
  induction reaches with
  | refl => exact ⟨.ready [], follows_turns suits n rfl, start⟩
  | tail _ steps ih =>
      obtain ⟨p, follows, holds⟩ := ih
      cases steps with
      | ask => exact ⟨p, follows, asks holds⟩
      | call c next reply left recalls =>
          rw [left] at follows
          obtain ⟨q, feeds, rest⟩ := follows_ask.mp follows reply
          exact ⟨q, rest, calls holds feeds recalls⟩

/-- Lets the feed make its next call, if it has one, with the reply that is given for it. -/
def answer (replies : (c : Call) → Except Fault c.Reply) (ℓ : Loop) : Loop :=
  match ℓ.rest with
  | .ask c next => ⟨ℓ.asked, next (replies c), ⟨c, replies c⟩ :: ℓ.past⟩
  | _ => ℓ

/-- Lets the feed make a number of calls. -/
def answers (replies : (c : Call) → Except Fault c.Reply) : Nat → Loop → Loop
  | 0, ℓ => ℓ
  | n + 1, ℓ => answers replies n (ℓ.answer replies)

theorem asked_answer (replies : (c : Call) → Except Fault c.Reply) (ℓ : Loop) :
    (ℓ.answer replies).asked = ℓ.asked := by
  unfold answer
  split <;> rfl

theorem reaches_answers {replies : (c : Call) → Except Fault c.Reply}
    (recalls : ∀ c, Recalls ℓ.asked ⟨c, replies c⟩) (n : Nat) :
    Reaches ℓ (answers replies n ℓ) := by
  induction n generalizing ℓ with
  | zero => exact .refl
  | succ n ih =>
      refine .trans ?_ (ih fun c => ?_)
      · unfold answer
        split
        · rename_i c next left
          exact .single (.call ℓ c next _ left (recalls c))
        · exact .refl
      · rw [asked_answer]
        exact recalls c

end Loop

/-! ### What was fetched, handed over and committed -/

namespace Made

def brings : Made → List Message
  | ⟨.consumer (.poll _ _), .ok messages⟩ => messages
  | _ => []

/-- The payload that was handed over, with what came of it. -/
def hands : Made → List (List UInt8 × Except Fault Unit)
  | ⟨.process (.handOff payload), reply⟩ => [(payload, reply)]
  | _ => []

/-- The position that was to be committed, whether that was done or not. -/
def commits : Made → List Position
  | ⟨.consumer (.commit position), _⟩ => [position]
  | _ => []

theorem brings_of_foreign {c : Call} {reply : Except Fault c.Reply} (foreign : Foreign c) :
    brings ⟨c, reply⟩ = [] := by
  unfold brings
  split
  · rename_i same
    cases same
    exact foreign.elim
  · rfl

theorem hands_of_foreign {c : Call} {reply : Except Fault c.Reply} (foreign : Foreign c) :
    hands ⟨c, reply⟩ = [] := by
  unfold hands
  split
  · rename_i same
    cases same
    exact foreign.elim
  · rfl

theorem commits_of_foreign {c : Call} {reply : Except Fault c.Reply} (foreign : Foreign c) :
    commits ⟨c, reply⟩ = [] := by
  unfold commits
  split
  · rename_i same
    cases same
    exact foreign.elim
  · rfl

theorem eq_of_mem_commits {made : Made} {position : Position}
    (mem : position ∈ made.commits) : ∃ reply, made = ⟨.consumer (.commit position), reply⟩ := by
  unfold commits at mem
  split at mem
  · rename_i reply
    cases List.mem_singleton.mp mem
    exact ⟨reply, rfl⟩
  · cases mem

end Made

theorem Aside.foreign {c : Call} (aside : Aside c) : Foreign c := by
  cases aside with
  | count meter other =>
      unfold Foreign
      split <;> simp_all
  | _ => trivial

/-- What the calls of a past yield, in the order in which they were made. -/
def gather {α : Type} (yields : Made → List α) : List Made → List α
  | [] => []
  | made :: past => gather yields past ++ yields made

/-- The messages that were fetched. -/
abbrev fetched (past : List Made) : List Message := gather Made.brings past

/-- The payloads that were handed over, each with what came of it. -/
abbrev handed (past : List Made) : List (List UInt8 × Except Fault Unit) :=
  gather Made.hands past

/-- The positions that were to be committed. -/
abbrev commits (past : List Made) : List Position := gather Made.commits past

/-- The payloads of these messages, and no others, were handed over, in this order. -/
def HandedOver (past : List Made) (messages : List Message) : Prop :=
  (handed past).map Prod.fst = messages.map Message.payload

/-- What was gathered by a past begins what is gathered later. -/
theorem gather_of_suffix {α : Type} (yields : Made → List α) {past later : List Made}
    (suffix : past <:+ later) : gather yields past <+: gather yields later := by
  obtain ⟨newer, rfl⟩ := suffix
  induction newer with
  | nil => exact List.prefix_refl _
  | cons made newer ih => exact ih.trans (List.prefix_append _ _)

theorem mem_gather {α : Type} {yields : Made → List α} {past : List Made} {a : α} :
    a ∈ gather yields past ↔ ∃ made earlier, made :: earlier <:+ past ∧ a ∈ yields made := by
  induction past with
  | nil =>
      constructor
      · intro mem
        cases mem
      · rintro ⟨made, earlier, suffix, -⟩
        cases List.suffix_nil.mp suffix
  | cons made past ih =>
      rw [gather, List.mem_append, ih]
      constructor
      · rintro (⟨older, earlier, suffix, mem⟩ | mem)
        · exact ⟨older, earlier, suffix.trans (List.suffix_cons _ _), mem⟩
        · exact ⟨made, past, List.suffix_refl _, mem⟩
      · rintro ⟨older, earlier, suffix, mem⟩
        rcases List.suffix_cons_iff.mp suffix with same | suffix
        · cases same
          exact .inr mem
        · exact .inl ⟨older, earlier, suffix, mem⟩

/-! ### One after the other -/

variable {φ : Type} {conduct : Conduct φ}

/-- The messages that were fetched stand in line: those that were handed over and then, unless
the feed was asked to stop, those that it has in hand. -/
def Lines (asked : Bool) (past : List Made) : Stand φ → Prop
  | .ready pending => ∃ done left, fetched past = done ++ left ∧ HandedOver past done ∧
      (asked = false → left = pending)
  | .fetching => HandedOver past (fetched past)
  | .facing message rest => ∃ done, fetched past = done ++ message :: rest ∧
      HandedOver past done
  | .within message rest _ => ∃ done, fetched past = done ++ message :: rest ∧
      HandedOver past (done ++ [message])
  | .leaving => ∃ done left, fetched past = done ++ left ∧ HandedOver past done

/-- In every stand what was handed over is the first part of what was fetched. -/
theorem Lines.split {asked : Bool} {past : List Made} {p : Stand φ} (lines : Lines asked past p) :
    ∃ done left, fetched past = done ++ left ∧ HandedOver past done := by
  cases p with
  | ready pending =>
      obtain ⟨done, left, fetched, handed, -⟩ := lines
      exact ⟨done, left, fetched, handed⟩
  | fetching => exact ⟨_, [], (List.append_nil _).symm, lines⟩
  | facing message rest =>
      obtain ⟨done, fetched, handed⟩ := lines
      exact ⟨done, _, fetched, handed⟩
  | within message rest phase =>
      obtain ⟨done, fetched, handed⟩ := lines
      exact ⟨done ++ [message], rest, by simp [fetched], handed⟩
  | leaving => exact lines

theorem Lines.ask {asked : Bool} {past : List Made} {p : Stand φ} (lines : Lines asked past p) :
    Lines true past p := by
  cases p with
  | ready pending =>
      obtain ⟨done, left, fetched, handed, -⟩ := lines
      exact ⟨done, left, fetched, handed, fun asked => by cases asked⟩
  | _ => exact lines

section Kept

variable {past : List Made} {c : Call} {reply : Except Fault c.Reply}

theorem fetched_cons_of_eq (quiet : Made.brings ⟨c, reply⟩ = []) :
    fetched (⟨c, reply⟩ :: past) = fetched past := by
  simp [fetched, gather, quiet]

theorem handed_cons_of_eq (quiet : Made.hands ⟨c, reply⟩ = []) :
    handed (⟨c, reply⟩ :: past) = handed past := by
  simp [handed, gather, quiet]

/-- A call that brings nothing and hands nothing over keeps the line. -/
theorem Lines.quiet {asked : Bool} {p : Stand φ} (lines : Lines asked past p)
    (brings : Made.brings ⟨c, reply⟩ = []) (hands : Made.hands ⟨c, reply⟩ = []) :
    Lines asked (⟨c, reply⟩ :: past) p := by
  cases p <;>
    simpa only [Lines, HandedOver, fetched_cons_of_eq brings, handed_cons_of_eq hands] using lines

/-- Every call keeps the messages in line. -/
theorem Lines.step {asked : Bool} {p q : Stand φ} (lines : Lines asked past p)
    (feeds : Feeds conduct p c reply q) (recalls : Recalls asked ⟨c, reply⟩) :
    Lines asked (⟨c, reply⟩ :: past) q := by
  have kept (brings : Made.brings ⟨c, reply⟩ = []) (hands : Made.hands ⟨c, reply⟩ = []) :
      Lines asked (⟨c, reply⟩ :: past) p := lines.quiet brings hands
  cases feeds with
  | aside pending c aside =>
      exact kept (Made.brings_of_foreign aside.foreign) (Made.hands_of_foreign aside.foreign)
  | leave p c aside =>
      exact (kept (Made.brings_of_foreign aside.foreign)
        (Made.hands_of_foreign aside.foreign)).split
  | forget p fault => exact (kept rfl rfl).split
  | stopping pending memory asks =>
      obtain ⟨done, left, fetched, handed, -⟩ := kept rfl rfl
      have same : memory.stopping = asked := recalls
      refine ⟨done, left, fetched, handed, fun unasked => ?_⟩
      rw [same, unasked] at asks
      cases asks
  | fetch memory unasked =>
      obtain ⟨done, left, fetched, handed, pending⟩ := kept rfl rfl
      have same : memory.stopping = asked := recalls
      cases pending (same ▸ unasked)
      rw [List.append_nil] at fetched
      rw [Lines, fetched]
      exact handed
  | face message rest memory unasked =>
      obtain ⟨done, left, fetched, handed, pending⟩ := kept rfl rfl
      have same : memory.stopping = asked := recalls
      cases pending (same ▸ unasked)
      exact ⟨done, fetched, handed⟩
  | start reply => exact ⟨_, [], (List.append_nil _).symm, kept rfl rfl, fun _ => rfl⟩
  | poll millis limit messages =>
      refine ⟨fetched past, messages, rfl, ?_, fun _ => rfl⟩
      rw [HandedOver, handed_cons_of_eq rfl]
      exact lines
  | unpolled millis limit fault =>
      exact ⟨_, [], (List.append_nil _).symm, kept rfl rfl, fun _ => rfl⟩
  | hand message rest reply =>
      obtain ⟨done, fetched, handed⟩ := lines
      refine ⟨done, ?_, ?_⟩
      · rw [fetched_cons_of_eq rfl, fetched]
      · rw [HandedOver] at handed ⊢
        simp [Feed.handed, gather, Made.hands, ← handed]
  | work message rest p q c reply works =>
      have foreign := conduct.foreign works
      exact kept (Made.brings_of_foreign foreign) (Made.hands_of_foreign foreign)
  | commit message rest p ends reply =>
      obtain ⟨done, fetched, handed⟩ := kept rfl rfl
      exact ⟨done ++ [message], rest, by simp [fetched], handed, fun _ => rfl⟩
  | failure message rest p fault ends =>
      obtain ⟨done, fetched, handed⟩ := kept rfl rfl
      exact ⟨done ++ [message], rest, by simp [fetched], handed, fun _ => rfl⟩
  | uncounted message rest p fault => exact (kept rfl rfl).split

end Kept

end LinkShortener.Feed
