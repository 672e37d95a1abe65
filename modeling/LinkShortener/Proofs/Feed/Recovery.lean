import LinkShortener.Proofs.Click.Table
import LinkShortener.Proofs.Feed.Commit
import LinkShortener.Proofs.Visit.Wire

/-!
The feed over many lives. A topic has messages that are visits with event ids of their own, the
table of clicks keeps one row for each event id, and the bus remembers the positions that were
committed. A feed may be restarted between any two calls; the new one fetches every source from
its committed position on. So a message may be processed many times, and a commit may be lost.

The argument keeps three facts: the rows are those of the messages whose click was stored or
found to be stored; everything below a committed position is among them, hence everything below
the positions that a feed has started from; and a running feed has stored everything that it was
handed before the message it has in hand.

Main statement: `one_row_for_each_processed`.
-/

namespace LinkShortener.Feed

open Routine
open Visit (Progress Brings Takes Ends)

/-! ### The processor -/

/-- The intake of visits as a processor. -/
def intake : Conduct Progress where
  protocol := Takes
  first payload reply :=
    match reply with
    | .ok _ => .reading payload
    | .error _ => .failed
  ends p o := ∃ o' : Except Fault Click, Ends p o' ∧ o = o'.map fun _ => ()
  foreign takes := by
    cases takes with
    | note p call noted | unnoted p call noted => cases noted <;> trivial
    | _ => trivial

theorem suits_intake : intake.Suits (Bench.processor true) := by
  intro payload
  refine ⟨_, rfl, fun reply => ?_⟩
  cases reply with
  | error fault => exact follows_fail.mpr ⟨.error fault, trivial, rfl⟩
  | ok a =>
      change Follows Takes _ (Visit.process .rows payload >>= fun _ => pure ()) _
      refine follows_bind.mpr ((Visit.follows_process payload).mono fun q o ends => ?_)
      cases o with
      | ok click => exact follows_done.mpr ⟨.ok click, ends, rfl⟩
      | error fault => exact follows_fail.mpr ⟨.error fault, ends, rfl⟩

/-! ### Topics -/

/-- A payload is a visit with an event id of its own, whose device can be told. -/
def Describes (payload : List UInt8) (event : String) : Prop :=
  ∃ document, Record.document payload = .ok document ∧ Visit.needsEvent document = false ∧
    ∀ time, ∃ v, Visit.ofJson "" time document = .ok v ∧ v.event = event ∧
      ∃ device, Agent.classify v.agent = .ok device

/-- What is brought by a payload that describes an event is a visit of that event. -/
theorem Describes.brings {payload : List UInt8} {event : String} {time : Moment}
    {read : Record.Checked Visit} (describes : Describes payload event)
    (brings : Brings payload time read) : ∃ v, read = .ok v ∧ v.event = event ∧
      ∃ device, Agent.classify v.agent = .ok device := by
  obtain ⟨document, documented, own, reads⟩ := describes
  obtain ⟨document', fresh, documented', kept, rfl⟩ := brings.reads
  cases documented.symm.trans documented'
  cases kept own
  exact reads time

/-- A payload describes one event. -/
theorem Describes.event_unique {payload : List UInt8} {event event' : String}
    (describes : Describes payload event) (describes' : Describes payload event') :
    event = event' := by
  obtain ⟨document, documented, own, reads⟩ := describes
  obtain ⟨v, read, rfl, -⟩ := reads (Bench.clock 0)
  obtain ⟨v', read', rfl, -⟩ := describes'.brings (⟨document, "", documented, fun _ => rfl, read⟩)
  cases read'
  rfl

/-- The messages of a topic, in the order of their offsets source by source. Each of them
describes a visit, and no two have the same event id. -/
structure Topic where
  messages : List Message
  event : Message → String
  ordered : InOrder messages
  describes : ∀ message ∈ messages, Describes message.payload (event message)
  distinct : (messages.map event).Nodup

namespace Topic

variable {topic : Topic} {m r : Message}

/-- Messages of the same payload are of the same event. -/
theorem event_of_payload (mem : m ∈ topic.messages) (mem' : r ∈ topic.messages)
    (same : m.payload = r.payload) : topic.event m = topic.event r :=
  (topic.describes m mem).event_unique (same ▸ topic.describes r mem')

/-- The messages of a source from a position on, all if there is none. -/
def beyond (topic : Topic) (base : String × Int → Option Int) (place : String × Int) :
    List Message :=
  topic.messages.filter fun m =>
    source m.position = place ∧ ∀ offset ∈ base place, offset ≤ m.position.offset

theorem mem_beyond {base : String × Int → Option Int} {place : String × Int} :
    m ∈ topic.beyond base place ↔ m ∈ topic.messages ∧ source m.position = place ∧
      ∀ offset, base place = some offset → offset ≤ m.position.offset := by
  simp [beyond, Option.mem_def]

/-- What is fetched from the committed positions on: of every source the messages from its
position, without gap. -/
def Serves (topic : Topic) (base : String × Int → Option Int) (messages : List Message) : Prop :=
  ∀ place, messages.filter (source ·.position = place) <+: topic.beyond base place

end Topic

/-! ### Histories -/

/-- The table of clicks, the committed positions, those that the running feed has started from,
the running feed, and all calls that it and the feeds before it have made, the latest first. -/
structure History where
  clicks : Click.Table
  committed : String × Int → Option Int
  base : String × Int → Option Int
  loop : Loop
  past : List Made

/-- The committed positions with another one. -/
def committing (committed : String × Int → Option Int) (position : Position) :
    String × Int → Option Int :=
  fun place => if place = source position then some position.offset else committed place

namespace History

def start (settings : Settings.Consumer) (n : Nat) : History :=
  ⟨.empty, fun _ => none, fun _ => none, Loop.start settings (Bench.processor true) n, []⟩

/-- What can come of a call. The store answers and refuses a click whose event id is taken; a
lookup of a place may fail; a poll brings what comes next or fails; a commit may fail and may
take effect nevertheless. -/
inductive Answers (topic : Topic) (h : History) :
    (c : Call) → Except Fault c.Reply → Click.Table → (String × Int → Option Int) → Prop
  | insert (click : Click) (clicks : Click.Table) (inserted : h.clicks.insert click = .ok clicks) :
      Answers topic h (.database (.insertClick click)) (.ok ()) clicks h.committed
  | refuse (click : Click) (fault : Fault) (refused : h.clicks.insert click = .error fault) :
      Answers topic h (.database (.insertClick click)) (.error fault) h.clicks h.committed
  | connect : Answers topic h (.database .connect) (.ok ()) h.clicks h.committed
  | place (address : String) (place : Place) :
      Answers topic h (.atlas (.locate address)) (.ok place) h.clicks h.committed
  | unplaced (address : String) (why : Unplaced) :
      Answers topic h (.atlas (.locate address)) (.error (.unplaced address why)) h.clicks
        h.committed
  | poll (millis limit : Int) (messages : List Message)
      (next : topic.Serves h.base (fetched h.loop.past ++ messages)) :
      Answers topic h (.consumer (.poll millis limit)) (.ok messages) h.clicks h.committed
  | unpolled (millis limit : Int) (fault : Fault) :
      Answers topic h (.consumer (.poll millis limit)) (.error fault) h.clicks h.committed
  | commit (position : Position) (reply : Except Fault Unit) :
      Answers topic h (.consumer (.commit position)) reply h.clicks
        (committing h.committed position)
  | uncommitted (position : Position) (fault : Fault) :
      Answers topic h (.consumer (.commit position)) (.error fault) h.clicks h.committed
  | start (reply : Except Fault Unit) :
      Answers topic h (.consumer .start) reply h.clicks h.committed
  | stop (reply : Except Fault Unit) :
      Answers topic h (.consumer .stop) reply h.clicks h.committed
  | process (call : ProcessCall) (a : call.Reply) :
      Answers topic h (.process call) (.ok a) h.clicks h.committed

/-- After a call of the running feed. -/
def after (h : History) (c : Call) (reply : Except Fault c.Reply) (rest : Routine Phase)
    (clicks : Click.Table) (committed : String × Int → Option Int) : History :=
  ⟨clicks, committed, h.base, ⟨h.loop.asked, rest, ⟨c, reply⟩ :: h.loop.past⟩,
    ⟨c, reply⟩ :: h.past⟩

/-- One step: the running feed is asked to stop or makes its next call, or it is gone and another
one starts from the committed positions. -/
inductive Steps (topic : Topic) (settings : Settings.Consumer) : History → History → Prop
  | ask (h : History) : Steps topic settings h { h with loop := { h.loop with asked := true } }
  | call (h : History) (c : Call) (next : Except Fault c.Reply → Routine Phase)
      (reply : Except Fault c.Reply) (clicks : Click.Table)
      (committed : String × Int → Option Int) (left : h.loop.rest = .ask c next)
      (recalls : Recalls h.loop.asked ⟨c, reply⟩)
      (answers : Answers topic h c reply clicks committed) :
      Steps topic settings h (h.after c reply (next reply) clicks committed)
  | restart (h : History) (n : Nat) :
      Steps topic settings h ⟨h.clicks, h.committed, h.committed,
        Loop.start settings (Bench.processor true) n, h.past⟩

abbrev Reaches (topic : Topic) (settings : Settings.Consumer) : History → History → Prop :=
  Relation.ReflTransGen (Steps topic settings)

end History

/-! ### What was processed -/

/-- The payload that was handed over last. -/
def atHand? (past : List Made) : Option (List UInt8) := (handed past).getLast?.map Prod.fst

/-- The store took a click or told that it is there. -/
def Made.keeps : Made → Bool
  | ⟨.database (.insertClick _), .ok _⟩ => true
  | ⟨.database (.insertClick _), .error fault⟩ => Visit.tellsRepeated fault
  | _ => false

/-- The payloads that were processed as far as to the store: each was handed over last when the
store took a click or told that it is there. -/
def processed : List Made → List (List UInt8)
  | [] => []
  | made :: past => processed past ++ if made.keeps then (atHand? past).toList else []

section Past

variable {past : List Made} {c : Call} {reply : Except Fault c.Reply} {payload : List UInt8}

theorem processed_mono (made : Made) (mem : payload ∈ processed past) :
    payload ∈ processed (made :: past) :=
  List.mem_append_left _ mem

theorem processed_cons_of_not_keeps {made : Made} (idle : made.keeps = false) :
    processed (made :: past) = processed past := by
  simp [processed, idle]

/-- A call that keeps its click adds the payload at hand to those processed. -/
theorem mem_processed_cons {made : Made} (keeps : made.keeps = true)
    (hand : atHand? past = some payload) {payload' : List UInt8} :
    payload' ∈ processed (made :: past) ↔ payload' ∈ processed past ∨ payload' = payload := by
  simp [processed, keeps, hand]

theorem atHand?_cons_of_hands (hands : Made.hands ⟨c, reply⟩ = []) :
    atHand? (⟨c, reply⟩ :: past) = atHand? past := by
  rw [atHand?, handed_cons_of_eq hands, atHand?]

end Past

/-! ### What holds all along -/

/-- What the intake knows of the message it is about: it reads a visit with the event id of the
message, whose device can be told, and the click it makes has that event id too. -/
def Fits (topic : Topic) (past : List Made) (message : Message) : Progress → Prop
  | .reading payload => payload = message.payload
  | .placing v => v.event = topic.event message ∧ ∃ device, Agent.classify v.agent = .ok device
  | .storing click => click.event = topic.event message
  | .stored _ | .repeated _ => message.payload ∈ processed past
  | .failed => False

/-- What was handed over is processed, but for the message in hand. -/
def Handled (topic : Topic) (past recent : List Made) : Stand Progress → Prop
  | .within message _ phase =>
      atHand? past = some message.payload ∧ Fits topic past message phase ∧
        ∃ payloads, (handed recent).map Prod.fst = payloads ++ [message.payload] ∧
          ∀ payload ∈ payloads, payload ∈ processed past
  | .leaving => True
  | _ => ∀ payload ∈ (handed recent).map Prod.fst, payload ∈ processed past

/-- Everything below the positions was processed. -/
def Below (topic : Topic) (positions : String × Int → Option Int) (past : List Made) : Prop :=
  ∀ m ∈ topic.messages, ∀ offset, positions (source m.position) = some offset →
    m.position.offset < offset → m.payload ∈ processed past

/-- The rows are those of the messages that were processed. -/
structure Mirrors (topic : Topic) (clicks : Click.Table) (past : List Made) : Prop where
  rows : ∀ row ∈ clicks.rows, ∃ m ∈ topic.messages,
    row.event = topic.event m ∧ m.payload ∈ processed past
  kept : ∀ m ∈ topic.messages, m.payload ∈ processed past →
    ∃ row ∈ clicks.rows, row.event = topic.event m

/-- What holds of a history while its feed is in a stand. -/
structure Recovers (topic : Topic) (h : History) (p : Stand Progress) : Prop where
  lines : Lines h.loop.asked h.loop.past p
  serves : topic.Serves h.base (fetched h.loop.past)
  handled : Handled topic h.past h.loop.past p
  mirrors : Mirrors topic h.clicks h.past
  base : Below topic h.base h.past
  committed : Below topic h.committed h.past

section Kept

variable {topic : Topic} {h : History} {past recent : List Made} {p q : Stand Progress}
  {c : Call} {reply : Except Fault c.Reply} {clicks : Click.Table}
  {committed : String × Int → Option Int} {m r : Message}

theorem Below.cons {positions : String × Int → Option Int} (below : Below topic positions past)
    (made : Made) : Below topic positions (made :: past) :=
  fun m mem offset is less => processed_mono made (below m mem offset is less)

theorem Topic.Serves.quiet {base : String × Int → Option Int}
    (serves : topic.Serves base (fetched past)) (brings : Made.brings ⟨c, reply⟩ = []) :
    topic.Serves base (fetched (⟨c, reply⟩ :: past)) := by
  rwa [fetched_cons_of_eq brings]

theorem Mirrors.quiet (mirrors : Mirrors topic clicks past) {made : Made}
    (idle : made.keeps = false) : Mirrors topic clicks (made :: past) := by
  constructor
  · simpa only [processed_cons_of_not_keeps idle] using mirrors.rows
  · simpa only [processed_cons_of_not_keeps idle] using mirrors.kept

/-- A row that is inserted for the message in hand. -/
theorem Mirrors.insert (mirrors : Mirrors topic clicks past) {made : Made} {click : Click}
    {clicks' : Click.Table} (inserted : clicks.insert click = .ok clicks')
    (mem : m ∈ topic.messages) (event : click.event = topic.event m)
    (keeps : made.keeps = true) (hand : atHand? past = some m.payload) :
    Mirrors topic clicks' (made :: past) := by
  obtain ⟨-, rows⟩ := Click.Table.insert_eq_ok.mp inserted
  constructor
  · intro row memRow
    rw [rows, List.mem_append, List.mem_singleton] at memRow
    rcases memRow with memRow | rfl
    · obtain ⟨r, memR, same, done⟩ := mirrors.rows row memRow
      exact ⟨r, memR, same, processed_mono made done⟩
    · exact ⟨m, mem, event, (mem_processed_cons keeps hand).mpr (.inr rfl)⟩
  · intro r memR done
    rw [rows]
    rcases (mem_processed_cons keeps hand).mp done with done | same
    · obtain ⟨row, memRow, same⟩ := mirrors.kept r memR done
      exact ⟨row, List.mem_append_left _ memRow, same⟩
    · refine ⟨click, List.mem_append_right _ List.mem_cons_self, ?_⟩
      rw [event, topic.event_of_payload mem memR same.symm]

/-- A click that is refused for the message in hand is there. -/
theorem Mirrors.refuse (mirrors : Mirrors topic clicks past) {made : Made} {click : Click}
    {fault : Fault} (refused : clicks.insert click = .error fault)
    (mem : m ∈ topic.messages) (event : click.event = topic.event m)
    (keeps : made.keeps = true) (hand : atHand? past = some m.payload) :
    Mirrors topic clicks (made :: past) := by
  obtain ⟨⟨taken, memTaken, same⟩, -⟩ := Click.Table.insert_eq_error refused
  constructor
  · intro row memRow
    obtain ⟨r, memR, same, done⟩ := mirrors.rows row memRow
    exact ⟨r, memR, same, processed_mono made done⟩
  · intro r memR done
    rcases (mem_processed_cons keeps hand).mp done with done | payload
    · exact mirrors.kept r memR done
    · refine ⟨taken, memTaken, ?_⟩
      rw [same, event, topic.event_of_payload mem memR payload.symm]

theorem Fits.cons {phase : Progress} (fits : Fits topic past m phase) (made : Made) :
    Fits topic (made :: past) m phase := by
  cases phase with
  | stored click | repeated click => exact processed_mono made fits
  | _ => exact fits

/-- A call that hands nothing over and keeps no click changes nothing about what was handled. -/
theorem Handled.quiet (handled : Handled topic past recent p)
    (hands : Made.hands ⟨c, reply⟩ = []) :
    Handled topic (⟨c, reply⟩ :: past) (⟨c, reply⟩ :: recent) p := by
  cases p with
  | leaving => trivial
  | within message rest phase =>
      obtain ⟨hand, fits, payloads, same, done⟩ := handled
      refine ⟨?_, fits.cons _, payloads, ?_, fun payload mem => processed_mono _ (done payload mem)⟩
      · rw [atHand?_cons_of_hands hands, hand]
      · rw [handed_cons_of_eq hands, same]
  | _ =>
      intro payload mem
      rw [handed_cons_of_eq hands] at mem
      exact processed_mono _ (handled payload mem)

/-- What the intake goes on to while it has a message in hand. -/
theorem Handled.goes {rest : List Message} {phase phase' : Progress}
    (handled : Handled topic past recent (.within m rest phase))
    (hands : Made.hands ⟨c, reply⟩ = []) (fits : Fits topic (⟨c, reply⟩ :: past) m phase') :
    Handled topic (⟨c, reply⟩ :: past) (⟨c, reply⟩ :: recent) (.within m rest phase') := by
  obtain ⟨hand, -, payloads, same, done⟩ := handled.quiet hands
  exact ⟨hand, fits, payloads, same, done⟩

theorem mem_topic {base : String × Int → Option Int} {messages : List Message}
    (serves : topic.Serves base messages) (mem : m ∈ messages) : m ∈ topic.messages := by
  have among := (serves (source m.position)).subset
    (List.mem_filter.mpr ⟨mem, by simp⟩)
  exact (Topic.mem_beyond.mp among).1

/-- Of the messages of a source from the starting position on, those up to one that was fetched
were fetched before it. -/
theorem mem_of_le {base : String × Int → Option Int} {done rest : List Message}
    (serves : topic.Serves base (done ++ m :: rest))
    (mem : r ∈ topic.beyond base (source m.position))
    (le : r.position.offset ≤ m.position.offset) : r ∈ done ++ [m] := by
  have place := (Topic.mem_beyond.mp mem).2.1
  have ordered : InOrder (topic.beyond base (source m.position)) := topic.ordered.filter _
  obtain ⟨more, split⟩ := serves (source m.position)
  rw [List.filter_append, List.filter_cons_of_pos (by simp), List.append_assoc,
    List.cons_append] at split
  rw [← split] at mem ordered
  rcases List.mem_append.mp mem with early | late
  · exact List.mem_append_left _ (List.mem_filter.mp early).1
  rcases List.mem_cons.mp late with rfl | late
  · simp
  · have later := (List.pairwise_cons.mp (List.pairwise_append.mp ordered).2.1).1 r late place.symm
    omega

/-- Once the message in hand is processed, everything below the position after it is. -/
theorem Below.commit {rest : List Message} {phase : Progress}
    (below : Below topic committed h.past) (recovers : Recovers topic h (.within m rest phase))
    (stored : m.payload ∈ processed h.past) :
    Below topic (committing committed (next m)) h.past := by
  intro r mem offset is less
  unfold committing at is
  split at is
  · rename_i place
    cases is
    obtain ⟨-, -, payloads, same, done⟩ := recovers.handled
    obtain ⟨before, fetched, handed⟩ := recovers.lines
    by_cases early : ∃ offset, h.base (source m.position) = some offset ∧ r.position.offset < offset
    · obtain ⟨offset, is, less⟩ := early
      exact recovers.base r mem offset (place ▸ is) less
    · have beyond : r ∈ topic.beyond h.base (source m.position) := by
        refine Topic.mem_beyond.mpr ⟨mem, place, fun offset is => ?_⟩
        by_contra above
        exact early ⟨offset, is, by omega⟩
      have serves := recovers.serves
      rw [fetched] at serves
      have le : r.position.offset ≤ m.position.offset := by
        simp only [next] at less
        omega
      rcases List.mem_append.mp (mem_of_le serves beyond le) with mem | mem
      · have line : payloads = before.map Message.payload := by
          refine List.append_cancel_right (same.symm.trans (handed.trans ?_))
          simp
        exact done _ (line ▸ List.mem_map_of_mem mem)
      · rw [List.mem_singleton.mp mem]
        exact stored
  · exact below r mem offset is less

/-- Calls that neither insert nor commit leave the clicks and the commits alone. -/
theorem still_of_answers (answers : History.Answers topic h c reply clicks committed)
    (inserts : ∀ click, c ≠ .database (.insertClick click))
    (commits : ∀ position, c ≠ .consumer (.commit position)) :
    clicks = h.clicks ∧ committed = h.committed := by
  cases answers with
  | insert click | refuse click => exact absurd rfl (inserts click)
  | commit position | uncommitted position => exact absurd rfl (commits position)
  | _ => exact ⟨rfl, rfl⟩

theorem keeps_eq_false (inserts : ∀ click, c ≠ .database (.insertClick click)) :
    Made.keeps ⟨c, reply⟩ = false := by
  unfold Made.keeps
  split
  · rename_i same
    cases same
    exact absurd rfl (inserts _)
  · rename_i same
    cases same
    exact absurd rfl (inserts _)
  · rfl

/-- A call that fetches nothing, hands nothing over, stores nothing and commits nothing leaves
everything as it was but for the stand of the feed. -/
theorem Recovers.quiet (recovers : Recovers topic h p) {rest : Routine Phase}
    (lines : Lines h.loop.asked (⟨c, reply⟩ :: h.loop.past) q)
    (handled : Handled topic (⟨c, reply⟩ :: h.past) (⟨c, reply⟩ :: h.loop.past) q)
    (brings : Made.brings ⟨c, reply⟩ = [])
    (answers : History.Answers topic h c reply clicks committed)
    (inserts : ∀ click, c ≠ .database (.insertClick click))
    (commits : ∀ position, c ≠ .consumer (.commit position)) :
    Recovers topic (h.after c reply rest clicks committed) q := by
  obtain ⟨rfl, rfl⟩ := still_of_answers answers inserts commits
  exact ⟨lines, recovers.serves.quiet brings, handled,
    recovers.mirrors.quiet (keeps_eq_false inserts), recovers.base.cons _,
    recovers.committed.cons _⟩

/-- While a message is in hand, a call of the intake keeps what holds. -/
theorem Recovers.work {rest : List Message} {phase phase' : Progress} {left : Routine Phase}
    (recovers : Recovers topic h (.within m rest phase)) (takes : Takes phase c reply phase')
    (lines : Lines h.loop.asked (⟨c, reply⟩ :: h.loop.past) (.within m rest phase'))
    (answers : History.Answers topic h c reply clicks committed) :
    Recovers topic (h.after c reply left clicks committed) (.within m rest phase') := by
  have foreign := intake.foreign takes
  have brings : Made.brings ⟨c, reply⟩ = [] := Made.brings_of_foreign foreign
  have hands : Made.hands ⟨c, reply⟩ = [] := Made.hands_of_foreign foreign
  have mem : m ∈ topic.messages := by
    obtain ⟨before, fetched, -⟩ := recovers.lines
    exact mem_topic recovers.serves (fetched ▸ by simp)
  have describes := topic.describes m mem
  have handled : Handled topic h.past h.loop.past (.within m rest phase) := recovers.handled
  obtain ⟨hand, fits, -⟩ := recovers.handled
  have serves := recovers.serves.quiet brings
  -- A click that is not to be stored yet is a matter of the stand alone.
  have quiet (inserts : ∀ click, c ≠ .database (.insertClick click))
      (fits : Fits topic (⟨c, reply⟩ :: h.past) m phase') :
      Recovers topic (h.after c reply left clicks committed) (.within m rest phase') := by
    refine recovers.quiet lines (handled.goes hands fits) brings answers inserts ?_
    rintro position rfl
    exact foreign
  cases takes with
  | note p call noted a =>
      refine quiet ?_ (fits.cons _)
      simp
  | unnoted | unnamed | untimed | conflicted | unconnected => cases answers
  | name payload event => exact quiet (by simp) fits
  | read payload time v brings =>
      cases fits
      obtain ⟨v', read, event, device⟩ := describes.brings brings
      cases read
      exact quiet (by simp) ⟨event, device⟩
  | refuse payload time flaws brings =>
      cases fits
      obtain ⟨v', read, -⟩ := describes.brings brings
      cases read
  | place v place device classified => exact quiet (by simp) fits.1
  | unplace v fault device absorbed classified => exact quiet (by simp) fits.1
  | unlocated v fault passes =>
      cases answers
      exact absurd rfl passes
  | unclassified v reply flaw unclassified =>
      obtain ⟨-, device, classified⟩ := fits
      rw [unclassified] at classified
      cases classified
  | connect click => exact quiet (by simp) fits
  | insert click =>
      cases answers with
      | insert _ _ inserted =>
          refine ⟨lines, serves, handled.goes hands ?_,
            recovers.mirrors.insert inserted mem fits rfl hand, recovers.base.cons _,
            recovers.committed.cons _⟩
          exact (mem_processed_cons rfl hand).mpr (.inr rfl)
  | skip click fault repeats =>
      cases answers with
      | refuse _ _ refused =>
          have keeps : Made.keeps ⟨.database (.insertClick click), .error fault⟩ = true := repeats
          refine ⟨lines, serves, handled.goes hands ?_,
            recovers.mirrors.refuse refused mem fits keeps hand, recovers.base.cons _,
            recovers.committed.cons _⟩
          exact (mem_processed_cons keeps hand).mpr (.inr rfl)
  | uninserted click fault fails =>
      cases answers with
      | refuse _ _ refused =>
          obtain ⟨-, rfl⟩ := Click.Table.insert_eq_error refused
          cases fails

/-- The processor fails for no message of a topic. -/
theorem not_ends_error {rest : List Message} {phase : Progress} {fault : Fault}
    (recovers : Recovers topic h (.within m rest phase)) :
    ¬ intake.ends phase (.error fault) := by
  rintro ⟨o, ends, failed⟩
  obtain ⟨-, fits, -⟩ := recovers.handled
  cases o with
  | ok click => cases failed
  | error fault =>
      cases phase with
      | failed => exact fits
      | reading payload =>
          obtain ⟨flaws, flawed⟩ := ends
          obtain ⟨before, fetched, -⟩ := recovers.lines
          have mem : m ∈ topic.messages := mem_topic recovers.serves (fetched ▸ by simp)
          obtain ⟨document, documented, -⟩ := topic.describes m mem
          cases fits
          rw [flawed] at documented
          cases documented
      | _ => exact ends

/-- Where the processor has succeeded, the message in hand is processed. -/
theorem mem_processed_of_ends {rest : List Message} {phase : Progress}
    (recovers : Recovers topic h (.within m rest phase)) (ends : intake.ends phase (.ok ())) :
    m.payload ∈ processed h.past := by
  obtain ⟨o, ends, succeeded⟩ := ends
  obtain ⟨-, fits, -⟩ := recovers.handled
  cases o with
  | error fault => cases succeeded
  | ok click =>
      cases phase with
      | stored _ | repeated _ => exact fits
      | _ => exact ends.elim

/-- Every call keeps what holds of a history. -/
theorem Recovers.step {rest : Routine Phase} (recovers : Recovers topic h p)
    (feeds : Feeds intake p c reply q) (recalls : Recalls h.loop.asked ⟨c, reply⟩)
    (answers : History.Answers topic h c reply clicks committed) :
    Recovers topic (h.after c reply rest clicks committed) q := by
  have lines := recovers.lines.step feeds recalls
  have handled := recovers.handled
  cases feeds with
  | aside pending c aside =>
      refine recovers.quiet lines (handled.quiet (Made.hands_of_foreign aside.foreign))
        (Made.brings_of_foreign aside.foreign) answers ?_ ?_
      · cases aside <;> simp
      · cases aside <;> simp
  | leave p c aside =>
      refine recovers.quiet lines trivial (Made.brings_of_foreign aside.foreign) answers ?_ ?_
      · cases aside <;> simp
      · cases aside <;> simp
  | forget | uncounted => cases answers
  | stopping | fetch | face =>
      exact recovers.quiet lines (handled.quiet (p := .ready _) rfl) rfl answers (by simp) (by simp)
  | start | unpolled =>
      exact recovers.quiet lines (handled.quiet rfl) rfl answers (by simp) (by simp)
  | poll millis limit messages =>
      cases answers with
      | poll _ _ _ serves =>
          exact ⟨lines, serves, handled.quiet (p := .ready _) rfl, recovers.mirrors.quiet rfl,
            recovers.base.cons _, recovers.committed.cons _⟩
  | hand message rest reply =>
      cases answers with
      | process _ a =>
          refine ⟨lines, recovers.serves.quiet rfl, ⟨?_, rfl, ?_⟩, recovers.mirrors.quiet rfl,
            recovers.base.cons _, recovers.committed.cons _⟩
          · simp [atHand?, Feed.handed, gather, Made.hands, History.after]
          · refine ⟨(handed h.loop.past).map Prod.fst, ?_, fun payload mem => ?_⟩
            · simp [Feed.handed, gather, Made.hands, History.after]
            · exact processed_mono _ (handled payload mem)
  | work message rest p' q' c reply works => exact recovers.work works lines answers
  | commit message rest p ends reply =>
      have stored := mem_processed_of_ends recovers ends
      have below : Below topic committed h.past := by
        cases answers with
        | commit => exact recovers.committed.commit recovers stored
        | uncommitted => exact recovers.committed
      obtain rfl : clicks = h.clicks := by cases answers <;> rfl
      obtain ⟨-, -, payloads, same, done⟩ := handled
      refine ⟨lines, recovers.serves.quiet rfl, fun payload mem => ?_,
        recovers.mirrors.quiet rfl, recovers.base.cons _, below.cons _⟩
      refine processed_mono _ ?_
      have hands : Made.hands ⟨.consumer (.commit (next message)), reply⟩ = [] := rfl
      rw [History.after, handed_cons_of_eq hands, same] at mem
      rcases List.mem_append.mp mem with mem | mem
      · exact done payload mem
      · rw [List.mem_singleton.mp mem]
        exact stored
  | failure message rest p fault ends => exact absurd ends (not_ends_error recovers)

/-- A feed that starts from the committed positions has fetched nothing yet. -/
theorem Recovers.restart {settings : Settings.Consumer} (recovers : Recovers topic h p) (n : Nat) :
    Recovers topic ⟨h.clicks, h.committed, h.committed,
      Loop.start settings (Bench.processor true) n, h.past⟩ (.ready []) where
  lines := ⟨[], [], rfl, rfl, fun _ => rfl⟩
  serves _ := List.nil_prefix
  handled _ mem := absurd mem List.not_mem_nil
  mirrors := recovers.mirrors
  base := recovers.committed
  committed := recovers.committed

/-- A feed that starts recovers from nothing. -/
theorem recovers_start (settings : Settings.Consumer) (n : Nat) :
    Recovers topic (History.start settings n) (.ready []) where
  lines := ⟨[], [], rfl, rfl, fun _ => rfl⟩
  serves _ := List.nil_prefix
  handled _ mem := absurd mem List.not_mem_nil
  mirrors := ⟨fun _ mem => absurd mem List.not_mem_nil, fun _ _ mem => absurd mem List.not_mem_nil⟩
  base _ _ _ is := by cases is
  committed _ _ _ is := by cases is

theorem Recovers.ask (recovers : Recovers topic h p) :
    Recovers topic { h with loop := { h.loop with asked := true } } p :=
  { recovers with lines := recovers.lines.ask }

/-- In every history the running feed is in some stand, and what holds of it holds. -/
theorem recovers_of_reaches {settings : Settings.Consumer} {n : Nat}
    (reaches : History.Reaches topic settings (History.start settings n) h) :
    ∃ p, Follows (Feeds intake) Leaves h.loop.rest p ∧ Recovers topic h p := by
  induction reaches with
  | refl => exact ⟨.ready [], follows_turns suits_intake n rfl, recovers_start settings n⟩
  | tail _ steps ih =>
      obtain ⟨p, follows, recovers⟩ := ih
      cases steps with
      | ask => exact ⟨p, follows, recovers.ask⟩
      | restart n => exact ⟨.ready [], follows_turns suits_intake n rfl, recovers.restart n⟩
      | call c next reply clicks committed left recalls answers =>
          rw [left] at follows
          obtain ⟨q, feeds, rest⟩ := follows_ask.mp follows reply
          exact ⟨q, rest, recovers.step feeds recalls answers⟩

/-- Each processed message has its row, and there is no other. -/
theorem Mirrors.perm (mirrors : Mirrors topic clicks past) :
    (clicks.rows.map (·.event)).Perm
      ((topic.messages.filter (·.payload ∈ processed past)).map topic.event) := by
  refine (List.perm_ext_iff_of_nodup ?_ ?_).mpr fun event => ?_
  · exact List.pairwise_map.mpr clicks.apart
  · exact topic.distinct.sublist (List.filter_sublist.map _)
  · simp only [List.mem_map, List.mem_filter, decide_eq_true_eq]
    constructor
    · rintro ⟨row, mem, rfl⟩
      obtain ⟨m, memM, same, done⟩ := mirrors.rows row mem
      exact ⟨m, ⟨memM, done⟩, same.symm⟩
    · rintro ⟨m, ⟨memM, done⟩, rfl⟩
      exact mirrors.kept m memM done

end Kept

/-- In every history of feeds over a topic the table of clicks has one row for each message that
was processed, and no other; every message below a committed position has its row. -/
theorem one_row_for_each_processed {topic : Topic} {settings : Settings.Consumer} {n : Nat}
    {h : History} (reaches : History.Reaches topic settings (History.start settings n) h) :
    (h.clicks.rows.map (·.event)).Perm
        ((topic.messages.filter (·.payload ∈ processed h.past)).map topic.event) ∧
      ∀ m ∈ topic.messages, ∀ offset, h.committed (source m.position) = some offset →
        m.position.offset < offset → ∃ row ∈ h.clicks.rows, row.event = topic.event m := by
  obtain ⟨p, -, recovers⟩ := recovers_of_reaches reaches
  refine ⟨recovers.mirrors.perm, fun m mem offset is less => ?_⟩
  exact recovers.mirrors.kept m mem (recovers.committed m mem offset is less)

/-! ### A feed that is gone before it commits -/

/-- The message of a visit describes it, if its device can be told. -/
theorem describes_payload (v : Visit) {device : Device}
    (classified : Agent.classify v.agent = .ok device) : Describes v.payload v.event :=
  ⟨v.toJson, v.document_payload, rfl, fun time =>
    ⟨v, v.ofJson_toJson "" time, rfl, device, classified⟩⟩

/-- A call of the running feed is a step of a history. -/
theorem History.Reaches.call {topic : Topic} {settings : Settings.Consumer} {h' : History}
    {clicks clicks' : Click.Table} {committed committed' base : String × Int → Option Int}
    {asked : Bool} {rest : Routine Phase} {recent past : List Made}
    {c : Call} {next : Except Fault c.Reply → Routine Phase} {reply : Except Fault c.Reply}
    (left : rest = .ask c next)
    (answers : History.Answers topic ⟨clicks, committed, base, ⟨asked, rest, recent⟩, past⟩ c reply
      clicks' committed')
    (recalls : Recalls asked ⟨c, reply⟩)
    (reaches : History.Reaches topic settings ⟨clicks', committed', base,
      ⟨asked, next reply, ⟨c, reply⟩ :: recent⟩, ⟨c, reply⟩ :: past⟩ h') :
    History.Reaches topic settings ⟨clicks, committed, base, ⟨asked, rest, recent⟩, past⟩ h' :=
  .head (.call _ c next reply clicks' committed' left recalls answers) reaches

/-- An incarnation may start wherever the one before it has come to. -/
theorem History.Reaches.restart {topic : Topic} {settings : Settings.Consumer} {h' : History}
    {clicks : Click.Table} {committed base : String × Int → Option Int} {loop : Loop}
    {past : List Made} (n : Nat)
    (reaches : History.Reaches topic settings ⟨clicks, committed, committed,
      Loop.start settings (Bench.processor true) n, past⟩ h') :
    History.Reaches topic settings ⟨clicks, committed, base, loop, past⟩ h' :=
  .head (.restart _ n) reaches

/-- A visit by a caller of whom nothing is known. -/
def loneVisit : Visit := ⟨"e", "t", Bench.clock 0, "", "", ""⟩

/-- The topic with the message of this visit. -/
def loneTopic : Topic where
  messages := [⟨⟨"visits", 0, 0⟩, loneVisit.payload⟩]
  event _ := loneVisit.event
  ordered := List.pairwise_singleton _ _
  describes m mem := by
    rw [List.mem_singleton.mp mem]
    exact describes_payload loneVisit rfl
  distinct := by simp

/-- The processor as far as it goes with the message of a visit. -/
def taking (v : Visit) : Processor := fun _ => do
  call (.process (.handOff v.payload))
  let _ ← now
  let _ ← v.takeIn
  return ()

/-- Handling the payload of a visit is handling that visit. -/
theorem advance_payload (settings : Settings.Consumer) (v : Visit) (position : Position)
    (rest : List Message) :
    advance settings (Bench.processor true) (.handling (⟨position, v.payload⟩ :: rest)) =
      advance settings (taking v) (.handling (⟨position, v.payload⟩ :: rest)) := by
  have same : Bench.processor true v.payload = taking v v.payload := by
    simp only [Bench.processor, taking, ↓reduceIte, Visit.process_payload, bind_assoc]
  rw [advance, advance, handle, handle, same]

theorem Topic.serves_all (topic : Topic) : topic.Serves (fun _ => none) topic.messages := by
  intro place
  simp [beyond]

/-- The first feed is gone after the click was stored; the next one is handed the message again,
finds the click stored and commits. -/
theorem crash_before_commit : ∃ h, History.Reaches loneTopic {} (History.start {} 5) h ∧
    processed h.past = [loneVisit.payload, loneVisit.payload] ∧
    (h.clicks.rows.map (·.event)).Perm
      ((loneTopic.messages.filter (·.payload ∈ processed h.past)).map loneTopic.event) ∧
    h.committed ("visits", 0) = some 1 ∧ ∃ row ∈ h.clicks.rows, row.event = "e" := by
  have taken := congrArg (· >>= turns {} (Bench.processor true) 2)
    (advance_payload {} loneVisit ⟨"visits", 0, 0⟩ [])
  obtain ⟨h, reaches, twice, committed⟩ : ∃ h,
      History.Reaches loneTopic {} (History.start {} 5) h ∧
        processed h.past = [loneVisit.payload, loneVisit.payload] ∧
        h.committed ("visits", 0) = some 1 := by
    refine Exists.intro ?h (And.intro ?reaches (And.intro ?twice ?committed))
    case reaches =>
      refine .call rfl (.process .recollect {}) rfl ?_
      refine .call rfl (.start (.ok ())) trivial ?_
      refine .call rfl (.process _ ()) trivial ?_
      refine .call rfl (.process .recollect {}) rfl ?_
      refine .call rfl (.poll _ _ _ loneTopic.serves_all) trivial ?_
      refine .call taken (.process .recollect {}) rfl ?_
      refine .call rfl (.process _ ()) trivial ?_
      refine .call rfl (.process _ (Bench.clock 0)) trivial ?_
      refine .call rfl (.place _ .nowhere) trivial ?_
      refine .call rfl .connect trivial ?_
      refine .call rfl (.insert _ _ rfl) trivial ?_
      refine .restart 5 ?_
      refine .call rfl (.process .recollect {}) rfl ?_
      refine .call rfl (.start (.ok ())) trivial ?_
      refine .call rfl (.process _ ()) trivial ?_
      refine .call rfl (.process .recollect {}) rfl ?_
      refine .call rfl (.poll _ _ _ loneTopic.serves_all) trivial ?_
      refine .call taken (.process .recollect {}) rfl ?_
      refine .call rfl (.process _ ()) trivial ?_
      refine .call rfl (.process _ (Bench.clock 0)) trivial ?_
      refine .call rfl (.unplaced _ (.malformed "")) trivial ?_
      refine .call rfl (.process _ ()) trivial ?_
      refine .call rfl .connect trivial ?_
      refine .call rfl (.refuse _ _ rfl) trivial ?_
      refine .call rfl (.process _ ()) trivial ?_
      refine .call rfl (.process _ ()) trivial ?_
      refine .call rfl (.process _ ()) trivial ?_
      refine .call rfl (.commit _ (.ok ())) trivial ?_
      exact .refl
    case twice => rfl
    case committed => rfl
  obtain ⟨rows, below⟩ := one_row_for_each_processed reaches
  refine ⟨h, reaches, twice, rows, committed, ?_⟩
  exact below _ List.mem_cons_self 1 committed (by decide)

end LinkShortener.Feed
