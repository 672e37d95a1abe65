import LinkShortener.Proofs.Feed.Loop

/-!
What the feed commits. Its processor may do anything with a payload that it is handed and may
fail with any fault; the bus may fail at any call. A position is committed directly after the
message before it was processed, and by then everything that was fetched up to that message has
been handed over, one after the other. So where messages of a source are fetched in the order of
their offsets, a commit never passes over a message that was not handled.

Main statement: `commits_follow_processing`.
-/

namespace LinkShortener.Feed

open Routine

/-! ### The processor -/

/-- A processor outside of the service, which makes no further call of the feed's. -/
def outside : Conduct (Except Fault Unit) where
  protocol _ _ _ _ := False
  first _ reply := reply
  ends p o := p = o
  foreign := False.elim

theorem suits_outside : outside.Suits (Bench.processor false) := by
  intro payload
  refine ⟨_, rfl, fun reply => ?_⟩
  cases reply with
  | ok a => exact follows_done.mpr rfl
  | error fault => exact follows_fail.mpr rfl

/-! ### Commits that are earned -/

/-- Where a message came from. -/
def source (position : Position) : String × Int := (position.topic, position.partition)

/-- Messages of one source are in the order of their offsets. -/
def InOrder (messages : List Message) : Prop :=
  messages.Pairwise fun a b =>
    source a.position = source b.position → a.position.offset < b.position.offset

instance (messages : List Message) : Decidable (InOrder messages) := by
  unfold InOrder
  infer_instance

/-- Every failure to process is counted in the next call. -/
def Counted (past : List Made) : Prop :=
  ∀ payload fault older, ⟨.process (.handOff payload), .error fault⟩ :: older <:+ past →
    ⟨.process (.count (.feedFailures .process)), .ok ()⟩ ::
      ⟨.process (.handOff payload), .error fault⟩ :: older <:+ past

/-- What was done before a position is committed: the last call has processed the message before
the position. It and the messages fetched before it were handed over, and each failure among
them was counted. -/
structure Earned (position : Position) (earlier : List Made) (before : List Message)
    (message : Message) (after : List Message) : Prop where
  next : position = next message
  fetched : fetched earlier = before ++ message :: after
  handed : HandedOver earlier (before ++ [message])
  succeeded : ∃ older, earlier = ⟨.process (.handOff message.payload), .ok ()⟩ :: older
  counted : Counted earlier

/-- What is known of the commits of a past: each was earned, and by another message than those
before it. -/
def Deserved (past : List Made) : Prop :=
  ∀ position reply earlier, ⟨.consumer (.commit position), reply⟩ :: earlier <:+ past →
    (∃ before message after, Earned position earlier before message after) ∧
    ∀ position' reply' older, ⟨.consumer (.commit position'), reply'⟩ :: older <:+ earlier →
      (handed older).length < (handed earlier).length

/-- How much is handed over that was not committed or counted yet. -/
def Stand.due {φ : Type} : Stand φ → Nat
  | .within _ _ _ => 1
  | _ => 0

/-- A failure that is not counted yet is the last thing that has happened. -/
def Verdict (past : List Made) : Stand (Except Fault Unit) → Prop
  | .within message _ reply =>
      ∃ older, past = ⟨.process (.handOff message.payload), reply⟩ :: older ∧ Counted older
  | .leaving => True
  | _ => Counted past

/-- What holds of a feed: its messages are in line, failures are counted, commits are deserved,
and what is due was handed over after the last commit. -/
structure Orderly (asked : Bool) (past : List Made) (p : Stand (Except Fault Unit)) : Prop where
  lines : Lines asked past p
  verdict : Verdict past p
  deserved : Deserved past
  due : ∀ position reply earlier, ⟨.consumer (.commit position), reply⟩ :: earlier <:+ past →
    (handed earlier).length + p.due ≤ (handed past).length

variable {asked : Bool} {past : List Made} {c : Call} {reply : Except Fault c.Reply}
  {p q : Stand (Except Fault Unit)}

theorem Counted.cons (counted : Counted past)
    (hands : ∀ payload fault, (⟨c, reply⟩ : Made) ≠ ⟨.process (.handOff payload), .error fault⟩) :
    Counted (⟨c, reply⟩ :: past) := by
  intro payload fault older suffix
  rcases List.suffix_cons_iff.mp suffix with same | suffix
  · cases same
    exact absurd rfl (hands payload fault)
  · exact (counted payload fault older suffix).trans (List.suffix_cons _ _)

theorem Counted.of_hands (counted : Counted past) (hands : Made.hands ⟨c, reply⟩ = []) :
    Counted (⟨c, reply⟩ :: past) := by
  refine counted.cons fun payload fault same => ?_
  rw [same] at hands
  cases hands

theorem Counted.of_ok (counted : Counted past) (payload : List UInt8) :
    Counted (⟨.process (.handOff payload), .ok ()⟩ :: past) :=
  counted.cons fun _ _ same => by cases same

/-- A failure is counted in the next call. -/
theorem Counted.of_count (counted : Counted past) (payload : List UInt8) (fault : Fault) :
    Counted (⟨.process (.count (.feedFailures .process)), .ok ()⟩ ::
      ⟨.process (.handOff payload), .error fault⟩ :: past) := by
  intro payload' fault' older suffix
  rcases List.suffix_cons_iff.mp suffix with same | suffix
  · cases same
  rcases List.suffix_cons_iff.mp suffix with same | suffix
  · cases same
    exact List.suffix_refl _
  · refine (counted payload' fault' older suffix).trans ?_
    exact (List.suffix_cons _ _).trans (List.suffix_cons _ _)

/-- A call that commits nothing leaves the commits as they are. -/
theorem Deserved.quiet (deserved : Deserved past) (commits : Made.commits ⟨c, reply⟩ = []) :
    Deserved (⟨c, reply⟩ :: past) := by
  intro position reply' earlier suffix
  rcases List.suffix_cons_iff.mp suffix with same | suffix
  · cases same
    cases commits
  · exact deserved position reply' earlier suffix

/-- A commit that is earned, after more was handed over than before the earlier commits. -/
theorem Deserved.commit (deserved : Deserved past) {position : Position}
    {reply : Except Fault Unit} {before after : List Message} {message : Message}
    (earned : Earned position past before message after)
    (fresh : ∀ position' reply' older, ⟨.consumer (.commit position'), reply'⟩ :: older <:+ past →
      (handed older).length < (handed past).length) :
    Deserved (⟨.consumer (.commit position), reply⟩ :: past) := by
  intro position' reply' earlier suffix
  rcases List.suffix_cons_iff.mp suffix with same | suffix
  · cases same
    exact ⟨⟨before, message, after, earned⟩, fresh⟩
  · exact deserved position' reply' earlier suffix

theorem handed_length_le (past : List Made) (made : Made) :
    (handed past).length ≤ (handed (made :: past)).length := by
  simp [handed, gather]

/-- A call that commits nothing and hands nothing over keeps what is due in place, if no more
is due after it. -/
theorem Orderly.quiet (orderly : Orderly asked past p) (lines : Lines asked (⟨c, reply⟩ :: past) q)
    (verdict : Verdict (⟨c, reply⟩ :: past) q) (due : q.due ≤ p.due)
    (commits : Made.commits ⟨c, reply⟩ = []) : Orderly asked (⟨c, reply⟩ :: past) q where
  lines := lines
  verdict := verdict
  deserved := orderly.deserved.quiet commits
  due := by
    intro position reply' earlier suffix
    rcases List.suffix_cons_iff.mp suffix with same | suffix
    · cases same
      cases commits
    · have before := orderly.due position reply' earlier suffix
      have more := handed_length_le past ⟨c, reply⟩
      omega

/-- Every call keeps the feed orderly. -/
theorem Orderly.step (orderly : Orderly asked past p) (feeds : Feeds outside p c reply q)
    (recalls : Recalls asked ⟨c, reply⟩) : Orderly asked (⟨c, reply⟩ :: past) q := by
  have lines := orderly.lines.step feeds recalls
  have verdict := orderly.verdict
  cases feeds with
  | aside pending c aside =>
      exact orderly.quiet lines (Counted.of_hands verdict (Made.hands_of_foreign aside.foreign))
        (Nat.le_refl _) (Made.commits_of_foreign aside.foreign)
  | leave p c aside =>
      exact orderly.quiet lines trivial (Nat.zero_le _) (Made.commits_of_foreign aside.foreign)
  | forget | uncounted => exact orderly.quiet lines trivial (Nat.zero_le _) rfl
  | stopping | fetch | face | start | poll | unpolled =>
      exact orderly.quiet lines (Counted.of_hands verdict rfl) (Nat.le_refl _) rfl
  | hand message rest reply =>
      refine ⟨lines, ⟨past, rfl, verdict⟩, orderly.deserved.quiet rfl, ?_⟩
      intro position reply' earlier suffix
      rcases List.suffix_cons_iff.mp suffix with same | suffix
      · cases same
      · have before := orderly.due position reply' earlier suffix
        simp only [handed, gather, Made.hands, List.length_append, List.length_singleton,
          Stand.due] at before ⊢
        omega
  | work message rest p q c reply works => exact works.elim
  | commit message rest p ends reply =>
      cases ends
      obtain ⟨older, same, counted⟩ := verdict
      obtain ⟨done, fetched, handed⟩ := orderly.lines
      have earned : Earned (next message) past done message rest :=
        ⟨rfl, fetched, handed, ⟨older, same⟩, same ▸ counted.of_ok _⟩
      refine ⟨lines, earned.counted.of_hands rfl, orderly.deserved.commit earned orderly.due, ?_⟩
      intro position reply' earlier suffix
      have more := handed_length_le past ⟨.consumer (.commit (next message)), reply⟩
      rcases List.suffix_cons_iff.mp suffix with same | suffix
      · cases same
        exact more
      · have before := orderly.due position reply' earlier suffix
        simp only [Stand.due] at before ⊢
        omega
  | failure message rest p fault ends =>
      cases ends
      obtain ⟨older, rfl, counted⟩ := verdict
      exact orderly.quiet lines (counted.of_count _ _) (Nat.zero_le _) rfl

/-- Whatever the feed has done, it was in line with a course. -/
theorem orderly_of_reaches {settings : Settings.Consumer} {n : Nat} {ℓ : Loop}
    (reaches : Loop.Reaches (Loop.start settings (Bench.processor false) n) ℓ) :
    ∃ p, Orderly ℓ.asked ℓ.past p := by
  have uncounted : Counted [] := fun payload fault older suffix => by
    cases List.suffix_nil.mp suffix
  have start : Orderly false [] (.ready []) := by
    refine ⟨⟨[], [], rfl, rfl, fun _ => rfl⟩, uncounted, ?_, ?_⟩
    · intro position reply earlier suffix
      cases List.suffix_nil.mp suffix
    · intro position reply earlier suffix
      cases List.suffix_nil.mp suffix
  obtain ⟨p, -, orderly⟩ := Loop.keeps suits_outside Orderly start
    (fun orderly => { orderly with lines := orderly.lines.ask }) Orderly.step reaches
  exact ⟨p, orderly⟩

/-! ### Commits and offsets -/

theorem mem_after_of_mem_left {α : Type} {before after done left : List α} {a b : α}
    (same : before ++ a :: after = done ++ left) (longer : before.length < done.length)
    (mem : b ∈ left) : b ∈ after := by
  rcases List.append_eq_append_iff.mp same with ⟨more, rfl, split⟩ | ⟨more, rfl, -⟩
  · cases more with
    | nil => simp at longer
    | cons first more =>
        obtain ⟨rfl, rfl⟩ := List.cons.inj split
        exact List.mem_append_right _ mem
  · simp only [List.length_append] at longer
    omega

namespace Earned

variable {position : Position} {earlier : List Made} {before after : List Message}
  {message : Message} (earned : Earned position earlier before message after)
include earned

theorem length_handed : (Feed.handed earlier).length = before.length + 1 := by
  have same := congrArg List.length earned.handed
  simpa using same

/-- More may be fetched after the commit. -/
theorem fetched_later (suffix : earlier <:+ past) :
    ∃ more, Feed.fetched past = before ++ message :: (after ++ more) := by
  obtain ⟨more, same⟩ := gather_of_suffix Made.brings suffix
  refine ⟨more, ?_⟩
  calc Feed.fetched past = Feed.fetched earlier ++ more := same.symm
    _ = before ++ message :: after ++ more := by rw [earned.fetched]
    _ = before ++ message :: (after ++ more) := by simp

/-- What is fetched after the message before a position has the offset of the position or a
greater one. -/
theorem le_offset (suffix : earlier <:+ past) (ordered : InOrder (Feed.fetched past))
    {done left : List Message} (split : Feed.fetched past = done ++ left)
    (longer : before.length < done.length) {r : Message} (mem : r ∈ left)
    (same : source r.position = source position) : position.offset ≤ r.position.offset := by
  obtain ⟨more, fetched⟩ := earned.fetched_later suffix
  have later := mem_after_of_mem_left (fetched.symm.trans split) longer mem
  rw [fetched, InOrder, List.pairwise_append] at ordered
  have less := (List.pairwise_cons.mp ordered.2.1).1 r later
  rw [earned.next] at same ⊢
  have offset := less same.symm
  simp only [Feed.next]
  omega

/-- Every message fetched at any time whose offset is below a committed position of its source
was handed over before the commit, the `i`th message by the `i`th call. -/
theorem handed_of_lt (suffix : earlier <:+ past) (ordered : InOrder (Feed.fetched past)) {i : Nat}
    {r : Message} (found : (Feed.fetched past)[i]? = some r)
    (same : source r.position = source position) (less : r.position.offset < position.offset) :
    ∃ outcome, (Feed.handed earlier)[i]? = some (r.payload, outcome) := by
  obtain ⟨more, fetched⟩ := earned.fetched_later suffix
  have split : Feed.fetched past = (before ++ [message]) ++ (after ++ more) := by simp [fetched]
  have early : i < (before ++ [message]).length := by
    by_contra late
    rw [split, List.getElem?_append_right (by omega)] at found
    have above := earned.le_offset suffix ordered split (by simp) (List.mem_of_getElem? found) same
    omega
  rw [split, List.getElem?_append_left early] at found
  have handed := congrArg (·[i]?) earned.handed
  simp only [List.getElem?_map, found, Option.map_some, Option.map_eq_some_iff] at handed
  obtain ⟨⟨payload, outcome⟩, here, rfl⟩ := handed
  exact ⟨outcome, here⟩

end Earned

/-- What is gathered is pairwise as each call has it, if each later call has it with the earlier
ones. -/
theorem pairwise_gather {α : Type} {yields : Made → List α} {R : α → α → Prop}
    (alone : ∀ made : Made, (yields made).Pairwise R)
    (later : ∀ newer between older earlier, newer :: (between ++ older :: earlier) <:+ past →
      ∀ a ∈ yields older, ∀ b ∈ yields newer, R a b) : (gather yields past).Pairwise R := by
  induction past with
  | nil => exact .nil
  | cons made past ih =>
      refine List.pairwise_append.mpr ⟨ih ?_, alone made, ?_⟩
      · intro newer between older earlier suffix
        exact later newer between older earlier (suffix.trans (List.suffix_cons _ _))
      · intro a memA b memB
        obtain ⟨older, earlier, ⟨between, rfl⟩, yields⟩ := mem_gather.mp memA
        exact later made between older earlier (List.suffix_refl _) a yields b memB

/-- The positions that are committed on a source grow. -/
theorem Deserved.pairwise_commits (deserved : Deserved past) (ordered : InOrder (fetched past)) :
    (commits past).Pairwise (fun position later =>
      source position = source later → position.offset < later.offset) := by
  refine pairwise_gather (fun made => ?_) ?_
  · unfold Made.commits
    split
    · exact List.pairwise_singleton _ _
    · exact .nil
  · intro newer between older earlier suffix position mem later memLater same
    obtain ⟨reply, rfl⟩ := Made.eq_of_mem_commits mem
    obtain ⟨reply', rfl⟩ := Made.eq_of_mem_commits memLater
    have inner : ⟨.consumer (.commit position), reply⟩ :: earlier <:+
        between ++ ⟨.consumer (.commit position), reply⟩ :: earlier := List.suffix_append _ _
    have before := (List.suffix_cons _ _).trans suffix
    obtain ⟨⟨_, message, after, earned'⟩, fresh⟩ := deserved later reply' _ suffix
    obtain ⟨⟨_, _, _, earned⟩, -⟩ := deserved position reply earlier (inner.trans before)
    obtain ⟨more, fetched⟩ := earned'.fetched_later before
    have more := fresh position reply earlier inner
    rw [earned.length_handed, earned'.length_handed] at more
    have le := earned.le_offset ((List.suffix_cons _ _).trans (inner.trans before)) ordered
      fetched (by omega) List.mem_cons_self (by rw [same, earned'.next]; rfl)
    rw [earned'.next]
    simp only [next]
    omega

/-- No message that is left has an offset below a position that was committed. -/
theorem Orderly.le_offset (orderly : Orderly asked past p) (ordered : InOrder (fetched past))
    {done left : List Message} (split : fetched past = done ++ left)
    (handed : HandedOver past done) {message : Message} (mem : message ∈ left)
    {position : Position} (committed : position ∈ commits past)
    (same : source message.position = source position) :
    position.offset ≤ message.position.offset := by
  obtain ⟨made, earlier, suffix, mem'⟩ := mem_gather.mp committed
  obtain ⟨reply, rfl⟩ := Made.eq_of_mem_commits mem'
  obtain ⟨⟨_, _, _, earned⟩, -⟩ := orderly.deserved position reply earlier suffix
  have due := orderly.due position reply earlier suffix
  have length : (Feed.handed past).length = done.length := by
    simpa using congrArg List.length handed
  rw [earned.length_handed, length] at due
  exact earned.le_offset ((List.suffix_cons _ _).trans suffix) ordered split (by omega) mem same

/-- Whatever the processor, the bus and those who ask the feed to stop do, at every moment of
every run: the payloads were handed over in the order in which their messages were fetched, each
at most once. A position is committed directly after the message before it was processed; each
failure before was counted, and every message of the source with a smaller offset was handed
over before. The positions committed on a source grow, so no message is committed twice, and the
messages that are left have offsets not below any of them. -/
theorem commits_follow_processing {settings : Settings.Consumer} {n : Nat} {ℓ : Loop}
    (reaches : Loop.Reaches (Loop.start settings (Bench.processor false) n) ℓ)
    (ordered : InOrder (fetched ℓ.past)) :
    (∀ position reply earlier, ⟨.consumer (.commit position), reply⟩ :: earlier <:+ ℓ.past →
      (∃ before message after, Earned position earlier before message after) ∧
      ∀ (i : Nat) message, (fetched ℓ.past)[i]? = some message →
        source message.position = source position → message.position.offset < position.offset →
        ∃ outcome, (handed earlier)[i]? = some (message.payload, outcome)) ∧
    (commits ℓ.past).Pairwise (fun position later =>
      source position = source later → position.offset < later.offset) ∧
    ∃ done left, fetched ℓ.past = done ++ left ∧ HandedOver ℓ.past done ∧
      ∀ message ∈ left, ∀ position ∈ commits ℓ.past,
        source message.position = source position →
        position.offset ≤ message.position.offset := by
  obtain ⟨p, orderly⟩ := orderly_of_reaches reaches
  have deserved := orderly.deserved
  refine ⟨?_, ?_, ?_⟩
  · intro position reply earlier suffix
    obtain ⟨earned, -⟩ := deserved position reply earlier suffix
    refine ⟨earned, ?_⟩
    obtain ⟨before, message, after, earned⟩ := earned
    intro i r found same less
    exact earned.handed_of_lt ((List.suffix_cons _ _).trans suffix) ordered found same less
  · exact deserved.pairwise_commits ordered
  · obtain ⟨done, left, split, handed⟩ := orderly.lines.split
    refine ⟨done, left, split, handed, fun message mem position committed same => ?_⟩
    exact orderly.le_offset ordered split handed mem committed same

/-- A bus with three messages, the first of which cannot be processed. -/
def threeMessages : (c : Call) → Except Fault c.Reply
  | .process .recollect => .ok {}
  | .process (.handOff payload) =>
      if payload = [1] then .error (.malformedEvent payload) else .ok ()
  | .process (.awaitStop _) => .ok false
  | .process (.log _) | .process (.count _) => .ok ()
  | .consumer .start | .consumer .stop | .consumer (.commit _) => .ok ()
  | .consumer (.poll _ _) => .ok [⟨⟨"visits", 0, 4⟩, [1]⟩, ⟨⟨"visits", 0, 6⟩, [2]⟩,
      ⟨⟨"visits", 0, 7⟩, [3]⟩]
  | _ => .error .cancelled

/-- The second message is processed and committed. -/
def secondCommitted : Loop :=
  (Loop.start {} (Bench.processor false) 5).answers threeMessages 12

/-- The message that the processor refuses is passed over, and the one after it is committed. -/
theorem failed_message_passed_over :
    commits secondCommitted.past = [⟨"visits", 0, 7⟩] ∧
      (∃ before message after,
        Earned ⟨"visits", 0, 7⟩ secondCommitted.past.tail before message after) ∧
      ∃ outcome, (handed secondCommitted.past.tail)[0]? = some ([1], outcome) := by
  have recalls : ∀ c, Recalls false ⟨c, threeMessages c⟩ := by
    intro c
    cases c with
    | process call => cases call <;> first | rfl | trivial
    | _ => trivial
  have reaches : Loop.Reaches (Loop.start {} (Bench.processor false) 5) secondCommitted :=
    Loop.reaches_answers recalls 12
  obtain ⟨earned, handed⟩ := (commits_follow_processing reaches (by decide)).1
    ⟨"visits", 0, 7⟩ (.ok ()) secondCommitted.past.tail (List.suffix_refl _)
  exact ⟨by decide, earned, handed 0 _ rfl rfl (by decide)⟩

end LinkShortener.Feed
