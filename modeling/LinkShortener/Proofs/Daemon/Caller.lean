import LinkShortener.Proofs.Daemon.Steward

/-!
A caller that asks for the parts, by its own calls alone. It recalls the memory of the process, and
if that says that the parts are not built, it builds them: the counter is seeded, a producer is made
and started, and a feed is started if one is wanted. Others may change the memory meanwhile; but
what the caller has just recalled it recalls again.

Main statement: where nothing fails, a caller does each of these as often as a building does, if it
found the parts not built, and never else (`counts_provide`).
-/

namespace LinkShortener.Daemon

open Routine
open Feed (Made)

/-! ### What is counted -/

/-- What is to happen once: the counter is seeded, a producer is made and started, a feed is
started; and what is not to happen, that a producer is stopped. -/
inductive Feat
  | seed
  | make
  | start
  | stop
  | feed
  deriving DecidableEq

/-- Whether a call amounts to a feat. -/
def Feat.covers (settings : Settings) : Feat → Made → Bool
  | seed, ⟨.keys (.set key _ _), .ok _⟩ => key = settings.keyValue.counterKey
  | make, ⟨.producer (.create _), .ok _⟩ | start, ⟨.producer .start, .ok _⟩
  | stop, ⟨.producer .stop, _⟩ | feed, ⟨.process (.spawnFeed ..), .ok _⟩ => true
  | _, _ => false

/-- A call that recalled what is in memory. -/
def recalled (m : Memory) : Made := ⟨.process .recollect, .ok m⟩

@[simp] theorem covers_recalled {settings : Settings} {feat : Feat} {m : Memory} :
    feat.covers settings (recalled m) = false := by
  cases feat <;> rfl

/-- How often a building does a feat. -/
def Feat.times (settings : Settings) : Feat → Nat
  | seed | make | start => 1
  | stop => 0
  | feed => settings.consumer.enabled.toNat

/-- What was recollected by the call just before, if it was one, is recollected again. -/
def Repeats (past : List Made) : (c : Call) → Except Fault c.Reply → Prop
  | .process .recollect, reply => ∀ memory, past.head? = some (recalled memory) → reply = .ok memory
  | _, _ => True

/-- A caller by the calls that it has made, the latest first. Nothing fails. -/
def caller : Machine (List Made) where
  admits past c reply := (∃ a, reply = .ok a) ∧ Repeats past c reply
  after past c reply := ⟨c, reply⟩ :: past

/-- A routine comes out well and does a feat so many times. -/
def Does {α : Type} (settings : Settings) (feat : Feat) (times : Nat) (r : Routine α) : Prop :=
  ∀ past, Secures caller (fun past' o => (∃ a, o = .ok a) ∧ ∃ calls, past' = calls ++ past ∧
    calls.countP (feat.covers settings) = times) r past

section Does

variable {settings : Settings} {feat : Feat} {times : Nat} {α β : Type} {r : Routine α}

/-- What is done already does nothing. -/
theorem does_done {a : α} : Does settings feat 0 (.done a) :=
  fun _ => secures_done.mpr ⟨⟨a, rfl⟩, [], rfl, rfl⟩

/-- A call does a feat once or not at all. -/
theorem does_call {c : Call}
    (counts : ∀ a, (feat.covers settings ⟨c, .ok a⟩).toNat = times) :
    Does settings feat times (call c) := by
  refine fun past => secures_call.mpr fun reply ⟨⟨a, came⟩, _⟩ => ?_
  subst came
  refine ⟨⟨a, rfl⟩, [⟨c, .ok a⟩], rfl, ?_⟩
  rw [← counts a, List.countP_singleton]
  cases feat.covers settings ⟨c, .ok a⟩ <;> rfl

theorem Does.bind {more : Nat} {f : α → Routine β} (first : Does settings feat times r)
    (rest : ∀ a, Does settings feat more (f a)) : Does settings feat (times + more) (r >>= f) := by
  refine fun past => secures_bind.mpr ((first past).mono ?_)
  rintro _ _ ⟨⟨a, rfl⟩, calls, rfl, counts⟩
  refine (rest a _).mono ?_
  rintro _ o ⟨ok, later, rfl, counts'⟩
  refine ⟨ok, later ++ calls, (List.append_assoc _ _ _).symm, ?_⟩
  rw [List.countP_append, counts, counts', Nat.add_comm]

/-- Something is done on the way that is no feat. -/
theorem Does.aside {f : α → Routine β} (first : Does settings feat 0 r)
    (rest : ∀ a, Does settings feat times (f a)) : Does settings feat times (r >>= f) :=
  Nat.zero_add times ▸ first.bind rest

/-- Nothing that is done afterwards is a feat. -/
theorem Does.followed {f : α → Routine β} (first : Does settings feat times r)
    (rest : ∀ a, Does settings feat 0 (f a)) : Does settings feat times (r >>= f) :=
  first.bind rest

theorem Does.rescue {kind : Fault → Bool} {handle : Fault → Routine α}
    (does : Does settings feat times r) : Does settings feat times (r.rescue kind handle) := by
  refine fun past => secures_rescue.mpr ((does past).mono ?_)
  rintro _ _ ⟨⟨a, rfl⟩, counts⟩
  exact secures_done.mpr ⟨⟨a, rfl⟩, counts⟩

theorem does_modify {change : Memory → Memory} : Does settings feat 0 (modify change) :=
  Does.aside (does_call (c := .process .recollect) fun _ => by cases feat <;> rfl) fun _ =>
    does_call (c := .process (.remember _)) fun _ => by cases feat <;> rfl

theorem does_log {level : Log.Level} {source : Log.Source} {text : String} :
    Does settings feat 0 (log level source text) :=
  does_call (c := .process (.log _)) fun _ => by cases feat <;> rfl

end Does

/-! ### Building -/

section Building

variable {settings : Settings} {feat : Feat}

/-- Setting the log up is no feat, and it succeeds if the level has a name that is known. -/
theorem does_setUpLog (sound : Sound settings) :
    Does settings feat 0 (setUpLog settings.program) := by
  refine Does.aside (does_call (c := .process .recollect) fun _ => by cases feat <;> rfl) fun m =>
    ?_
  split
  · refine does_modify.aside fun _ => ?_
    split
    · exact does_modify
    · rename_i unknown
      exact absurd unknown sound.leveled
  · exact does_done

theorem does_openKeys : Does settings feat 0 (openKeys settings) := by
  refine Does.aside (does_call (c := .process .recollect) fun _ => by cases feat <;> rfl) fun m =>
    ?_
  split
  · exact Does.aside (does_call (c := .keys (.connect _)) fun _ => by cases feat <;> rfl) fun _ =>
      does_modify
  · exact does_done

/-- The counter is seeded once. -/
theorem does_seed : Does settings feat (if feat = .seed then 1 else 0)
    (Counter.seed settings.keyValue) := by
  have last : Does settings feat 0 Catalog.lastId := by
    refine Does.aside (Does.rescue ?_) fun last? => ?_
    · exact Does.aside (does_call (c := .database .connect) fun _ => by cases feat <;> rfl) fun _ =>
        does_call (c := .database .lastId) fun _ => by cases feat <;> rfl
    · cases last? with
      | some id => exact does_done
      | none => exact does_log.aside fun _ => does_done
  refine last.aside fun last => ?_
  refine Does.followed (Does.rescue (does_call fun _ => ?_)) fun _ => does_log
  cases feat <;> simp [Feat.covers]

/-- A producer is made once. -/
theorem does_create : Does settings feat (if feat = .make then 1 else 0)
    (Publisher.create settings.bus) :=
  Does.followed (does_call (c := .producer (.create _)) fun _ => by cases feat <;> rfl)
    fun _ => does_modify

/-- A producer is started once. -/
theorem does_start : Does settings feat (if feat = .start then 1 else 0)
    Publisher.start := by
  refine Does.followed (Does.rescue ?_) fun started => ?_
  · exact Does.followed (does_call (c := .producer .start) fun _ => by cases feat <;> rfl)
      fun _ => does_done
  · cases started with
    | true => exact does_modify
    | false => exact does_done

/-- Building the store of clicks is no feat, and it succeeds if the column store has an address. -/
theorem does_buildClicks (sound : Sound settings) :
    Does settings feat 0 (buildClicks settings.clicks) := by
  unfold buildClicks
  cases backend : settings.clicks.backend with
  | rows => exact does_modify.aside fun _ => does_modify
  | columns =>
      have connects : Does settings feat 0 (ColumnStore.connect settings.clicks) := by
        unfold ColumnStore.connect
        split
        · rename_i flaw parsed
          exact absurd parsed (sound.placed backend flaw)
        · exact does_call (c := .columns (.connect ..)) fun _ => by cases feat <;> rfl
      refine connects.aside fun _ => does_modify.aside fun _ => ?_
      refine Does.aside (Does.rescue ?_) fun _ => connects.aside fun _ => does_modify
      exact does_call (c := .columns .createTable) fun _ => by cases feat <;> rfl

/-- A feed is started once. -/
theorem does_buildFeed : Does settings feat (if feat = .feed then 1 else 0)
    (buildFeed settings) := by
  refine Does.aside does_log fun _ => ?_
  refine Does.aside (does_call (c := .atlas (.create _)) fun _ => by cases feat <;> rfl) fun _ => ?_
  refine does_modify.aside fun _ => ?_
  refine Does.aside ?_ fun _ => does_modify.aside fun _ => ?_
  · exact Does.aside (does_call (c := .consumer (.create ..)) fun _ => by cases feat <;> rfl)
      fun _ => does_modify
  · exact Does.followed
      (does_call (c := .process (.spawnFeed ..)) fun _ => by cases feat <;> rfl) fun _ => does_modify

/-- What a routine that comes out well is known to have done. -/
theorem secures_of_does {α : Type} (settings : Settings) (feat : Feat) (times : Nat)
    {r : Routine α} {past : List Made} {post : List Made → Except Fault α → Prop}
    (does : Does settings feat times r)
    (holds : ∀ a calls, calls.countP (feat.covers settings) = times →
      post (calls ++ past) (.ok a)) : Secures caller post r past := by
  refine (does past).mono ?_
  rintro _ _ ⟨⟨a, rfl⟩, calls, rfl, counts⟩
  exact holds a calls counts

/-- Who finds that the parts are not built builds them. -/
theorem does_buildAll (feat : Feat) {m : Memory} {past : List Made}
    {post : List Made → Except Fault Unit → Prop} (sound : Sound settings)
    (last : past.head? = some (recalled m)) (unready : m.ready = false)
    (holds : ∀ calls, calls.countP (feat.covers settings) = feat.times settings →
      post (calls ++ past) (.ok ())) : Secures caller post (buildAll settings) past := by
  refine secures_call_bind.mpr ?_
  rintro _ ⟨⟨m', rfl⟩, repeats⟩
  -- The building asks once more whether the parts are built, and is told the same.
  cases repeats m last
  rw [ofOutcome_ok, bind_done, unready]
  refine secures_of_does settings feat (feat.times settings) ?_ fun _ calls counts => ?_
  · have total : feat.times settings = (if feat = .seed then 1 else 0) +
        ((if feat = .make then 1 else 0) + ((if feat = .start then 1 else 0) +
          if settings.consumer.enabled then if feat = .feed then 1 else 0 else 0)) := by
      cases enabled : settings.consumer.enabled <;> cases feat <;> simp [Feat.times, enabled]
    rw [total]
    refine does_modify.aside fun _ => (does_setUpLog sound).aside fun _ => ?_
    refine does_openKeys.aside fun _ => ?_
    refine does_modify.aside fun _ => does_modify.aside fun _ => does_modify.aside fun _ => ?_
    refine does_seed.bind fun _ => does_modify.aside fun _ => does_modify.aside fun _ => ?_
    refine does_create.bind fun _ => does_modify.aside fun _ => does_start.bind fun _ => ?_
    refine (does_buildClicks sound).aside fun _ => ?_
    have finish : Does settings feat 0 (do
        setReady true
        log .info .process "Service manager initialized") := does_modify.aside fun _ => does_log
    dsimp only
    split
    · exact does_buildFeed.bind fun _ => finish
    · exact finish
  · have more : (calls ++ [recalled m]).countP (feat.covers settings) = feat.times settings := by
      simp [counts]
    have holds := holds _ more
    rwa [List.append_assoc] at holds

/-- Who found, by the first thing that it did, that the parts are not built. -/
def found (past : List Made) : Bool :=
  match past.getLast? with
  | some ⟨.process .recollect, .ok m⟩ => !m.ready
  | _ => false

/-- What a caller found is a matter of its first call. -/
theorem found_append (calls : List Made) (first : Made) :
    found (calls ++ [first]) = found [first] := by
  simp [found]

/-- A caller does each feat as often as a building does it if it found the parts not built, and
never else. -/
theorem counts_provide (feat : Feat) (sound : Sound settings) :
    Secures caller (fun past _ => past.countP (feat.covers settings) =
      (found past).toNat * feat.times settings) (provide settings) [] := by
  have handsOut {m : Memory} (calls : List Made)
      (counts : (calls ++ [recalled m]).countP (feat.covers settings) =
        (!m.ready).toNat * feat.times settings) :
      Secures caller (fun past _ => past.countP (feat.covers settings) =
        (found past).toNat * feat.times settings)
        (handOut settings) (calls ++ [recalled m]) := by
    refine secures_call_bind.mpr ?_
    rintro _ ⟨⟨m', rfl⟩, -⟩
    have total : (recalled m' :: (calls ++ [recalled m])).countP (feat.covers settings) =
        (found (recalled m' :: (calls ++ [recalled m]))).toNat * feat.times settings := by
      rw [← List.cons_append, found_append, List.cons_append, List.countP_cons_of_neg (by simp),
        counts]
      rfl
    dsimp only [ofOutcome_ok, bind_done]
    split
    · exact secures_done.mpr total
    · exact secures_fail.mpr total
  refine secures_call_bind.mpr ?_
  rintro _ ⟨⟨m, rfl⟩, -⟩
  rw [ofOutcome_ok, bind_done]
  cases ready : m.ready with
  | true => exact handsOut [] (by simp [ready])
  | false =>
      refine secures_bind.mpr (does_buildAll feat sound rfl ready fun calls counts => ?_)
      exact handsOut _ (by simp [counts, ready])

end Building

end LinkShortener.Daemon
