import LinkShortener.Proofs.Routine.Protocol
import LinkShortener.Proofs.Traffic.Machinery

/-!
Requests over failing machinery. Every call has a fate: it is answered, it fails without effect,
or it is done while its reply is lost and a fault comes in its place. The stores keep contents, and
`Performs` says for every call that is made before a response what it replies and what it leaves
of them.

Main statements: `Yields` speaks of all that can come of a routine from given contents; it is
composed along `>>=`, `rescue` and `concluding` (`Yields.bind`, `Yields.rescue`,
`Yields.concluding`), and a single call yields what its fate makes of it (`yields_call`).
-/

namespace LinkShortener.Failure

open Routine
open Bench (World)
open Traffic (Calm freshLink barring_of_calm perform_eq calm_answer switches_keep)

/-! ### Fates -/

/-- Whether a call can meet a fault: that of a store or of the bus is met by calls to it. -/
def hits (fault : Fault) : Call → Bool
  | .database _ => fault.isDatabaseOutage
  | .keys _ => fault.isKeyValueOutage
  | .producer _ => fault.isBusOutage
  | .columns _ => fault.isColumnOutage
  | _ => false

/-- What becomes of every call. No request makes one call to a store twice, so a fate for each
call is a pattern of failures of a whole request. -/
structure Fates where
  /-- the fault that a call meets -/
  fault? : Call → Option Fault
  /-- whether a call that meets a fault is done all the same -/
  loses : Call → Bool
  fits : ∀ {c fault}, fault? c = some fault → hits fault c = true

namespace Fates

/-- Every call is answered. -/
def clear : Fates := ⟨fun _ => none, fun _ => false, nofun⟩

/-- One call meets a fault and has no effect; the others are answered. -/
def only (c : Call) (fault : Fault) (fits : hits fault c = true) : Fates where
  fault? c' := if c' = c then some fault else none
  loses _ := false
  fits {c' fault'} meets := by
    split at meets
    · rename_i same
      cases meets
      rw [same, fits]
    · cases meets

/-- The database cannot be reached. -/
def unreached : Fates := only (.database .connect) (.outage .connection "boom") rfl

def fails (fates : Fates) (c : Call) : Bool := (fates.fault? c).isSome

def denial? (fates : Fates) (c : DatabaseCall) : Option Fault :=
  (fates.fault? (.database .connect)).or (fates.fault? (.database c))

def denies (fates : Fates) (c : DatabaseCall) : Bool := (fates.denial? c).isSome

variable {fates : Fates}

theorem fails_of_fault? {c : Call} {fault : Fault} (meets : fates.fault? c = some fault) :
    fates.fails c = true := by
  rw [fails, meets]
  rfl

theorem fails_of_spared {c : Call} (spared : fates.fault? c = none) : fates.fails c = false := by
  rw [fails, spared]
  rfl

/-- Where a session could be opened, its opening met no fault. -/
theorem spared_of_opened (opened : fates.fails (.database .connect) = false) :
    fates.fault? (.database .connect) = none := by
  rwa [fails, Option.isSome_eq_false_iff, Option.isNone_iff_eq_none] at opened

theorem denial?_of_connect {fault : Fault}
    (meets : fates.fault? (.database .connect) = some fault) (c : DatabaseCall) :
    fates.denial? c = some fault := by
  rw [denial?, meets, Option.some_or]

theorem denial?_of_query {c : DatabaseCall} {fault? : Option Fault}
    (opened : fates.fails (.database .connect) = false)
    (meets : fates.fault? (.database c) = fault?) : fates.denial? c = fault? := by
  rw [denial?, spared_of_opened opened, Option.none_or, meets]

/-- A query is denied by an outage of the database only. -/
theorem outage_of_denial? {c : DatabaseCall} {fault : Fault}
    (denied : fates.denial? c = some fault) : fault.isDatabaseOutage = true := by
  rcases Option.or_eq_some_iff.mp denied with meets | ⟨-, meets⟩
  · exact fates.fits meets
  · exact fates.fits meets

theorem denies_of_denial? {c : DatabaseCall} {fault : Fault}
    (denied : fates.denial? c = some fault) : fates.denies c = true := by
  rw [denies, denied]
  rfl

theorem grants {c : DatabaseCall} (opened : fates.fails (.database .connect) = false)
    (spared : fates.fault? (.database c) = none) : fates.denies c = false := by
  rw [denies, denial?_of_query opened spared]
  rfl

/-- The process does not fail. -/
theorem fault?_process (fates : Fates) (c : ProcessCall) : fates.fault? (.process c) = none := by
  cases met : fates.fault? (.process c) with
  | none => rfl
  | some fault => cases fates.fits met

end Fates

/-- Makes a call as its fate has it. -/
def undergo (fates : Fates) : Performer World := fun c w =>
  match fates.fault? c with
  | none => w.perform c
  | some fault => (.error fault, if fates.loses c then (w.perform c).2 else w.keep c false)

/-- Where no call fails, nothing but the machinery itself answers. -/
theorem undergo_clear : undergo .clear = World.perform := rfl

theorem calm_perform {w : World} (calm : Calm w) (c : Call) : Calm (w.perform c).2 := by
  rw [perform_eq]
  exact (switches_keep _ _ _).trans (calm_answer calm c)

theorem calm_undergo {w : World} (calm : Calm w) (fates : Fates) (c : Call) :
    Calm (undergo fates c w).2 := by
  unfold undergo
  split
  · exact calm_perform calm c
  · split
    · exact calm_perform calm c
    · exact (switches_keep _ _ _).trans calm

/-! ### Contents -/

/-- Whether a call hands a message to the bus. -/
def isSend : Call → Bool
  | .producer (.send ..) => true
  | _ => false

/-- What the stores and the bus hold: the links, the keys with the copies and the counter, the
clicks of either backend, the messages that the bus has and those that were handed to it. The
clock is kept along. -/
structure Contents where
  step : Nat
  links : Link.Table
  keys : KeyValue.Keyspace
  clicks : Click.Table
  columns : List Click
  sent : List String
  handed : List Bench.Traced

/-- The contents of a world. -/
def contents (w : World) : Contents where
  step := w.step
  links := w.links
  keys := w.keys
  clicks := w.clicks
  columns := w.columns
  sent := w.sent
  handed := w.trace.filter fun entry => isSend entry.call

/-- Noting a call in the trace changes the contents only if it hands a message to the bus. -/
theorem contents_keep {c : Call} (unsent : isSend c = false) (w : World) (answered : Bool) :
    contents (w.keep c answered) = contents w := by
  unfold World.keep
  split
  · simp [contents, unsent]
  · rfl

/-- Calls that are always answered by calm machinery and change nothing. -/
def isQuiet : Call → Bool
  | .database .connect | .database .probe | .database (.countClicks _)
  | .database (.groupClicks ..) => true
  | .keys .ping => true
  | .columns (.countClicks _) | .columns (.groupClicks ..) => true
  | .process (.log _) | .process (.count _) | .process .freshEvent | .process .freshRequest => true
  | _ => false

/-- Calls that are made before a response: the quiet ones, the clock, the pages and those of the
directory. -/
def isPrior (c : Call) : Bool :=
  isQuiet c || match c with
    | .process .now | .process (.page _) => true
    | .database (.findLink _) | .database (.readBack _) | .database (.insertLink ..)
    | .database (.retargetLink ..) | .database (.deleteLink _) => true
    | .keys (.get _) | .keys (.set ..) | .keys (.delete _) | .keys (.increment _) => true
    | _ => false

/-- What a call replies that is answered, and what it leaves of the contents. -/
inductive Performs (k : Contents) : (c : Call) → Except Fault c.Reply → Contents → Prop
  | quiet (c : Call) (a : c.Reply) (quiet : isQuiet c = true) : Performs k c (.ok a) k
  | now : Performs k (.process .now) (.ok (Bench.clock k.step)) k
  | page (path : String) (page : Page) : Performs k (.process (.page path)) (.ok page) k
  | find (token : String) :
      Performs k (.database (.findLink token)) (.ok (k.links.find? token)) k
  | readBack (id : Int) (link : Link) (found : k.links.findId? id = some link) :
      Performs k (.database (.readBack id)) (.ok link) k
  | gone (id : Int) (text : String) (gone : k.links.findId? id = none) :
      Performs k (.database (.readBack id)) (.error (.outage .database text)) k
  | insert (id : Int) (url token : String) (links : Link.Table)
      (inserted : k.links.insert (freshLink id url token) = .ok links) :
      Performs k (.database (.insertLink id url token)) (.ok ()) { k with links := links }
  | uninserted (id : Int) (url token : String) (fault : Fault)
      (refused : k.links.insert (freshLink id url token) = .error fault) :
      Performs k (.database (.insertLink id url token)) (.error fault) k
  | retarget (token url : String) (time : Moment) :
      Performs k (.database (.retargetLink token url time))
        (.ok ((k.links.retarget token url time).find? token))
        { k with links := k.links.retarget token url time }
  | delete (token : String) :
      Performs k (.database (.deleteLink token)) (.ok (k.links.count token))
        { k with links := k.links.delete token }
  | get (key : String) : Performs k (.keys (.get key)) (.ok (k.keys.get? key)) k
  | set (key text : String) (seconds : Option Int) :
      Performs k (.keys (.set key text seconds)) (.ok ())
        { k with keys := k.keys.set key text seconds }
  | drop (key : String) :
      Performs k (.keys (.delete key)) (.ok (k.keys.count key))
        { k with keys := k.keys.delete key }
  | count (key : String) (n : Int) (keys : KeyValue.Keyspace)
      (counted : k.keys.increment key = .ok (n, keys)) :
      Performs k (.keys (.increment key)) (.ok n) { k with keys := keys }
  | uncounted (key : String) (fault : Fault) (refused : k.keys.increment key = .error fault) :
      Performs k (.keys (.increment key)) (.error fault) k

theorem prior_of_quiet {c : Call} (quiet : isQuiet c = true) : isPrior c = true :=
  Bool.or_eq_true_iff.mpr (.inl quiet)

/-- A quiet call changes nothing, answered or not. -/
theorem Performs.eq_of_quiet {k k' : Contents} {c : Call} {reply : Except Fault c.Reply}
    (performs : Performs k c reply k') (quiet : isQuiet c = true) : k' = k := by
  cases performs with
  | quiet | find | readBack | gone | uninserted | get | uncounted | now | page => rfl
  | insert | retarget | delete | set | drop | count => cases quiet

theorem unsent_of_prior {c : Call} (prior : isPrior c = true) : isSend c = false := by
  unfold isSend
  split
  · cases prior
  · rfl

variable {w : World} {k : Contents} {fates : Fates}

/-- What is answered and left is a matter of the contents alone. -/
theorem performs_answer (calm : Calm w) {c : Call} (prior : isPrior c = true) :
    Performs (contents w) c (w.answer c).1 (contents (w.answer c).2) := by
  cases c with
  | database c =>
      cases c with
      | connect =>
          simp only [World.answer, World.database, barring_of_calm calm]
          exact .quiet (.database .connect) () rfl
      | probe => exact .quiet (.database .probe) () rfl
      | countClicks token => exact .quiet (.database (.countClicks token)) _ rfl
      | groupClicks token dimension =>
          exact .quiet (.database (.groupClicks token dimension)) _ rfl
      | findLink token => exact .find token
      | readBack id =>
          simp only [World.answer, World.database]
          split
          · rename_i link found
            exact .readBack id link found
          · rename_i gone
            exact .gone id _ gone
      | insertLink id url token =>
          simp only [World.answer, World.database, barring_of_calm calm]
          split
          · rename_i links inserted
            exact .insert id url token links inserted
          · rename_i fault refused
            exact .uninserted id url token fault refused
      | retargetLink token url time =>
          simp only [World.answer, World.database, barring_of_calm calm]
          exact .retarget token url time
      | deleteLink token =>
          simp only [World.answer, World.database, barring_of_calm calm]
          exact .delete token
      | prepare | lastId | insertClick | dispose => cases prior
  | keys c =>
      cases c with
      | ping =>
          simp only [World.answer, World.server, barring_of_calm calm]
          exact .quiet (.keys .ping) () rfl
      | get key =>
          simp only [World.answer, World.server, barring_of_calm calm]
          exact .get key
      | set key text seconds =>
          simp only [World.answer, World.server, barring_of_calm calm]
          exact .set key text seconds
      | delete key =>
          simp only [World.answer, World.server, barring_of_calm calm]
          exact .drop key
      | increment key =>
          simp only [World.answer, World.server, barring_of_calm calm]
          split
          · rename_i n keys counted
            exact .count key n keys counted
          · rename_i fault refused
            exact .uncounted key fault refused
      | connect | close => cases prior
  | columns c =>
      cases c with
      | countClicks token =>
          simp only [World.answer, World.store, barring_of_calm calm]
          exact .quiet (.columns (.countClicks token)) _ rfl
      | groupClicks token dimension =>
          simp only [World.answer, World.store, barring_of_calm calm]
          exact .quiet (.columns (.groupClicks token dimension)) _ rfl
      | connect | createTable | insert | close => cases prior
  | process c =>
      cases c with
      | now => exact .now
      | page path => exact .page path _
      | log entry => exact .quiet (.process (.log entry)) () rfl
      | count meter => exact .quiet (.process (.count meter)) () rfl
      | freshEvent => exact .quiet (.process .freshEvent) _ rfl
      | freshRequest => exact .quiet (.process .freshRequest) _ rfl
      | _ => cases prior
  | producer | consumer | atlas => cases prior

/-- What a call does that is made before a response. -/
theorem performs (calm : Calm w) {c : Call} (prior : isPrior c = true) :
    Performs (contents w) c (w.perform c).1 (contents (w.perform c).2) := by
  rw [perform_eq, contents_keep (unsent_of_prior prior)]
  exact performs_answer calm prior

/-! ### What comes of routines -/

variable {α β : Type}

/-- All that can come of a routine from given contents: whatever world has them, its outcome and
the contents that it leaves are as said. -/
def Yields (fates : Fates) (r : Routine α) (k : Contents)
    (post : Except Fault α → Contents → Prop) : Prop :=
  ∀ w, Calm w → contents w = k →
    Calm (r.run (undergo fates) w).2 ∧
      post (r.run (undergo fates) w).1 (contents (r.run (undergo fates) w).2)

section Rules

variable {post mid : Except Fault α → Contents → Prop} {r : Routine α}

theorem yields_done {a : α} (holds : post (.ok a) k) : Yields fates (.done a) k post := by
  rintro w calm rfl
  exact ⟨calm, holds⟩

theorem yields_fail {fault : Fault} (holds : post (.error fault) k) :
    Yields fates (.fail fault) k post := by
  rintro w calm rfl
  exact ⟨calm, holds⟩

theorem yields_ofOutcome {o : Except Fault α} (holds : post o k) :
    Yields fates (ofOutcome o) k post := by
  cases o with
  | ok a => exact yields_done holds
  | error fault => exact yields_fail holds

theorem Yields.mono (yields : Yields fates r k mid) (weaker : ∀ o k', mid o k' → post o k') :
    Yields fates r k post := by
  intro w calm same
  obtain ⟨calm', holds⟩ := yields w calm same
  exact ⟨calm', weaker _ _ holds⟩

/-- A sequence yields what its second part yields from whatever its first part leaves. -/
theorem Yields.bind {post : Except Fault β → Contents → Prop} {f : α → Routine β}
    (first : Yields fates r k mid)
    (rest : ∀ o k', mid o k' → Yields fates (ofOutcome o >>= f) k' post) :
    Yields fates (r >>= f) k post := by
  intro w calm same
  obtain ⟨calm', holds⟩ := first w calm same
  rw [run_bind]
  exact rest _ _ holds _ calm' rfl

theorem Yields.outcome {post : Except Fault (Except Fault α) → Contents → Prop}
    (yields : Yields fates r k fun o k' => post (.ok o) k') : Yields fates r.outcome k post := by
  intro w calm same
  rw [run_outcome]
  exact yields w calm same

theorem Yields.rescue {kind : Fault → Bool} {handle : Fault → Routine α}
    (first : Yields fates r k mid)
    (rest : ∀ o k', mid o k' → Yields fates ((ofOutcome o).rescue kind handle) k' post) :
    Yields fates (r.rescue kind handle) k post := by
  intro w calm same
  obtain ⟨calm', holds⟩ := first w calm same
  rw [run_rescue]
  exact rest _ _ holds _ calm' rfl

theorem Yields.concluding {last : Except Fault α → Routine Unit} (first : Yields fates r k mid)
    (rest : ∀ o k', mid o k' → Yields fates (last o >>= fun _ => ofOutcome o) k' post) :
    Yields fates (r.concluding last) k post := by
  have told : Yields fates r.outcome k fun o k' => ∃ o', o = .ok o' ∧ mid o' k' :=
    Yields.outcome (first.mono fun o k' holds => ⟨o, rfl, holds⟩)
  refine told.bind ?_
  rintro _ k' ⟨o, rfl, holds⟩
  exact rest o k' holds

/-- What is made of the value of a routine does not matter to how it fails. -/
theorem Yields.map {post : Except Fault β → Contents → Prop} {f : α → β}
    (first : Yields fates r k mid)
    (told : ∀ o k', mid o k' → post (o.map f) k') : Yields fates (f <$> r) k post := by
  rw [map_eq_pure_bind]
  refine first.bind fun o k' holds => ?_
  cases o with
  | ok a => exact yields_done (told _ k' holds)
  | error fault => exact yields_fail (told _ k' holds)

end Rules

/-- What a failed call can leave: the contents as they were, or what the call makes of them if it
was done and its reply was lost. -/
def Leaves (fates : Fates) (k : Contents) (c : Call) (k' : Contents) : Prop :=
  k' = k ∨ fates.loses c = true ∧ ∃ reply, Performs k c reply k'

/-- Where its reply is not lost, a failed call leaves everything as it was. -/
theorem eq_of_leaves {c : Call} {k' : Contents} (kept : fates.loses c = false)
    (left : Leaves fates k c k') : k' = k := by
  rcases left with same | ⟨loses, -⟩
  · exact same
  · cases kept.symm.trans loses

/-- A call yields what its fate makes of it. -/
theorem yields_call {c : Call} {post : Except Fault c.Reply → Contents → Prop}
    (prior : isPrior c = true)
    (answered : fates.fault? c = none → ∀ reply k', Performs k c reply k' → post reply k')
    (failed : ∀ fault, fates.fault? c = some fault → ∀ k', Leaves fates k c k' →
      post (.error fault) k') : Yields fates (call c) k post := by
  rintro w calm rfl
  have performed := performs calm prior
  rw [run_call]
  refine ⟨calm_undergo calm fates c, ?_⟩
  unfold undergo
  split
  · rename_i spared
    exact answered spared _ _ performed
  · rename_i fault meets
    refine failed fault meets _ ?_
    split
    · rename_i loses
      exact .inr ⟨loses, _, performed⟩
    · exact .inl (contents_keep (unsent_of_prior prior) _ _)

/-- Calls to the process are answered. -/
theorem yields_process_bind {post : Except Fault β → Contents → Prop} {c : ProcessCall}
    {f : c.Reply → Routine β} (quiet : isQuiet (.process c) = true)
    (rest : ∀ a, Yields fates (f a) k post) : Yields fates (call (.process c) >>= f) k post := by
  have answered : Yields fates (call (.process c)) k fun o k' => k' = k ∧ ∃ a, o = .ok a := by
    refine yields_call (prior_of_quiet quiet) ?_ fun fault meets => ?_
    · intro _ reply k' performed
      cases performed with
      | quiet c a => exact ⟨rfl, a, rfl⟩
      | now | page => cases quiet
    · rw [fates.fault?_process] at meets
      cases meets
  refine answered.bind ?_
  rintro _ _ ⟨rfl, a, rfl⟩
  exact rest a

/-- A page is read without a change. -/
theorem yields_page_bind {post : Except Fault β → Contents → Prop} {path : String}
    {f : Page → Routine β} (rest : ∀ page, Yields fates (f page) k post) :
    Yields fates (call (.process (.page path)) >>= f) k post := by
  have answered : Yields fates (call (.process (.page path))) k fun o k' =>
      k' = k ∧ ∃ page, o = .ok page := by
    refine yields_call rfl ?_ fun fault meets => ?_
    · intro _ reply k' performed
      cases performed with
      | quiet c a quiet => cases quiet
      | page _ page => exact ⟨rfl, page, rfl⟩
    · rw [fates.fault?_process] at meets
      cases meets
  refine answered.bind ?_
  rintro _ _ ⟨rfl, page, rfl⟩
  exact rest page

/-- The clock tells the time of the contents. -/
theorem yields_now_bind {post : Except Fault β → Contents → Prop} {f : Moment → Routine β}
    (rest : Yields fates (f (Bench.clock k.step)) k post) : Yields fates (now >>= f) k post := by
  have answered : Yields fates now k fun o k' => k' = k ∧ o = .ok (Bench.clock k.step) := by
    refine yields_call rfl ?_ fun fault meets => ?_
    · intro _ reply k' performed
      cases performed with
      | quiet c a quiet => cases quiet
      | now => exact ⟨rfl, rfl⟩
    · rw [fates.fault?_process] at meets
      cases meets
  refine answered.bind ?_
  rintro _ _ ⟨rfl, rfl⟩
  exact rest

/-! ### Quiet routines -/

theorem yields_quiet {c : Call} (quiet : isQuiet c = true) :
    Yields fates (call c) k fun _ k' => k' = k := by
  refine yields_call (prior_of_quiet quiet) ?_ ?_
  · exact fun _ reply k' performed => performed.eq_of_quiet quiet
  · rintro fault - k' (rfl | ⟨-, reply, performed⟩)
    · rfl
    · exact performed.eq_of_quiet quiet

/-- A routine of quiet calls changes nothing. -/
theorem yields_of_only {post : Except Fault α → Prop} {r : Routine α}
    (only : Only isQuiet post r) : Yields fates r k fun o k' => post o ∧ k' = k := by
  rintro w calm rfl
  let inv (_ : Unit) (_ : Routine α) (w' : World) : Prop := Calm w' ∧ contents w' = contents w
  have step : ∀ p c next w' q, inv p (.ask c next) w' → isQuiet c = true →
      inv q (next (undergo fates c w').1) (undergo fates c w').2 := by
    rintro _ c next w' _ ⟨calm', same⟩ quiet
    have asked : Yields fates (call c) (contents w') fun _ k' => k' = contents w' :=
      yields_quiet quiet
    obtain ⟨calm'', kept⟩ := asked w' calm' rfl
    rw [run_call] at calm'' kept
    exact ⟨calm'', kept.trans same⟩
  obtain ⟨_, holds, calm', kept⟩ := Follows.run (undergo fates) inv step only ⟨calm, rfl⟩
  exact ⟨calm', holds, kept⟩

end LinkShortener.Failure
