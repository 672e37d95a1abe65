import LinkShortener.Bench.Session
import LinkShortener.Proofs.Routine.Protocol
import LinkShortener.Proofs.Token

/-!
Where an operation of the directory stands. The phases of an operation say what it has learnt
and what it still owes: a resolution that has read a link holds it until the copy is filled, an
update or a deletion that has changed the catalog owes the drop of the copy, a link in the
making has its number before it is inserted. `Advances` is the protocol of the directory: the
calls allowed in each phase and where their replies lead.

Main statements: every operation of the directory follows the protocol from its first phase to
one that tells its outcome (`follows_shorten`, `follows_resolve`, `follows_update`,
`follows_delete`), and so does the seeding of the counter (`follows_seed`).
-/

namespace LinkShortener.Directory

open Routine
open Bench (Answer)

/-- Where an operation stands. -/
inductive Phase
  /-- a token is to be resolved; its copy comes first -/
  | looking (token : String)
  /-- there is no copy; the catalog is to be asked -/
  | missed (token : String)
  /-- the catalog had a link, of which a copy is to be made -/
  | holding (token : String) (link : Link)
  /-- the address of a token is known -/
  | told (token url : String)
  /-- a link is to be pointed at another address -/
  | retargeting (token url : String)
  /-- a link is to be deleted -/
  | deleting (token : String)
  /-- the catalog has changed; the copy of the token is to be dropped -/
  | owing (token : String) (link? : Option Link)
  /-- the drop was attempted; an update has the link as it is now -/
  | settled (link? : Option Link)
  /-- an acceptable address waits for an id -/
  | counting (url : String)
  /-- an id has been taken; the link is to be inserted -/
  | numbered (url : String) (id : Int) (token : String)
  /-- the link is inserted and is to be read back -/
  | inserted (id : Int) (token : String)
  /-- the link was read back -/
  | made (link : Link)
  /-- the greatest id is to be read -/
  | seeding
  /-- the counter is to be set to the greatest id -/
  | measured (last : Int)
  /-- the counter is set -/
  | seeded
  /-- the request is turned down; nothing failed -/
  | refused (fault : Fault)
  /-- a call failed that the operation cannot do without -/
  | failed (before : Phase) (fault : Fault)
  /-- the process failed -/
  | broken (fault : Fault)
  deriving DecidableEq, Repr

/-- The fault that an operation fails with when a call fails in a phase. -/
def Phase.reported (s : Settings.KeyValue) : Phase → Fault → Fault
  | missed token, fault => if fault.isDatabaseOutage then .catalog (.read token) else fault
  | retargeting token _, fault =>
      if fault.isDatabaseOutage then .catalog (.update token) else fault
  | deleting token, fault => if fault.isDatabaseOutage then .catalog (.delete token) else fault
  | counting _, fault =>
      if fault.isKeyValueOutage then .counter (.advance s.counterKey) else fault
  | numbered _ id token, fault | inserted id token, fault =>
      if fault.isDatabaseOutage then
        if fault.isKeyConflict then .duplicateLink id token else .catalog (.insert token)
      else fault
  | seeding, fault => if fault.isDatabaseOutage then .catalog .lastId else fault
  | measured _, fault => if fault.isKeyValueOutage then .counter .seed else fault
  | _, fault => fault

/-- The outcome that a phase tells, if nothing is left to do in it. -/
def Phase.outcome? (s : Settings.KeyValue) : Phase → Option (Except Fault Answer)
  | told _ url => some (.ok (.url url))
  | settled (some link) => some (.ok (.link link))
  | settled none => some (.ok .nothing)
  | made link => some (.ok (.link link))
  | seeded => some (.ok .nothing)
  | refused fault => some (.error fault)
  | failed before fault => some (.error (before.reported s fault))
  | broken fault => some (.error fault)
  | _ => none

/-- The calls to the process that are allowed everywhere: notes, meters and the clock. -/
inductive Incidental : ProcessCall → Prop
  | log (entry : Log.Entry) : Incidental (.log entry)
  | count (meter : Meter) : Incidental (.count meter)
  | now : Incidental .now

/-- The protocol of the directory. Incidental calls and new sessions are allowed in every phase,
any other call in one phase only. A failed call leads to the phase that keeps its fault, unless
the operation absorbs it and goes on. -/
inductive Advances (s : Settings.KeyValue) : Protocol Phase
  | noted (p : Phase) (call : ProcessCall) (incidental : Incidental call) (a : call.Reply) :
      Advances s p (.process call) (.ok a) p
  | unnoted (p : Phase) (call : ProcessCall) (incidental : Incidental call) (fault : Fault) :
      Advances s p (.process call) (.error fault) (.broken fault)
  | connect (p : Phase) : Advances s p (.database .connect) (.ok ()) p
  | unconnected (p : Phase) (fault : Fault) :
      Advances s p (.database .connect) (.error fault) (.failed p fault)
  | hit (token url : String) :
      Advances s (.looking token) (.keys (.get (Copies.key s token))) (.ok (some url))
        (.told token url)
  | miss (token : String) :
      Advances s (.looking token) (.keys (.get (Copies.key s token))) (.ok none) (.missed token)
  | blind (token : String) (fault : Fault) (absorbed : fault.isKeyValueOutage = true) :
      Advances s (.looking token) (.keys (.get (Copies.key s token))) (.error fault)
        (.missed token)
  | unlooked (token : String) (fault : Fault) (passes : ¬ fault.isKeyValueOutage = true) :
      Advances s (.looking token) (.keys (.get (Copies.key s token))) (.error fault)
        (.failed (.looking token) fault)
  | find (token : String) (link : Link) :
      Advances s (.missed token) (.database (.findLink token)) (.ok (some link))
        (.holding token link)
  | absent (token : String) :
      Advances s (.missed token) (.database (.findLink token)) (.ok none)
        (.refused (.unknownUrl token))
  | unread (token : String) (fault : Fault) :
      Advances s (.missed token) (.database (.findLink token)) (.error fault)
        (.failed (.missed token) fault)
  | fill (token : String) (link : Link) :
      Advances s (.holding token link)
        (.keys (.set (Copies.key s token) link.url (Copies.lifetime s))) (.ok ())
        (.told token link.url)
  | unfilled (token : String) (link : Link) (fault : Fault) :
      Advances s (.holding token link)
        (.keys (.set (Copies.key s token) link.url (Copies.lifetime s))) (.error fault)
        (.told token link.url)
  | unfillable (token : String) (link : Link) (fault : Fault)
      (passes : ¬ fault.isKeyValueOutage = true) :
      Advances s (.holding token link)
        (.keys (.set (Copies.key s token) link.url (Copies.lifetime s))) (.error fault)
        (.failed (.holding token link) fault)
  | retarget (token url : String) (time : Moment) (link : Link) :
      Advances s (.retargeting token url) (.database (.retargetLink token url time))
        (.ok (some link)) (.owing token (some link))
  | nothingRetargeted (token url : String) (time : Moment) :
      Advances s (.retargeting token url) (.database (.retargetLink token url time))
        (.ok none) (.refused (.unknownToken token))
  | unretargeted (token url : String) (time : Moment) (fault : Fault) :
      Advances s (.retargeting token url) (.database (.retargetLink token url time))
        (.error fault) (.failed (.retargeting token url) fault)
  | delete (token : String) (n : Nat) (found : n ≠ 0) :
      Advances s (.deleting token) (.database (.deleteLink token)) (.ok n) (.owing token none)
  | nothingDeleted (token : String) :
      Advances s (.deleting token) (.database (.deleteLink token)) (.ok (0 : Nat))
        (.refused (.unknownToken token))
  | undeleted (token : String) (fault : Fault) :
      Advances s (.deleting token) (.database (.deleteLink token)) (.error fault)
        (.failed (.deleting token) fault)
  | drop (token : String) (link? : Option Link) (n : Nat) :
      Advances s (.owing token link?) (.keys (.delete (Copies.key s token))) (.ok n)
        (.settled link?)
  | undropped (token : String) (link? : Option Link) (fault : Fault) :
      Advances s (.owing token link?) (.keys (.delete (Copies.key s token))) (.error fault)
        (.settled link?)
  | undroppable (token : String) (link? : Option Link) (fault : Fault)
      (passes : ¬ fault.isKeyValueOutage = true) :
      Advances s (.owing token link?) (.keys (.delete (Copies.key s token))) (.error fault)
        (.failed (.owing token link?) fault)
  | number (url : String) (id : Int) (token : String) (coded : Token.ofId id = .ok token) :
      Advances s (.counting url) (.keys (.increment s.counterKey)) (.ok id)
        (.numbered url id token)
  | uncoded (url : String) (id : Int) (fault : Fault) (uncoded : Token.ofId id = .error fault) :
      Advances s (.counting url) (.keys (.increment s.counterKey)) (.ok id) (.refused fault)
  | unnumbered (url : String) (fault : Fault) :
      Advances s (.counting url) (.keys (.increment s.counterKey)) (.error fault)
        (.failed (.counting url) fault)
  | insert (url : String) (id : Int) (token : String) :
      Advances s (.numbered url id token) (.database (.insertLink id url token)) (.ok ())
        (.inserted id token)
  | uninserted (url : String) (id : Int) (token : String) (fault : Fault) :
      Advances s (.numbered url id token) (.database (.insertLink id url token)) (.error fault)
        (.failed (.numbered url id token) fault)
  | readBack (id : Int) (token : String) (link : Link) :
      Advances s (.inserted id token) (.database (.readBack id)) (.ok link) (.made link)
  | unreadBack (id : Int) (token : String) (fault : Fault) :
      Advances s (.inserted id token) (.database (.readBack id)) (.error fault)
        (.failed (.inserted id token) fault)
  | measure (last? : Option Int) :
      Advances s .seeding (.database .lastId) (.ok last?) (.measured (last?.getD 0))
  | unmeasured (fault : Fault) :
      Advances s .seeding (.database .lastId) (.error fault) (.failed .seeding fault)
  | seed (last : Int) :
      Advances s (.measured last) (.keys (.set s.counterKey (toString last) none)) (.ok ())
        .seeded
  | unseeded (last : Int) (fault : Fault) :
      Advances s (.measured last) (.keys (.set s.counterKey (toString last) none)) (.error fault)
        (.failed (.measured last) fault)

/-! ### Parts of operations -/

variable {s : Settings.KeyValue} {α β : Type}

/-- An ending that admits what phases of failure tell. -/
structure Frank (s : Settings.KeyValue) (post : Phase → Except Fault α → Prop) : Prop where
  refused : ∀ fault, post (.refused fault) (.error fault)
  failed : ∀ before fault, post (.failed before fault) (.error (before.reported s fault))
  broken : ∀ fault, post (.broken fault) (.error fault)

namespace Frank

variable {post : Phase → Except Fault α → Prop}

/-- What is left of an operation is as frank as its ending. -/
theorem bind {post : Phase → Except Fault β → Prop} (frank : Frank s post)
    (f : α → Routine β) :
    Frank s fun q o => Follows (Advances s) post (ofOutcome o >>= f) q where
  refused fault := follows_fail.mpr (frank.refused fault)
  failed before fault := follows_fail.mpr (frank.failed before fault)
  broken fault := follows_fail.mpr (frank.broken fault)

theorem reports (frank : Frank s post) {before : Phase} {fault told : Fault}
    (same : before.reported s fault = told) : post (.failed before fault) (.error told) :=
  same ▸ frank.failed before fault

end Frank

/-- An operation that ends as the phase at the end tells. -/
abbrev Tells (s : Settings.KeyValue) (answer : α → Answer) : Phase → Except Fault α → Prop :=
  fun p o => p.outcome? s = some (o.map answer)

theorem frank_tells (answer : α → Answer) : Frank s (Tells s answer) :=
  ⟨fun _ => rfl, fun _ _ => rfl, fun _ => rfl⟩

variable {post : Phase → Except Fault α → Prop}

theorem follows_process {call : ProcessCall} {next : Except Fault call.Reply → Routine α}
    {p : Phase} (incidental : Incidental call)
    (noted : ∀ a, Follows (Advances s) post (next (.ok a)) p)
    (unnoted : ∀ fault, Follows (Advances s) post (next (.error fault)) (.broken fault)) :
    Follows (Advances s) post (.ask (.process call) next) p := by
  refine follows_ask.mpr fun reply => ?_
  cases reply with
  | ok a => exact ⟨p, .noted p call incidental a, noted a⟩
  | error fault => exact ⟨_, .unnoted p call incidental fault, unnoted fault⟩

theorem follows_log_bind {f : Unit → Routine α} {p : Phase} (level : Log.Level)
    (source : Log.Source) (text : String) (frank : Frank s post)
    (rest : Follows (Advances s) post (f ()) p) :
    Follows (Advances s) post (log level source text >>= f) p :=
  follows_process (.log _) (fun _ => rest) fun fault => follows_fail.mpr (frank.broken fault)

theorem follows_log {post : Phase → Except Fault Unit → Prop} {p : Phase} (level : Log.Level)
    (source : Log.Source) (text : String) (frank : Frank s post) (holds : post p (.ok ())) :
    Follows (Advances s) post (log level source text) p :=
  follows_process (.log _) (fun _ => follows_done.mpr holds) fun fault =>
    follows_fail.mpr (frank.broken fault)

theorem follows_count_bind {f : Unit → Routine α} {p : Phase} (meter : Meter)
    (frank : Frank s post) (rest : Follows (Advances s) post (f ()) p) :
    Follows (Advances s) post (count meter >>= f) p :=
  follows_process (.count _) (fun _ => rest) fun fault => follows_fail.mpr (frank.broken fault)

theorem follows_now_bind {f : Moment → Routine α} {p : Phase} (frank : Frank s post)
    (rest : ∀ time, Follows (Advances s) post (f time) p) :
    Follows (Advances s) post (now >>= f) p :=
  follows_process .now rest fun fault => follows_fail.mpr (frank.broken fault)

/-- Measuring an operation does not change what it follows. -/
theorem follows_measured {body : Routine α} {p : Phase} (operation : Operation)
    (ending : Fault → Ending) (frank : Frank s post)
    (follows : Follows (Advances s) post body p) :
    Follows (Advances s) post (measured operation ending body) p := by
  rw [measured, follows_concluding]
  refine follows.mono fun q o holds => ?_
  rw [bind_assoc]
  refine follows_count_bind _ frank ?_
  refine follows_count_bind _ frank ?_
  exact follows_ofOutcome.mpr holds

/-- A fault is handled if it is of the kind for that, and passed on as it is otherwise. -/
theorem follows_rescued {kind : Fault → Bool} {handle : Fault → Routine α} {fault : Fault}
    {p : Phase} (handled : kind fault = true → Follows (Advances s) post (handle fault) p)
    (passed : ¬ kind fault = true → post p (.error fault)) :
    Follows (Advances s) post (Routine.rescue (.fail fault) kind handle) p := by
  rw [rescue_fail]
  split
  · rename_i handles
    exact handled handles
  · rename_i passes
    exact follows_fail.mpr (passed passes)

theorem follows_database {c : DatabaseCall} {post : Phase → Except Fault c.Reply → Prop}
    {p : Phase} (answers : ∀ reply, ∃ q, Advances s p (.database c) reply q ∧ post q reply) :
    Follows (Advances s) post (Catalog.database c) p :=
  follows_call.mpr answers

theorem follows_server {c : KeysCall} {post : Phase → Except Fault c.Reply → Prop} {p : Phase}
    (answers : ∀ reply, ∃ q, Advances s p (.keys c) reply q ∧ post q reply) :
    Follows (Advances s) post (Copies.server c) p :=
  follows_call.mpr answers

/-- A session opens, or fails as the database does. -/
theorem follows_session {body : Routine α} {p : Phase}
    (opened : Follows (Advances s) post body p)
    (unopened : ∀ fault, post (.failed p fault) (.error fault)) :
    Follows (Advances s) post (Catalog.session body) p := by
  refine follows_ask.mpr fun reply => ?_
  cases reply with
  | ok a => exact ⟨p, .connect p, opened⟩
  | error fault => exact ⟨_, .unconnected p fault, follows_fail.mpr (unopened fault)⟩

/-- A query in a session of its own: the session opens and the database is asked, and what fails
of the two is reported. -/
theorem follows_query {c : DatabaseCall} {post : Phase → Except Fault c.Reply → Prop}
    {kind : Fault → Bool} {handle : Fault → Routine c.Reply} {p : Phase}
    (answered : ∀ a, ∃ q, Advances s p (.database c) (.ok a) q ∧ post q (.ok a))
    (unanswered : ∀ fault, Advances s p (.database c) (.error fault) (.failed p fault))
    (reported : ∀ fault, Follows (Advances s) post
      (Routine.rescue (.fail fault) kind handle) (.failed p fault)) :
    Follows (Advances s) post
      ((Catalog.session (Catalog.database c)).rescue kind handle) p := by
  rw [follows_rescue]
  refine follows_session (follows_database fun reply => ?_) reported
  cases reply with
  | ok a =>
      obtain ⟨q, advances, holds⟩ := answered a
      exact ⟨q, advances, follows_done.mpr holds⟩
  | error fault => exact ⟨_, unanswered fault, reported fault⟩

/-- An outage of the catalog is noted and reported as the task that met it. -/
theorem follows_catalogOutage {p : Phase} {fault : Fault} {task : CatalogTask}
    {level : Log.Level} {source : Log.Source} {text : String} (frank : Frank s post)
    (reported : p.reported s fault =
      if fault.isDatabaseOutage then .catalog task else fault) :
    Follows (Advances s) post (Routine.rescue (.fail fault) Fault.isDatabaseOutage fun _ => do
      log level source text
      .fail (.catalog task)) (.failed p fault) := by
  refine follows_rescued (fun outage => ?_) (fun passes => ?_)
  · refine follows_log_bind _ _ _ frank (follows_fail.mpr (frank.reports ?_))
    rw [reported, if_pos outage]
  · exact frank.reports (by rw [reported, if_neg passes])

/-! ### Resolving -/

/-- A read of the copies ends in a hit or in a miss. -/
theorem follows_read {post : Phase → Except Fault (Option String) → Prop} {token : String}
    (frank : Frank s post) (hit : ∀ url, post (.told token url) (.ok (some url)))
    (miss : post (.missed token) (.ok none)) :
    Follows (Advances s) post (Copies.read s token) (.looking token) := by
  unfold Copies.read
  rw [follows_rescue]
  refine follows_server (c := .get _) fun reply => ?_
  cases reply with
  | ok url? =>
      cases url? with
      | none => exact ⟨_, .miss token, follows_done.mpr miss⟩
      | some url => exact ⟨_, .hit token url, follows_done.mpr (hit url)⟩
  | error fault =>
      by_cases outage : fault.isKeyValueOutage = true
      · refine ⟨_, .blind token fault outage, follows_rescued (fun _ => ?_) (absurd outage)⟩
        exact follows_log_bind _ _ _ frank (follows_done.mpr miss)
      · refine ⟨_, .unlooked token fault outage, follows_rescued (fun handles => ?_) fun _ => ?_⟩
        · exact absurd handles outage
        · exact frank.failed (.looking token) fault

/-- A look into the catalog ends with the link or without one. -/
theorem follows_find {post : Phase → Except Fault (Option Link) → Prop} {token : String}
    (frank : Frank s post) (absent : post (.refused (.unknownUrl token)) (.ok none))
    (found : ∀ link, post (.holding token link) (.ok (some link))) :
    Follows (Advances s) post (Catalog.find token) (.missed token) := by
  refine follows_query ?_ (fun fault => .unread token fault)
    (fun fault => follows_catalogOutage frank rfl)
  intro link?
  cases link? with
  | none => exact ⟨_, .absent token, absent⟩
  | some link => exact ⟨_, .find token link, found link⟩

/-- A failure of the copies while a copy is made is noted and absorbed. -/
theorem follows_refill {post : Phase → Except Fault Unit → Prop} {token : String} {link : Link}
    (frank : Frank s post) (told : post (.told token link.url) (.ok ())) :
    Follows (Advances s) post (refill s link token) (.holding token link) := by
  unfold refill Copies.fill
  rw [follows_rescue, follows_rescue]
  have noted : Follows (Advances s) post
      (log .warning .directory s!"Failed to cache token {token}") (.told token link.url) :=
    follows_log _ _ _ frank told
  refine follows_server (c := .set _ _ _) fun reply => ?_
  cases reply with
  | ok a => exact ⟨_, .fill token link, follows_done.mpr (follows_done.mpr told)⟩
  | error fault =>
      by_cases outage : fault.isKeyValueOutage = true
      · refine ⟨_, .unfilled token link fault, follows_rescued (fun _ => ?_) (absurd outage)⟩
        refine follows_fail.mpr (follows_rescued (fun _ => noted) fun passes => ?_)
        exact absurd rfl passes
      · by_cases copy : fault.isCopyFault = true
        · refine ⟨_, .unfilled token link fault, follows_rescued (fun handles => ?_) fun _ => ?_⟩
          · exact absurd handles outage
          · exact follows_rescued (fun _ => noted) (absurd copy)
        · refine ⟨_, .unfillable token link fault outage,
            follows_rescued (fun handles => absurd handles outage) fun _ => ?_⟩
          refine follows_rescued (fun handles => absurd handles copy) fun _ => ?_
          exact frank.failed (.holding token link) fault

/-- Resolving tells the address it returns. -/
theorem follows_resolve (token : String) :
    Follows (Advances s) (Tells s .url) (resolve s token) (.looking token) := by
  have frank : Frank s (Tells s Answer.url) := frank_tells _
  refine follows_measured _ _ frank ?_
  rw [follows_bind]
  refine follows_read (frank.bind _) (fun url => ?_) ?_
  · exact follows_count_bind _ frank (follows_done.mpr rfl)
  · refine follows_count_bind _ frank ?_
    rw [follows_bind]
    refine follows_find (frank.bind _) (follows_fail.mpr rfl) (fun link => ?_)
    rw [ofOutcome_ok, bind_done, follows_bind]
    exact follows_refill (frank.bind _) (follows_done.mpr rfl)

/-! ### Updating and deleting -/

/-- The drop is attempted in any case; that there was no copy or that it could not be dropped is
noted and absorbed. -/
theorem follows_invalidate {post : Phase → Except Fault Unit → Prop} {token : String}
    {link? : Option Link} {level : Log.Level} (frank : Frank s post)
    (settled : post (.settled link?) (.ok ())) :
    Follows (Advances s) post (invalidate s token level) (.owing token link?) := by
  unfold invalidate Copies.drop
  rw [follows_rescue, follows_bind, follows_rescue]
  have noted : ∀ level text,
      Follows (Advances s) post (log level .directory text) (.settled link?) :=
    fun level text => follows_log _ _ _ frank settled
  refine follows_server fun reply => ?_
  cases reply with
  | ok n =>
      refine ⟨_, .drop token link? n, follows_done.mpr ?_⟩
      cases n with
      | zero =>
          refine follows_fail.mpr (follows_rescued (fun _ => noted _ _) fun passes => ?_)
          exact absurd rfl passes
      | succ n => exact follows_done.mpr (follows_done.mpr settled)
  | error fault =>
      by_cases outage : fault.isKeyValueOutage = true
      · refine ⟨_, .undropped token link? fault,
          follows_rescued (fun _ => ?_) (absurd outage)⟩
        refine follows_fail.mpr (follows_fail.mpr ?_)
        refine follows_rescued (fun _ => noted _ _) fun passes => ?_
        exact absurd rfl passes
      · by_cases absorbed : (fault.isCopyAbsence || fault.isCopyFault) = true
        · refine ⟨_, .undropped token link? fault,
            follows_rescued (fun handles => absurd handles outage) fun _ => ?_⟩
          refine follows_fail.mpr (follows_rescued (fun _ => ?_) (absurd absorbed))
          split <;> exact noted _ _
        · refine ⟨_, .undroppable token link? fault outage,
            follows_rescued (fun handles => absurd handles outage) fun _ => ?_⟩
          refine follows_fail.mpr (follows_rescued (fun handles => absurd handles absorbed) ?_)
          exact fun _ => frank.failed (.owing token link?) fault

/-- A retargeting in the catalog leaves a copy to be removed. -/
theorem follows_retarget {post : Phase → Except Fault Link → Prop} {token url : String}
    (frank : Frank s post) (found : ∀ link, post (.owing token (some link)) (.ok link)) :
    Follows (Advances s) post (Catalog.retarget token url) (.retargeting token url) := by
  refine follows_now_bind frank fun time => ?_
  rw [follows_bind]
  refine follows_query ?_ (fun fault => .unretargeted token url time fault)
    (fun fault => follows_catalogOutage (frank.bind _) rfl)
  intro link?
  cases link? with
  | none => exact ⟨_, .nothingRetargeted token url time, follows_fail.mpr (frank.refused _)⟩
  | some link => exact ⟨_, .retarget token url time link, follows_done.mpr (found link)⟩

/-- A deletion from the catalog leaves a copy to be removed. -/
theorem follows_catalogDelete {post : Phase → Except Fault Unit → Prop} {token : String}
    (frank : Frank s post) (found : post (.owing token none) (.ok ())) :
    Follows (Advances s) post (Catalog.delete token) (.deleting token) := by
  unfold Catalog.delete
  rw [follows_bind]
  refine follows_query ?_ (fun fault => .undeleted token fault)
    (fun fault => follows_catalogOutage (frank.bind _) rfl)
  intro n
  cases n with
  | zero => exact ⟨_, .nothingDeleted token, follows_fail.mpr (frank.refused _)⟩
  | succ n => exact ⟨_, .delete token (n + 1) (Nat.succ_ne_zero n), follows_done.mpr found⟩

/-- An update returns the link only after it has attempted to drop the copy. -/
theorem follows_update {token url : String} (accepted : Url.check url = .ok ()) :
    Follows (Advances s) (Tells s .link) (update s token url) (.retargeting token url) := by
  have frank : Frank s (Tells s Answer.link) := frank_tells _
  refine follows_measured _ _ frank ?_
  rw [accepted, ofOutcome_ok, bind_done, follows_bind]
  refine follows_retarget (frank.bind _) (fun link => ?_)
  rw [ofOutcome_ok, bind_done, follows_bind]
  refine follows_invalidate (frank.bind _) ?_
  exact follows_log_bind _ _ _ frank (follows_done.mpr rfl)

/-- An update that the check of its address refuses asks nothing of the catalog or the keys. -/
theorem follows_update_refused {token url : String} {fault : Fault}
    (refused : Url.check url = .error fault) :
    Follows (Advances s) (Tells s .link) (update s token url) (.refused fault) := by
  refine follows_measured _ _ (frank_tells Answer.link) ?_
  rw [refused]
  exact follows_fail.mpr rfl

/-- A deletion returns only after it has attempted to drop the copy. -/
theorem follows_delete (token : String) :
    Follows (Advances s) (Tells s fun _ => .nothing) (delete s token) (.deleting token) := by
  have frank : Frank s (Tells s fun _ : Unit => Answer.nothing) := frank_tells _
  refine follows_measured _ _ frank ?_
  rw [follows_bind]
  refine follows_catalogDelete (frank.bind _) ?_
  rw [ofOutcome_ok, bind_done, follows_bind]
  refine follows_invalidate (frank.bind _) ?_
  exact follows_log _ _ _ frank rfl

/-! ### Shortening and seeding -/

/-- An insertion makes a link of the number that was given. -/
theorem follows_insert {post : Phase → Except Fault Link → Prop} {url token : String} {id : Int}
    (frank : Frank s post) (made : ∀ link, post (.made link) (.ok link)) :
    Follows (Advances s) post (Catalog.insert id url token) (.numbered url id token) := by
  have handled : ∀ p fault, p = .numbered url id token ∨ p = .inserted id token →
      Follows (Advances s) post (Routine.rescue (.fail fault) Fault.isDatabaseOutage fun fault =>
        if fault.isKeyConflict then .fail (.duplicateLink id token)
        else do
          log .error .catalog s!"Failed to insert mapping id={id} token={token}"
          .fail (.catalog (.insert token))) (.failed p fault) := by
    intro p fault phase
    have reported : p.reported s fault = if fault.isDatabaseOutage then
        if fault.isKeyConflict then .duplicateLink id token else .catalog (.insert token)
        else fault := by
      rcases phase with rfl | rfl <;> rfl
    refine follows_rescued (fun outage => ?_) (fun passes => ?_)
    · rw [if_pos outage] at reported
      split at reported
      · rename_i conflict
        rw [if_pos conflict]
        exact follows_fail.mpr (frank.reports reported)
      · rename_i other
        rw [if_neg other]
        exact follows_log_bind _ _ _ frank (follows_fail.mpr (frank.reports reported))
    · rw [if_neg passes] at reported
      exact frank.reports reported
  unfold Catalog.insert
  rw [follows_rescue]
  refine follows_session ?_ fun fault => handled _ fault (.inl rfl)
  rw [follows_bind]
  refine follows_database (c := .insertLink _ _ _) fun reply => ?_
  cases reply with
  | error fault =>
      exact ⟨_, .uninserted url id token fault, follows_fail.mpr (handled _ fault (.inl rfl))⟩
  | ok a =>
      refine ⟨_, .insert url id token, follows_database (c := .readBack id) fun reply => ?_⟩
      cases reply with
      | error fault => exact ⟨_, .unreadBack id token fault, handled _ fault (.inr rfl)⟩
      | ok link => exact ⟨_, .readBack id token link, follows_done.mpr (made link)⟩

/-- A number is taken, and its token if it has one. -/
theorem follows_next_bind {url : String} {f : Int → Routine α} (frank : Frank s post)
    (numbered : ∀ id token, Token.ofId id = .ok token →
      Follows (Advances s) post (f id) (.numbered url id token))
    (uncoded : ∀ id fault, Token.ofId id = .error fault →
      Follows (Advances s) post (f id) (.refused fault)) :
    Follows (Advances s) post (Counter.next s >>= f) (.counting url) := by
  unfold Counter.next
  rw [follows_bind, follows_rescue]
  refine follows_server (c := .increment _) fun reply => ?_
  cases reply with
  | ok id =>
      cases coded : Token.ofId id with
      | ok token =>
          exact ⟨_, .number url id token coded, follows_done.mpr (numbered id token coded)⟩
      | error fault =>
          exact ⟨_, .uncoded url id fault coded, follows_done.mpr (uncoded id fault coded)⟩
  | error fault =>
      refine ⟨_, .unnumbered url fault, follows_rescued (fun outage => ?_) (fun passes => ?_)⟩
      · exact follows_fail.mpr ((frank.bind f).reports (if_pos outage))
      · exact (frank.bind f).reports (if_neg passes)

/-- The making of a link takes a number, inserts the link under it and reads it back. -/
theorem follows_shorten {url : String} (accepted : Url.check url = .ok ()) :
    Follows (Advances s) (Tells s .link) (shorten s url) (.counting url) := by
  have frank : Frank s (Tells s Answer.link) := frank_tells _
  refine follows_measured _ _ frank ?_
  rw [accepted, ofOutcome_ok, bind_done]
  refine follows_next_bind frank (fun id token coded => ?_) (fun id fault uncoded => ?_)
  · rw [coded, ofOutcome_ok, bind_done, follows_bind]
    refine follows_insert (frank.bind _) fun link => ?_
    exact follows_log_bind _ _ _ frank (follows_done.mpr rfl)
  · rw [uncoded]
    exact follows_fail.mpr rfl

/-- A link that is refused for its address costs no number. -/
theorem follows_shorten_refused {url : String} {fault : Fault}
    (refused : Url.check url = .error fault) :
    Follows (Advances s) (Tells s .link) (shorten s url) (.refused fault) := by
  refine follows_measured _ _ (frank_tells Answer.link) ?_
  rw [refused]
  exact follows_fail.mpr rfl

/-- The counter is set to the number that was read. -/
theorem follows_set_bind {last : Int} {f : Unit → Routine α} (frank : Frank s post)
    (rest : Follows (Advances s) post (f ()) .seeded) :
    Follows (Advances s) post
      (((call (.keys (.set s.counterKey (toString last) none))).rescue Fault.isKeyValueOutage
        fun _ => .fail (.counter .seed)) >>= f) (.measured last) := by
  rw [follows_bind, follows_rescue]
  refine follows_server (c := .set _ _ _) fun reply => ?_
  cases reply with
  | ok a => exact ⟨_, .seed last, follows_done.mpr rest⟩
  | error fault =>
      refine ⟨_, .unseeded last fault, follows_rescued (fun outage => ?_) (fun passes => ?_)⟩
      · refine follows_fail.mpr ((frank.bind f).reports ?_)
        exact if_pos outage
      · exact (frank.bind f).reports (if_neg passes)

theorem follows_lastId {post : Phase → Except Fault Int → Prop} (frank : Frank s post)
    (measured : ∀ last, post (.measured last) (.ok last)) :
    Follows (Advances s) post Catalog.lastId .seeding := by
  unfold Catalog.lastId
  rw [follows_bind]
  refine follows_query ?_ (fun fault => .unmeasured fault) (fun fault => ?_)
  · intro last?
    refine ⟨_, .measure last?, ?_⟩
    cases last? with
    | some last => exact follows_done.mpr (measured last)
    | none => exact follows_log_bind _ _ _ frank (follows_done.mpr (measured 0))
  · refine follows_rescued (fun outage => ?_) (fun passes => ?_)
    · refine follows_fail.mpr ((frank.bind _).reports ?_)
      exact if_pos outage
    · refine (frank.bind _).reports ?_
      exact if_neg passes

/-- The counter is set to the greatest id. -/
theorem follows_seed :
    Follows (Advances s) (Tells s fun _ => .nothing) (Counter.seed s) .seeding := by
  have frank : Frank s (Tells s fun _ : Unit => Answer.nothing) := frank_tells _
  unfold Counter.seed
  rw [follows_bind]
  refine follows_lastId (frank.bind _) fun last => ?_
  rw [ofOutcome_ok, bind_done]
  exact follows_set_bind frank (follows_log _ _ _ frank rfl)

end LinkShortener.Directory
