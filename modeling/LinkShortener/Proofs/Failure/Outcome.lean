import LinkShortener.Link.Directory
import LinkShortener.Proofs.Failure.Fate
import LinkShortener.Proofs.Link.Table

/-!
What can come of the operations of the directory when any of their calls may fail. For each
operation there is one relation between the contents it starts from, its outcome and the contents
it leaves, with a case for every way that it can go.

Main statements: no operation goes any other way (`yields_resolve`, `yields_update`,
`yields_delete`, `yields_shorten`).
-/

namespace LinkShortener.Failure

open Routine Directory
open Link (Table)
open Traffic (freshLink)

variable {fates : Fates} {s : Settings.KeyValue} {k : Contents} {α : Type}

/-! ### Parts of operations -/

theorem yields_log {post : Except Fault Unit → Contents → Prop} (level : Log.Level)
    (source : Log.Source) (text : String) (holds : post (.ok ()) k) :
    Yields fates (log level source text) k post := by
  have noted : Yields fates (log level source text >>= .done) k post :=
    yields_process_bind rfl fun _ => yields_done holds
  rwa [show (Routine.done : Unit → Routine Unit) = pure from rfl, bind_pure] at noted

/-- Measuring an operation changes nothing that comes of it. -/
theorem yields_measured {post : Except Fault α → Contents → Prop} {body : Routine α}
    (operation : Operation) (ending : Fault → Ending) (yields : Yields fates body k post) :
    Yields fates (measured operation ending body) k post := by
  refine Yields.concluding yields fun o k' holds => ?_
  rw [bind_assoc]
  refine yields_process_bind rfl fun _ => ?_
  refine yields_process_bind rfl fun _ => ?_
  exact yields_ofOutcome holds

/-- A session opens, or its opening fails as the database does and changes nothing. -/
theorem yields_session {post : Except Fault α → Contents → Prop} {body : Routine α}
    (opened : fates.fails (.database .connect) = false → Yields fates body k post)
    (unopened : ∀ fault, fates.fault? (.database .connect) = some fault → post (.error fault) k) :
    Yields fates (Catalog.session body) k post := by
  have connected : Yields fates (Catalog.database .connect) k fun o k' => k' = k ∧
      ((fates.fault? (.database .connect) = none ∧ o = .ok ()) ∨
        ∃ fault, fates.fault? (.database .connect) = some fault ∧ o = .error fault) := by
    refine yields_call rfl ?_ ?_
    · intro spared reply k' performed
      cases performed
      exact ⟨rfl, .inl ⟨spared, rfl⟩⟩
    · rintro fault meets k' (rfl | ⟨-, _, performed⟩)
      · exact ⟨rfl, .inr ⟨fault, meets, rfl⟩⟩
      · cases performed
        exact ⟨rfl, .inr ⟨fault, meets, rfl⟩⟩
  refine connected.bind ?_
  rintro _ _ ⟨rfl, ⟨spared, rfl⟩ | ⟨fault, meets, rfl⟩⟩
  · exact opened (Fates.fails_of_spared spared)
  · exact yields_fail (unopened fault meets)

/-- An outage of the database is noted and reported as the task that met it. -/
theorem yields_reported {post : Except Fault α → Contents → Prop} {fault : Fault}
    {task : CatalogTask} {level : Log.Level} {source : Log.Source} {text : String}
    (outage : fault.isDatabaseOutage = true) (holds : post (.error (.catalog task)) k) :
    Yields fates (Routine.rescue (.fail fault) Fault.isDatabaseOutage fun _ => do
      log level source text
      .fail (.catalog task)) k post := by
  rw [rescue_fail, if_pos outage]
  exact yields_process_bind rfl fun _ => yields_fail holds

/-- A query in a session of its own is answered, or it is denied and reported as its task. -/
theorem yields_query {c : DatabaseCall} {post : Except Fault c.Reply → Contents → Prop}
    {task : CatalogTask} {level : Log.Level} {source : Log.Source} {text : String}
    (prior : isPrior (.database c) = true)
    (granted : fates.denies c = false → ∀ reply k', Performs k (.database c) reply k' →
      ∃ a, reply = .ok a ∧ post (.ok a) k')
    (denied : fates.denies c = true → ∀ k', Leaves fates k (.database c) k' →
      post (.error (.catalog task)) k') :
    Yields fates ((Catalog.session (Catalog.database c)).rescue Fault.isDatabaseOutage fun _ => do
      log level source text
      .fail (.catalog task)) k post := by
  have asked : Yields fates (Catalog.session (Catalog.database c)) k fun o k' =>
      (∃ a, o = .ok a ∧ post (.ok a) k') ∨
        ∃ fault, o = .error fault ∧ fault.isDatabaseOutage = true ∧
          post (.error (.catalog task)) k' := by
    refine yields_session (fun opened => yields_call prior ?_ ?_) ?_
    · intro spared reply k' performed
      obtain ⟨a, rfl, holds⟩ := granted (Fates.grants opened spared) reply k' performed
      exact .inl ⟨a, rfl, holds⟩
    · intro fault meets k' left
      have failed := Fates.denies_of_denial? (Fates.denial?_of_query opened meets)
      exact .inr ⟨fault, rfl, fates.fits meets, denied failed k' left⟩
    · intro fault meets
      have failed := Fates.denies_of_denial? (Fates.denial?_of_connect meets c)
      exact .inr ⟨fault, rfl, fates.fits meets, denied failed k (.inl rfl)⟩
  refine asked.rescue ?_
  rintro _ k' (⟨a, rfl, holds⟩ | ⟨fault, rfl, outage, holds⟩)
  · exact yields_done holds
  · exact yields_reported outage holds

/-- A call to the key-value server of which every failure is told as one fault. -/
theorem yields_server {c : KeysCall} {post : Except Fault c.Reply → Contents → Prop}
    {told : Fault} (prior : isPrior (.keys c) = true)
    (answered : fates.fails (.keys c) = false → ∀ reply k', Performs k (.keys c) reply k' →
      (∃ a, reply = .ok a ∧ post (.ok a) k') ∨
        ∃ fault, reply = .error fault ∧ fault.isKeyValueOutage = true ∧ post (.error told) k')
    (failed : fates.fails (.keys c) = true → ∀ k', Leaves fates k (.keys c) k' →
      post (.error told) k') :
    Yields fates ((Copies.server c).rescue Fault.isKeyValueOutage fun _ => .fail told) k
      post := by
  have asked : Yields fates (Copies.server c) k fun o k' => (∃ a, o = .ok a ∧ post (.ok a) k') ∨
      ∃ fault, o = .error fault ∧ fault.isKeyValueOutage = true ∧ post (.error told) k' := by
    refine yields_call prior ?_ ?_
    · intro spared reply k' performed
      exact answered (Fates.fails_of_spared spared) reply k' performed
    · intro fault meets k' left
      exact .inr ⟨fault, rfl, fates.fits meets, failed (Fates.fails_of_fault? meets) k' left⟩
  refine asked.rescue ?_
  rintro _ k' (⟨a, rfl, holds⟩ | ⟨fault, rfl, outage, holds⟩)
  · exact yields_done holds
  · rw [ofOutcome_error, rescue_fail, if_pos outage]
    exact yields_fail holds

/-! ### Resolving -/

/-- The copy that a resolution finds: a reading that fails finds none. -/
def Fates.copy? (fates : Fates) (s : Settings.KeyValue) (k : Contents) (token : String) :
    Option String :=
  if fates.fails (.keys (.get (Copies.key s token))) then none
  else k.keys.get? (Copies.key s token)

theorem yields_read (token : String) : Yields fates (Copies.read s token) k fun o k' =>
    o = .ok (fates.copy? s k token) ∧ k' = k := by
  have asked : Yields fates (Copies.server (.get (Copies.key s token))) k fun o k' => k' = k ∧
      ((o = .ok (fates.copy? s k token)) ∨
        ∃ fault, o = .error fault ∧ fault.isKeyValueOutage = true ∧
          fates.copy? s k token = none) := by
    refine yields_call rfl ?_ ?_
    · intro spared reply k' performed
      cases performed with
      | get key =>
          refine ⟨rfl, .inl ?_⟩
          rw [Fates.copy?, Fates.fails_of_spared spared]
          rfl
      | quiet c a quiet => cases quiet
    · intro fault meets k' left
      have failed : fates.copy? s k token = none := by
        rw [Fates.copy?, if_pos (Fates.fails_of_fault? meets)]
      refine ⟨?_, .inr ⟨fault, rfl, fates.fits meets, failed⟩⟩
      rcases left with rfl | ⟨-, _, performed⟩
      · rfl
      · cases performed <;> rfl
  refine asked.rescue ?_
  rintro _ _ ⟨rfl, rfl | ⟨fault, rfl, outage, failed⟩⟩
  · exact yields_done ⟨rfl, rfl⟩
  · rw [ofOutcome_error, rescue_fail, if_pos outage]
    exact yields_process_bind rfl fun _ => yields_done ⟨by rw [failed], rfl⟩

theorem yields_find (token : String) : Yields fates (Catalog.find token) k fun o k' => k' = k ∧
    o = if fates.denies (.findLink token) then .error (.catalog (.read token))
      else .ok (k.links.find? token) := by
  refine yields_query rfl ?_ ?_
  · intro granted reply k' performed
    cases performed with
    | find token => exact ⟨_, rfl, rfl, by rw [granted]; rfl⟩
    | quiet c a quiet => cases quiet
  · intro denied k' left
    refine ⟨?_, by rw [denied]; rfl⟩
    rcases left with rfl | ⟨-, _, performed⟩
    · rfl
    · cases performed <;> rfl

/-- Filling a copy is attempted, and its failures are absorbed. -/
theorem yields_refill (link : Link) (token : String) :
    Yields fates (refill s link token) k fun o k' => o = .ok () ∧ (k' = k ∨
      k' = { k with keys := k.keys.set (Copies.key s token) link.url (Copies.lifetime s) }) := by
  have filled : Yields fates (Copies.fill s link.url token) k fun o k' =>
      (o = .ok () ∨ o = .error (.copies (.fill token))) ∧ (k' = k ∨
        k' = { k with
          keys := k.keys.set (Copies.key s token) link.url (Copies.lifetime s) }) := by
    refine yields_server rfl ?_ ?_
    · intro _ reply k' performed
      cases performed with
      | set key text seconds => exact .inl ⟨(), rfl, .inl rfl, .inr rfl⟩
      | quiet c a quiet => cases quiet
    · rintro _ k' (rfl | ⟨-, _, performed⟩)
      · exact ⟨.inr rfl, .inl rfl⟩
      · cases performed with
        | set key text seconds => exact ⟨.inr rfl, .inr rfl⟩
        | quiet c a quiet => cases quiet
  refine filled.rescue ?_
  rintro _ k' ⟨rfl | rfl, left⟩
  · exact yields_done ⟨rfl, left⟩
  · exact yields_log _ _ _ ⟨rfl, left⟩

/-- What can come of a resolution: there is a copy, or the catalog cannot be read, knows no such
token, or tells the address, whether a copy of it is made or not. -/
inductive Resolves (fates : Fates) (s : Settings.KeyValue) (token : String) (k : Contents) :
    Except Fault String → Contents → Prop
  | copied (url : String) (copy : fates.copy? s k token = some url) :
      Resolves fates s token k (.ok url) k
  | unread (missed : fates.copy? s k token = none)
      (denied : fates.denies (.findLink token) = true) :
      Resolves fates s token k (.error (.catalog (.read token))) k
  | absent (missed : fates.copy? s k token = none)
      (granted : fates.denies (.findLink token) = false)
      (absent : k.links.find? token = none) :
      Resolves fates s token k (.error (.unknownUrl token)) k
  | found (link : Link) (k' : Contents) (missed : fates.copy? s k token = none)
      (granted : fates.denies (.findLink token) = false)
      (found : k.links.find? token = some link)
      (filled : k' = k ∨ k' = { k with
        keys := k.keys.set (Copies.key s token) link.url (Copies.lifetime s) }) :
      Resolves fates s token k (.ok link.url) k'

/-- What a resolution comes to, and what it leaves. -/
theorem yields_resolve (token : String) :
    Yields fates (resolve s token) k (Resolves fates s token k) := by
  refine yields_measured _ _ ?_
  refine (yields_read token).bind ?_
  rintro _ k ⟨rfl, rfl⟩
  cases copy : fates.copy? s k token with
  | some url =>
      exact yields_process_bind (c := .count _) rfl fun _ => yields_done (.copied url copy)
  | none =>
      refine yields_process_bind (c := .count _) rfl fun _ => ?_
      refine (yields_find token).bind ?_
      rintro _ k ⟨rfl, rfl⟩
      split
      · rename_i denied
        exact yields_fail (.unread copy denied)
      · rename_i granted
        cases found : k.links.find? token with
        | none => exact yields_fail (.absent copy (Bool.eq_false_iff.mpr granted) found)
        | some link =>
            refine (yields_refill link token).bind ?_
            rintro _ k' ⟨rfl, filled⟩
            exact yields_done
              (.found link k' copy (Bool.eq_false_iff.mpr granted) found filled)

/-! ### Updating and deleting -/

/-- Dropping a copy is attempted, and its failures are absorbed. -/
theorem yields_invalidate (token : String) (level : Log.Level) :
    Yields fates (invalidate s token level) k fun o k' => o = .ok () ∧ (k' = k ∨
      k' = { k with keys := k.keys.delete (Copies.key s token) }) := by
  have dropped : Yields fates (Copies.drop s token) k fun o k' =>
      (o = .ok () ∨ o = .error (.notCopied token) ∨ o = .error (.copies (.drop token))) ∧
        (k' = k ∨ k' = { k with keys := k.keys.delete (Copies.key s token) }) := by
    have counted : Yields fates ((Copies.server (.delete (Copies.key s token))).rescue
        Fault.isKeyValueOutage fun _ => .fail (.copies (.drop token))) k fun o k' =>
          ((∃ n, o = .ok n) ∨ o = .error (.copies (.drop token))) ∧
            (k' = k ∨ k' = { k with keys := k.keys.delete (Copies.key s token) }) := by
      refine yields_server rfl ?_ ?_
      · intro _ reply k' performed
        cases performed with
        | drop key => exact .inl ⟨_, rfl, .inl ⟨_, rfl⟩, .inr rfl⟩
        | quiet c a quiet => cases quiet
      · rintro _ k' (rfl | ⟨-, _, performed⟩)
        · exact ⟨.inr rfl, .inl rfl⟩
        · cases performed with
          | drop key => exact ⟨.inr rfl, .inr rfl⟩
          | quiet c a quiet => cases quiet
    refine counted.bind ?_
    rintro _ k' ⟨⟨n, rfl⟩ | rfl, left⟩
    · rw [ofOutcome_ok, bind_done]
      split
      · exact yields_fail ⟨.inr (.inl rfl), left⟩
      · exact yields_done ⟨.inl rfl, left⟩
    · exact yields_fail ⟨.inr (.inr rfl), left⟩
  refine dropped.rescue ?_
  rintro _ k' ⟨rfl | rfl | rfl, left⟩
  · exact yields_done ⟨rfl, left⟩
  · exact yields_log _ _ _ ⟨rfl, left⟩
  · exact yields_log _ _ _ ⟨rfl, left⟩

/-- What can come of an update: the address is refused, the catalog cannot be written, knows no
such token, or changes the link, whether the copy is dropped or not. -/
inductive Updates (fates : Fates) (s : Settings.KeyValue) (token url : String) (k : Contents) :
    Except Fault Link → Contents → Prop
  | refused (fault : Fault) (refused : Url.check url = .error fault) :
      Updates fates s token url k (.error fault) k
  | unwritten (k' : Contents) (accepted : Url.check url = .ok ())
      (denied : fates.denies (.retargetLink token url (Bench.clock k.step)) = true)
      (left : Leaves fates k (.database (.retargetLink token url (Bench.clock k.step))) k') :
      Updates fates s token url k (.error (.catalog (.update token))) k'
  | absent (accepted : Url.check url = .ok ())
      (granted : fates.denies (.retargetLink token url (Bench.clock k.step)) = false)
      (absent : k.links.find? token = none) :
      Updates fates s token url k (.error (.unknownToken token)) k
  | updated (link : Link) (k' k'' : Contents) (accepted : Url.check url = .ok ())
      (granted : fates.denies (.retargetLink token url (Bench.clock k.step)) = false)
      (found : k.links.find? token ≠ none)
      (retargeted : k' = { k with links := k.links.retarget token url (Bench.clock k.step) })
      (link? : k'.links.find? token = some link)
      (dropped : k'' = k' ∨ k'' = { k' with keys := k'.keys.delete (Copies.key s token) }) :
      Updates fates s token url k (.ok link) k''

/-- What can come of a deletion: the catalog cannot be written, knows no such token, or deletes
the link, whether the copy is dropped or not. -/
inductive Deletes (fates : Fates) (s : Settings.KeyValue) (token : String) (k : Contents) :
    Except Fault Unit → Contents → Prop
  | unwritten (k' : Contents) (denied : fates.denies (.deleteLink token) = true)
      (left : Leaves fates k (.database (.deleteLink token)) k') :
      Deletes fates s token k (.error (.catalog (.delete token))) k'
  | absent (granted : fates.denies (.deleteLink token) = false)
      (absent : k.links.find? token = none) :
      Deletes fates s token k (.error (.unknownToken token)) k
  | deleted (k' k'' : Contents) (granted : fates.denies (.deleteLink token) = false)
      (found : k.links.find? token ≠ none)
      (deleted : k' = { k with links := k.links.delete token })
      (dropped : k'' = k' ∨ k'' = { k' with keys := k'.keys.delete (Copies.key s token) }) :
      Deletes fates s token k (.ok ()) k''

/-- The row of a token is pointed elsewhere, unless that is denied. -/
theorem yields_retarget (token url : String) :
    Yields fates (Catalog.retarget token url) k fun o k' =>
      (fates.denies (.retargetLink token url (Bench.clock k.step)) = true ∧
        Leaves fates k (.database (.retargetLink token url (Bench.clock k.step))) k' ∧
        o = .error (.catalog (.update token))) ∨
      (fates.denies (.retargetLink token url (Bench.clock k.step)) = false ∧
        k' = { k with links := k.links.retarget token url (Bench.clock k.step) } ∧
        o = match k'.links.find? token with
          | some link => .ok link
          | none => .error (.unknownToken token)) := by
  refine yields_now_bind ?_
  have asked : Yields fates ((Catalog.session (Catalog.database
      (.retargetLink token url (Bench.clock k.step)))).rescue Fault.isDatabaseOutage fun _ => do
        log .error .catalog s!"Failed to update mapping for token {token}"
        .fail (.catalog (.update token))) k fun o k' =>
      (fates.denies (.retargetLink token url (Bench.clock k.step)) = true ∧
        Leaves fates k (.database (.retargetLink token url (Bench.clock k.step))) k' ∧
        o = .error (.catalog (.update token))) ∨
      (fates.denies (.retargetLink token url (Bench.clock k.step)) = false ∧
        k' = { k with links := k.links.retarget token url (Bench.clock k.step) } ∧
        o = .ok (k'.links.find? token)) := by
    refine yields_query rfl ?_ fun denied k' left => .inl ⟨denied, left, rfl⟩
    intro granted reply k' performed
    cases performed with
    | retarget token url time => exact ⟨_, rfl, .inr ⟨granted, rfl, rfl⟩⟩
    | quiet c a quiet => cases quiet
  refine asked.bind ?_
  rintro _ k' (⟨denied, left, rfl⟩ | ⟨granted, retargeted, rfl⟩)
  · exact yields_fail (.inl ⟨denied, left, rfl⟩)
  · rw [ofOutcome_ok, bind_done]
    cases link? : k'.links.find? token with
    | some link => exact yields_done (.inr ⟨granted, retargeted, by rw [link?]⟩)
    | none => exact yields_fail (.inr ⟨granted, retargeted, by rw [link?]⟩)

/-- What an update comes to, and what it leaves. -/
theorem yields_update (token url : String) :
    Yields fates (update s token url) k (Updates fates s token url k) := by
  refine yields_measured _ _ ?_
  cases accepted : Url.check url with
  | error fault => exact yields_fail (.refused fault accepted)
  | ok =>
      refine (yields_retarget token url).bind ?_
      rintro o k' (⟨denied, left, rfl⟩ | ⟨granted, retargeted, told⟩)
      · exact yields_fail (.unwritten k' accepted denied left)
      · cases link? : k'.links.find? token with
        | none =>
            rw [link?] at told
            subst told retargeted
            have same := Table.retarget_of_absent link?
            rw [same] at link? ⊢
            exact yields_fail (.absent accepted granted link?)
        | some link =>
            rw [link?] at told
            subst told
            refine (yields_invalidate token .debug).bind ?_
            rintro _ k'' ⟨rfl, dropped⟩
            refine yields_process_bind (c := .log _) rfl fun _ => yields_done ?_
            refine .updated link k' k'' accepted granted (fun absent => ?_) retargeted link? dropped
            rw [retargeted, Table.find?_retarget, absent] at link?
            cases link?

/-- The row of a token is deleted, unless that is denied. -/
theorem yields_catalogDelete (token : String) :
    Yields fates (Catalog.delete token) k fun o k' =>
      (fates.denies (.deleteLink token) = true ∧
        Leaves fates k (.database (.deleteLink token)) k' ∧
        o = .error (.catalog (.delete token))) ∨
      (fates.denies (.deleteLink token) = false ∧
        k' = { k with links := k.links.delete token } ∧
        o = if k.links.count token = 0 then .error (.unknownToken token) else .ok ()) := by
  have asked : Yields fates ((Catalog.session (Catalog.database (.deleteLink token))).rescue
      Fault.isDatabaseOutage fun _ => do
        log .error .catalog s!"Failed to delete mapping for token {token}"
        .fail (.catalog (.delete token))) k fun o k' =>
      (fates.denies (.deleteLink token) = true ∧
        Leaves fates k (.database (.deleteLink token)) k' ∧
        o = .error (.catalog (.delete token))) ∨
      (fates.denies (.deleteLink token) = false ∧
        k' = { k with links := k.links.delete token } ∧ o = .ok (k.links.count token)) := by
    refine yields_query rfl ?_ fun denied k' left => .inl ⟨denied, left, rfl⟩
    intro granted reply k' performed
    cases performed with
    | delete token => exact ⟨_, rfl, .inr ⟨granted, rfl, rfl⟩⟩
    | quiet c a quiet => cases quiet
  refine asked.bind ?_
  rintro _ k' (⟨denied, left, rfl⟩ | ⟨granted, deleted, rfl⟩)
  · exact yields_fail (.inl ⟨denied, left, rfl⟩)
  · rw [ofOutcome_ok, bind_done]
    split
    · rename_i none
      exact yields_fail (.inr ⟨granted, deleted, rfl⟩)
    · rename_i found
      exact yields_done (.inr ⟨granted, deleted, rfl⟩)

/-- What a deletion comes to, and what it leaves. -/
theorem yields_delete (token : String) :
    Yields fates (delete s token) k (Deletes fates s token k) := by
  refine yields_measured _ _ ?_
  refine (yields_catalogDelete token).bind ?_
  rintro o k' (⟨denied, left, rfl⟩ | ⟨granted, deleted, told⟩)
  · exact yields_fail (.unwritten k' denied left)
  · split at told
    · rename_i none
      have absent := Table.count_eq_zero.mp none
      rw [Table.delete_of_absent absent] at deleted
      subst told deleted
      exact yields_fail (.absent granted absent)
    · rename_i found
      subst told
      refine (yields_invalidate token .warning).bind ?_
      rintro _ k'' ⟨rfl, dropped⟩
      refine yields_log _ _ _ ?_
      exact .deleted k' k'' granted (fun absent => found (Table.count_eq_zero.mpr absent))
        deleted dropped

/-! ### Shortening -/

/-- The fault that an insertion fails with when one of its calls fails. -/
def insertFault (id : Int) (token : String) (fault : Fault) : Fault :=
  if fault.isDatabaseOutage then
    if fault.isKeyConflict then .duplicateLink id token else .catalog (.insert token)
  else fault

/-- What can come of inserting a link: the catalog cannot be written, the id or the token is
taken, the id does not fit, the link is inserted but cannot be read back, or all goes well. -/
inductive Inserts (fates : Fates) (id : Int) (url token : String) (k : Contents) :
    Except Fault Link → Contents → Prop
  | unwritten (fault : Fault) (k' : Contents)
      (denied : fates.denial? (.insertLink id url token) = some fault)
      (left : Leaves fates k (.database (.insertLink id url token)) k') :
      Inserts fates id url token k (.error (insertFault id token fault)) k'
  | taken (granted : fates.denies (.insertLink id url token) = false)
      (refused : k.links.insert (freshLink id url token) = .error Table.conflict) :
      Inserts fates id url token k (.error (.duplicateLink id token)) k
  | unfit (granted : fates.denies (.insertLink id url token) = false)
      (refused : k.links.insert (freshLink id url token) = .error .idOutOfRange) :
      Inserts fates id url token k (.error .idOutOfRange) k
  | unread (fault : Fault) (links : Table)
      (granted : fates.denies (.insertLink id url token) = false)
      (inserted : k.links.insert (freshLink id url token) = .ok links)
      (failed : fates.fault? (.database (.readBack id)) = some fault) :
      Inserts fates id url token k (.error (insertFault id token fault)) { k with links := links }
  | made (links : Table) (granted : fates.denies (.insertLink id url token) = false)
      (inserted : k.links.insert (freshLink id url token) = .ok links)
      (read : fates.fails (.database (.readBack id)) = false) :
      Inserts fates id url token k (.ok (freshLink id url token)) { k with links := links }

/-- What can come of shortening: the address is refused, the counter cannot be advanced, the
number has no token, or a link is inserted under it. -/
inductive Shortens (fates : Fates) (s : Settings.KeyValue) (url : String) (k : Contents) :
    Except Fault Link → Contents → Prop
  | refused (fault : Fault) (refused : Url.check url = .error fault) :
      Shortens fates s url k (.error fault) k
  | uncounted (k' : Contents) (accepted : Url.check url = .ok ())
      (failed : fates.fails (.keys (.increment s.counterKey)) = true ∨
        ∃ fault, k.keys.increment s.counterKey = .error fault)
      (left : Leaves fates k (.keys (.increment s.counterKey)) k') :
      Shortens fates s url k (.error (.counter (.advance s.counterKey))) k'
  | uncoded (id : Int) (keys : KeyValue.Keyspace) (fault : Fault)
      (accepted : Url.check url = .ok ())
      (granted : fates.fails (.keys (.increment s.counterKey)) = false)
      (counted : k.keys.increment s.counterKey = .ok (id, keys))
      (uncoded : Token.ofId id = .error fault) :
      Shortens fates s url k (.error fault) { k with keys := keys }
  | numbered (id : Int) (token : String) (keys : KeyValue.Keyspace) (o : Except Fault Link)
      (k' : Contents) (accepted : Url.check url = .ok ())
      (granted : fates.fails (.keys (.increment s.counterKey)) = false)
      (counted : k.keys.increment s.counterKey = .ok (id, keys))
      (coded : Token.ofId id = .ok token)
      (inserts : Inserts fates id url token { k with keys := keys } o k') :
      Shortens fates s url k o k'

/-- A row is refused because its keys are taken or its id does not fit. -/
theorem insert_error {t : Table} {l : Link} {fault : Fault} (refused : t.insert l = .error fault) :
    fault = Table.conflict ∨ fault = .idOutOfRange := by
  unfold Table.insert at refused
  split at refused
  · split at refused
    · cases refused
    · cases refused
      exact .inl rfl
  · cases refused
    exact .inr rfl

namespace Inserts

variable {id : Int} {url token : String} {o : Except Fault Link} {k' : Contents}

/-- Where nothing is written in spite of a failure, a denied insertion changes nothing. -/
theorem of_denied (inserts : Inserts fates id url token k o k') {fault : Fault}
    (denied : fates.denial? (.insertLink id url token) = some fault)
    (kept : fates.loses (.database (.insertLink id url token)) = false) :
    o = .error (insertFault id token fault) ∧ k' = k := by
  have failed := Fates.denies_of_denial? denied
  cases inserts with
  | unwritten fault' k' denied' left =>
      cases denied.symm.trans denied'
      exact ⟨rfl, eq_of_leaves kept left⟩
  | taken granted | unfit granted | unread _ _ granted | made _ granted =>
      cases failed.symm.trans granted

/-- A link that cannot be read back is in the catalog. -/
theorem of_unread (inserts : Inserts fates id url token k o k') {fault : Fault} {links : Table}
    (granted : fates.denies (.insertLink id url token) = false)
    (inserted : k.links.insert (freshLink id url token) = .ok links)
    (failed : fates.fault? (.database (.readBack id)) = some fault) :
    o = .error (insertFault id token fault) ∧ k' = { k with links := links } := by
  cases inserts with
  | unwritten fault' k' denied => cases (Fates.denies_of_denial? denied).symm.trans granted
  | taken _ refused | unfit _ refused => cases refused.symm.trans inserted
  | unread fault' links' _ inserted' failed' =>
      cases inserted.symm.trans inserted'
      cases failed.symm.trans failed'
      exact ⟨rfl, rfl⟩
  | made _ _ _ read =>
      rw [Fates.fails_of_fault? failed] at read
      cases read

/-- A link that can be inserted and read back is made. -/
theorem of_granted (inserts : Inserts fates id url token k o k') {links : Table}
    (granted : fates.denies (.insertLink id url token) = false)
    (inserted : k.links.insert (freshLink id url token) = .ok links)
    (read : fates.fails (.database (.readBack id)) = false) :
    o = .ok (freshLink id url token) ∧ k' = { k with links := links } := by
  cases inserts with
  | unwritten fault k' denied => cases (Fates.denies_of_denial? denied).symm.trans granted
  | taken _ refused | unfit _ refused => cases refused.symm.trans inserted
  | unread fault links' _ _ failed => cases (Fates.fails_of_fault? failed).symm.trans read
  | made links' _ inserted' =>
      cases inserted.symm.trans inserted'
      exact ⟨rfl, rfl⟩

end Inserts

/-- An address that is accepted and has a number goes on to be inserted. -/
theorem Shortens.inserts {url : String} {o : Except Fault Link} {k' : Contents}
    (shortens : Shortens fates s url k o k') {id : Int} {token : String}
    {keys : KeyValue.Keyspace} (accepted : Url.check url = .ok ())
    (granted : fates.fails (.keys (.increment s.counterKey)) = false)
    (counted : k.keys.increment s.counterKey = .ok (id, keys))
    (coded : Token.ofId id = .ok token) :
    Inserts fates id url token { k with keys := keys } o k' := by
  cases shortens with
  | refused fault refused => cases accepted.symm.trans refused
  | uncounted k' _ failed =>
      rcases failed with failed | ⟨fault, refused⟩
      · cases granted.symm.trans failed
      · cases counted.symm.trans refused
  | uncoded id' keys' fault _ _ counted' uncoded =>
      cases counted.symm.trans counted'
      cases coded.symm.trans uncoded
  | numbered id' token' keys' o k' _ _ counted' coded' inserts =>
      cases counted.symm.trans counted'
      cases coded.symm.trans coded'
      exact inserts

/-- The insertion itself, in an open session. -/
theorem yields_insertLink {id : Int} {url token : String}
    (opened : fates.fails (.database .connect) = false) :
    Yields fates (Catalog.database (.insertLink id url token)) k fun o k' =>
      (fates.denies (.insertLink id url token) = false ∧ ∃ links,
        k.links.insert (freshLink id url token) = .ok links ∧ k' = { k with links := links } ∧
        o = .ok ()) ∨
      ∃ fault, o = .error fault ∧
        Inserts fates id url token k (.error (insertFault id token fault)) k' := by
  refine yields_call rfl ?_ ?_
  · intro spared reply k' performed
    have granted := Fates.grants opened spared
    cases performed with
    | insert id url token links inserted => exact .inl ⟨granted, links, inserted, rfl, rfl⟩
    | uninserted id url token fault refused =>
        refine .inr ⟨fault, rfl, ?_⟩
        rcases insert_error refused with rfl | rfl
        · exact .taken granted refused
        · exact .unfit granted refused
    | quiet c a quiet => cases quiet
  · intro fault meets k' left
    exact .inr ⟨fault, rfl, .unwritten fault k' (Fates.denial?_of_query opened meets) left⟩

/-- What was inserted is there to be read back, so only a failing call keeps it from being read. -/
theorem yields_readBack {id : Int} {url token : String} {links : Table}
    (granted : fates.denies (.insertLink id url token) = false)
    (inserted : k.links.insert (freshLink id url token) = .ok links) :
    Yields fates (Catalog.database (.readBack id)) { k with links := links } fun o k' =>
      Inserts fates id url token k (o.mapError (insertFault id token)) k' := by
  have there : links.findId? id = some (freshLink id url token) := Table.findId?_insert inserted
  refine yields_call rfl ?_ ?_
  · intro spared reply k' performed
    cases performed with
    | readBack id link found =>
        cases there.symm.trans found
        exact .made links granted inserted (Fates.fails_of_spared spared)
    | gone id text gone => cases there.symm.trans gone
    | quiet c a quiet => cases quiet
  · intro fault meets k' left
    have same : k' = { k with links := links } := by
      rcases left with rfl | ⟨-, _, performed⟩
      · rfl
      · cases performed <;> rfl
    rw [same]
    exact .unread fault links granted inserted meets

/-- What an insertion comes to, and what it leaves. -/
theorem yields_insert (id : Int) (url token : String) :
    Yields fates (Catalog.insert id url token) k (Inserts fates id url token k) := by
  have asked : Yields fates (Catalog.session do
      Catalog.database (.insertLink id url token)
      Catalog.database (.readBack id)) k fun o k' =>
        Inserts fates id url token k (o.mapError (insertFault id token)) k' := by
    refine yields_session (fun opened => ?_) ?_
    · refine (yields_insertLink opened).bind ?_
      rintro _ _ (⟨granted, links, inserted, rfl, rfl⟩ | ⟨fault, rfl, inserts⟩)
      · exact yields_readBack granted inserted
      · exact yields_fail inserts
    · intro fault meets
      exact .unwritten fault k (Fates.denial?_of_connect meets _) (.inl rfl)
  refine asked.rescue ?_
  intro o k' inserts
  cases o with
  | ok link => exact yields_done inserts
  | error fault =>
      rw [ofOutcome_error, rescue_fail]
      change Inserts fates id url token k (.error (insertFault id token fault)) k' at inserts
      unfold insertFault at inserts
      split
      · rename_i outage
        rw [if_pos outage] at inserts
        split at inserts
        · rename_i conflict
          rw [if_pos conflict]
          exact yields_fail inserts
        · rename_i other
          rw [if_neg other]
          exact yields_process_bind (c := .log _) rfl fun _ => yields_fail inserts
      · rename_i passes
        rw [if_neg passes] at inserts
        exact yields_fail inserts

/-- The next id is counted on, unless the counter fails or cannot be counted on. -/
theorem yields_next : Yields fates (Counter.next s) k fun o k' =>
    ((fates.fails (.keys (.increment s.counterKey)) = true ∨
        ∃ fault, k.keys.increment s.counterKey = .error fault) ∧
      Leaves fates k (.keys (.increment s.counterKey)) k' ∧
      o = .error (.counter (.advance s.counterKey))) ∨
    (fates.fails (.keys (.increment s.counterKey)) = false ∧ ∃ id keys,
      k.keys.increment s.counterKey = .ok (id, keys) ∧ k' = { k with keys := keys } ∧
      o = .ok id) := by
  refine yields_server rfl ?_ fun failed k' left => .inl ⟨.inl failed, left, rfl⟩
  intro granted reply k' performed
  cases performed with
  | count key n keys counted =>
      exact .inl ⟨n, rfl, .inr ⟨granted, n, keys, counted, rfl, rfl⟩⟩
  | uncounted key fault refused =>
      refine .inr ⟨fault, rfl, ?_, .inl ⟨.inr ⟨fault, refused⟩, .inl rfl, rfl⟩⟩
      unfold KeyValue.Keyspace.increment at refused
      split at refused <;> cases refused
      rfl
  | quiet c a quiet => cases quiet

/-- What a shortening comes to, and what it leaves. -/
theorem yields_shorten (url : String) :
    Yields fates (shorten s url) k (Shortens fates s url k) := by
  refine yields_measured _ _ ?_
  cases accepted : Url.check url with
  | error fault => exact yields_fail (.refused fault accepted)
  | ok =>
      refine (yields_next).bind ?_
      rintro _ k' (⟨failed, left, rfl⟩ | ⟨granted, id, keys, counted, rfl, rfl⟩)
      · exact yields_fail (.uncounted k' accepted failed left)
      · rw [ofOutcome_ok, bind_done]
        cases coded : Token.ofId id with
        | error fault =>
            exact yields_fail (.uncoded id keys fault accepted granted counted coded)
        | ok token =>
            rw [ofOutcome_ok, bind_done]
            refine (yields_insert id url token).bind ?_
            intro o k' inserts
            have came : Shortens fates s url k o k' :=
              .numbered id token keys o k' accepted granted counted coded inserts
            cases o with
            | error fault => exact yields_fail came
            | ok link => exact yields_process_bind (c := .log _) rfl fun _ => yields_done came

end LinkShortener.Failure
