import LinkShortener.Proofs.Traffic.Basic
import LinkShortener.Proofs.Web.Answer
import LinkShortener.Proofs.Web.Reading

/-!
Refused requests. A response that blames the caller, with a status from 400 to 499, is given before
anything is written: the routes that only read change nothing in any case, and an operation of the
directory that refuses or finds nothing has written nothing.

Main statement: a request that is answered as an error of the caller leaves the links, the keys,
the clicks and the bus as they were, whichever calls fail (`refused_requests_change_nothing`).
-/

namespace LinkShortener.Web

open Routine Failure
open Bench (World)
open Traffic (Calm)

variable {fates : Fates} {k k' : Contents} {α : Type}

/-! ### Blame -/

/-- An answer that blames the caller comes before anything is written, and nothing is done after
it. -/
def Guarded (k : Contents) (o : Except Fault Answer) (k' : Contents) : Prop :=
  ∀ answer, o = .ok answer → 400 ≤ answer.response.status → answer.response.status < 500 →
    answer.after = .done () ∧ k' = k

/-- Answers by reading are guarded. -/
theorem guarded_of_only {routine : Routine Answer} (only : Only isQuiet Concludes routine) :
    Yields fates routine k (Guarded k) := by
  refine (yields_of_only only).mono ?_
  rintro o _ ⟨concludes, rfl⟩ answer came - -
  exact ⟨concludes answer came, rfl⟩

/-- An operation is guarded if its values are not answered with blame and its faults that are
have written nothing. -/
theorem guarded_of_tells {answers : α → Answer → Prop} {o' : Except Fault α}
    {o : Except Fault Answer} (tells : Tells answers o' o)
    (praised : ∀ a answer, answers a answer → answer.response.status < 400)
    (kept : ∀ fault, o' = .error fault → statusOf fault < 500 → k' = k) : Guarded k o k' := by
  intro answer came blames below
  cases o' with
  | ok a =>
      obtain ⟨_, rfl, answers⟩ := tells
      cases came
      exact absurd (praised a answer answers) (Nat.not_lt.mpr blames)
  | error fault =>
      have told : reported fault = .ok answer := (show o = reported fault from tells) ▸ came
      have status : answer.response.status = statusOf fault := by
        rw [← status_reported, told]
        rfl
      rw [status] at below
      exact ⟨(plain_of_reported told).1, kept fault rfl below⟩

theorem praised_plainly (status : Nat) (small : status < 400) {respond : α → Response}
    (same : ∀ a, (respond a).status = status) (a : α) (answer : Answer)
    (plainly : Plainly respond a answer) : answer.response.status < 400 := by
  cases plainly
  exact same a ▸ small

section Operations

variable {s : Settings.KeyValue} {t url : String}

/-- A resolution that fails keeps the contents. -/
theorem kept_of_resolves {o : Except Fault String} {fault : Fault}
    (resolves : Resolves fates s t k o k') (failed : o = .error fault) : k' = k := by
  cases resolves with
  | copied | found => cases failed
  | unread | absent => rfl

/-- An update that is turned down keeps the contents. -/
theorem kept_of_updates {o : Except Fault Link} {fault : Fault}
    (updates : Updates fates s t url k o k') (failed : o = .error fault)
    (below : statusOf fault < 500) : k' = k := by
  cases updates with
  | refused | absent => rfl
  | unwritten =>
      cases failed
      exact absurd below (Nat.lt_irrefl 500)
  | updated => cases failed

/-- A deletion that is turned down keeps the contents. -/
theorem kept_of_deletes {o : Except Fault Unit} {fault : Fault}
    (deletes : Deletes fates s t k o k') (failed : o = .error fault)
    (below : statusOf fault < 500) : k' = k := by
  cases deletes with
  | absent => rfl
  | unwritten =>
      cases failed
      exact absurd below (Nat.lt_irrefl 500)
  | deleted => cases failed

/-- No failure of an insertion is blamed on the caller. -/
theorem statusOf_inserts {id : Int} {o : Except Fault Link} {fault : Fault}
    (inserts : Inserts fates id url t k o k') (failed : o = .error fault) :
    statusOf fault = 500 := by
  cases inserts with
  | unwritten fault _ denied =>
      cases failed
      exact statusOf_insertFault (Fates.outage_of_denial? denied)
  | taken | unfit =>
      cases failed
      rfl
  | unread fault links granted inserted unread =>
      cases failed
      exact statusOf_insertFault (fates.fits unread)
  | made => cases failed

/-- A shortening that is turned down keeps the contents. -/
theorem kept_of_shortens {o : Except Fault Link} {fault : Fault}
    (shortens : Shortens fates s url k o k') (failed : o = .error fault)
    (below : statusOf fault < 500) : k' = k := by
  cases shortens with
  | refused => rfl
  | uncounted =>
      cases failed
      exact absurd below (Nat.lt_irrefl 500)
  | uncoded id keys fault' _ _ _ uncoded =>
      cases failed
      -- The counter has advanced by now, but a number without a token is not blamed on the caller.
      obtain ⟨-, rfl⟩ := Token.ofId_eq_error uncoded
      exact absurd below (by simp [statusOf, Fault.family])
  | numbered id token keys o _ _ _ _ _ inserts =>
      rw [statusOf_inserts inserts failed] at below
      exact absurd below (Nat.lt_irrefl 500)

end Operations

/-- Every answer is guarded. -/
theorem yields_answer {settings : Settings} {r : Request} :
    Yields fates (answer settings r) k (Guarded k) := by
  have handles := handles_answer settings r
  generalize answer settings r = routine at handles ⊢
  cases handles with
  | reads _ only => exact guarded_of_only only
  | shows path token found =>
      refine yields_page_bind fun page => yields_done ?_
      intro answer came _ _
      exact ⟨concludes_plain _ answer came, rfl⟩
  | shortens wanted asked =>
      refine (yields_shorten asked).mono ?_
      rintro o k' ⟨o', shortens, tells⟩
      exact guarded_of_tells tells (praised_plainly 201 (by decide) fun _ => rfl) fun _ =>
        kept_of_shortens shortens
  | redirects token =>
      refine yields_answer_redirect.mono ?_
      rintro o k' ⟨o', resolves, tells⟩
      refine guarded_of_tells tells ?_ fun _ failed _ => kept_of_resolves resolves failed
      intro url answer sends
      rw [show answer.response = _ from sends]
      exact (by decide : 307 < 400)
  | updates token wanted asked =>
      refine (yields_update asked).mono ?_
      rintro o k' ⟨o', updates, tells⟩
      exact guarded_of_tells tells (praised_plainly 200 (by decide) fun _ => rfl) fun _ =>
        kept_of_updates updates
  | deletes token =>
      refine yields_delete.mono ?_
      rintro o k' ⟨o', deletes, tells⟩
      exact guarded_of_tells tells (praised_plainly 204 (by decide) fun _ => rfl) fun _ =>
        kept_of_deletes deletes

/-- Whatever request it is and whichever calls fail, the request is served to its end, and if it is
answered as an error of the caller then the links, the keys with the copies and the counter, the
clicks and the messages handed to the bus are as they were. -/
theorem refused_requests_change_nothing (fates : Fates) (settings : Settings) {w : World}
    (calm : Calm w) (r : Request) :
    ∃ x w', (serve settings r).run (undergo fates) w = (.ok x, w') ∧
      (400 ≤ x.response.status → x.response.status < 500 → contents w' = contents w) := by
  cases direct : Sharing.preflight? r with
  | some response =>
      refine ⟨⟨response, none⟩, w, ?_, fun _ _ => rfl⟩
      unfold serve
      rw [direct]
      rfl
  | none =>
      obtain ⟨x, w', o, k', ends, guarded, response, idle⟩ := served direct calm yields_answer
      refine ⟨x, w', ends, fun blames below => ?_⟩
      rw [response, status_shared] at blames below
      cases o with
      | error fault => exact absurd below (Nat.lt_irrefl 500)
      | ok answer =>
          obtain ⟨after, same⟩ := guarded answer rfl blames below
          have left : Calm w' ∧ contents w' = k' := by
            refine idle ?_
            rintro _ ⟨⟩
            exact after
          exact left.2.trans same

/-- A deletion of a link that is not there is refused, and changes nothing. -/
theorem absent_deletion_changes_nothing :
    ∃ x w', (serve {} (bare "DELETE" "/c")).run (undergo .clear) Traffic.lonely = (.ok x, w') ∧
      x.response.status = 404 ∧ contents w' = contents Traffic.lonely := by
  have calm : Calm Traffic.lonely := rfl
  obtain ⟨x, w', ends, kept⟩ :=
    refused_requests_change_nothing .clear {} calm (bare "DELETE" "/c")
  have status : x.response.status = 404 := by
    have told : (((serve {} (bare "DELETE" "/c")).run (undergo .clear) Traffic.lonely).1.map
        fun x => x.response.status) = .ok 404 := by
      rfl
    rw [ends] at told
    exact Except.ok.inj told
  refine ⟨x, w', ends, status, kept ?_ ?_⟩
  · rw [status]
    decide
  · rw [status]
    decide

end LinkShortener.Web
