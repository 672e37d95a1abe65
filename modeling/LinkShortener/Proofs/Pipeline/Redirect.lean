import LinkShortener.Proofs.Pipeline.Balance
import LinkShortener.Web.Service

/-!
What redirects do for the pipeline. Resolving a token is idle; where it brings an address, the visit
gets an event id and is given to the publisher after the response, once.

Main statements: the publisher counts the visit as published if the bus acknowledged it, and else as
not published (`performs_publisher`); and a request on the route of redirects gives one visit to the
publisher if it is answered with 307, and does nothing for the pipeline otherwise
(`performs_serve`).
-/

namespace LinkShortener.Pipeline

open Routine
open Feed (Made)

variable {fails : Call → Fault → Prop}

/-- The publisher is told of failures of the bus only. -/
def Tame (fails : Call → Fault → Prop) : Prop :=
  ∀ c fault, fails (.producer c) fault → fault.isBusOutage = true

/-- A visit that is given to the publisher is counted as published if the bus acknowledged it, and
else as not published. -/
theorem performs_publisher (steady : Steady fails) (tame : Tame fails) (bus : Settings.Bus)
    (visit : Visit) :
    Performs fails (fun calls o => Ran (Publisher.publish bus visit) calls o ∧
      Balances calls 1 0 0 ∧ given calls = []) (Publisher.publish bus visit) := by
  refine (performs_ran _).and ?_
  unfold Publisher.publish
  refine performs_process_bind (c := .recollect) steady fun memory => ?_
  split
  · refine performs_bind (performs_rescue ?_)
    refine performs_call (c := .producer _) fun reply expected => ?_
    cases reply with
    | ok a =>
        refine performs_done (performs_process (c := .count _) steady fun _ => ?_)
        exact ⟨balances_of_shown rfl, rfl⟩
    | error fault =>
        rw [ofOutcome_error, rescue_fail, if_pos (tame _ _ (expected fault rfl))]
        refine performs_process_bind (c := .count _) steady fun _ => performs_fail ?_
        exact performs_fail ⟨balances_of_shown rfl, rfl⟩
  · refine performs_process_bind (c := .count _) steady fun _ => performs_fail ?_
    exact ⟨balances_of_shown rfl, rfl⟩

theorem idle_log (level : Log.Level) (source : Log.Source) (text : String) :
    OnlyCalls isIdle (log level source text) := onlyCalls_call (c := .process (.log _)) rfl

/-- What publishing the visit of a redirect does: one run of the publisher, and a note at most. -/
theorem performs_publish (steady : Steady fails) (tame : Tame fails) (settings : Settings)
    (visit : Visit) :
    Performs fails (fun calls _ => Balances calls 1 0 0 ∧ given calls = [] ∧
        ∃ o, RunsOnce (Publisher.publish settings.bus visit) o calls)
      (Web.publish settings visit) := by
  unfold Web.publish
  refine performs_rescue ((performs_publisher steady tame settings.bus visit).mono ?_)
  rintro calls o ⟨ran, balances, ungiven⟩
  -- A note is left if the publisher was not available, and any other fault goes on as it is.
  have noted : OnlyCalls isIdle ((ofOutcome o).rescue (fun fault => fault.family = .unavailability)
      fun fault => do
        let token := visit.token
        let text := fault.message
        Web.note .warning s!"Failed to publish stats event for {token}: {text}") := by
    cases o with
    | ok a => exact only_done trivial
    | error fault =>
        rw [ofOutcome_error, rescue_fail]
        split
        · exact idle_log _ _ _
        · exact only_fail trivial
  refine (performs_of_only noted).mono ?_
  rintro later _ ⟨idle, -⟩
  refine ⟨?_, ?_, o, [], calls, later, ?_, List.forall_mem_nil _, Idle.silent idle, ran⟩
  · exact balances.append (balances_of_silent (Idle.silent idle))
  · rw [given_append, given_of_idle idle, ungiven, List.append_nil]
  · exact (List.append_nil _).symm

/-! ### Resolving -/

theorem idle_measured {α : Type} {operation : Operation} {ending : Fault → Ending}
    {body : Routine α} (idle : OnlyCalls isIdle body) :
    OnlyCalls isIdle (Directory.measured operation ending body) := by
  refine idle.outcome.bind fun o => ?_
  refine Only.bind ?_ fun _ => only_ofOutcome trivial
  refine (onlyCalls_call (c := .process (.count (.operations _ _))) rfl).bind fun _ => ?_
  exact onlyCalls_call (c := .process (.count (.durations _))) rfl

/-- Resolving a token neither publishes nor asks for an event id. -/
theorem idle_resolve (settings : Settings.KeyValue) (token : String) :
    OnlyCalls isIdle (Directory.resolve settings token) := by
  have looked (copied : Bool) : OnlyCalls isIdle (count (.lookups copied)) :=
    onlyCalls_call (c := .process (.count (.lookups _))) rfl
  refine idle_measured (Only.bind (Only.rescue ?_ fun _ => ?_) fun url? => ?_)
  · exact onlyCalls_call (c := .keys (.get _)) rfl
  · exact (idle_log _ _ _).bind fun _ => only_done trivial
  · cases url? with
    | some url => exact (looked true).bind fun _ => only_done trivial
    | none =>
        refine (looked false).bind fun _ => Only.bind (Only.rescue ?_ fun _ => ?_) fun link? => ?_
        · exact (onlyCalls_call (c := .database .connect) rfl).bind fun _ =>
            onlyCalls_call (c := .database (.findLink _)) rfl
        · exact (idle_log _ _ _).bind fun _ => only_fail trivial
        · cases link? with
          | none => exact only_fail trivial
          | some link =>
              refine Only.bind (Only.rescue (Only.rescue ?_ fun _ => ?_) fun _ => ?_) fun _ =>
                only_done trivial
              · exact onlyCalls_call (c := .keys (.set _ _ _)) rfl
              · exact only_fail trivial
              · exact idle_log _ _ _

/-! ### Requests -/

/-- A visit of a token was given to the publisher once, under the one event id that was given. -/
def PublishesOnce (bus : Settings.Bus) (token : String) (past : List Made) : Prop :=
  ∃ visit : Visit, visit.token = token ∧ given past = [visit.event] ∧
    ∃ o, RunsOnce (Publisher.publish bus visit) o past

/-- What a redirect has come to before its response is sent: it was idle and has nothing more to do,
or the visit has got its event id and is still to be published. -/
def Answers (settings : Settings) (token : String) (calls : List Made) :
    Except Fault Web.Answer → Prop
  | .error _ => Idle calls
  | .ok answer =>
      (Idle calls ∧ answer.response.status ≠ 307 ∧ answer.after = .done ()) ∨
      (answer.response.status = 307 ∧ ∃ visit : Visit, visit.token = token ∧
        Silent calls ∧ given calls = [visit.event] ∧ answer.after = Web.publish settings visit)

section Requests

variable {settings : Settings} {token : String}

/-- Idle calls may come before. -/
theorem Answers.idle_append {past calls : List Made} {o : Except Fault Web.Answer}
    (answers : Answers settings token calls o) (idle : Idle past) :
    Answers settings token (calls ++ past) o := by
  cases o with
  | error fault => exact Idle.append idle answers
  | ok answer =>
      rcases answers with ⟨idle', rest⟩ | ⟨status, visit, own, silent, named, after⟩
      · exact .inl ⟨Idle.append idle idle', rest⟩
      · refine .inr ⟨status, visit, own, Silent.append (Idle.silent idle) silent, ?_, after⟩
        rw [given_append, named, given_of_idle idle, List.append_nil]

theorem idle_report (operation : String) (fault : Fault) :
    Only isIdle (fun o => ∀ answer, o = .ok answer →
      answer.response.status ≠ 307 ∧ answer.after = .done ()) (Web.report operation fault) := by
  have told {status : Nat} (other : status ≠ 307) (text : String) (answer : Web.Answer)
      (came : (.ok (.plain (.ofDetail status text)) : Except Fault Web.Answer) = .ok answer) :
      answer.response.status ≠ 307 ∧ answer.after = .done () := by
    cases came
    exact ⟨other, rfl⟩
  have status : Web.statusOf fault ≠ 307 := by
    unfold Web.statusOf
    split <;> decide
  unfold Web.report
  split
  · exact (idle_log _ _ _).then nofun fun _ => only_done (told status _)
  · exact (idle_log _ _ _).then nofun fun _ => only_done (told (by decide) _)

/-- A redirect that fails is idle, and one that answers has its visit still to publish. -/
theorem performs_redirect (steady : Steady fails) (caller : Web.Caller) :
    Performs fails (Answers settings token) (Web.redirect settings caller token) := by
  unfold Web.redirect Web.reporting
  refine performs_bind (performs_outcome ((performs_of_only (idle_resolve _ token)).mono ?_))
  rintro calls o ⟨idle, -⟩
  cases o with
  | error fault =>
      change Performs fails _
        (if Web.isKnown fault then Web.report "redirect" fault else .fail fault)
      split
      · refine (performs_of_only (idle_report "redirect" fault)).mono ?_
        rintro later o ⟨idle', told⟩
        cases o with
        | error fault => exact Idle.append idle idle'
        | ok answer => exact .inl ⟨Idle.append idle idle', told answer rfl⟩
      · exact performs_fail idle
  | ok url =>
      change Performs fails _ (Web.visit caller token >>= _)
      unfold Web.visit
      rw [bind_assoc]
      refine performs_process_bind (c := .freshEvent) steady fun event => ?_
      rw [bind_assoc]
      refine performs_process_bind (c := .now) steady fun time => ?_
      rw [pure_eq, bind_done]
      refine performs_process_bind (c := .log _) steady fun _ => performs_done ?_
      refine .inr ⟨rfl, ⟨event, token, time, caller.address, caller.agent, caller.referrer⟩, rfl,
        ?_, ?_, rfl⟩
      · exact Silent.append (Idle.silent idle) (List.all_eq_true.mp rfl)
      · rw [given_append, given_of_idle idle]
        rfl

theorem status_share {r : Web.Request} {response : Web.Response} :
    (Web.Sharing.share r response).status = response.status := by
  unfold Web.Sharing.share
  split <;> rfl

theorem status_of_preflight {r : Web.Request} {response : Web.Response}
    (asked : Web.Sharing.preflight? r = some response) : response.status ≠ 307 := by
  unfold Web.Sharing.preflight? at asked
  split at asked
  · split at asked
    · cases asked
      dsimp only [Web.Response.adding]
      split
      · exact show 200 ≠ 307 by decide
      · exact show 400 ≠ 307 by decide
    · cases asked
  · cases asked

/-- A request on the route of redirects has an exchange. If it is answered with 307, a visit of its
token was given to the publisher once, under a new event id, and otherwise nothing was done for the
pipeline. -/
theorem performs_serve (steady : Steady fails) (tame : Tame fails) {r : Web.Request}
    (route : Web.Route.find r.method r.path.toList = .found .redirect token) :
    Performs fails (fun calls o => ∃ exchange, o = .ok exchange ∧
      (exchange.response.status = 307 →
        Balances calls 1 0 0 ∧ PublishesOnce settings.bus token calls) ∧
      (exchange.response.status ≠ 307 → Idle calls)) (Web.serve settings r) := by
  have answers : Performs fails (Answers settings token) (Web.answer settings r) := by
    rw [Web.answer, route]
    change Performs fails _ (Web.caller r >>= fun caller => Web.redirect settings caller token)
    unfold Web.caller
    rw [bind_assoc]
    refine performs_process_bind (c := .freshRequest) steady fun id => ?_
    refine (performs_redirect steady _).mono fun calls o told => ?_
    exact Answers.idle_append told (List.forall_mem_singleton.mpr rfl)
  unfold Web.serve
  split
  · rename_i response preflight
    refine performs_done ⟨_, rfl, fun sent => absurd sent ?_, fun _ => List.forall_mem_nil _⟩
    exact status_of_preflight preflight
  · refine performs_bind (performs_outcome (answers.mono fun calls o told => ?_))
    cases o with
    | error fault => exact performs_done ⟨_, rfl, nofun, fun _ => told⟩
    | ok answer =>
        change Performs fails _ (answer.after.outcome >>= _)
        rcases told with ⟨idle, other, after⟩ | ⟨moved, visit, own, silent, named, after⟩
        · rw [after]
          refine performs_done ⟨_, rfl, fun sent => absurd ?_ other, fun _ => idle⟩
          rwa [status_share] at sent
        · rw [after]
          have published := performs_publish steady tame settings visit
          refine performs_bind (performs_outcome (published.mono ?_))
          rintro later o ⟨balances, ungiven, o', ran⟩
          have due : Balances (later ++ calls) 1 0 0 ∧
              PublishesOnce settings.bus token (later ++ calls) := by
            refine ⟨balances.after (balances_of_silent silent), visit, own, ?_, o', ?_⟩
            · rw [given_append, ungiven, named, List.nil_append]
            · exact ran.append silent
          -- Whatever the publisher came out with, the response was sent before it.
          have sent : (Web.Sharing.share r answer.response).status = 307 := status_share.trans moved
          cases o with
          | ok a => exact performs_done ⟨_, rfl, fun _ => due, absurd sent⟩
          | error fault => exact performs_done ⟨_, rfl, fun _ => due, absurd sent⟩

end Requests

end LinkShortener.Pipeline
