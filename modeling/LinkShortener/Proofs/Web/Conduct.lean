import LinkShortener.Proofs.Link.Phase
import LinkShortener.Proofs.Web.Reading

/-!
What requests do to the links and the keys. Apart from an operation of the directory, a request
makes only calls that touch neither: notes, meters, the clock, questions to the stores and
messages to the bus. So every request follows the protocol of the directory, other calls aside.

Main statement: whatever request it is, it follows that protocol from a phase in which an operation
starts or in which nothing is left to do (`conducts_serve`).
-/

namespace LinkShortener.Web

open Routine Failure
open Directory (Phase Advances)

/-- A call that touches neither the links nor the keys. -/
def isAside (c : Call) : Bool :=
  isQuiet c || isSend c || match c with
    | .process .now | .process .recollect | .process (.page _) => true
    | _ => false

/-- The protocol of the directory with other calls aside, which are allowed in every phase. -/
inductive Conducts (s : Settings.KeyValue) : Protocol Phase
  | directory {p q : Phase} {c : Call} {reply : Except Fault c.Reply}
      (advances : Advances s p c reply q) : Conducts s p c reply q
  | aside (p : Phase) (c : Call) (reply : Except Fault c.Reply) (aside : isAside c = true) :
      Conducts s p c reply p

/-- The phases in which an operation starts, and the one in which nothing is left to do. -/
def Starts : Phase → Prop
  | .looking _ | .counting _ | .retargeting _ _ | .deleting _ | .refused _ | .settled none => True
  | _ => False

/-- What is done after an answer touches neither the links nor the keys. -/
def Trails (o : Except Fault Answer) : Prop :=
  ∀ answer, o = .ok answer → OnlyCalls isAside answer.after

variable {s : Settings.KeyValue} {p : Phase} {α β : Type}

theorem aside_of_quiet (c : Call) (quiet : isQuiet c = true) : isAside c = true := by
  unfold isAside
  rw [quiet, Bool.true_or, Bool.true_or]

theorem trails_error (fault : Fault) : Trails (.error fault) := by
  rintro answer ⟨⟩

theorem trails_of_concludes {o : Except Fault Answer} (concludes : Concludes o) : Trails o := by
  intro answer came
  rw [concludes answer came]
  exact only_done trivial

theorem only_aside {post : Except Fault α → Prop} {r : Routine α} (only : Only isQuiet post r) :
    Only isAside post r :=
  only.widen aside_of_quiet

/-- Whoever calls aside stays in the phase. -/
theorem follows_of_only {post : Except Fault α → Prop} {r : Routine α}
    (only : Only isAside post r) (p : Phase) : Follows (Conducts s) (fun _ => post) r p := by
  refine (Follows.embed only (fun _ => p) fun _ c reply _ => .aside p c reply).mono ?_
  rintro _ o ⟨_, -, holds⟩
  exact holds

/-- What follows the protocol of the directory follows it with other calls aside. -/
theorem conducts_of_follows {post : Phase → Except Fault α → Prop} {r : Routine α}
    (follows : Follows (Advances s) post r p) : Follows (Conducts s) (fun _ _ => True) r p :=
  (follows.embed id fun _ _ _ _ => .directory).mono fun _ _ _ => trivial

theorem follows_aside_bind {post : Except Fault β → Prop} {c : Call} {f : c.Reply → Routine β}
    (aside : isAside c = true) (fails : ∀ fault, post (.error fault))
    (rest : ∀ a, Follows (Conducts s) (fun _ => post) (f a) p) :
    Follows (Conducts s) (fun _ => post) (call c >>= f) p := by
  refine follows_call_bind.mpr fun reply => ⟨p, .aside p c reply aside, ?_⟩
  cases reply with
  | ok a => exact rest a
  | error fault => exact follows_fail.mpr (fails fault)

/-- An operation is reported aside. -/
theorem follows_reporting {operation : String} {body : Routine α} {next : α → Routine Answer}
    (first : Follows (Conducts s) (fun _ _ => True) body p)
    (rest : ∀ a, Only isAside Trails (next a)) :
    Follows (Conducts s) (fun _ => Trails) (reporting operation body next) p := by
  unfold reporting
  rw [follows_bind, follows_outcome]
  refine first.mono fun q o _ => ?_
  cases o with
  | ok a => exact follows_of_only (rest a) q
  | error fault =>
      change Follows _ _ (if isKnown fault then report operation fault else .fail fault) q
      split
      · have reports := only_aside (only_report operation fault)
        exact follows_of_only (reports.mono fun _ => trails_of_concludes) q
      · exact follows_fail.mpr (trails_error fault)

/-! ### Operations -/

theorem onlyCalls_publish (settings : Settings) (v : Visit) :
    OnlyCalls isAside (publish settings v) := by
  refine Only.rescue ?_ fun fault => only_aside (onlyCalls_log _ _ _)
  refine (onlyCalls_call (c := .process .recollect) rfl).bind fun memory => ?_
  split
  · refine Only.bind ?_ fun _ => onlyCalls_call (c := .process (.count _)) rfl
    refine Only.rescue (onlyCalls_call (c := .producer (.send ..)) rfl) fun fault => ?_
    exact (onlyCalls_call (c := .process (.count _)) rfl).bind fun _ => only_fail trivial
  · exact (onlyCalls_call (c := .process (.count _)) rfl).bind fun _ => only_fail trivial

/-- What a redirect does for its visit is aside. -/
theorem only_visited (settings : Settings) (caller : Caller) (token url : String) :
    Only isAside Trails (do
      let visit ← visit caller token
      note .info s!"Redirect successful: {token} -> {url}"
      return ⟨.redirect url, publish settings visit⟩) := by
  have named : OnlyCalls isAside (visit caller token) :=
    (onlyCalls_call (c := .process .freshEvent) rfl).bind fun event =>
      (onlyCalls_call (c := .process .now) rfl).bind fun time => only_done trivial
  refine named.then trails_error fun visit => ?_
  refine (only_aside (onlyCalls_log _ _ _)).then trails_error fun _ => only_done ?_
  rintro answer ⟨⟩
  exact onlyCalls_publish settings visit

/-- A redirect conducts a resolution. -/
theorem follows_redirects (settings : Settings) (r : Request) (token : String) :
    Follows (Conducts settings.keyValue) (fun _ => Trails) (answerOn settings r .redirect token)
      (.looking token) := by
  change Follows _ _ (caller r >>= fun caller => redirect settings caller token) _
  unfold caller
  rw [bind_assoc]
  refine follows_aside_bind (c := .process .freshRequest) rfl trails_error fun name => ?_
  exact follows_reporting (conducts_of_follows (Directory.follows_resolve token)) fun url =>
    only_visited settings _ token url

variable {settings : Settings} {r : Request} {wanted : LinkRequest}

/-- A shortening conducts one operation of the directory. -/
theorem follows_shortens (asked : Payload.linkRequest r = .ok wanted) :
    ∃ p, Starts p ∧
      Follows (Conducts settings.keyValue) (fun _ => Trails) (shorten settings r) p := by
  have answers (p : Phase) (conducts : Follows (Conducts settings.keyValue) (fun _ _ => True)
      (Directory.shorten settings.keyValue wanted.url) p) :
      Follows (Conducts settings.keyValue) (fun _ => Trails) (shorten settings r) p := by
    unfold shorten
    rw [asked]
    refine follows_aside_bind (c := .process (.log _)) rfl trails_error fun _ => ?_
    refine follows_reporting conducts fun link => ?_
    refine (only_aside (onlyCalls_log _ _ _)).then trails_error fun _ => only_done ?_
    exact trails_of_concludes (concludes_plain _)
  cases accepted : Url.check wanted.url with
  | ok =>
      refine ⟨.counting wanted.url, trivial, answers _ ?_⟩
      exact conducts_of_follows (Directory.follows_shorten accepted)
  | error fault =>
      refine ⟨.refused fault, trivial, answers _ ?_⟩
      exact conducts_of_follows (Directory.follows_shorten_refused accepted)

theorem follows_updates {token : String} (asked : Payload.linkRequest r = .ok wanted) :
    ∃ p, Starts p ∧
      Follows (Conducts settings.keyValue) (fun _ => Trails) (update settings r token) p := by
  have answers (p : Phase) (conducts : Follows (Conducts settings.keyValue) (fun _ _ => True)
      (Directory.update settings.keyValue token wanted.url) p) :
      Follows (Conducts settings.keyValue) (fun _ => Trails) (update settings r token) p := by
    unfold update
    rw [asked]
    refine follows_aside_bind (c := .process (.log _)) rfl trails_error fun _ => ?_
    refine follows_reporting conducts fun link => only_done ?_
    exact trails_of_concludes (concludes_plain _)
  cases accepted : Url.check wanted.url with
  | ok =>
      refine ⟨.retargeting token wanted.url, trivial, answers _ ?_⟩
      exact conducts_of_follows (Directory.follows_update accepted)
  | error fault =>
      refine ⟨.refused fault, trivial, answers _ ?_⟩
      exact conducts_of_follows (Directory.follows_update_refused accepted)

theorem follows_deletes (token : String) :
    Follows (Conducts settings.keyValue) (fun _ => Trails) (delete settings token)
      (.deleting token) := by
  refine follows_aside_bind (c := .process (.log _)) rfl trails_error fun _ => ?_
  refine follows_reporting (conducts_of_follows (Directory.follows_delete token)) fun _ => ?_
  exact only_done (trails_of_concludes (concludes_plain _))

/-! ### Requests -/

/-- Each answer conducts one operation of the directory at most. -/
theorem follows_answer (settings : Settings) (r : Request) :
    ∃ p, Starts p ∧
      Follows (Conducts settings.keyValue) (fun _ => Trails) (answer settings r) p := by
  have handles := handles_answer settings r
  generalize answer settings r = routine at handles ⊢
  cases handles with
  | reads _ only =>
      have aside := (only_aside only).mono fun _ => trails_of_concludes
      exact ⟨.settled none, trivial, follows_of_only aside _⟩
  | shows path token found =>
      refine ⟨.settled none, trivial, ?_⟩
      refine follows_aside_bind (c := .process (.page path)) rfl trails_error fun page => ?_
      exact follows_done.mpr (trails_of_concludes (concludes_plain _))
  | shortens wanted asked => exact follows_shortens asked
  | redirects token => exact ⟨.looking token, trivial, follows_redirects settings r token⟩
  | updates token wanted asked => exact follows_updates asked
  | deletes token => exact ⟨.deleting token, trivial, follows_deletes token⟩

/-- Whatever request it is, it follows the protocol of the directory with other calls aside. -/
theorem conducts_serve (settings : Settings) (r : Request) :
    ∃ p, Starts p ∧
      Follows (Conducts settings.keyValue) (fun _ _ => True) (serve settings r) p := by
  unfold serve
  split
  · exact ⟨.settled none, trivial, follows_done.mpr trivial⟩
  · obtain ⟨p, starts, follows⟩ := follows_answer settings r
    refine ⟨p, starts, ?_⟩
    rw [follows_bind, follows_outcome]
    refine follows.mono fun q o trails => ?_
    cases o with
    | error fault => exact follows_done.mpr trivial
    | ok answer =>
        refine follows_of_only ?_ q
        refine (trails answer rfl).outcome.bind fun o => ?_
        cases o <;> exact only_done trivial

end LinkShortener.Web
