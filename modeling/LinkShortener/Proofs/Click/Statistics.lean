import LinkShortener.Bench.World
import LinkShortener.Click.Statistics
import LinkShortener.Proofs.Click.Table
import LinkShortener.Proofs.Routine.Protocol
import LinkShortener.Proofs.Traffic.Machinery

/-!
What a tally of rows tells: over a store that answers, it is refused for a token without clicks,
and otherwise its total is their number and each of its parts counts them.

Main statement: `Statistics.reports`.
-/

namespace LinkShortener

/-- The part of a tally along a dimension. -/
def Tally.along (t : Tally) : Dimension → List (String × Int)
  | .country => t.byCountry
  | .city => t.byCity
  | .device => t.byDevice
  | .referrer => t.byReferrer

namespace Statistics

open Bench (World)

/-- A report on clicks of a token: none of clicks that there are not, else a tally that counts
them along every dimension. -/
def Reports (token : String) (clicks : List Click) (outcome : Except Fault Tally) : Prop :=
  (clicks = [] ∧ outcome = .error (.noClicks token)) ∨
    (clicks ≠ [] ∧ ∃ tally, outcome = .ok tally ∧ tally.token = token ∧
      tally.total = clicks.length ∧
      ∀ dimension, Click.Counts clicks dimension (tally.along dimension))

theorem clicks_keep (w : World) (c : Call) (b : Bool) : (w.keep c b).clicks = w.clicks := by
  unfold World.keep
  split <;> rfl

/-- Asking for the clicks of a token along a dimension. -/
theorem run_groupRows (w : World) (token : String) (dimension : Dimension) :
    (groupRows token dimension).run World.perform w =
      (.ok ((w.clicks.group token dimension).map fun (value, n) => (value, (n : Int))),
        w.keep (.database (.groupClicks token dimension)) true) := rfl

/-- Counting the rows of a world that answers, one question after the other. -/
theorem run_tally {w : World} (calm : Traffic.Calm w) (token : String) :
    (w.run (tally .rows token)).1 =
      if w.clicks.count token = 0 then .error (.noClicks token)
      else
        let along (dimension : Dimension) :=
          (w.clicks.group token dimension).map fun (value, n) => (value, (n : Int))
        .ok ⟨token, w.clicks.count token, along .country, along .city, along .device,
          along .referrer⟩ := by
  have connected : (Routine.call (.database .connect)).run World.perform w =
      (.ok (), w.keep (.database .connect) true) := by
    simp only [Routine.call, Routine.run, Traffic.perform_eq, World.answer, World.database,
      Traffic.barring_of_calm calm]
    rfl
  have counted (w' : World) : (Routine.call (.database (.countClicks token))).run World.perform w' =
      (.ok (w'.clicks.count token), w'.keep (.database (.countClicks token)) true) := rfl
  rw [World.run, tally, ofRows, Routine.run_rescue, Routine.run_bind, connected,
    Routine.ofOutcome_ok, Routine.bind_done, Routine.run_bind, counted, clicks_keep,
    Routine.ofOutcome_ok, Routine.bind_done]
  split
  · rfl
  · simp only [Routine.run_bind, run_groupRows, clicks_keep, Routine.ofOutcome_ok,
      Routine.bind_done]
    rfl

/-- A tally of the rows of a world that answers reports on the clicks of the token. -/
theorem reports {w : World} (calm : Traffic.Calm w) (token : String) :
    Reports token (w.clicks.ofToken token) (w.run (tally .rows token)).1 := by
  rw [run_tally calm token]
  split
  · rename_i none
    exact .inl ⟨List.length_eq_zero_iff.mp none, rfl⟩
  · rename_i some
    refine .inr ⟨fun none => some (List.length_eq_zero_iff.mpr none), _, rfl, rfl, rfl, ?_⟩
    intro dimension
    cases dimension <;> exact Click.counts_groups _ _

/-- The order of the clicks does not matter. -/
theorem Reports.perm {token : String} {clicks clicks' : List Click} {outcome : Except Fault Tally}
    (reports : Reports token clicks outcome) (perm : clicks.Perm clicks') :
    Reports token clicks' outcome := by
  rcases reports with ⟨rfl, failed⟩ | ⟨some, tally, ok, same, total, counts⟩
  · exact .inl ⟨perm.nil_eq.symm, failed⟩
  · refine .inr ⟨fun none => ?_, tally, ok, same, ?_, fun d => (counts d).perm perm⟩
    · rw [none] at perm
      exact some perm.eq_nil
    · rw [total, perm.length_eq]

end Statistics

end LinkShortener
