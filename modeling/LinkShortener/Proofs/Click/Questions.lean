import LinkShortener.Proofs.Click.Columns

/-!
A tally, question by question. Both backends are asked for the total first and then for the parts,
one after the other, and between two questions anything may happen to the store. What the tally
tells is put together from the replies; only a total of nothing ends it at once.

Main statements: `run_tally_of_nothing`, `run_tally_of_parts`.
-/

namespace LinkShortener.Statistics

open Routine

variable {σ : Type} {perform : Performer σ} {token : String} {backend : Backend}
  {dimension : Dimension}

/-- Asked for the total, a store replies with this number. Rows are asked over a connection. -/
inductive Totals (perform : Performer σ) (token : String) (s : σ) (n : Nat) (s' : σ) :
    Backend → Prop
  | rows (s₁ : σ) (connects : perform (.database .connect) s = (.ok (), s₁))
      (replies : perform (.database (.countClicks token)) s₁ = (.ok n, s')) :
      Totals perform token s n s' .rows
  | columns (replies : perform (.columns (.countClicks token)) s = (.ok (countReply n), s')) :
      Totals perform token s n s' .columns

/-- Asked for the part along a dimension, a store replies with these groups. -/
inductive Parts (perform : Performer σ) (token : String) (dimension : Dimension) (s : σ)
    (s' : σ) : List (String × Int) → Backend → Prop
  | rows (groups : List (String × Nat))
      (replies : perform (.database (.groupClicks token dimension)) s = (.ok groups, s')) :
      Parts perform token dimension s s' (groups.map fun (value, n) => (value, (n : Int))) .rows
  | columns (groups : List (String × Int)) (distinct : (groups.map Prod.fst).Nodup)
      (replies : perform (.columns (.groupClicks token dimension)) s =
        (.ok (groupReply groups), s')) :
      Parts perform token dimension s s' groups .columns

theorem run_groupRows_of_parts {s s' : σ} {groups : List (String × Int)}
    (parts : Parts perform token dimension s s' groups .rows) :
    (groupRows token dimension).run perform s = (.ok groups, s') := by
  cases parts with
  | rows groups replies =>
      rw [groupRows, run_bind, run_call, replies]
      rfl

theorem run_groupColumns_of_parts {s s' : σ} {groups : List (String × Int)}
    (parts : Parts perform token dimension s s' groups .columns) :
    (groupColumns token dimension).run perform s = (.ok (textCells groups), s') := by
  cases parts with
  | columns _ distinct replies =>
      rw [groupColumns, run_bind, ColumnStore.run_query replies, ofOutcome_ok, bind_done,
        groupsOf_groupReply distinct]
      rfl

/-- If there are no clicks of the token, nothing else is asked. -/
theorem run_tally_of_nothing {s s' : σ} (totals : Totals perform token s 0 s' backend) :
    (tally backend token).run perform s = (.error (.noClicks token), s') := by
  cases totals with
  | rows s₁ connects replies =>
      rw [tally, ofRows, run_rescue, run_bind, run_call, connects, ofOutcome_ok, bind_done, run_bind,
        run_call, replies]
      rfl
  | columns replies =>
      rw [tally, ofColumns, run_bind, ColumnStore.run_query replies, ofOutcome_ok, bind_done,
        totalOf_countReply]
      rfl

/-- If there are some, the parts are asked for in turn, and the tally is made of the replies. -/
theorem run_tally_of_parts {n : Nat} {s s₁ s₂ s₃ s₄ s₅ : σ}
    {byCountry byCity byDevice byReferrer : List (String × Int)}
    (totals : Totals perform token s n s₁ backend) (some : n ≠ 0)
    (country : Parts perform token .country s₁ s₂ byCountry backend)
    (city : Parts perform token .city s₂ s₃ byCity backend)
    (device : Parts perform token .device s₃ s₄ byDevice backend)
    (referrer : Parts perform token .referrer s₄ s₅ byReferrer backend) :
    (tally backend token).run perform s =
      (.ok ⟨token, n, byCountry, byCity, byDevice, byReferrer⟩, s₅) := by
  cases totals with
  | rows s' connects replies =>
      rw [tally, ofRows, run_rescue, run_bind, run_call, connects, ofOutcome_ok, bind_done, run_bind,
        run_call, replies, ofOutcome_ok, bind_done, if_neg some]
      simp only [run_bind, run_groupRows_of_parts country, run_groupRows_of_parts city,
        run_groupRows_of_parts device, run_groupRows_of_parts referrer, ofOutcome_ok, bind_done]
      rfl
  | columns replies =>
      have some' : (n : Int) ≠ 0 := by exact_mod_cast some
      rw [tally, ofColumns, run_bind, ColumnStore.run_query replies, ofOutcome_ok, bind_done,
        totalOf_countReply]
      simp only [Except.mapError, ofOutcome_ok, bind_done, if_neg some', run_bind,
        run_groupColumns_of_parts country, run_groupColumns_of_parts city,
        run_groupColumns_of_parts device, run_groupColumns_of_parts referrer, unfit_textCells,
        textGroups_textCells, List.append_nil]
      rfl

end LinkShortener.Statistics
