import LinkShortener.Click.Table
import LinkShortener.Link.Table
import LinkShortener.Proofs.Token
import Mathlib.Data.List.Shortlex

/-!
The order of tokens. Digits are ordered by their places in the alphabet, and tokens by their length
first and then digit by digit. A longer number has more digits, and of two numbers with as many the
first digit that differs decides.

Main statement: tokens are in the order of their ids, a token has as many digits as its id has
places, and the ids that fit into the table have tokens that fit too (`tokens_in_order`).
-/

namespace LinkShortener.Token

/-- The order of the digits in the alphabet. -/
def Before (c d : Char) : Prop := alphabet.idxOf c < alphabet.idxOf d

theorem idxOf_digit : ∀ v < radix, alphabet.idxOf (digit v) = v := by decide

theorem before_digit {v w : Nat} (less : v < w) (small : w < radix) :
    Before (digit v) (digit w) := by
  rw [Before, idxOf_digit v (by omega), idxOf_digit w small]
  exact less

/-! ### Length -/

theorem length_digits_pos (n : Nat) : 0 < (digits n).length :=
  List.length_pos_iff.mpr (digits_ne_nil n)

theorem length_digits_of_large {n : Nat} (large : ¬ n < radix) :
    (digits n).length = (digits (n / radix)).length + 1 := by
  rw [digits_of_large large, List.length_append, List.length_singleton]

/-- A number has at most so many digits if it is below the power of the radix. -/
theorem length_digits_le {n k : Nat} (some : 1 ≤ k) :
    (digits n).length ≤ k ↔ n < radix ^ k := by
  induction n using digits.induct generalizing k with
  | case1 n small =>
      rw [digits_of_small small]
      have least : radix ^ 1 ≤ radix ^ k := Nat.pow_le_pow_right (by decide) some
      rw [Nat.pow_one] at least
      exact ⟨fun _ => Nat.lt_of_lt_of_le small least, fun _ => some⟩
  | case2 n large ih =>
      rw [length_digits_of_large large]
      obtain _ | _ | k := k
      · omega
      · have longer := length_digits_pos (n / radix)
        rw [Nat.zero_add, Nat.pow_one]
        omega
      · rw [Nat.add_le_add_iff_right, ih (by omega), Nat.div_lt_iff_lt_mul (by decide),
          ← Nat.pow_succ]

/-- The number of digits, if there is more than one. -/
theorem length_digits_eq {n k : Nat} (several : 2 ≤ k) :
    (digits n).length = k ↔ radix ^ (k - 1) ≤ n ∧ n < radix ^ k := by
  rw [← length_digits_le (by omega), ← Nat.not_lt, ← length_digits_le (by omega)]
  omega

/-! ### Order -/

/-- What follows does not matter to texts of one length of which one is before the other. -/
theorem lex_append {α : Type} {r : α → α → Prop} {s t : List α} (lex : List.Lex r s t)
    (long : s.length = t.length) (u v : List α) : List.Lex r (s ++ u) (t ++ v) := by
  induction lex with
  | nil => cases long
  | cons _ ih => exact .cons (ih (Nat.succ.inj long))
  | rel before => exact .rel before

/-- The digits of a smaller number stand before those of a greater one. -/
theorem shortlex_digits {m n : Nat} (less : m < n) :
    List.Shortlex Before (digits m) (digits n) := by
  induction n using digits.induct generalizing m with
  | case1 n small =>
      rw [digits_of_small (by omega), digits_of_small small]
      exact .of_lex rfl (.rel (before_digit less small))
  | case2 n large ih =>
      by_cases small : m < radix
      · refine .of_length_lt ?_
        have longer := length_digits_pos (n / radix)
        rw [length_digits_of_large large, digits_of_small small, List.length_singleton]
        omega
      · rw [digits_of_large small, digits_of_large large]
        rcases Nat.lt_or_eq_of_le (Nat.div_le_div_right (c := radix) less.le) with fewer | same
        · rcases List.shortlex_def.mp (ih fewer) with shorter | ⟨long, lex⟩
          · exact .of_length_lt (by simpa using shorter)
          · exact .of_lex (by simpa using long) (lex_append lex long _ _)
        · -- Only the last digits differ.
          have last : m % radix < n % radix := by
            have whole := Nat.div_add_mod m radix
            have whole' := Nat.div_add_mod n radix
            rw [same] at whole
            omega
          rw [same]
          refine .of_lex (by simp) (List.Lex.append_left _ (.rel ?_) _)
          exact before_digit last (Nat.mod_lt n (by decide))

/-- A greater number has no fewer digits. -/
theorem length_digits_mono {m n : Nat} (le : m ≤ n) : (digits m).length ≤ (digits n).length := by
  rcases Nat.lt_or_eq_of_le le with less | rfl
  · rcases List.shortlex_def.mp (shortlex_digits less) with shorter | ⟨same, -⟩ <;> omega
  · exact Nat.le_refl _

/-- Tokens are in the order of their ids: of two ids the smaller one has the shorter token, or one
as long that is before the other digit by digit. So length never falls as ids grow. A token has
`k` characters, more than one, exactly if its id has `k` places in the radix; and the token of an id
that fits into the column for ids has at most eleven, which the columns for tokens of both tables
have room for. -/
theorem tokens_in_order :
    (∀ m n, m < n → List.Shortlex Before (encode m).toList (encode n).toList) ∧
    (∀ m n, m ≤ n → (encode m).length ≤ (encode n).length) ∧
    (∀ n k, 2 ≤ k → ((encode n).length = k ↔ radix ^ (k - 1) ≤ n ∧ n < radix ^ k)) ∧
    ∀ id token, Link.Table.fits id = true → ofId id = .ok token →
      token.length ≤ 11 ∧ token.length ≤ Link.Table.tokenWidth ∧
        token.length ≤ Click.Table.tokenWidth := by
  have length (n : Nat) : (encode n).length = (digits n).length := by
    rw [← String.length_toList, toList_encode]
  refine ⟨fun m n less => ?_, fun m n le => ?_, fun n k several => ?_,
    fun id token fits coded => ?_⟩
  · rw [toList_encode, toList_encode]
    exact shortlex_digits less
  · rw [length, length]
    exact length_digits_mono le
  · rw [length]
    exact length_digits_eq several
  · obtain ⟨-, rfl⟩ := ofId_eq_ok.mp coded
    have greatest : id ≤ 9223372036854775807 := by
      simp only [Link.Table.fits, Bool.and_eq_true, decide_eq_true_eq] at fits
      exact fits.2
    have short : (encode id.toNat).length ≤ 11 := by
      rw [length, length_digits_le (by decide)]
      have bound : (9223372036854775807 : Nat) < radix ^ 11 := by decide
      omega
    exact ⟨short, short.trans (by decide), short.trans (by decide)⟩

/-- The greatest id that fits has a token of eleven characters, which is after that of the id before
it. -/
theorem greatest_token_last : (encode 9223372036854775807).length = 11 ∧
    List.Shortlex Before (encode 9223372036854775806).toList
      (encode 9223372036854775807).toList := by
  obtain ⟨ordered, -, places, -⟩ := tokens_in_order
  exact ⟨(places _ 11 (by decide)).mpr (by decide), ordered _ _ (by decide)⟩

end LinkShortener.Token
