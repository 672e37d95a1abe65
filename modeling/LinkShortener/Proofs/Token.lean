import LinkShortener.Token

/-!
Tokens are numerals, so a token tells its id: the digits of a number are read back as the number
(`accumulate_digits`), and no two ids have the same token (`encode_injective`, `ofId_injective`).
-/

namespace LinkShortener.Token

theorem value?_digit : ∀ v < radix, value? (digit v) = some v := by decide

theorem digits_of_small {n : Nat} (small : n < radix) : digits n = [digit n] := by
  rw [digits, if_pos small]

/-- The last digit of a number is its remainder. -/
theorem digits_of_large {n : Nat} (large : ¬ n < radix) :
    digits n = digits (n / radix) ++ [digit (n % radix)] := by
  rw [digits, if_neg large]

/-- Reading goes on where the first part of a text ends. -/
theorem accumulate_append {cs : List Char} {n m : Nat} (read : accumulate n cs = .ok m)
    (ds : List Char) : accumulate n (cs ++ ds) = accumulate m ds := by
  induction cs generalizing n with
  | nil =>
      cases read
      rfl
  | cons c rest ih =>
      simp only [accumulate, List.cons_append] at read ⊢
      cases value : value? c with
      | none =>
          rw [value] at read
          cases read
      | some v =>
          rw [value] at read
          exact ih read

/-- The digits of a number are read back as the number. -/
theorem accumulate_digits (n : Nat) : accumulate 0 (digits n) = .ok n := by
  induction n using digits.induct with
  | case1 n small =>
      rw [digits_of_small small]
      simp [accumulate, value?_digit n small]
  | case2 n large ih =>
      rw [digits_of_large large, accumulate_append ih]
      have low : n % radix < radix := Nat.mod_lt n (by decide)
      simp only [accumulate, value?_digit _ low, Except.ok.injEq]
      exact Nat.div_add_mod' n radix

theorem digit_mem : ∀ v < radix, digit v ∈ alphabet := by decide

/-- Nothing but digits stands in a number. -/
theorem mem_alphabet {n : Nat} {c : Char} (mem : c ∈ digits n) : c ∈ alphabet := by
  induction n using digits.induct with
  | case1 n small =>
      rw [digits_of_small small, List.mem_singleton] at mem
      rw [mem]
      exact digit_mem n small
  | case2 n large ih =>
      rw [digits_of_large large, List.mem_append, List.mem_singleton] at mem
      rcases mem with mem | rfl
      · exact ih mem
      · exact digit_mem _ (Nat.mod_lt n (by decide))

theorem digits_ne_nil (n : Nat) : digits n ≠ [] := by
  rw [digits]
  split <;> simp

@[simp] theorem toList_encode (n : Nat) : (encode n).toList = digits n := by simp [encode]

/-- Numbers of the same token are the same. -/
theorem encode_injective {m n : Nat} (same : encode m = encode n) : m = n := by
  have spelled : digits m = digits n := by
    have lists := congrArg String.toList same
    simpa [encode] using lists
  have read := accumulate_digits m
  rw [spelled, accumulate_digits n] at read
  cases read
  rfl

/-- Exactly the ids that are not negative have tokens. -/
theorem ofId_eq_ok {id : Int} {token : String} :
    ofId id = .ok token ↔ 0 ≤ id ∧ token = encode id.toNat := by
  cases id with
  | ofNat n =>
      simp only [ofId, Except.ok.injEq]
      exact ⟨fun same => ⟨Int.natCast_nonneg n, same.symm⟩, fun holds => holds.2.symm⟩
  | negSucc n =>
      simp only [ofId, reduceCtorEq, false_iff]
      exact fun holds => absurd holds.1 (by omega)

theorem ofId_eq_error {id : Int} {fault : Fault} (refused : ofId id = .error fault) :
    id < 0 ∧ fault = .negativeId id := by
  cases id with
  | ofNat n => cases refused
  | negSucc n =>
      cases refused
      exact ⟨Int.negSucc_lt_zero n, rfl⟩

theorem nonneg_of_ofId {id : Int} {token : String} (coded : ofId id = .ok token) : 0 ≤ id :=
  (ofId_eq_ok.mp coded).1

/-- No two ids have the same token. -/
theorem ofId_injective {i j : Int} {token : String} (first : ofId i = .ok token)
    (second : ofId j = .ok token) : i = j := by
  obtain ⟨nonnegI, codeI⟩ := ofId_eq_ok.mp first
  obtain ⟨nonnegJ, codeJ⟩ := ofId_eq_ok.mp second
  have same := encode_injective (codeI.symm.trans codeJ)
  omega

theorem exists_ofId {id : Int} (nonneg : 0 ≤ id) : ∃ token, ofId id = .ok token :=
  ⟨_, ofId_eq_ok.mpr ⟨nonneg, rfl⟩⟩

end LinkShortener.Token
