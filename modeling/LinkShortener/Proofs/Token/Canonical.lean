import LinkShortener.Proofs.Token

/-!
Reading tokens is writing them backwards. A text is read as an id exactly if it is a word of digits,
and what is read is then written as the word without the zero digits in front of it
(`digits_of_accumulate`). So every id has one token that stands for all words that are read as it.

Main statement: encoding and decoding are inverse to each other between ids and canonical tokens
(`codec_bijective`).
-/

namespace LinkShortener.Token

/-- The digit of zero. -/
def zero : Char := digit 0

/-- A text that is read as an id: it is not empty, and its characters are digits. -/
def IsWord (token : String) : Prop := token ≠ "" ∧ ∀ c ∈ token.toList, c ∈ alphabet

instance (token : String) : Decidable (IsWord token) :=
  inferInstanceAs (Decidable (token ≠ "" ∧ token.toList ⊆ alphabet))

/-- A text from its first character on that is not the zero digit. -/
def significant (text : List Char) : List Char := text.dropWhile (· == zero)

/-- A word without zero digits in front; of nothing but zero digits one is left. -/
def canonical (token : String) : String :=
  if significant token.toList = [] then String.singleton zero
  else String.ofList (significant token.toList)

/-! ### Digits -/

theorem alphabet_eq : alphabet = (List.range radix).map digit := by decide

/-- A digit has a value, and is the digit of it. -/
theorem exists_value {c : Char} (mem : c ∈ alphabet) :
    ∃ v < radix, value? c = some v ∧ digit v = c := by
  rw [alphabet_eq] at mem
  obtain ⟨v, small, rfl⟩ := List.mem_map.mp mem
  have small := List.mem_range.mp small
  exact ⟨v, small, value?_digit v small, rfl⟩

theorem value?_eq_none {c : Char} : value? c = none ↔ c ∉ alphabet := List.idxOf?_eq_none_iff

theorem digit_of_value {c : Char} {v : Nat} (value : value? c = some v) :
    v < radix ∧ digit v = c := by
  have mem : c ∈ alphabet := Decidable.byContradiction fun foreign => by
    rw [value?_eq_none.mpr foreign] at value
    cases value
  obtain ⟨w, small, value', same⟩ := exists_value mem
  cases value.symm.trans value'
  exact ⟨small, same⟩

/-- Only zero has the zero digit. -/
theorem digit_eq_zero : ∀ v < radix, digit v = zero → v = 0 := by decide

/-! ### Reading -/

/-- Just the words of digits are read. -/
theorem exists_accumulate {cs : List Char} (n : Nat) :
    (∃ m, accumulate n cs = .ok m) ↔ ∀ c ∈ cs, c ∈ alphabet := by
  induction cs generalizing n with
  | nil => exact ⟨fun _ _ mem => absurd mem List.not_mem_nil, fun _ => ⟨n, rfl⟩⟩
  | cons c rest ih =>
      rw [List.forall_mem_cons]
      by_cases mem : c ∈ alphabet
      · obtain ⟨v, -, value, -⟩ := exists_value mem
        simp only [accumulate, value, ih, mem, true_and]
      · simp [accumulate, value?_eq_none.mpr mem, mem]

/-- Exactly the words of the alphabet are decoded. -/
theorem exists_decode {token : String} : (∃ n, decode token = .ok n) ↔ IsWord token := by
  unfold decode IsWord
  by_cases empty : token = ""
  · simp [empty]
  · rw [if_neg (by simpa using empty), ← exists_accumulate 0]
    cases accumulate 0 token.toList with
    | ok n => exact ⟨fun _ => ⟨empty, n, rfl⟩, fun _ => ⟨n, rfl⟩⟩
    | error c =>
        constructor
        · rintro ⟨_, same⟩
          cases same
        · rintro ⟨-, _, same⟩
          cases same

/-- Decoding a word reads its characters on from zero. -/
theorem accumulate_of_decode {token : String} {n : Nat} (read : decode token = .ok n) :
    accumulate 0 token.toList = .ok n := by
  unfold decode at read
  split at read
  · cases read
  · cases accumulated : accumulate 0 token.toList with
    | ok m =>
        rw [accumulated] at read
        exact congrArg _ (Except.ok.inj read)
    | error c =>
        rw [accumulated] at read
        cases read

/-! ### Writing what was read -/

/-- A digit that is put at the end of a number other than zero is put at the end of its digits. -/
theorem digits_snoc {n v : Nat} (positive : n ≠ 0) (small : v < radix) :
    digits (n * radix + v) = digits n ++ [digit v] := by
  have pos : 0 < radix := by decide
  have large : ¬ n * radix + v < radix := by
    have le : radix ≤ n * radix := Nat.le_mul_of_pos_left radix (Nat.pos_of_ne_zero positive)
    omega
  have quotient : (n * radix + v) / radix = n := by
    rw [Nat.add_comm, Nat.add_mul_div_right v n pos, Nat.div_eq_of_lt small, Nat.zero_add]
  have remainder : (n * radix + v) % radix = v := by
    rw [Nat.add_comm, Nat.add_mul_mod_self_right, Nat.mod_eq_of_lt small]
  rw [digits_of_large large, quotient, remainder]

/-- What is read after a number other than zero is written behind it. -/
theorem digits_of_accumulate_pos {cs : List Char} {n m : Nat} (positive : n ≠ 0)
    (read : accumulate n cs = .ok m) : digits m = digits n ++ cs := by
  induction cs generalizing n with
  | nil =>
      cases read
      exact (List.append_nil _).symm
  | cons c rest ih =>
      rw [accumulate] at read
      split at read
      · rename_i v value
        obtain ⟨small, same⟩ := digit_of_value value
        have more : n * radix + v ≠ 0 := by
          have pos : 0 < n * radix := Nat.mul_pos (Nat.pos_of_ne_zero positive) (by decide)
          omega
        rw [ih more read, digits_snoc positive small, same, List.append_assoc,
          List.singleton_append]
      · cases read

/-- What is read from zero on is written without the zero digits in front. -/
theorem digits_of_accumulate {cs : List Char} {m : Nat} (read : accumulate 0 cs = .ok m) :
    digits m = if significant cs = [] then [zero] else significant cs := by
  induction cs with
  | nil =>
      cases read
      rw [digits_of_small (by decide)]
      rfl
  | cons c rest ih =>
      rw [accumulate] at read
      split at read
      · rename_i v value
        rw [Nat.zero_mul, Nat.zero_add] at read
        obtain ⟨small, rfl⟩ := digit_of_value value
        by_cases none : v = 0
        · subst none
          exact ih read
        · have nonzero : (digit v == zero) = false :=
            beq_false_of_ne fun same => none (digit_eq_zero v small same)
          have kept : significant (digit v :: rest) = digit v :: rest := by
            rw [significant, List.dropWhile_cons, nonzero]
            rfl
          rw [kept, if_neg (List.cons_ne_nil _ _), digits_of_accumulate_pos none read,
            digits_of_small small, List.singleton_append]
      · cases read

/-- Encoding what was decoded gives the canonical token. -/
theorem encode_of_decode {token : String} {n : Nat} (read : decode token = .ok n) :
    encode n = canonical token := by
  rw [encode, digits_of_accumulate (accumulate_of_decode read), canonical]
  split <;> rfl

/-- Decoding what was encoded gives the number. -/
theorem decode_encode (n : Nat) : decode (encode n) = .ok n := by
  have nonempty : (encode n).isEmpty = false := by
    rw [String.isEmpty_eq_false_iff, ne_eq, ← String.toList_inj, toList_encode]
    exact digits_ne_nil n
  rw [decode, nonempty, toList_encode, accumulate_digits]
  rfl

/-! ### Canonical tokens -/

theorem head?_significant (text : List Char) : (significant text).head? ≠ some zero := by
  intro head
  have dropped := List.head?_dropWhile_not (· == zero) text
  rw [← significant, head] at dropped
  exact absurd dropped (by decide)

/-- Two words have the same canonical token if they differ in zero digits in front only. -/
theorem canonical_eq_iff {t u : String} :
    canonical t = canonical u ↔ significant t.toList = significant u.toList := by
  have other (text : List Char) : significant text ≠ [zero] := fun same =>
    head?_significant text (congrArg List.head? same)
  constructor
  · intro same
    have lists := congrArg String.toList same
    unfold canonical at lists
    split at lists <;> split at lists
    · simp [*]
    · exact absurd (by simpa using lists.symm) (other u.toList)
    · exact absurd (by simpa using lists) (other t.toList)
    · simpa using lists
  · intro same
    rw [canonical, canonical, same]

/-- A word is canonical if it is the zero digit alone or does not start with it. -/
theorem canonical_eq_self {token : String} (nonempty : token ≠ "") :
    canonical token = token ↔ token = String.singleton zero ∨ token.toList.head? ≠ some zero := by
  constructor
  · intro same
    rw [canonical] at same
    split at same
    · exact .inl same.symm
    · refine .inr ?_
      rw [← same, String.toList_ofList]
      exact head?_significant _
  · rintro (rfl | other)
    · decide
    · have kept : significant token.toList = token.toList := by
        cases text : token.toList with
        | nil => rfl
        | cons c rest =>
            rw [text, List.head?_cons] at other
            have nonzero : (c == zero) = false :=
              beq_false_of_ne fun same => other (congrArg some same)
            rw [significant, List.dropWhile_cons, nonzero]
            rfl
      have filled : token.toList ≠ [] := fun empty => nonempty (String.toList_inj.mp empty)
      rw [canonical, kept, if_neg filled, String.ofList_toList]

/-- Encoding and decoding are inverse to each other. Decoding undoes encoding, so ids have different
tokens. A text is decoded exactly if it is a word of digits, and encoding what was decoded gives its
canonical token; so two words are decoded as the same id exactly if they differ in zero digits in
front only. The tokens of ids are the words that are the zero digit alone or do not start with
it. -/
theorem codec_bijective :
    (∀ n : Nat, ofId n = .ok (encode n) ∧ decode (encode n) = .ok n) ∧
    Function.Injective encode ∧
    (∀ token, (∃ n, decode token = .ok n) ↔ IsWord token) ∧
    (∀ token n, decode token = .ok n → encode n = canonical token) ∧
    (∀ t u, IsWord t → IsWord u →
      (decode t = decode u ↔ significant t.toList = significant u.toList)) ∧
    ∀ token, (∃ id, ofId id = .ok token) ↔
      IsWord token ∧ (token = String.singleton zero ∨ token.toList.head? ≠ some zero) := by
  refine ⟨fun n => ⟨rfl, decode_encode n⟩, fun _ _ => encode_injective, fun _ => exists_decode,
    fun _ _ => encode_of_decode, fun t u wordT wordU => ?_, fun token => ⟨?_, ?_⟩⟩
  · obtain ⟨n, readT⟩ := exists_decode.mpr wordT
    obtain ⟨m, readU⟩ := exists_decode.mpr wordU
    rw [readT, readU, ← canonical_eq_iff, ← encode_of_decode readT, ← encode_of_decode readU,
      Except.ok.injEq]
    exact ⟨congrArg encode, encode_injective⟩
  · rintro ⟨id, coded⟩
    obtain ⟨-, rfl⟩ := ofId_eq_ok.mp coded
    have word := exists_decode.mp ⟨_, decode_encode id.toNat⟩
    exact ⟨word, (canonical_eq_self word.1).mp (encode_of_decode (decode_encode _)).symm⟩
  · rintro ⟨word, shape⟩
    obtain ⟨n, read⟩ := exists_decode.mpr word
    refine ⟨n, ofId_eq_ok.mpr ⟨Int.natCast_nonneg n, ?_⟩⟩
    rw [Int.toNat_natCast, encode_of_decode read, (canonical_eq_self word.1).mpr shape]

/-- The word `aab` is decoded as one, which has the token `b`. -/
theorem padded_token_canonical : ∃ n, decode "aab" = .ok n ∧ encode n = "b" := by
  obtain ⟨-, -, decoded, written, -⟩ := codec_bijective
  obtain ⟨n, read⟩ := (decoded "aab").mpr (by decide)
  exact ⟨n, read, (written "aab" n read).trans (by decide)⟩

end LinkShortener.Token
