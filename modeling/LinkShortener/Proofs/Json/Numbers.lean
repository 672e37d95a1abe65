import LinkShortener.Proofs.Json.RoundTrip
import Mathlib.Data.List.Induction
import Mathlib.Data.List.TakeDrop
import Mathlib.Data.List.TakeWhile
import Mathlib.Tactic.IntervalCases

/-!
Whole numbers in documents. A reader takes only so many digits, and a number that it took has no
more of them when it is written again, so it is written and read without end. Every whole number
in a document that was read is of this kind.

Main statements: such a number is read back wherever it may stand (`reads_int`); a document that
was read holds no others (`moderate_of_readBytes`).
-/

namespace LinkShortener.Numeral

/-! ### Digits -/

/-- What holds of the ten digits holds of every digit. -/
theorem of_isDigit {P : Char → Prop} (ten : ∀ n < 10, P (Char.ofNat (48 + n))) {c : Char}
    (digit : c.isDigit = true) : P c := by
  simp only [Char.isDigit, Bool.and_eq_true, decide_eq_true_eq, UInt32.le_iff_toNat_le] at digit
  obtain ⟨n, place⟩ := Nat.exists_eq_add_of_le digit.1
  have small : n < 10 := by
    have last : 48 + n ≤ 57 := place ▸ digit.2
    omega
  have is : Char.ofNat (48 + n) = c := place ▸ Char.ofNat_toNat c
  exact is ▸ ten n small

/-- Digits of a length are worth less than ten to that length. -/
theorem digitsValue_lt {digits : List Char} (decimal : ∀ c ∈ digits, c.isDigit = true) :
    digitsValue digits < 10 ^ digits.length := by
  induction digits using List.reverseRecOn with
  | nil => decide
  | append_singleton digits c ih =>
      have digit : c.toNat - 48 < 10 :=
        of_isDigit (P := fun c => c.toNat - 48 < 10) (by decide) (decimal c (by simp))
      have front := ih fun c mem => decimal c (List.mem_append_left _ mem)
      rw [List.length_append, List.length_singleton, Nat.pow_succ]
      unfold digitsValue at front ⊢
      rw [List.foldl_append, List.foldl_cons, List.foldl_nil]
      omega

/-- The digits of a number are worth it. -/
theorem digitsValue_toDigits (n : Nat) : digitsValue (Nat.toDigits 10 n) = n :=
  Nat.ofDigitChars_eq_foldl.symm.trans Nat.ofDigitChars_ten_toDigits

theorem isDigit_toDigits {n : Nat} : ∀ c ∈ Nat.toDigits 10 n, c.isDigit = true :=
  fun _ => Nat.isDigit_of_mem_toDigits (by decide) (by decide)

/-- No number is written with fewer digits than it takes to write it. -/
theorem length_toDigits_le {digits : List Char} (decimal : ∀ c ∈ digits, c.isDigit = true)
    (some : digits ≠ []) : (Nat.toDigits 10 (digitsValue digits)).length ≤ digits.length :=
  (Nat.length_toDigits_le_iff (by decide) (List.length_pos_iff.mpr some)).mpr
    (digitsValue_lt decimal)

/-- A written number does not start with a zero, unless that is all of it. -/
theorem toDigits_ne_zero_cons (n : Nat) (c : Char) (digits : List Char) :
    Nat.toDigits 10 n ≠ '0' :: c :: digits := by
  intro written
  have decimal : ∀ d ∈ c :: digits, d.isDigit = true := fun d mem =>
    isDigit_toDigits (n := n) d (by rw [written]; exact List.mem_cons_of_mem _ mem)
  have value : digitsValue (c :: digits) = n := by
    rw [← digitsValue_toDigits n, written]
    rfl
  have shorter := length_toDigits_le decimal (List.cons_ne_nil c digits)
  rw [value, written, List.length_cons] at shorter
  exact Nat.not_succ_le_self _ shorter

/-! ### Numbers that a reader takes -/

/-- A whole number that has no more characters than a reader takes, its sign counted. -/
def Writable (n : Int) : Prop := (toString n).length ≤ digitLimit

/-- The sign that a number is written with. -/
def signChars (negative : Bool) : List Char := if negative then ['-'] else []

theorem toList_toString (n : Int) :
    (toString n).toList = signChars (n < 0) ++ Nat.toDigits 10 n.natAbs := by
  rw [Int.toString_eq_repr]
  cases n with
  | ofNat n =>
      rw [Int.repr, Nat.toList_repr]
      rfl
  | negSucc n =>
      rw [Int.repr, String.toList_append, Nat.toList_repr,
        decide_eq_true (Int.negSucc_lt_zero n)]
      rfl

/-- A number is writable exactly if it is not too long to write. -/
theorem writable_iff {n : Int} :
    Writable n ↔
      (Nat.toDigits 10 n.natAbs).length + (if decide (n < 0) then 1 else 0) ≤ digitLimit := by
  rw [Writable, ← String.length_toList, toList_toString, List.length_append, Nat.add_comm,
    signChars]
  split <;> rfl

theorem natAbs_signed (negative : Bool) (n : Nat) : (signed negative n).natAbs = n := by
  cases negative <;> simp [signed]

theorem signed_natAbs (n : Int) : signed (n < 0) n.natAbs = n := by
  by_cases negative : n < 0
  · rw [decide_eq_true negative]
    exact (Int.eq_neg_natAbs_of_nonpos (Int.le_of_lt negative)).symm
  · rw [decide_eq_false negative]
    exact Int.natAbs_of_nonneg (Int.not_lt.mp negative)

/-- A number keeps within the limit if some way to write it does. -/
theorem writable_signed {negative : Bool} {digits : List Char}
    (decimal : ∀ c ∈ digits, c.isDigit = true) (some : digits ≠ [])
    (fits : digits.length + (if negative then 1 else 0) ≤ digitLimit) :
    Writable (signed negative (digitsValue digits)) := by
  have shorter := length_toDigits_le decimal some
  rw [writable_iff, natAbs_signed]
  refine Nat.le_trans (Nat.add_le_add shorter ?_) fits
  cases negative with
  | false => simp [signed]
  | true => split <;> simp

/-- Numbers of nineteen digits keep within the limit. -/
theorem writable_of_natAbs_lt {n : Int} (small : n.natAbs < 10 ^ 19) : Writable n := by
  have short : (Nat.toDigits 10 n.natAbs).length ≤ 19 :=
    (Nat.length_toDigits_le_iff (by decide) (by decide)).mpr small
  rw [writable_iff, digitLimit]
  split <;> omega

/-- A number read by the strict reading is not too long to write. -/
theorem writable_of_readStrict {text : List Char} {n : Int} (read : readStrict text = .number n) :
    Writable n := by
  unfold readStrict at read
  split at read
  rename_i negative body parted
  split at read
  rename_i digits rest taken
  have decimal : ∀ c ∈ digits, c.isDigit = true := by
    split at taken
    · cases taken
      exact List.forall_mem_singleton.mpr rfl
    · rw [List.span_eq_takeWhile_dropWhile] at taken
      cases taken
      exact fun c mem => List.mem_takeWhile_imp mem
  by_cases long : digits.length + (if negative then 1 else 0) > digitLimit
  · rw [if_pos long] at read
    cases read
  by_cases flawed : (digits.isEmpty || !rest.isEmpty) = true
  · rw [if_neg long, if_pos flawed] at read
    cases read
  rw [if_neg long, if_neg flawed] at read
  cases read
  refine writable_signed decimal ?_ (Nat.not_lt.mp long)
  rintro rfl
  exact flawed rfl

theorem writable_of_readLenient {text : String} {n : Int} (read : readLenient text = .number n) :
    Writable n := by
  unfold readLenient at read
  split at read
  · cases tidy : tidied? text.toList with
    | none =>
        rw [tidy] at read
        cases read
    | some tidied =>
        rw [tidy] at read
        exact writable_of_readStrict read
  · exact writable_of_readStrict read

end LinkShortener.Numeral

namespace LinkShortener.Json

open Numeral (Writable signChars)

variable {d : Dialect}

/-! ### Written numbers -/

/-- A digit begins a number, and so does a minus sign before one: no word begins so. -/
theorem lexeme_digit {c : Char} (digit : c.isDigit = true) (negative : Bool) (rest : List Char) :
    lexeme? d (signChars negative ++ c :: rest) = number? d negative (c :: rest) := by
  refine Numeral.of_isDigit (P := fun c => lexeme? d (signChars negative ++ c :: rest) =
    number? d negative (c :: rest)) (fun n small => ?_) digit
  interval_cases n <;> cases negative <;> rfl

theorem isSpace_of_isDigit {c : Char} (digit : c.isDigit = true) : isSpace c = false :=
  Numeral.of_isDigit (P := (isSpace · = false)) (by decide) digit

/-- What begins with a digit or with a sign before it is one lexeme, if it is taken for one. -/
theorem Cuts.digit {negative : Bool} {c : Char} {cs rest : List Char} {l : Lexeme}
    {ls : List Lexeme} (cuts : Cuts d rest ls) (digit : c.isDigit = true)
    (lexeme : lexeme? d (signChars negative ++ c :: cs) = some (l, rest))
    (shorter : rest.length ≤ cs.length) : Cuts d (signChars negative ++ c :: cs) (l :: ls) := by
  cases negative with
  | false => exact cuts.cons (isSpace_of_isDigit digit) lexeme shorter
  | true => exact cuts.cons (by decide) lexeme (Nat.le_succ_of_le shorter)

section Delimited

variable {rest : List Char}

theorem fraction_of_delimits (ends : Delimits rest) : fraction rest = ([], rest) := by
  unfold fraction
  split
  · rcases ends '.' rfl with is | is | is <;> cases is
  · rfl

theorem exponent_of_delimits (ends : Delimits rest) : exponent rest = (none, rest) := by
  cases rest with
  | nil => rfl
  | cons c rest =>
      have letter : ¬ (c = 'e' ∨ c = 'E') := by
        rcases ends c rfl with rfl | rfl | rfl <;> decide
      simp only [exponent, if_neg letter]
      split <;> rfl

/-- The digits of a number end where what follows is no digit. -/
theorem span_toDigits (ends : Delimits rest) (n : Nat) :
    (Nat.toDigits 10 n ++ rest).span Char.isDigit = (Nat.toDigits 10 n, rest) := by
  rw [List.span_eq_takeWhile_dropWhile,
    List.takeWhile_append_of_pos Numeral.isDigit_toDigits,
    List.dropWhile_append_of_pos Numeral.isDigit_toDigits]
  cases rest with
  | nil => simp
  | cons c rest =>
      have other : c.isDigit = false := by
        rcases ends c rfl with rfl | rfl | rfl <;> decide
      simp [other]

/-- The digits of a number are taken up to what may follow a value. -/
theorem number_toDigits {negative : Bool} (ends : Delimits rest) {n : Nat}
    (fits : (Nat.toDigits 10 n).length + (if negative then 1 else 0) ≤ Numeral.digitLimit) :
    number? d negative (Nat.toDigits 10 n ++ rest) =
      some (.atom (.int (Numeral.signed negative n)), rest) := by
  have sized : isOversized d negative (Nat.toDigits 10 n) false = false := by
    unfold isOversized
    split <;> simp <;> omega
  rw [number?, span_toDigits ends]
  split
  · rename_i same
    exact absurd (congrArg Prod.fst same) Nat.toDigits_ne_nil
  · rename_i same
    exact absurd (congrArg Prod.fst same) (Numeral.toDigits_ne_zero_cons n _ _)
  · rename_i same
    cases same
    simp [fraction_of_delimits ends, exponent_of_delimits ends, sized,
      Numeral.digitsValue_toDigits]

end Delimited

/-- A written whole number is read back. -/
theorem reads_int {n : Int} (writable : Writable n) (height : Nat) : Reads d height (.int n) := by
  refine ⟨[.atom (.int n)], fun rest more ends cuts => ?_, fun stack more room => rfl⟩
  obtain ⟨c, digits, written⟩ := List.exists_cons_of_ne_nil
    (Nat.toDigits_ne_nil : Nat.toDigits 10 n.natAbs ≠ [])
  have digit : c.isDigit = true := Numeral.isDigit_toDigits c (written ▸ List.mem_cons_self)
  have taken : number? d (n < 0) (c :: digits ++ rest) = some (.atom (.int n), rest) := by
    rw [← written, number_toDigits ends (Numeral.writable_iff.mp writable), Numeral.signed_natAbs]
  have lexeme : lexeme? d (signChars (n < 0) ++ c :: (digits ++ rest)) = _ :=
    (lexeme_digit digit _ _).trans taken
  rw [writeChars, Numeral.toList_toString, written, List.append_assoc]
  exact cuts.digit digit lexeme (by simp)

/-! ### Documents that were read -/

/-- A value all of whose whole numbers, those inside it included, are writable. -/
inductive Value.Moderate : Value → Prop
  | null : Moderate .null
  | bool (b : Bool) : Moderate (.bool b)
  | int {n : Int} (writable : Writable n) : Moderate (.int n)
  | real (d : Numeral.Decimal) : Moderate (.real d)
  | nan : Moderate .nan
  | infinite (negative : Bool) : Moderate (.infinite negative)
  | text (s : String) : Moderate (.text s)
  | broken : Moderate .broken
  | list {items : List Value} (inside : ∀ v ∈ items, Moderate v) : Moderate (.list items)
  | object {members : List (String × Value)} (inside : ∀ m ∈ members, Moderate m.2) :
      Moderate (.object members)

/-- A lexeme whose number, if it is one, is writable. -/
def Lexeme.Moderate : Lexeme → Prop
  | .atom v => v.Moderate
  | _ => True

theorem moderate_of_textValue {ps : List Piece} {v : Value} (valued : textValue? d ps = some v) :
    v.Moderate := by
  unfold textValue? at valued
  split at valued
  · cases valued
    exact .text _
  · split at valued <;> cases valued
    exact .broken

theorem moderate_of_mem_words : ∀ entry ∈ words, entry.2.Moderate := by
  simp only [words, List.forall_mem_cons, List.not_mem_nil, false_imp_iff, implies_true, and_true]
  exact ⟨.null, .bool true, .bool false, .nan, .infinite false, .infinite true⟩

/-- A strict number is not too long to write. -/
theorem moderate_of_number (strict : d.strictLength = true) {negative : Bool}
    {cs rest : List Char} {l : Lexeme} (read : number? d negative cs = some (l, rest)) :
    l.Moderate := by
  rw [number?, List.span_eq_takeWhile_dropWhile] at read
  split at read
  · cases read
  · cases read
  · rename_i whole after some _ same
    cases same
    simp only [Option.some.injEq, Prod.mk.injEq] at read
    obtain ⟨rfl, -⟩ := read
    split
    · exact trivial
    · rename_i sized
      split
      · exact .real _
      · refine .int (Numeral.writable_signed ?_ ?_ ?_)
        · exact fun c mem => List.mem_takeWhile_imp mem
        · exact some
        · simpa [isOversized, strict] using sized

theorem moderate_of_lexeme (strict : d.strictLength = true) {cs rest : List Char} {l : Lexeme}
    (read : lexeme? d cs = some (l, rest)) : l.Moderate := by
  unfold lexeme? at read
  split at read
  · cases read
  split at read
  case h_7 =>
    simp only [Option.bind_eq_bind, Option.bind_eq_some_iff, Option.pure_def, Option.some.injEq,
      Prod.mk.injEq] at read
    obtain ⟨_, -, v, valued, rfl, -⟩ := read
    exact moderate_of_textValue valued
  case h_8 =>
    split at read
    · rename_i v after found
      cases read
      obtain ⟨entry, listed, taken⟩ := List.exists_of_findSome?_eq_some found
      obtain ⟨_, -, same⟩ := Option.map_eq_some_iff.mp taken
      cases same
      exact moderate_of_mem_words entry listed
    · split at read <;> exact moderate_of_number strict read
  all_goals
    cases read
    exact trivial

theorem moderate_of_lexemes (strict : d.strictLength = true) (bound : Nat) (cs : List Char) :
    ∀ l ∈ (lexemes d bound cs).1, l.Moderate := by
  fun_induction lexemes d bound cs with
  | case1 => exact fun l mem => nomatch mem
  | case2 cs bound l rest ls whole later some read ih =>
      rw [later] at ih
      exact List.forall_mem_cons.mpr ⟨moderate_of_lexeme strict read, ih⟩
  | case3 => exact fun l mem => nomatch mem

/-! ### Assembly -/

/-- An open container that holds moderate values so far. -/
def Frame.Moderate : Frame → Prop
  | .list items => ∀ v ∈ items, v.Moderate
  | .object members _ => ∀ m ∈ members, m.2.Moderate

/-- An assembly that holds moderate values so far. -/
structure Assembly.Moderate (a : Assembly) : Prop where
  stack : ∀ frame ∈ a.stack, frame.Moderate
  result : ∀ v ∈ a.result, v.Moderate

theorem moderate_place {stack : List Frame} {v : Value} {a : Assembly}
    (frames : ∀ frame ∈ stack, frame.Moderate) (moderate : v.Moderate)
    (placed : Assembly.place stack v = .ok a) : a.Moderate := by
  unfold Assembly.place at placed
  split at placed <;> cases placed
  case h_1 => exact ⟨frames, fun _ mem => Option.some.inj mem ▸ moderate⟩
  all_goals
    obtain ⟨inside, outside⟩ := List.forall_mem_cons.mp frames
    refine ⟨List.forall_mem_cons.mpr ⟨?_, outside⟩, fun _ mem => nomatch mem⟩
    exact List.forall_mem_cons.mpr ⟨moderate, inside⟩

theorem moderate_enter {stack : List Frame} {inside : Expect} {frame : Frame} {a : Assembly}
    (frames : ∀ frame ∈ stack, frame.Moderate) (moderate : frame.Moderate)
    (entered : Assembly.enter d stack inside frame = .ok a) : a.Moderate := by
  unfold Assembly.enter at entered
  split at entered <;> cases entered
  exact ⟨List.forall_mem_cons.mpr ⟨moderate, frames⟩, fun _ mem => nomatch mem⟩

/-- What holds of an assembly holds after a further lexeme. -/
theorem moderate_step {a a' : Assembly} {l : Lexeme} (held : a.Moderate) (moderate : l.Moderate)
    (stepped : Assembly.step d a l = .ok a') : a'.Moderate := by
  obtain ⟨frames, -⟩ := held
  unfold Assembly.step at stepped
  split at stepped
  -- A container is opened, empty.
  case h_1 | h_2 | h_3 | h_4 =>
    refine moderate_enter frames ?_ stepped
    exact fun _ mem => nomatch mem
  case h_5 | h_6 => exact moderate_place frames moderate stepped
  -- The innermost container goes on: with a name, or after a comma.
  case h_9 | h_10 | h_11 | h_12 | h_14 | h_15 =>
    rename_i opened
    rw [opened, List.forall_mem_cons] at frames
    cases stepped
    exact ⟨List.forall_mem_cons.mpr frames, fun _ mem => nomatch mem⟩
  case h_13 =>
    cases stepped
    exact ⟨frames, fun _ mem => nomatch mem⟩
  -- The innermost container ends and is a value of the next one.
  case h_16 | h_17 =>
    rename_i opened
    rw [opened, List.forall_mem_cons] at frames
    refine moderate_place frames.2 (.list fun v mem => ?_) stepped
    exact frames.1 v (List.mem_reverse.mp mem)
  case h_18 | h_19 =>
    rename_i opened
    rw [opened, List.forall_mem_cons] at frames
    refine moderate_place frames.2 (.object fun m mem => ?_) stepped
    exact frames.1 m (List.mem_reverse.mp mem)
  case h_7 | h_8 | h_20 => cases stepped

/-- What is assembled from moderate pieces is moderate. -/
theorem moderate_foldlM {ls : List Lexeme} {a a' : Assembly} (held : a.Moderate)
    (moderate : ∀ l ∈ ls, l.Moderate) (assembled : ls.foldlM (Assembly.step d) a = .ok a') :
    a'.Moderate := by
  induction ls generalizing a with
  | nil =>
      cases assembled
      exact held
  | cons l ls ih =>
      rw [List.forall_mem_cons] at moderate
      rw [List.foldlM_cons] at assembled
      cases stepped : Assembly.step d a l with
      | error flaw =>
          rw [stepped] at assembled
          cases assembled
      | ok next =>
          rw [stepped] at assembled
          exact ih (moderate_step held moderate.1 stepped) moderate.2 assembled

/-- A text that is read stands for a moderate value. -/
theorem moderate_of_read (strict : d.strictLength = true) {s : String} {v : Value}
    (done : read d s = .ok v) : v.Moderate := by
  simp only [read, bind, Except.bind] at done
  split at done
  · cases done
  rename_i a assembled
  have start : Assembly.Moderate ⟨.value, [], none⟩ :=
    ⟨fun _ mem => (nomatch mem), fun _ mem => nomatch mem⟩
  have held := moderate_foldlM start (moderate_of_lexemes strict _ _) assembled
  split at done
  · split at done <;> cases done
    exact held.result v rfl
  · cases done

/-- A document that is read stands for a moderate value. -/
theorem moderate_of_readBytes (strict : d.strictLength = true) {bytes : List UInt8} {v : Value}
    (done : readBytes? d bytes = some v) : v.Moderate := by
  obtain ⟨s, -, done⟩ := Option.bind_eq_some_iff.mp done
  refine moderate_of_read strict (?_ : read d s = .ok v)
  unfold read? at done
  cases outcome : read d s with
  | error refusal => rw [outcome] at done; cases done
  | ok v => rw [outcome] at done; cases done; rfl

end LinkShortener.Json
