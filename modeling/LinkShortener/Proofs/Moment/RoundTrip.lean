import LinkShortener.Moment.Parser
import LinkShortener.Moment.Printer
import Mathlib.Algebra.Ring.Nat
import Mathlib.Data.List.TakeDrop

/-!
A written point of civil time is read as itself. Each part is read off the front of a text that
goes on in some way, and the parts compose.

Main statement: `read_text`.
-/

namespace LinkShortener.Moment

/-! ### Digits -/

theorem digit_ofNat {n : Nat} (small : n < 10) : digit? (Char.ofNat (48 + n)) = some n := by
  revert n
  decide

theorem isDigit_ofNat {n : Nat} (small : n < 10) : (Char.ofNat (48 + n)).isDigit = true := by
  revert n
  decide

theorem toNat_ofNat {n : Nat} (small : n < 10) : (Char.ofNat (48 + n)).toNat - 48 = n := by
  revert n
  decide

theorem two_padded {n : Nat} (fits : n < 100) :
    ∃ a b, padded 2 n = [a, b] ∧ two? a b = some n := by
  refine ⟨_, _, rfl, ?_⟩
  rw [two?, digit_ofNat (Nat.mod_lt _ (by decide)), digit_ofNat (Nat.mod_lt _ (by decide))]
  simp only [Option.bind_eq_bind, Option.bind_some, Option.pure_def, Option.some.injEq]
  omega

theorem length_padded (width n : Nat) : (padded width n).length = width := by
  induction width generalizing n with
  | zero => rfl
  | succ width ih => simp [padded, ih]

theorem isDigit_of_mem_padded {width n : Nat} {c : Char} (mem : c ∈ padded width n) :
    c.isDigit = true := by
  induction width generalizing n with
  | zero => cases mem
  | succ width ih =>
      rcases List.mem_append.mp mem with early | last
      · exact ih early
      · rw [List.mem_singleton.mp last]
        exact isDigit_ofNat (Nat.mod_lt n (by decide))

/-- Padded digits are worth the number up to their width. -/
theorem foldl_padded (width n begun : Nat) :
    (padded width n).foldl (fun n c => 10 * n + (c.toNat - 48)) begun =
      10 ^ width * begun + n % 10 ^ width := by
  induction width generalizing n with
  | zero => simp [padded, Nat.mod_one]
  | succ width ih =>
      rw [padded, List.foldl_append, ih, List.foldl_cons, List.foldl_nil,
        toNat_ofNat (Nat.mod_lt n (by decide)), Nat.pow_succ', Nat.mod_mul, Nat.mul_add,
        Nat.mul_assoc]
      omega

theorem padded_four (n : Nat) : padded 4 n = padded 2 (n / 100) ++ padded 2 (n % 100) := by
  have tens : n % 100 / 10 % 10 = n / 10 % 10 := by omega
  have ones : n % 100 % 10 = n % 10 := by omega
  simp only [padded, Nat.div_div_eq_div_mul, Nat.reduceMul, tens, ones, List.append_assoc,
    List.nil_append]

/-! ### Parts -/

/-- A date is read as it was written. -/
theorem readDate_dateChars {d : Day} (inCalendar : d.InCalendar) (rest : List Char) :
    readDate? (dateChars d ++ rest) = some (d, rest) := by
  have inRange : d.day ≤ 31 ∧ d.month ≤ 12 ∧ d.year ≤ 9999 := by
    obtain ⟨year, -, month, -, day⟩ := inCalendar
    unfold daysInMonth at day
    split at day <;> split at day <;> omega
  obtain ⟨y₁, y₂, century, readCentury⟩ := two_padded (n := d.year / 100) (by omega)
  obtain ⟨y₃, y₄, year, readYear⟩ := two_padded (n := d.year % 100) (by omega)
  obtain ⟨m₁, m₂, month, readMonth⟩ := two_padded (n := d.month) (by omega)
  obtain ⟨d₁, d₂, day, readDay⟩ := two_padded (n := d.day) (by omega)
  rw [dateChars, padded_four, century, year, month, day]
  simp only [List.cons_append, List.nil_append, readDate?, readCentury, readYear, readMonth,
    readDay, Option.bind_eq_bind, Option.bind_some, Nat.div_add_mod]
  exact if_pos inCalendar

/-- A text that goes on after the time of day: with no digit and no point. -/
def Ends (rest : List Char) : Prop :=
  ∀ c ∈ rest.head?, c.isDigit = false ∧ c ≠ '.' ∧ c ≠ ',' ∧ c ≠ ':'

theorem span_padded {rest : List Char} (ends : Ends rest) (width n : Nat) :
    (padded width n ++ rest).span Char.isDigit = (padded width n, rest) := by
  rw [List.span_eq_takeWhile_dropWhile, List.takeWhile_append_of_pos fun c => isDigit_of_mem_padded,
    List.dropWhile_append_of_pos fun c => isDigit_of_mem_padded]
  cases rest with
  | nil => simp
  | cons c rest => simp [(ends c rfl).1]

theorem readFraction_micro {micro : Nat} (fits : micro < 1000000) {rest : List Char}
    (ends : Ends rest) :
    readFraction? ((if micro = 0 then [] else '.' :: padded 6 micro) ++ rest) =
      some (micro, rest) := by
  split
  · rename_i none
    cases none
    cases rest with
    | nil => rfl
    | cons c rest =>
        obtain ⟨-, point, comma, -⟩ := ends c rfl
        simp [readFraction?, point, comma]
  · have value : fractionMicros (padded 6 micro) = micro := by
      rw [fractionMicros, List.take_left' (length_padded 6 micro), foldl_padded]
      omega
    rw [List.cons_append, readFraction?, if_pos (.inl rfl), span_padded ends]
    change some (fractionMicros (padded 6 micro), rest) = _
    rw [value]

/-- A time of day is read as it was written. -/
theorem readTime_timeChars {t : TimeOfDay} (inDay : t.InDay) {rest : List Char}
    (ends : Ends rest) : readTime? (timeChars t ++ rest) = some (t, rest) := by
  obtain ⟨hour, minute, second, micro⟩ := inDay
  obtain ⟨h₁, h₂, hours, readHour⟩ := two_padded (n := t.hour) (by omega)
  obtain ⟨m₁, m₂, minutes, readMinute⟩ := two_padded (n := t.minute) (by omega)
  obtain ⟨s₁, s₂, seconds, readSecond⟩ := two_padded (n := t.second) (by omega)
  have fraction := readFraction_micro micro ends
  rw [timeChars, hours, minutes, seconds]
  simp only [List.cons_append, List.nil_append, readTime?, readSeconds?, fraction, readHour,
    readMinute, readSecond, Option.bind_eq_bind, Option.bind_some, Option.pure_def]
  exact if_pos ⟨hour, minute, second, micro⟩

/-- An offset is read as it was written. -/
theorem readOffset_offsetChars {offset : Option Int} (inRange : OffsetInRange offset) :
    readOffset? (offsetChars ['Z'] offset) = some offset := by
  cases offset with
  | none => rfl
  | some minutes =>
      obtain ⟨above, below⟩ := inRange minutes rfl
      by_cases zero : minutes = 0
      · rw [zero]
        rfl
      obtain ⟨h₁, h₂, hours, readHours⟩ := two_padded (n := minutes.natAbs / 60) (by omega)
      obtain ⟨m₁, m₂, rest, readMinutes⟩ := two_padded (n := minutes.natAbs % 60) (by omega)
      have read (sign : Int) (is : sign * minutes.natAbs = minutes) :
          offsetMinutes? sign h₁ h₂ m₁ m₂ = some minutes := by
        simp only [offsetMinutes?, readHours, readMinutes, Option.bind_eq_bind, Option.bind_some]
        rw [if_pos (by omega), Nat.div_add_mod, is]
      rw [offsetChars, signedOffset, hours, rest]
      · split
        · simp [readOffset?, offsetSign?, read (-1) (by omega)]
        · simp [readOffset?, offsetSign?, read 1 (by omega)]
      · exact zero

theorem ends_offsetChars (offset : Option Int) : Ends (offsetChars ['Z'] offset) := by
  intro c mem
  unfold offsetChars at mem
  split at mem
  · cases mem
  · cases mem
    decide
  · rw [signedOffset] at mem
    cases mem
    split <;> decide

/-- What is written is read back. -/
theorem read_text (m : Moment) : read m.text = .ok m := by
  have parts : readParts? (chars ['Z'] m) = some (m.day, m.time, m.offset) := by
    rw [chars, List.append_assoc, readParts?, readDate_dateChars m.inCalendar]
    simp only [Option.bind_eq_bind, Option.bind_some, List.cons_append]
    rw [if_pos (by decide), readTime_timeChars m.inDay (ends_offsetChars m.offset)]
    simp only [Option.bind_some, readOffset_offsetChars m.offsetInRange, Option.pure_def]
  rw [read, text, String.toList_ofList, parts]
  change ofParts (m.day, m.time, m.offset) = _
  rw [ofParts, make_self]
  rfl

end LinkShortener.Moment
