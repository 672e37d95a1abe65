/-!
Points of civil time to the microsecond in the proleptic Gregorian calendar, years 1 to 9999,
either naive or with an offset of whole minutes from universal time.
-/

namespace LinkShortener

def isLeapYear (year : Nat) : Bool :=
  year % 4 == 0 && (year % 100 != 0 || year % 400 == 0)

def daysInMonth (year month : Nat) : Nat :=
  if month = 2 then (if isLeapYear year then 29 else 28)
  else if month = 4 ∨ month = 6 ∨ month = 9 ∨ month = 11 then 30
  else 31

structure Day where
  year : Nat
  month : Nat
  day : Nat
  deriving DecidableEq, Repr

/-- The ranges of a day; year zero is let pass here. -/
def Day.InCalendar (d : Day) : Prop :=
  d.year ≤ 9999 ∧ 1 ≤ d.month ∧ d.month ≤ 12 ∧ 1 ≤ d.day ∧ d.day ≤ daysInMonth d.year d.month

instance (d : Day) : Decidable d.InCalendar := by unfold Day.InCalendar; infer_instance

structure TimeOfDay where
  hour : Nat
  minute : Nat
  second : Nat
  micro : Nat
  deriving DecidableEq, Repr

/-- The ranges of a time of day. -/
def TimeOfDay.InDay (t : TimeOfDay) : Prop :=
  t.hour < 24 ∧ t.minute < 60 ∧ t.second < 60 ∧ t.micro < 1000000

instance (t : TimeOfDay) : Decidable t.InDay := by unfold TimeOfDay.InDay; infer_instance

/-- An offset from universal time in minutes, positive to the east, of less than a day. -/
def OffsetInRange (offset : Option Int) : Prop := ∀ m ∈ offset, -1440 < m ∧ m < 1440

instance (offset : Option Int) : Decidable (OffsetInRange offset) :=
  match offset with
  | none => isTrue fun _ h => by simp at h
  | some m =>
    if h : -1440 < m ∧ m < 1440 then isTrue fun _ hk => by simp_all
    else isFalse fun hk => h (hk m rfl)

/-- A point of civil time. -/
structure Moment where
  day : Day
  time : TimeOfDay
  offset : Option Int
  inCalendar : day.InCalendar
  afterYearZero : 1 ≤ day.year
  inDay : time.InDay
  offsetInRange : OffsetInRange offset
  deriving DecidableEq, Repr

namespace Moment

/-- The point of civil time of given parts, if they are in their ranges. -/
def make? (day : Day) (time : TimeOfDay) (offset : Option Int) : Option Moment :=
  if h : day.InCalendar ∧ 1 ≤ day.year ∧ time.InDay ∧ OffsetInRange offset then
    some ⟨day, time, offset, h.1, h.2.1, h.2.2.1, h.2.2.2⟩
  else none

/-- A point of civil time is made of its own parts. -/
theorem make_self (m : Moment) : make? m.day m.time m.offset = some m := by
  simp [make?, m.inCalendar, m.afterYearZero, m.inDay, m.offsetInRange]

/-! ### Days and seconds since 1970 -/

/-- The day that lies a number of days after 1 March of year 0. -/
def dayAfterMarch (n : Nat) : Day :=
  let era := n / 146097
  let dayOfEra := n % 146097
  let yearOfEra := (dayOfEra - dayOfEra / 1460 + dayOfEra / 36524 - dayOfEra / 146096) / 365
  let dayOfYear := dayOfEra - (365 * yearOfEra + yearOfEra / 4 - yearOfEra / 100)
  let shifted := (5 * dayOfYear + 2) / 153
  let month := if shifted < 10 then shifted + 3 else shifted - 9
  ⟨era * 400 + yearOfEra + (if month ≤ 2 then 1 else 0), month,
    dayOfYear - (153 * shifted + 2) / 5 + 1⟩

/-- The time of day that lies a number of seconds after midnight. -/
def timeAfterMidnight (seconds micro : Nat) : TimeOfDay :=
  ⟨seconds / 3600, seconds / 60 % 60, seconds % 60, micro⟩

/-- The number of days from 1 March of year 0 to 1 January of 1970. -/
def marchToEpoch : Int := 719468

/-- The day and the time of day in universal time that lie a number of seconds after the start
of 1970, plus microseconds below one second; nothing outside the calendar. -/
def partsOfUnix? (seconds : Int) (micro : Nat) : Option (Day × TimeOfDay) :=
  match marchToEpoch + seconds.fdiv 86400 with
  | .ofNat days =>
    let day := dayAfterMarch days
    if day.InCalendar then some (day, timeAfterMidnight (seconds.fmod 86400).toNat micro) else none
  | .negSucc _ => none

/-- The point in universal time that lies a number of seconds after the start of 1970. -/
def ofUnix? (seconds : Int) (micro : Nat) : Option Moment :=
  (partsOfUnix? seconds micro).bind fun (day, time) => make? day time (some 0)

end Moment

end LinkShortener
