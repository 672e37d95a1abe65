import LinkShortener.Moment.Basic
import LinkShortener.Numeral.Grammar

/-!
Reading points of civil time. A text is a date alone, a date and a time with an optional
offset, or a number; a number counts seconds since 1970 in universal time, or milliseconds when
its magnitude is above twenty thousand million. Real numbers go down to microseconds either way.
-/

namespace LinkShortener.Moment

/-- Why a value is no point of civil time. -/
inductive Unreadable
  /-- the text has no such form -/
  | form
  /-- the point lies outside the calendar -/
  | range
  deriving DecidableEq, Repr

/-- The parts that a written point is read into; year zero is let pass here. -/
abbrev Parts := Day × TimeOfDay × Option Int

/-! ### Written dates and times -/

/-- The value of a decimal digit. -/
def digit? (c : Char) : Option Nat :=
  if '0' ≤ c ∧ c ≤ '9' then some (c.toNat - 48) else none

/-- The number of two decimal digits. -/
def two? (a b : Char) : Option Nat := do return 10 * (← digit? a) + (← digit? b)

def readDate? : List Char → Option (Day × List Char)
  | y₁ :: y₂ :: y₃ :: y₄ :: '-' :: m₁ :: m₂ :: '-' :: d₁ :: d₂ :: rest => do
    let d : Day := ⟨100 * (← two? y₁ y₂) + (← two? y₃ y₄), ← two? m₁ m₂, ← two? d₁ d₂⟩
    if d.InCalendar then some (d, rest) else none
  | _ => none

/-- The microseconds of a run of fraction digits, of which the first six count. -/
def fractionMicros (digits : List Char) : Nat :=
  ((digits ++ List.replicate 6 '0').take 6).foldl (fun n c => 10 * n + (c.toNat - 48)) 0

/-- An optional fraction of a second, and what follows it. -/
def readFraction? : List Char → Option (Nat × List Char)
  | c :: rest =>
    if c = '.' ∨ c = ',' then
      match rest.span Char.isDigit with
      | ([], _) => none
      | (ds, rest) => some (fractionMicros ds, rest)
    else some (0, c :: rest)
  | [] => some (0, [])

/-- Optional seconds with an optional fraction, and what follows them. -/
def readSeconds? : List Char → Option (Nat × Nat × List Char)
  | ':' :: s₁ :: s₂ :: rest => do
    let (micro, rest) ← readFraction? rest
    return (← two? s₁ s₂, micro, rest)
  | ':' :: _ => none
  | rest => some (0, 0, rest)

def readTime? : List Char → Option (TimeOfDay × List Char)
  | h₁ :: h₂ :: ':' :: m₁ :: m₂ :: rest => do
    let (second, micro, rest) ← readSeconds? rest
    let t : TimeOfDay := ⟨← two? h₁ h₂, ← two? m₁ m₂, second, micro⟩
    if t.InDay then some (t, rest) else none
  | _ => none

/-- The sign of an offset; a minus sign is one of two characters. -/
def offsetSign? (c : Char) : Option Int :=
  if c = '+' then some 1 else if c = '-' ∨ c = '\u2212' then some (-1) else none

/-- The minutes of an offset of hours and minutes. -/
def offsetMinutes? (sign : Int) (h₁ h₂ m₁ m₂ : Char) : Option Int := do
  let hours ← two? h₁ h₂
  let minutes ← two? m₁ m₂
  if hours < 24 ∧ minutes < 60 then some (sign * (60 * hours + minutes : Nat)) else none

/-- The offset that a whole text is; an empty one is none. -/
def readOffset? : List Char → Option (Option Int)
  | [] => some none
  | [c] => if c = 'Z' ∨ c = 'z' then some (some 0) else none
  | [s, h₁, h₂, ':', m₁, m₂] => do return some (← offsetMinutes? (← offsetSign? s) h₁ h₂ m₁ m₂)
  | [s, h₁, h₂, m₁, m₂] => do return some (← offsetMinutes? (← offsetSign? s) h₁ h₂ m₁ m₂)
  | _ => none

/-- A character between date and time. -/
def isSeparator (c : Char) : Bool := c == 'T' || c == 't' || c == ' ' || c == '_'

/-- The date, time and offset of a written point of civil time. -/
def readParts? (text : List Char) : Option Parts := do
  let (day, rest) ← readDate? text
  match rest with
  | [] => some (day, ⟨0, 0, 0, 0⟩, none)
  | c :: rest =>
    if isSeparator c then
      let (time, rest) ← readTime? rest
      return (day, time, ← readOffset? rest)
    else none

/-! ### Numbers -/

/-- The greatest magnitude of a number that counts seconds. -/
def secondsLimit : Nat := 20000000000

/-- The point that a number of seconds and of microseconds, one second's worth at most, stand
for. -/
def ofSeconds? (seconds : Int) (micro : Nat) : Option Parts :=
  (partsOfUnix? (seconds + (micro / 1000000 : Nat)) (micro % 1000000)).map
    fun (day, time) => (day, time, some 0)

/-- The point that a number of milliseconds and some microseconds stand for. -/
def ofMillis? (millis : Int) (micro : Nat) : Option Parts :=
  ofSeconds? (millis.fdiv 1000) ((millis.fmod 1000).toNat * 1000 + micro)

/-- The point that a whole number stands for. -/
def ofCount? (n : Int) : Option Parts :=
  if n.natAbs ≤ secondsLimit then ofSeconds? n 0 else ofMillis? n 0

/-- The signed quotient that a finite number is. -/
def quotient? : Numeral.Binary64 → Option (Int × Nat)
  | .finite negative m q =>
    let (n, d) := Numeral.Binary64.ratio m q
    some (if negative then -n else n, d)
  | _ => none

/-- The floating-point number nearest to a quotient, as a quotient again. -/
def nearest (num den : Nat) : Nat × Nat :=
  match Numeral.Binary64.ofRatio false num den with
  | .finite _ m q => Numeral.Binary64.ratio m q
  | _ => (num, den)

/-- What a quotient is above the whole number below it, in units of which `unit` make one. The
difference and the product are floating-point numbers; of the product the nearest whole number
is taken, a half upward. -/
def unitsAbove (num : Int) (den unit : Nat) : Nat :=
  let (n, d) := nearest (num.fmod den).toNat den
  let (n, d) := nearest (n * unit) d
  (2 * n + d) / (2 * d)

/-- The point that a real number stands for. -/
def ofReal? (x : Numeral.Binary64) : Option Parts := do
  let (num, den) ← quotient? x
  if num.natAbs ≤ secondsLimit * den then ofSeconds? (num.fdiv den) (unitsAbove num den 1000000)
  else ofMillis? (num.fdiv den) (unitsAbove num den 1000)

/-- A whole number that fits in sixty-four bits with a sign. -/
def fitsWord (n : Int) : Bool := -9223372036854775808 ≤ n && n ≤ 9223372036854775807

/-- The point that a written number stands for. With a point in it, it is a real number; the
digits before the point fit in sixty-four bits in any case. -/
def readNumber? (text : List Char) : Option Parts :=
  let (negative, body) := Numeral.splitSign text
  let (whole, rest) := body.span Char.isDigit
  let n := Numeral.digitsValue whole
  if !fitsWord n then none
  else
    match rest with
    | [] => if whole.isEmpty then none else ofCount? (Numeral.signed negative n)
    | '.' :: _ => (Numeral.fraction? negative body).bind fun d => ofReal? (.ofDecimal d)
    | _ => none

/-- The point of civil time of given parts. -/
def ofParts (parts : Parts) : Except Unreadable Moment :=
  (make? parts.1 parts.2.1 parts.2.2).elim (.error .range) .ok

def read (text : String) : Except Unreadable Moment :=
  let cs := text.toList
  match (readParts? cs).or (readNumber? cs) with
  | some parts => ofParts parts
  | none => .error .form

/-- The point of civil time that an optional number stands for. -/
def ofNumber (parts : Option Parts) : Except Unreadable Moment :=
  parts.elim (.error .range) ofParts

end LinkShortener.Moment
