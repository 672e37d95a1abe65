import LinkShortener.Moment.Basic

/-!
The written form of a point of civil time: date and time joined by a capital T, six digits of
microseconds when there are any, and the offset, for which universal time has a mark of its
own.
-/

namespace LinkShortener.Moment

/-- The last `width` decimal digits of a number. -/
def padded : (width : Nat) → Nat → List Char
  | 0, _ => []
  | width + 1, n => padded width (n / 10) ++ [Char.ofNat (48 + n % 10)]

def dateChars (d : Day) : List Char :=
  padded 4 d.year ++ '-' :: padded 2 d.month ++ '-' :: padded 2 d.day

def timeChars (t : TimeOfDay) : List Char :=
  padded 2 t.hour ++ ':' :: padded 2 t.minute ++ ':' :: padded 2 t.second ++
    (if t.micro = 0 then [] else '.' :: padded 6 t.micro)

/-- An offset by sign, hours and minutes. -/
def signedOffset (minutes : Int) : List Char :=
  (if minutes < 0 then '-' else '+') ::
    (padded 2 (minutes.natAbs / 60) ++ ':' :: padded 2 (minutes.natAbs % 60))

/-- An offset, nothing for naive time; `universal` is the mark of universal time. -/
def offsetChars (universal : List Char) : Option Int → List Char
  | none => []
  | some 0 => universal
  | some minutes => signedOffset minutes

def chars (universal : List Char) (m : Moment) : List Char :=
  dateChars m.day ++ 'T' :: timeChars m.time ++ offsetChars universal m.offset

/-- The text in records, where universal time is marked by a capital Z. -/
def text (m : Moment) : String := String.ofList (chars ['Z'] m)

/-- The text for the column store, where universal time is an offset of zero. -/
def offsetText (m : Moment) : String := String.ofList (chars (signedOffset 0) m)

end LinkShortener.Moment
