/-!
Punycode: a text as its ASCII characters followed by the places of the others, as deltas in a
numeral system whose digit thresholds adapt to the size of the deltas.
-/

namespace LinkShortener.Idna.Punycode

/-- The digit of a value below thirty-six. -/
def digit (value : Nat) : Char := "abcdefghijklmnopqrstuvwxyz0123456789".toList.getD value 'a'

/-- The threshold of a digit at a place under a bias, between 1 and 26. -/
def threshold (place bias : Nat) : Nat := max 1 (min 26 (36 * (place + 1) - bias))

/-- The digits of a delta, from a place on. -/
def deltaDigits (place bias : Nat) (n : Nat) : List Char :=
  let t := threshold place bias
  if n < t then [digit n]
  else digit (t + (n - t) % (36 - t)) :: deltaDigits (place + 1) bias ((n - t) / (36 - t))
termination_by n
decreasing_by
  have ht : 1 ≤ t := Nat.le_max_left _ _
  exact Nat.lt_of_le_of_lt (Nat.div_le_self _ _) (by omega)

/-- Divides a delta until it is at most 455; also the bias that the divisions add. -/
def shrink (delta : Nat) : Nat × Nat :=
  if delta > 455 then
    let (d, bias) := shrink (delta / 35)
    (d, bias + 36)
  else (delta, 0)
termination_by delta
decreasing_by omega

/-- The bias after a delta; the first one is damped more, and `points` counts the characters
handled so far. -/
def adapt (delta : Nat) (first : Bool) (points : Nat) : Nat :=
  let delta := if first then delta / 700 else delta / 2
  let (d, bias) := shrink (delta + delta / points)
  bias + 36 * d / (d + 38)

/-- The least character of a text at or above a code point. -/
def leastFrom (low : Nat) (text : List Char) : Option Nat :=
  text.foldl (fun least c =>
    if low ≤ c.toNat then some (least.elim c.toNat (min c.toNat)) else least) none

/-- The encoder between two occurrences of a character. -/
structure State where
  delta : Nat
  bias : Nat
  handled : Nat
  first : Bool
  output : List Char

/-- Passes over the text for the occurrences of one character. -/
def State.pass (s : State) (target : Nat) (text : List Char) : State :=
  text.foldl (fun s c =>
    if c.toNat < target then { s with delta := s.delta + 1 }
    else if c.toNat = target then
      { delta := 0
        bias := adapt s.delta s.first (s.handled + 1)
        handled := s.handled + 1
        first := false
        output := s.output ++ deltaDigits 0 s.bias s.delta }
    else s) s

/-- Handles the characters from a code point upward, each in one pass; the length of the text
bounds the number of passes. -/
def rounds (text : List Char) : (bound : Nat) → (low : Nat) → State → State
  | 0, _, s => s
  | bound + 1, low, s =>
    match leastFrom low text with
    | none => s
    | some target =>
      let s := { s with delta := s.delta + (target - low) * (s.handled + 1) }
      let s := s.pass target text
      rounds text bound (target + 1) { s with delta := s.delta + 1 }

/-- The encoded form of a text. -/
def encode (text : List Char) : List Char :=
  let base := text.filter (·.toNat < 128)
  let s := rounds text text.length 128 ⟨0, 72, base.length, true, []⟩
  (if base.isEmpty then [] else base ++ ['-']) ++ s.output

end LinkShortener.Idna.Punycode
