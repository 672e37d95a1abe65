import LinkShortener.Idna.Decomposition
import LinkShortener.Idna.Composition

/-!
Compatibility normalization with composition. A text is decomposed fully, the marks after a
letter are put in the order of their combining classes, and then every letter absorbs the
marks it composes with that no equal or higher class keeps away from it.
-/

namespace LinkShortener.Idna

/-- The jamo of a Hangul syllable given by its index among the syllables. -/
def jamo (index : Nat) : List Char :=
  let lead := Char.ofNat (0x1100 + index / 588)
  let vowel := Char.ofNat (0x1161 + index % 588 / 28)
  if index % 28 = 0 then [lead, vowel] else [lead, vowel, Char.ofNat (0x11a7 + index % 28)]

/-- The full decomposition of a character. -/
def decompose (c : Char) : List Char :=
  let n := c.toNat
  if n < 0x80 then [c]
  else if 0xac00 ≤ n ∧ n < 0xac00 + 11172 then jamo (n - 0xac00)
  else decompositions.apply c

/-- Puts a mark of a class above zero before the marks of higher classes that end a reversed
text. -/
def insertMark (c : Char) (k : Nat) : List Char → List Char
  | [] => [c]
  | d :: before => if k < combiningClass d then d :: insertMark c k before else c :: d :: before

/-- Orders the marks after each letter by combining class, keeping the order of equal ones. -/
def orderMarks (text : List Char) : List Char :=
  (text.foldl (fun before c =>
    let k := combiningClass c
    if k = 0 then c :: before else insertMark c k before) []).reverse

/-- The letter after it has absorbed what it composes with, and the characters that stay; `kept`
is the combining class of the last mark that stayed, zero when there is none. -/
def absorb (letter : Char) (kept : Nat) : List Char → Char × List Char
  | [] => (letter, [])
  | c :: rest =>
    let k := combiningClass c
    if kept ≠ 0 ∧ k = 0 then (letter, c :: rest)
    else if kept ≠ 0 ∧ k ≤ kept then
      let (l, stay) := absorb letter kept rest
      (l, c :: stay)
    else
      match composite? letter c with
      | some whole => absorb whole kept rest
      | none =>
        if k = 0 then (letter, c :: rest)
        else
          let (l, stay) := absorb letter k rest
          (l, c :: stay)

theorem length_absorb (letter : Char) (kept : Nat) (rest : List Char) :
    (absorb letter kept rest).2.length ≤ rest.length := by
  induction rest generalizing letter kept with
  | nil => simp [absorb]
  | cons c rest ih =>
    unfold absorb
    dsimp only
    split
    · simp
    · split
      · simpa using ih letter kept
      · split
        · exact Nat.le_succ_of_le (ih _ kept)
        · split
          · simp
          · simpa using ih letter _

/-- The Hangul syllable that starts a text of jamo, and what follows it. -/
def syllable? : List Char → Option (Char × List Char)
  | l :: v :: rest =>
    if 0x1100 ≤ l.toNat ∧ l.toNat < 0x1113 ∧ 0x1161 ≤ v.toNat ∧ v.toNat < 0x1176 then
      let base := 0xac00 + ((l.toNat - 0x1100) * 21 + (v.toNat - 0x1161)) * 28
      match rest with
      | t :: tail =>
        if 0x11a7 < t.toNat ∧ t.toNat < 0x11c3 then
          some (Char.ofNat (base + (t.toNat - 0x11a7)), tail)
        else some (Char.ofNat base, rest)
      | [] => some (Char.ofNat base, [])
    else none
  | _ => none

theorem length_syllable {text rest : List Char} {c : Char}
    (found : syllable? text = some (c, rest)) : rest.length < text.length := by
  unfold syllable? at found
  split at found
  · split at found
    · split at found
      · split at found
        · obtain ⟨-, rfl⟩ := Prod.mk.inj (Option.some.inj found)
          simp only [List.length_cons]
          omega
        · obtain ⟨-, rfl⟩ := Prod.mk.inj (Option.some.inj found)
          simp only [List.length_cons]
          omega
      · obtain ⟨-, rfl⟩ := Prod.mk.inj (Option.some.inj found)
        simp only [List.length_cons, List.length_nil]
        omega
    · exact absurd found (by simp)
  · exact absurd found (by simp)

/-- Composes an ordered decomposed text. -/
def compose (text : List Char) : List Char :=
  match _found : syllable? text with
  | some (c, rest) => c :: compose rest
  | none =>
    match text with
    | [] => []
    | letter :: rest =>
      let step := absorb letter 0 rest
      step.1 :: compose step.2
termination_by text.length
decreasing_by
  · exact length_syllable _found
  · have := length_absorb letter 0 rest
    simp only [List.length_cons]
    omega

/-- The compatibility normal form of a text. -/
def normalize (text : List Char) : List Char :=
  compose (orderMarks (text.flatMap decompose))

end LinkShortener.Idna
