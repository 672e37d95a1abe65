import LinkShortener.Text.Hex

/-!
Percent encoding: a byte as a percent sign and two hexadecimal digits. Decoding leaves what is
no such triple as it is and reads the bytes as UTF-8, with a replacement character for every
maximal flawed part; encoding keeps the characters it is told to keep.
-/

namespace LinkShortener.Text.Percent

def charBytes (c : Char) : List UInt8 := (String.singleton c).toUTF8.toList

def textBytes (text : List Char) : List UInt8 := text.flatMap charBytes

/-- A byte as a triple. -/
def triple (b : UInt8) : List Char := '%' :: Hex.upper 2 b.toNat

/-- A text with every character that is not kept written as the triples of its bytes. -/
def encode (kept : Char → Bool) (text : List Char) : List Char :=
  text.flatMap fun c => if kept c then [c] else (charBytes c).flatMap triple

/-- The bytes of a text with its triples replaced by the bytes they stand for. -/
def decodeBytes : List Char → List UInt8
  | [] => []
  | c :: rest =>
    if c = '%' then
      match rest with
      | a :: b :: tail =>
        match Hex.value? a, Hex.value? b with
        | some high, some low => UInt8.ofNat (16 * high + low) :: decodeBytes tail
        | _, _ => 37 :: decodeBytes (a :: b :: tail)
      | rest => 37 :: decodeBytes rest
    else charBytes c ++ decodeBytes rest
termination_by text => text.length

/-! ### Reading bytes as UTF-8 -/

/-- How many bytes follow the first one of a character, the least and the greatest second
byte, and the bits of the first one. -/
def lead? (b : Nat) : Option (Nat × Nat × Nat × Nat) :=
  if b < 0x80 then some (0, 0x80, 0xbf, b)
  else if b < 0xc2 then none
  else if b < 0xe0 then some (1, 0x80, 0xbf, b - 0xc0)
  else if b = 0xe0 then some (2, 0xa0, 0xbf, 0)
  else if b = 0xed then some (2, 0x80, 0x9f, 0xd)
  else if b < 0xf0 then some (2, 0x80, 0xbf, b - 0xe0)
  else if b = 0xf0 then some (3, 0x90, 0xbf, 0)
  else if b < 0xf4 then some (3, 0x80, 0xbf, b - 0xf0)
  else if b = 0xf4 then some (3, 0x80, 0x8f, 4)
  else none

/-- Where the reading stands: the bytes of a character still owed, the least and the greatest
next one, and the bits so far. -/
structure Partial where
  owed : Nat
  low : Nat
  high : Nat
  bits : Nat

/-- Starts a character at a byte. -/
def start (b : UInt8) : List Char × Option Partial :=
  match lead? b.toNat with
  | none => (['\uFFFD'], none)
  | some (0, _, _, bits) => ([Char.ofNat bits], none)
  | some (owed, low, high, bits) => ([], some ⟨owed, low, high, bits⟩)

/-- The characters of a byte string, flawed parts replaced. -/
def lossy : Option Partial → List UInt8 → List Char
  | none, [] => []
  | some _, [] => ['\uFFFD']
  | none, b :: rest =>
    let (out, state) := start b
    out ++ lossy state rest
  | some s, b :: rest =>
    if s.low ≤ b.toNat ∧ b.toNat ≤ s.high then
      let bits := s.bits * 64 + (b.toNat - 0x80)
      if s.owed ≤ 1 then Char.ofNat bits :: lossy none rest
      else lossy (some ⟨s.owed - 1, 0x80, 0xbf, bits⟩) rest
    else
      let (out, state) := start b
      '\uFFFD' :: out ++ lossy state rest

def decode (text : List Char) : List Char := lossy none (decodeBytes text)

end LinkShortener.Text.Percent
