import LinkShortener.Json.Value
import LinkShortener.Text.Hex

/-!
Writing JSON in pure ASCII: a blank after every comma and colon, members in their order, and
characters beyond ASCII as sixteen-bit units in lower-case hexadecimal. A broken text is written
as half a surrogate pair.
-/

namespace LinkShortener.Json

/-- A sixteen-bit unit by number. -/
def writeUnit (n : Nat) : List Char := '\\' :: 'u' :: Text.Hex.lower 4 n

/-- One character between quotes. -/
def writeChar (c : Char) : List Char :=
  if c = '"' then ['\\', '"']
  else if c = '\\' then ['\\', '\\']
  else if c = '\n' then ['\\', 'n']
  else if c = '\r' then ['\\', 'r']
  else if c = '\t' then ['\\', 't']
  else if c = '\x08' then ['\\', 'b']
  else if c = '\x0c' then ['\\', 'f']
  else if 32 ≤ c.toNat ∧ c.toNat < 127 then [c]
  else if c.toNat < 0x10000 then writeUnit c.toNat
  else
    writeUnit (0xd800 + (c.toNat - 0x10000) / 0x400) ++
      writeUnit (0xdc00 + (c.toNat - 0x10000) % 0x400)

def writeText (s : String) : List Char := '"' :: s.toList.flatMap writeChar ++ ['"']

/-- A number that is not whole by its form: its digits and a power of ten. -/
def writeDecimal (d : Numeral.Decimal) : List Char :=
  (if d.negative then ['-'] else []) ++ (toString d.digits).toList ++ 'e' ::
    (toString d.exponent).toList

/-- Texts joined by a comma and a blank. -/
def joinItems : List (List Char) → List Char
  | [] => []
  | [x] => x
  | x :: rest => x ++ ',' :: ' ' :: joinItems rest

mutual

def writeChars : Value → List Char
  | .null => "null".toList
  | .bool b => (if b then "true" else "false").toList
  | .int n => (toString n).toList
  | .real d => writeDecimal d
  | .nan => "NaN".toList
  | .infinite negative => (if negative then "-Infinity" else "Infinity").toList
  | .text s => writeText s
  | .broken => '"' :: writeUnit 0xd800 ++ ['"']
  | .list items => '[' :: joinItems (writeItems items) ++ [']']
  | .object members => '\x7b' :: joinItems (writeMembers members) ++ ['\x7d']

def writeItems : List Value → List (List Char)
  | [] => []
  | v :: rest => writeChars v :: writeItems rest

def writeMembers : List (String × Value) → List (List Char)
  | [] => []
  | (n, v) :: rest => (writeText n ++ ':' :: ' ' :: writeChars v) :: writeMembers rest

end

def write (v : Value) : String := String.ofList (writeChars v)

end LinkShortener.Json
