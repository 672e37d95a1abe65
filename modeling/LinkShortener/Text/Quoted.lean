import LinkShortener.Text.Printable

/-!
Quoted texts for messages. A text stands between single quotes, or between double quotes
when it holds a single quote and no double one; the backslash, the chosen quote and the three
common controls have short escapes, and every other hidden character is written by number.
Byte strings follow the same rule with every byte outside the visible ASCII range numbered.
-/

namespace LinkShortener.Text.Quoted

/-- The quote that a text is put between. -/
def quoteFor (chars : List Char) : Char :=
  if chars.contains '\'' && !chars.contains '"' then '"' else '\''

/-- The written form of one character between quotes of the given kind. -/
def escape (quote c : Char) : List Char :=
  if c = '\\' || c = quote then ['\\', c]
  else if c = '\n' then ['\\', 'n']
  else if c = '\r' then ['\\', 'r']
  else if c = '\t' then ['\\', 't']
  else if isPrintable c then [c]
  else if c.toNat < 0x100 then '\\' :: 'x' :: Hex.lower 2 c.toNat
  else if c.toNat < 0x10000 then '\\' :: 'u' :: Hex.lower 4 c.toNat
  else '\\' :: 'U' :: Hex.lower 8 c.toNat

def text (s : String) : String :=
  let chars := s.toList
  let quote := quoteFor chars
  String.ofList (quote :: chars.flatMap (escape quote) ++ [quote])

def char (c : Char) : String := text (String.singleton c)

/-- The written form of one byte between quotes of the given kind. -/
def escapeByte (quote : Char) (b : UInt8) : List Char :=
  let c := Char.ofNat b.toNat
  if b < 127 then escape quote c else '\\' :: 'x' :: Hex.lower 2 b.toNat

def bytes (bs : List UInt8) : String :=
  let quote := quoteFor (bs.map fun b => Char.ofNat b.toNat)
  String.ofList ('b' :: quote :: bs.flatMap (escapeByte quote) ++ [quote])

end LinkShortener.Text.Quoted
