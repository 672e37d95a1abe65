import LinkShortener.Text.Percent

/-!
Texts on the wire of a header: one byte for each character where all of them fit, UTF-8
otherwise; reading takes every byte for a character.
-/

namespace LinkShortener.Text.Latin

/-- Whether every character is a single byte. -/
def fits (text : String) : Bool := text.toList.all (·.toNat < 256)

def bytes (text : String) : List UInt8 :=
  if fits text then text.toList.map fun c => UInt8.ofNat c.toNat
  else Percent.textBytes text.toList

/-- The text that bytes read as. -/
def text (bytes : List UInt8) : String := String.ofList (bytes.map fun b => Char.ofNat b.toNat)

end LinkShortener.Text.Latin
