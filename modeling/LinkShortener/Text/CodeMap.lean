import LinkShortener.Text.CodeRange

/-!
Maps from characters to texts, with a compact written form: entries separated by blanks, each
a hexadecimal code point, an equals sign and the code points of the image joined by plus signs;
an empty image is written as nothing.
-/

namespace LinkShortener.Text

/-- A map from code points to texts; a character that has no entry stays as it is. -/
structure CodeMap where
  entries : List (Nat × List Char)

namespace CodeMap

/-- Reads one written entry. -/
def readEntry? (text : List Char) : Option (Nat × List Char) :=
  match text.span (· != '=') with
  | (source, _ :: image) => do
    let source ← Hex.toNat? source
    let image ← if image.isEmpty then some [] else (image.splitOn '+').mapM Hex.toNat?
    return (source, image.map Char.ofNat)
  | _ => none

/-- Reads the lines of a written map, leaving out what is no entry. -/
def readAll (lines : List String) : CodeMap :=
  ⟨lines.flatMap fun line => (line.toList.splitOn ' ').filterMap readEntry?⟩

def apply (m : CodeMap) (c : Char) : List Char := (m.entries.lookup c.toNat).getD [c]

end CodeMap

end LinkShortener.Text
