/-!
White space and trimming. The white space of Unicode and, a wider set, the blanks that
trimming takes off, which also holds the four information separators U+001C to U+001F.
-/

namespace LinkShortener.Text

/-- White space as Unicode defines it. -/
def isWhiteSpace (c : Char) : Bool :=
  let n := c.toNat
  (9 ≤ n && n ≤ 13) || n == 32 || n == 0x85 || n == 0xa0 || n == 0x1680 ||
  (0x2000 ≤ n && n ≤ 0x200a) || n == 0x2028 || n == 0x2029 || n == 0x202f || n == 0x205f ||
  n == 0x3000

/-- White space or an information separator. -/
def isBlank (c : Char) : Bool := isWhiteSpace c || (28 ≤ c.toNat && c.toNat ≤ 31)

/-- A text without the characters of a class around it. -/
def trimBy (outer : Char → Bool) (text : List Char) : List Char :=
  ((text.dropWhile outer).reverse.dropWhile outer).reverse

/-- A text without the blanks around it. -/
def trimChars (text : List Char) : List Char := trimBy isBlank text

def trim (text : String) : String := String.ofList (trimChars text.toList)

end LinkShortener.Text
