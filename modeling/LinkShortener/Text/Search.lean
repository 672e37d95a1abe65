/-!
Whether a word occurs in a text.
-/

namespace LinkShortener.Text

/-- Whether a word occurs in a text. -/
def occursIn (word : List Char) : List Char → Bool
  | [] => word.isEmpty
  | c :: rest => word.isPrefixOf (c :: rest) || occursIn word rest

def occurs (word : String) (text : List Char) : Bool := occursIn word.toList text

/-- The characters before the first separator, all of them if there is none. -/
def upTo (separator : Char) (text : List Char) : List Char := text.takeWhile (· != separator)

end LinkShortener.Text
