import LinkShortener.Numeral.Binary64

/-!
JSON documents. Whole numbers without fraction and exponent are kept apart from the other
numbers, which keep their decimal digits. A text with half a surrogate pair is no Unicode
text; readers that let it pass report it as `broken`.
-/

namespace LinkShortener.Json

/-- A JSON document; the members of an object stand in the order of the text. -/
inductive Value
  | null
  | bool (b : Bool)
  | int (n : Int)
  | real (d : Numeral.Decimal)
  | nan
  | infinite (negative : Bool)
  | text (s : String)
  | broken
  | list (items : List Value)
  | object (members : List (String × Value))
  deriving Repr, Inhabited

namespace Value

/-- The member of an object under a name; of equal names the last one counts. -/
def member? (members : List (String × Value)) (name : String) : Option Value :=
  (members.reverse.find? (·.1 == name)).map (·.2)

/-- The member of a document under a name, if the document is an object. -/
def get? : Value → String → Option Value
  | .object members, name => member? members name
  | _, _ => none

def text? : Value → Option String
  | .text s => some s
  | _ => none

/-- The floating-point number nearest to a number that is not whole by its form. -/
def real? : Value → Option Numeral.Binary64
  | .real d => some (.ofDecimal d)
  | .nan => some .nan
  | .infinite negative => some (.infinite negative)
  | _ => none

end Value

end LinkShortener.Json
