import LinkShortener.Numeral.Binary64

/-!
Cells of query results. As the values of groups, cells are told apart by what they are worth: a
truth value is worth one or zero, and a real number without fraction a whole one.
-/

namespace LinkShortener

/-- A cell of a query result. -/
inductive Cell
  | text (s : String)
  | int (n : Int)
  | real (x : Numeral.Binary64)
  | truth (b : Bool)
  | absent
  deriving DecidableEq, Repr

namespace Cell

def text? : Cell → Option String
  | text s => some s
  | _ => none

/-- What a cell is worth: two cells are the same value exactly if their worths are equal. -/
def worth : Cell → Cell
  | truth b => int (if b then 1 else 0)
  | real x => x.whole?.elim (real x) int
  | c => c

end Cell

end LinkShortener
