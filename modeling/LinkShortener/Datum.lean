import LinkShortener.Cell
import LinkShortener.Numeral.Grammar
import LinkShortener.Text.Quoted

/-!
What the column store replies to a query. A reply should be a list of rows of cells, but nothing
holds the store to that, so it is a datum of any shape, and each way of looking into one may fail.
A text counts as the list of its characters, and a map as the list of its names.

Where a whole number is asked for, a text is read as a plain decimal, a real number loses its
fraction, and a truth value counts as one or zero.
-/

namespace LinkShortener

/-- A value in a reply: a cell, a list of values, or a map, of which the names count. -/
inductive Datum
  | cell (c : Cell)
  | list (items : List Datum)
  | map (names : List String)
  deriving Repr, Inhabited

inductive DatumKind
  | text
  | int
  | real
  | truth
  | absent
  | list
  | map
  deriving DecidableEq, Repr

/-- The name of a kind in the texts of flaws. -/
def DatumKind.name : DatumKind → String
  | .text => "str"
  | .int => "int"
  | .real => "float"
  | .truth => "bool"
  | .absent => "NoneType"
  | .list => "list"
  | .map => "dict"

/-- Why a datum is not what was looked for. -/
inductive DatumFlaw
  /-- a text is no whole number -/
  | notDecimal (text : String)
  /-- a whole number has too many digits -/
  | tooLong (flaw : Numeral.Oversized)
  /-- a real number is none -/
  | notANumber
  /-- a real number is infinite -/
  | infinite
  /-- it stands for no number at all -/
  | notNumeric (kind : DatumKind)
  /-- it has no first item, as it has no items -/
  | notIndexed (kind : DatumKind)
  /-- it has no first item, as it is empty -/
  | missingItem
  /-- it has no first item, as its items have names -/
  | missingName
  /-- it has no items to go through -/
  | notListed (kind : DatumKind)
  /-- it is no pair, as it has no items -/
  | notPaired (kind : DatumKind)
  /-- it is no pair, as it has fewer than two items -/
  | tooFew (found : Nat)
  /-- it is no pair, as it has more than two items -/
  | tooMany
  /-- it cannot be the value of a group -/
  | notKey (kind : DatumKind)
  deriving DecidableEq, Repr

/-- The text of a flaw; of a text that is no number only the beginning is quoted. -/
def DatumFlaw.text : DatumFlaw → String
  | .notDecimal text =>
    "invalid literal for int() with base 10: " ++
      String.ofList ((Text.Quoted.text text).toList.take 200)
  | .tooLong flaw => flaw.text
  | .notANumber => "cannot convert float NaN to integer"
  | .infinite => "cannot convert float infinity to integer"
  | .notNumeric kind =>
    "int() argument must be a string, a bytes-like object or a real number, not '" ++
      kind.name ++ "'"
  | .notIndexed kind => "'" ++ kind.name ++ "' object is not subscriptable"
  | .missingItem => "list index out of range"
  | .missingName => "0"
  | .notListed kind => "'" ++ kind.name ++ "' object is not iterable"
  | .notPaired kind => "cannot unpack non-iterable " ++ kind.name ++ " object"
  | .tooFew found => s!"not enough values to unpack (expected 2, got {found})"
  | .tooMany => "too many values to unpack (expected 2)"
  | .notKey kind => "unhashable type: '" ++ kind.name ++ "'"

def Cell.kind : Cell → DatumKind
  | text _ => .text
  | int _ => .int
  | real _ => .real
  | truth _ => .truth
  | absent => .absent

/-- The whole number that a cell stands for. -/
def Cell.toInt : Cell → Except DatumFlaw Int
  | text s =>
    match Numeral.readPlain s with
    | .number n => .ok n
    | .flawed => .error (.notDecimal s)
    | .tooLong flaw => .error (.tooLong flaw)
  | int n => .ok n
  | real .nan => .error .notANumber
  | real (.infinite _) => .error .infinite
  | real x => .ok (x.truncate?.getD 0)
  | truth b => .ok (if b then 1 else 0)
  | absent => .error (.notNumeric .absent)

namespace Datum

def ofText (s : String) : Datum := cell (.text s)

def ofInt (n : Int) : Datum := cell (.int n)

def kind : Datum → DatumKind
  | cell c => c.kind
  | list _ => .list
  | map _ => .map

/-- Whether there is nothing in a datum; so it is for zero too. -/
def isVoid : Datum → Bool
  | cell .absent => true
  | cell (.text s) => s.isEmpty
  | cell c => c.worth == .int 0
  | list items => items.isEmpty
  | map names => names.isEmpty

/-- The items of a datum that has any. -/
def items? : Datum → Option (List Datum)
  | cell (.text s) => some (s.toList.map fun c => ofText (String.singleton c))
  | cell _ => none
  | list items => some items
  | map names => some (names.map ofText)

def items (d : Datum) : Except DatumFlaw (List Datum) :=
  d.items?.elim (.error (.notListed d.kind)) .ok

/-- The first item of a datum, found by its number. -/
def first (d : Datum) : Except DatumFlaw Datum :=
  match d, d.items? with
  | map _, _ => .error .missingName
  | _, none => .error (.notIndexed d.kind)
  | _, some [] => .error .missingItem
  | _, some (item :: _) => .ok item

/-- The two items of a datum that has two. -/
def pair (d : Datum) : Except DatumFlaw (Datum × Datum) :=
  match d.items? with
  | none => .error (.notPaired d.kind)
  | some [a, b] => .ok (a, b)
  | some items => .error (if items.length < 2 then .tooFew items.length else .tooMany)

/-- The whole number that a datum stands for. -/
def toInt : Datum → Except DatumFlaw Int
  | cell c => c.toInt
  | d => .error (.notNumeric d.kind)

/-- The value of a group that a datum is. -/
def key : Datum → Except DatumFlaw Cell
  | cell c => .ok c
  | d => .error (.notKey d.kind)

end Datum

end LinkShortener
