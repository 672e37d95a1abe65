import LinkShortener.Json.Value
import LinkShortener.Numeral.Grammar
import LinkShortener.Text.Encoded

/-!
Reading JSON. A text is first cut into lexemes and these are then assembled with a stack of
the containers that are still open. The grammar is the strict one, with `NaN` and the two
infinities admitted as numbers. A dialect says whether half a surrogate pair in a text is a
flaw, how deep containers may nest and which numbers have too many digits. A document is refused
at its first flaw, which may also be that it asks for too much: too many digits, or too deep a
nest.
-/

namespace LinkShortener.Json

/-- What a reader admits beyond the common grammar. -/
structure Dialect where
  /-- Half a surrogate pair makes a text broken, not the document. -/
  brokenTexts : Bool
  /-- The greatest number of open containers. -/
  depth : Nat
  /-- The limit on digits counts the sign, and holds for the whole part of any number; without
  this it holds for the digits of whole numbers alone. -/
  strictLength : Bool

/-- The dialect of records: every text is Unicode. -/
def Dialect.record : Dialect := ⟨false, 200, true⟩

/-- The dialect of request bodies: a broken text is a value like any other. -/
def Dialect.body : Dialect := ⟨true, 990, false⟩

/-- Why a text is refused. -/
inductive Refusal
  /-- it is no document -/
  | malformed
  /-- it nests too deep, or a number has too many digits -/
  | excessive
  deriving DecidableEq, Repr

inductive Lexeme
  | openList
  | closeList
  | openObject
  | closeObject
  | comma
  | colon
  | atom (v : Value)
  /-- a number with too many digits -/
  | oversized
  deriving Repr, Inhabited

/-! ### Texts -/

/-- A part of a text between quotes: a character, or a sixteen-bit unit given by number. -/
inductive Piece
  | char (c : Char)
  | unit (n : Nat)
  deriving DecidableEq, Repr

/-- The character of a short escape. -/
def shortEscape? : Char → Option Char
  | '"' => some '"'
  | '\\' => some '\\'
  | '/' => some '/'
  | 'b' => some '\x08'
  | 'f' => some '\x0c'
  | 'n' => some '\n'
  | 'r' => some '\r'
  | 't' => some '\t'
  | _ => none

/-- The pieces up to the closing quote, and what follows it. -/
def pieces? : List Char → Option (List Piece × List Char)
  | [] => none
  | c :: rest =>
    if c = '"' then some ([], rest)
    else if c = '\\' then
      match rest with
      | 'u' :: a :: b :: d :: e :: rest =>
        match Text.Hex.toNat? [a, b, d, e], pieces? rest with
        | some n, some (ps, tail) => some (.unit n :: ps, tail)
        | _, _ => none
      | e :: rest =>
        match shortEscape? e, pieces? rest with
        | some c, some (ps, tail) => some (.char c :: ps, tail)
        | _, _ => none
      | [] => none
    else if c.toNat < 32 then none
    else
      match pieces? rest with
      | some (ps, tail) => some (.char c :: ps, tail)
      | none => none

/-- The characters that pieces stand for, if every surrogate has its other half. -/
def join? : List Piece → Option (List Char)
  | [] => some []
  | .char c :: rest => (join? rest).map (c :: ·)
  | .unit n :: rest =>
    if Text.Encoded.isLow n then none
    else if Text.Encoded.isHigh n then
      match rest with
      | .unit m :: rest =>
        if Text.Encoded.isLow m then (join? rest).map (Char.ofNat (Text.Encoded.pair n m) :: ·)
        else none
      | _ => none
    else (join? rest).map (Char.ofNat n :: ·)

/-- The value of the pieces of a text. -/
def textValue? (d : Dialect) (ps : List Piece) : Option Value :=
  match join? ps with
  | some cs => some (.text (String.ofList cs))
  | none => if d.brokenTexts then some .broken else none

/-! ### Numbers -/

/-- An exponent, if there is one, and what follows it: the letter, an optional sign and at least
one digit. -/
def exponent (cs : List Char) : Option Int × List Char :=
  match cs with
  | [] => (none, [])
  | c :: rest =>
    let (negative, rest) := Numeral.splitSign rest
    match rest.span Char.isDigit with
    | (digit :: digits, rest) =>
      if c = 'e' ∨ c = 'E' then
        (some (Numeral.signed negative (Numeral.digitsValue (digit :: digits))), rest)
      else (none, cs)
    | _ => (none, cs)

/-- The digits of a fraction, if there is one, and what follows it: the point and at least one
digit. -/
def fraction (cs : List Char) : List Char × List Char :=
  match cs with
  | '.' :: rest =>
    match rest.span Char.isDigit with
    | ([], _) => ([], cs)
    | found => found
  | _ => ([], cs)

/-- Whether the whole part of a number has too many digits. -/
def isOversized (d : Dialect) (negative : Bool) (whole : List Char) (real : Bool) : Bool :=
  if d.strictLength then Numeral.digitLimit < whole.length + (if negative then 1 else 0)
  else !real && Numeral.digitLimit < whole.length

/-- An unsigned number and what follows it. -/
def number? (d : Dialect) (negative : Bool) (cs : List Char) : Option (Lexeme × List Char) :=
  match cs.span Char.isDigit with
  | ([], _) => none
  | ('0' :: _ :: _, _) => none
  | (whole, rest) =>
    let (frac, rest) := fraction rest
    let (power, rest) := exponent rest
    let real := !frac.isEmpty || power.isSome
    let lexeme : Lexeme :=
      if isOversized d negative whole real then .oversized
      else if real then
        .atom (.real ⟨negative, Numeral.digitsValue (whole ++ frac), power.getD 0 - frac.length⟩)
      else .atom (.int (Numeral.signed negative (Numeral.digitsValue whole)))
    some (lexeme, rest)

/-! ### Lexemes -/

/-- A character between lexemes. -/
def isSpace (c : Char) : Bool := c = ' ' || c = '\t' || c = '\n' || c = '\r'

/-- What follows a word at the start of a text. -/
def afterWord? (word : List Char) (cs : List Char) : Option (List Char) :=
  if word.isPrefixOf cs then some (cs.drop word.length) else none

/-- The words that stand for values. -/
def words : List (List Char × Value) :=
  [("null".toList, .null), ("true".toList, .bool true), ("false".toList, .bool false),
   ("NaN".toList, .nan), ("Infinity".toList, .infinite false),
   ("-Infinity".toList, .infinite true)]

/-- The lexeme at the start of a text, and what follows it. -/
def lexeme? (d : Dialect) (cs : List Char) : Option (Lexeme × List Char) :=
  match cs with
  | [] => none
  | c :: rest =>
    match c with
    | '[' => some (.openList, rest)
    | ']' => some (.closeList, rest)
    | '\x7b' => some (.openObject, rest)
    | '\x7d' => some (.closeObject, rest)
    | ',' => some (.comma, rest)
    | ':' => some (.colon, rest)
    | '"' => do
      let (ps, rest) ← pieces? rest
      return (.atom (← textValue? d ps), rest)
    | _ =>
      match words.findSome? (fun (w, v) => (afterWord? w cs).map fun rest => (v, rest)) with
      | some (v, rest) => some (.atom v, rest)
      | none => if c = '-' then number? d true rest else number? d false cs

/-- The lexemes of a text up to its first flaw, and whether there is none; every lexeme takes at
least one character, so the length of the text bounds their number. -/
def lexemes (d : Dialect) : (bound : Nat) → List Char → List Lexeme × Bool
  | bound, cs =>
    match cs.dropWhile isSpace with
    | [] => ([], true)
    | cs =>
      match bound, lexeme? d cs with
      | bound + 1, some (l, rest) =>
        let (ls, whole) := lexemes d bound rest
        (l :: ls, whole)
      | _, _ => ([], false)

/-! ### Assembly -/

/-- An open container: the items read so far in reverse order, and for an object the name that
waits for its value. -/
inductive Frame
  | list (items : List Value)
  | object (members : List (String × Value)) (name : Option String)
  deriving Repr

/-- What may come next. -/
inductive Expect
  /-- a value -/
  | value
  /-- a value or the end of the list just opened -/
  | firstItem
  /-- a name or the end of the object just opened -/
  | firstName
  /-- a name -/
  | name
  /-- the colon after a name -/
  | colon
  /-- a comma or the end of the innermost container -/
  | next
  deriving DecidableEq, Repr

/-- Where the assembly stands. -/
structure Assembly where
  expect : Expect
  stack : List Frame
  result : Option Value

/-- Puts a finished value where it belongs. -/
def Assembly.place (stack : List Frame) (v : Value) : Except Refusal Assembly :=
  match stack with
  | [] => .ok ⟨.next, [], some v⟩
  | .list items :: rest => .ok ⟨.next, .list (v :: items) :: rest, none⟩
  | .object members (some n) :: rest => .ok ⟨.next, .object ((n, v) :: members) none :: rest, none⟩
  | .object _ none :: _ => .error .malformed

/-- Opens a container. -/
def Assembly.enter (d : Dialect) (stack : List Frame) (inside : Expect) (frame : Frame) :
    Except Refusal Assembly :=
  if stack.length < d.depth then .ok ⟨inside, frame :: stack, none⟩ else .error .excessive

/-- Takes one lexeme. -/
def Assembly.step (d : Dialect) (a : Assembly) (l : Lexeme) : Except Refusal Assembly :=
  match l, a.expect, a.stack with
  | .openList, .value, stack | .openList, .firstItem, stack =>
      Assembly.enter d stack .firstItem (.list [])
  | .openObject, .value, stack | .openObject, .firstItem, stack =>
      Assembly.enter d stack .firstName (.object [] none)
  | .atom v, .value, stack | .atom v, .firstItem, stack => Assembly.place stack v
  | .oversized, .value, _ | .oversized, .firstItem, _ => .error .excessive
  | .atom (.text n), .firstName, .object members none :: rest
  | .atom (.text n), .name, .object members none :: rest =>
      .ok ⟨.colon, .object members (some n) :: rest, none⟩
  | .atom .broken, .firstName, .object members none :: rest
  | .atom .broken, .name, .object members none :: rest =>
      .ok ⟨.colon, .object members (some "\uFFFD") :: rest, none⟩
  | .colon, .colon, stack => .ok ⟨.value, stack, none⟩
  | .comma, .next, .list items :: rest => .ok ⟨.value, .list items :: rest, none⟩
  | .comma, .next, .object members none :: rest => .ok ⟨.name, .object members none :: rest, none⟩
  | .closeList, .firstItem, .list items :: rest | .closeList, .next, .list items :: rest =>
      Assembly.place rest (.list items.reverse)
  | .closeObject, .firstName, .object members none :: rest
  | .closeObject, .next, .object members none :: rest =>
      Assembly.place rest (.object members.reverse)
  | _, _, _ => .error .malformed

/-- The value that a text stands for, or why it is refused. -/
def read (d : Dialect) (s : String) : Except Refusal Value := do
  let cs := s.toList
  let (ls, whole) := lexemes d cs.length cs
  match ← ls.foldlM (Assembly.step d) ⟨.value, [], none⟩ with
  | ⟨.next, [], some v⟩ => if whole then .ok v else .error .malformed
  | _ => .error .malformed

def read? (d : Dialect) (s : String) : Option Value := (read d s).toOption

/-- The value that a byte string in UTF-8 stands for. -/
def readBytes? (d : Dialect) (bytes : List UInt8) : Option Value :=
  (String.fromUTF8? (ByteArray.mk bytes.toArray)).bind (read? d)

end LinkShortener.Json
