import LinkShortener.Text.Blank
import LinkShortener.Text.Hex

/-!
Files of settings: one binding of a name to a value on a line, with comments, an optional
`export` before the name, quoted values that may run over several lines, and references to
earlier names within values. A line that is no binding is passed over, as is one whose quoted
value never closes.
-/

namespace LinkShortener.Settings.Dotenv

/-- A character that ends a line. -/
def isBreak (c : Char) : Bool := c == '\n' || c == '\r'

/-- A blank within a line. -/
def isGap (c : Char) : Bool := Text.isBlank c && !isBreak c

/-- A text with every kind of line end written as a line feed. -/
def unifyBreaks : List Char → List Char
  | '\r' :: '\n' :: rest => '\n' :: unifyBreaks rest
  | '\r' :: rest => '\n' :: unifyBreaks rest
  | c :: rest => c :: unifyBreaks rest
  | [] => []

/-- A text from the first character on that is no blank within a line. -/
def skipGaps (text : List Char) : List Char := text.dropWhile isGap

/-! ### Quoted values -/

/-- The text up to the closing quote, and what follows it. A backslash goes with the character
after it, whatever that is, so that neither of the two closes. -/
def closeQuote? (quote : Char) : List Char → Option (List Char × List Char)
  | '\\' :: c :: rest =>
    (closeQuote? quote rest).map fun (value, rest) => ('\\' :: c :: value, rest)
  | c :: rest =>
    if c = quote then some ([], rest)
    else (closeQuote? quote rest).map fun (value, rest) => (c :: value, rest)
  | [] => none

/-- What a short escape stands for; a backslash and the quotes stand for themselves. -/
def control? : Char → Option Char
  | 'a' => some '\x07'
  | 'b' => some '\x08'
  | 'f' => some '\x0c'
  | 'n' => some '\n'
  | 'r' => some '\r'
  | 't' => some '\t'
  | 'v' => some '\x0b'
  | _ => none

/-- The character that an escape stands for between quotes of a kind. -/
def escape? (quote c : Char) : Option Char :=
  if c = '\\' ∨ c = '\'' then some c
  else if quote = '"' then (if c = '"' then some c else control? c)
  else none

/-- A quoted text with its escapes replaced. -/
def unescape (quote : Char) : List Char → List Char
  | [] => []
  | c :: rest =>
    if c = '\\' then
      match rest with
      | d :: tail =>
        match escape? quote d with
        | some e => e :: unescape quote tail
        | none => c :: unescape quote (d :: tail)
      | [] => [c]
    else c :: unescape quote rest

/-- A quoted value after its opening quote, and what follows the closing one. -/
def quoted? (quote : Char) (text : List Char) : Option (List Char × List Char) :=
  (closeQuote? quote text).map fun (value, rest) => (unescape quote value, rest)

/-! ### Plain values -/

/-- A line up to a comment, which starts at a blank before a hash. -/
def dropComment : List Char → List Char
  | [] => []
  | c :: rest =>
    if Text.isBlank c && (rest.dropWhile Text.isBlank).head? == some '#' then []
    else c :: dropComment rest

/-- A plain value: what comes before a comment, without the blanks around it. The blanks in front
belong to the line, so that a hash after them starts a comment. -/
def plain (line : List Char) : List Char := Text.trimChars (dropComment line)

/-- The value after an equals sign, and what follows it. -/
def value? (text : List Char) : Option (List Char × List Char) :=
  match skipGaps text with
  | '\'' :: rest => quoted? '\'' rest
  | '"' :: rest => quoted? '"' rest
  | _ =>
    let (line, rest) := text.span fun c => !isBreak c
    some (plain line, rest)

/-! ### Bindings -/

/-- A text after an optional `export` and the blanks behind it. -/
def skipExport (text : List Char) : List Char :=
  let word := "export".toList
  if word.isPrefixOf text then
    let rest := text.drop word.length
    if rest.head?.any isGap then skipGaps rest else text
  else text

/-- The name at the start of a line; a comment has none. -/
def name? (text : List Char) : Option (Option (List Char) × List Char) :=
  match text with
  | [] => none
  | '#' :: _ => some (none, text)
  | '\'' :: rest =>
    match rest.span (· != '\'') with
    | (c :: name, _ :: rest) => some (some (c :: name), rest)
    | _ => none
  | _ =>
    match text.span fun c => c != '=' && c != '#' && !Text.isBlank c with
    | ([], _) => none
    | (name, rest) => some (some name, rest)

/-- What follows the end of a line that holds nothing more than a comment. -/
def lineEnd? (text : List Char) : Option (List Char) :=
  let rest := skipGaps text
  let rest := if rest.head? == some '#' then rest.dropWhile fun c => !isBreak c else rest
  match rest with
  | [] => some []
  | c :: rest => if isBreak c then some rest else none

/-- A name with its value; a name without an equals sign has none. -/
abbrev Binding := List Char × Option (List Char)

/-- What a line that starts with a character other than a blank binds, and what follows it;
the rest of a flawed line is passed over. -/
def line (text : List Char) : Option Binding × List Char :=
  let skipLine (rest : List Char) : Option Binding × List Char :=
    (none, (rest.dropWhile fun c => !isBreak c).drop 1)
  let text := skipExport text
  match name? text with
  | none => skipLine text
  | some (name, rest) =>
    let rest := skipGaps rest
    let bound : Option (Option (List Char) × List Char) :=
      match rest with
      | '=' :: after => (value? after).map fun (v, rest) => (some v, rest)
      | _ => some (none, rest)
    match bound with
    | none => skipLine rest
    | some (value, rest) =>
      match lineEnd? rest with
      | some rest => (name.map fun n => (n, value), rest)
      | none => skipLine rest

/-- The bindings of a file; every line takes at least one character, so the length of the
text bounds their number. -/
def bindingsWithin : (bound : Nat) → List Char → List Binding
  | 0, _ => []
  | bound + 1, text =>
    match text.dropWhile Text.isBlank with
    | [] => []
    | text =>
      let (binding, rest) := line text
      binding.toList ++ bindingsWithin bound rest

/-! ### References -/

/-- A reference after its opening brace: the name, the text that stands for it when it is not
set, and what follows the closing brace. -/
def reference? (text : List Char) : Option (List Char × List Char × List Char) :=
  match text.span fun c => c != '\x7d' && c != ':' with
  | (name, '\x7d' :: rest) => some (name, [], rest)
  | (name, ':' :: '-' :: rest) =>
    match rest.span (· != '\x7d') with
    | (default, _ :: rest) => some (name, default, rest)
    | _ => none
  | _ => none

/-- A value with its references replaced; the length of the text bounds their number. -/
def expandWithin (lookup : List Char → Option (Option (List Char))) :
    (bound : Nat) → List Char → List Char
  | 0, text => text
  | _, [] => []
  | bound + 1, '$' :: '\x7b' :: rest =>
    match reference? rest with
    | some (name, default, rest) =>
      ((lookup name).getD (some default)).getD [] ++ expandWithin lookup bound rest
    | none => '$' :: expandWithin lookup bound ('\x7b' :: rest)
  | bound + 1, c :: rest => c :: expandWithin lookup bound rest

/-- The last value bound to a name. -/
def last? (bindings : List Binding) (name : List Char) : Option (Option (List Char)) :=
  (bindings.reverse.find? (·.1 == name)).map (·.2)

/-- Replaces the references in each value by earlier bindings of the file, else by the
environment. -/
def resolve (environment : List (String × String)) (bindings : List Binding) : List Binding :=
  bindings.foldl (fun done (name, value) =>
    let lookup (n : List Char) : Option (Option (List Char)) :=
      (last? done n).or ((environment.lookup (String.ofList n)).map fun v => some v.toList)
    done ++ [(name, value.map fun v => expandWithin lookup v.length v)]) []

/-- A text without one byte order mark in front. -/
def dropMark : List Char → List Char
  | '\uFEFF' :: rest => rest
  | text => text

/-- The names of a file in the order of their first binding, each with the value of its last
one; a name without value is left out. -/
def read (environment : List (String × String)) (text : String) : List (String × String) :=
  let chars := unifyBreaks (dropMark text.toList)
  let bindings := resolve environment (bindingsWithin chars.length chars)
  (bindings.map (·.1)).eraseDups.filterMap fun name =>
    ((last? bindings name).getD none).map fun v => (String.ofList name, String.ofList v)

end LinkShortener.Settings.Dotenv
