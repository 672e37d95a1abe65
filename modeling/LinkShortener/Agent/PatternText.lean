import LinkShortener.Agent.Pattern

/-!
The written form of patterns. A text is cut into marks, which are assembled with a stack of
the groups that are still open.
-/

namespace LinkShortener.Agent

/-- A mark of a written pattern. -/
inductive Mark
  | item (p : Pattern)
  | openCapture
  | openPlain
  | close
  | bar
  | repeated (least : Nat) (most : Option Nat) (greedy : Bool)
  deriving Repr

def CharClass.single (c : Char) : CharClass := ⟨false, [.range c c]⟩

/-- Every character but the line feed. -/
def CharClass.any : CharClass := ⟨true, [.range '\n' '\n']⟩

/-- The class that a letter after a backslash names. -/
def escapedClass? : Char → Option ClassItem
  | 'd' => some .digit
  | 'w' => some .word
  | 's' => some .blank
  | _ => none

/-- What a character after a backslash stands for. -/
def escaped (c : Char) : Pattern :=
  if c = 'b' then .wordEdge
  else
    match escapedClass? c with
    | some item => .one ⟨false, [item]⟩
    | none => .one (.single c)

/-! ### Classes -/

/-- A member of a written class: a character, or a class named by an escape. -/
inductive Member
  | char (c : Char)
  | item (i : ClassItem)
  deriving Repr

/-- The members of a class up to its closing bracket, and what follows it; a hyphen is marked
as written without a backslash by the truth value. -/
def members? : List Char → Option (List (Member × Bool) × List Char)
  | [] => none
  | c :: rest =>
    if c = ']' then some ([], rest)
    else if c = '\\' then
      match rest with
      | e :: tail =>
        let m := match escapedClass? e with
          | some i => Member.item i
          | none => Member.char e
        (members? tail).map fun (ms, tail) => ((m, false) :: ms, tail)
      | [] => none
    else (members? rest).map fun (ms, tail) => ((.char c, c == '-') :: ms, tail)

def classItems : List (Member × Bool) → List ClassItem
  | (.char a, _) :: (.char '-', true) :: (.char b, _) :: rest => .range a b :: classItems rest
  | (.char c, _) :: rest => .range c c :: classItems rest
  | (.item i, _) :: rest => i :: classItems rest
  | [] => []

/-- A class after its opening bracket, and what follows it. -/
def class? (text : List Char) : Option (CharClass × List Char) :=
  match text with
  | '^' :: rest => (members? rest).map fun (ms, tail) => (⟨true, classItems ms⟩, tail)
  | rest => (members? rest).map fun (ms, tail) => (⟨false, classItems ms⟩, tail)

/-! ### Marks -/

/-- The value of a run of decimal digits, if there is one. -/
def count? (digits : List Char) : Option Nat :=
  if digits.isEmpty then none
  else some (digits.foldl (fun n c => 10 * n + (c.toNat - 48)) 0)

/-- The bounds of a repetition after the opening brace, and what follows the closing one. -/
def bounds? (text : List Char) : Option (Nat × Option Nat × List Char) :=
  match text.span Char.isDigit with
  | (least, '\x7d' :: rest) => (count? least).map fun n => (n, some n, rest)
  | (least, ',' :: rest) =>
    match rest.span Char.isDigit with
    | (most, '\x7d' :: rest) => (count? least).map fun n => (n, count? most, rest)
    | _ => none
  | _ => none

/-- A repetition that a question mark may turn into a shortest one. -/
def repetition (least : Nat) (most : Option Nat) (rest : List Char) : Mark × List Char :=
  match rest with
  | '?' :: rest => (.repeated least most false, rest)
  | rest => (.repeated least most true, rest)

/-- The mark at the start of a text, and what follows it. -/
def mark? (text : List Char) : Option (Mark × List Char) :=
  match text with
  | [] => none
  | '(' :: '?' :: ':' :: rest => some (.openPlain, rest)
  | '(' :: rest => some (.openCapture, rest)
  | ')' :: rest => some (.close, rest)
  | '|' :: rest => some (.bar, rest)
  | '^' :: rest => some (.item .atStart, rest)
  | '$' :: rest => some (.item .atEnd, rest)
  | '.' :: rest => some (.item (.one .any), rest)
  | '*' :: rest => some (repetition 0 none rest)
  | '+' :: rest => some (repetition 1 none rest)
  | '?' :: rest => some (repetition 0 (some 1) rest)
  | '\x7b' :: rest => (bounds? rest).map fun (least, most, rest) => repetition least most rest
  | '[' :: rest => (class? rest).map fun (set, rest) => (.item (.one set), rest)
  | '\\' :: c :: rest => some (.item (escaped c), rest)
  | c :: rest => some (.item (.one (.single c)), rest)

/-- The marks of a text; every mark takes at least one character, so the length of the text
bounds their number. -/
def marks? : (bound : Nat) → List Char → Option (List Mark)
  | _, [] => some []
  | 0, _ => none
  | bound + 1, text => do
    let (m, rest) ← mark? text
    return m :: (← marks? bound rest)

/-! ### Assembly -/

/-- An open group: its index if it captures, the alternatives read so far and the items of the
one being read, both in reverse order. -/
structure Group where
  index : Option Nat
  alternatives : List Pattern
  items : List Pattern

def sequence (reversed : List Pattern) : Pattern :=
  match reversed with
  | [] => .empty
  | p :: before => before.foldl (fun later p => .seq p later) p

def Group.pattern (g : Group) : Pattern :=
  let body := g.alternatives.foldl (fun later p => .alt p later) (sequence g.items)
  match g.index with
  | some i => .capture i body
  | none => body

/-- Where the assembly stands: the number of captures so far, the innermost group and those
around it. -/
structure Assembly where
  captures : Nat
  group : Group
  outer : List Group

def Assembly.step (a : Assembly) : Mark → Option Assembly
  | .item p => some { a with group := { a.group with items := p :: a.group.items } }
  | .openCapture =>
      some ⟨a.captures + 1, ⟨some (a.captures + 1), [], []⟩, a.group :: a.outer⟩
  | .openPlain => some ⟨a.captures, ⟨none, [], []⟩, a.group :: a.outer⟩
  | .close =>
    match a.outer with
    | g :: rest => some ⟨a.captures, { g with items := a.group.pattern :: g.items }, rest⟩
    | [] => none
  | .bar =>
      some { a with group :=
        { a.group with alternatives := sequence a.group.items :: a.group.alternatives
                       items := [] } }
  | .repeated least most greedy =>
    match a.group.items with
    | p :: rest =>
        some { a with group := { a.group with items := .repeated p least most greedy :: rest } }
    | [] => none

/-- The pattern that a text stands for. -/
def Pattern.read? (text : String) : Option Pattern := do
  let chars := text.toList
  let ms ← marks? chars.length chars
  match ← ms.foldlM Assembly.step ⟨0, ⟨none, [], []⟩, []⟩ with
  | ⟨_, g, []⟩ => some g.pattern
  | _ => none

end LinkShortener.Agent
