import LinkShortener.Text.Blank
import LinkShortener.Text.WordClass

/-!
Search patterns with captures, and the backtracking search for them. Of several ways to match,
the first one counts: alternatives in their order, repetitions longest first or, when marked so,
shortest first. A repetition stops at a round that takes no character.
-/

namespace LinkShortener.Agent

/-- A part of a character class. -/
inductive ClassItem
  | range (first last : Char)
  | digit
  | word
  | blank
  deriving DecidableEq, Repr

/-- A character class; a negated one holds what its items do not. -/
structure CharClass where
  negated : Bool
  items : List ClassItem
  deriving DecidableEq, Repr

inductive Pattern
  | empty
  | one (c : CharClass)
  | seq (first second : Pattern)
  | alt (first second : Pattern)
  | capture (index : Nat) (body : Pattern)
  | repeated (body : Pattern) (least : Nat) (most : Option Nat) (greedy : Bool)
  | atStart
  | atEnd
  | wordEdge
  deriving Repr, Inhabited

/-! ### Characters -/

def ClassItem.holds (c : Char) : ClassItem → Bool
  | .range first last => first ≤ c && c ≤ last
  | .digit => Text.isDecimal c
  | .word => Text.isWord c
  | .blank => Text.isBlank c

/-- The characters that equal a character when case is ignored. -/
def caseVariants (c : Char) : List Char :=
  if c = '\u0130' ∨ c = '\u0131' then [c, 'i', 'I']
  else if c = '\u017f' then [c, 's', 'S']
  else if c = '\u212a' then [c, 'k', 'K']
  else [c, c.toLower, c.toUpper]

def CharClass.holds (ignoreCase : Bool) (set : CharClass) (c : Char) : Bool :=
  let variants := if ignoreCase then caseVariants c else [c]
  set.negated != set.items.any fun item => variants.any (ClassItem.holds · item)

/-! ### Matching -/

/-- A place in a text and the captures so far, the latest first. -/
structure Place where
  before : Option Char
  rest : List Char
  index : Nat
  captures : List (Nat × List Char)

/-- What is tried after a match; it refuses a match by giving nothing. -/
abbrev Continuation := Place → Option Place

/-- A way to match from a place. -/
abbrev Matcher := Place → Continuation → Option Place

def Place.advance (p : Place) (c : Char) (rest : List Char) : Place :=
  { p with before := some c, rest := rest, index := p.index + 1 }

/-- Whether a place is between a word character and one that is none. -/
def Place.isWordEdge (p : Place) : Bool :=
  p.before.any Text.isWord != p.rest.head?.any Text.isWord

/-- Whether a place is at the end, or before a line feed that ends the text. -/
def Place.isEnd (p : Place) : Bool :=
  match p.rest with
  | [] => true
  | [c] => c == '\n'
  | _ => false

def rounds (m : Matcher) : Nat → Matcher
  | 0, p, k => k p
  | n + 1, p, k => m p fun q => rounds m n q k

/-- Up to a given number of rounds. -/
def roundsUpTo (m : Matcher) (greedy : Bool) : Nat → Matcher
  | 0, p, k => k p
  | n + 1, p, k =>
    let more (_ : Unit) := m p fun q =>
      if q.index = p.index then none else roundsUpTo m greedy n q k
    if greedy then (more ()).or (k p) else (k p).or (more ())

/-- The matcher of a pattern. An unbounded repetition has at most as many rounds as characters
are left. -/
def Pattern.matcher (ignoreCase : Bool) : Pattern → Matcher
  | .empty, p, k => k p
  | .one set, p, k =>
    match p.rest with
    | c :: rest => if set.holds ignoreCase c then k (p.advance c rest) else none
    | [] => none
  | .seq a b, p, k => a.matcher ignoreCase p fun q => b.matcher ignoreCase q k
  | .alt a b, p, k =>
    match a.matcher ignoreCase p k with
    | some q => some q
    | none => b.matcher ignoreCase p k
  | .capture i body, p, k =>
    body.matcher ignoreCase p fun q =>
      k { q with captures := (i, p.rest.take (q.index - p.index)) :: q.captures }
  | .repeated body least most greedy, p, k =>
    rounds (body.matcher ignoreCase) least p fun q =>
      roundsUpTo (body.matcher ignoreCase) greedy
        ((most.map (· - least)).getD q.rest.length) q k
  | .atStart, p, k => if p.before.isNone then k p else none
  | .atEnd, p, k => if p.isEnd then k p else none
  | .wordEdge, p, k => if p.isWordEdge then k p else none

def Pattern.searchFrom (pattern : Pattern) (ignoreCase : Bool) :
    (before : Option Char) → List Char → Option Place
  | before, [] => pattern.matcher ignoreCase ⟨before, [], 0, []⟩ some
  | before, c :: rest =>
    match pattern.matcher ignoreCase ⟨before, c :: rest, 0, []⟩ some with
    | some p => some p
    | none => pattern.searchFrom ignoreCase (some c) rest

def Pattern.search (pattern : Pattern) (ignoreCase : Bool) (text : List Char) :
    Option (List (Nat × List Char)) :=
  (pattern.searchFrom ignoreCase none text).map (·.captures)

end LinkShortener.Agent
