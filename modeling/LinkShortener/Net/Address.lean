import LinkShortener.Text.Hex

/-!
Numeric internet addresses in text form. The strict form of a version 4 address is four
decimals without leading zeros; the loose one has one to four parts in decimal, octal or
hexadecimal, the last of which fills the bytes that are left. A version 6 address is up to
eight hexadecimal groups, one run of zero groups left out, and a strict version 4 address may
stand for the last two groups.
-/

namespace LinkShortener.Net

/-! ### Version 4 -/

def decimal (digits : List Char) : Nat := digits.foldl (fun n c => 10 * n + (c.toNat - 48)) 0

/-- One decimal of a strict version 4 address. -/
def octet? (text : List Char) : Option Nat :=
  if text.isEmpty || !text.all Char.isDigit || text.length > 3 then none
  else if text.length > 1 && text.head? == some '0' then none
  else if decimal text ≤ 255 then some (decimal text) else none

def four? (text : List Char) : Option Nat :=
  match (text.splitOn '.').mapM octet? with
  | some [a, b, c, d] => some (((a * 256 + b) * 256 + c) * 256 + d)
  | _ => none

/-- One part of a loose version 4 address: a leading zero marks octal, `0x` hexadecimal. -/
def part? (text : List Char) : Option Nat :=
  match text with
  | '0' :: x :: rest =>
    if x = 'x' || x = 'X' then Text.Hex.toNat? rest
    else if (x :: rest).all fun c => '0' ≤ c && c ≤ '7' then
      some ((x :: rest).foldl (fun n c => 8 * n + (c.toNat - 48)) 0)
    else none
  | [] => none
  | _ => if text.all Char.isDigit then some (decimal text) else none

def looseFour? (text : List Char) : Option Nat :=
  match (text.splitOn '.').mapM part? with
  | some [a] => if a < 4294967296 then some a else none
  | some [a, b] => if a < 256 ∧ b < 16777216 then some (a * 16777216 + b) else none
  | some [a, b, c] =>
    if a < 256 ∧ b < 256 ∧ c < 65536 then some ((a * 256 + b) * 65536 + c) else none
  | some [a, b, c, d] =>
    if a < 256 ∧ b < 256 ∧ c < 256 ∧ d < 256 then
      some (((a * 256 + b) * 256 + c) * 256 + d)
    else none
  | _ => none

/-! ### Version 6 -/

/-- One group of a version 6 address. -/
def group? (text : List Char) : Option Nat :=
  if text.length ≤ 4 then Text.Hex.toNat? text else none

/-- The parts of a version 6 address, a version 4 address at the end split into two groups. -/
def groupTexts? (text : List Char) : Option (List (List Char)) :=
  let parts := text.splitOn ':'
  let last := parts.getLast?.getD []
  if last.contains '.' then
    (four? last).map fun n =>
      parts.dropLast ++ [Text.Hex.lower 4 (n / 65536), Text.Hex.lower 4 (n % 65536)]
  else some parts

/-- The number that groups stand for. -/
def joinGroups (groups : List Nat) : Nat := groups.foldl (fun n g => n * 65536 + g) 0

/-- The parts before the first empty one that is not at either end, and those after it. -/
def splitAtGap : List (List Char) → Option (List (List Char) × List (List Char))
  | [] => none
  | p :: rest =>
    match rest with
    | [] => none
    | [_] => none
    | gap :: after =>
      if gap.isEmpty then some ([p], after)
      else (splitAtGap rest).map fun (before, after) => (p :: before, after)

def six? (text : List Char) : Option Nat :=
  match groupTexts? text with
  | none => none
  | some parts =>
    if parts.length < 3 ∨ 9 < parts.length then none
    else
      match splitAtGap parts with
      | none => if parts.length = 8 then (parts.mapM group?).map joinGroups else none
      | some (before, after) =>
        if after.dropLast.any List.isEmpty then none
        else
          let before := if before == [[]] then [] else before
          let after := if after == [[]] then [] else after
          let missing := 8 - (before.length + after.length)
          if before.length + after.length < 8 then
            match before.mapM group?, after.mapM group? with
            | some b, some a => some (joinGroups (b ++ List.replicate missing 0 ++ a))
            | _, _ => none
          else none

/-- The version 6 address of a text that may end in a zone: a percent sign and a name that is
not empty and holds no further one. -/
def zonedSix? (text : List Char) : Option Nat :=
  match text.span (· != '%') with
  | (address, []) => six? address
  | (address, _ :: zone) =>
    if zone.isEmpty || zone.contains '%' then none else six? address

end LinkShortener.Net
