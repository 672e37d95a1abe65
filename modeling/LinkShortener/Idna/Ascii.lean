import LinkShortener.Idna.Folding
import LinkShortener.Idna.Compatibility
import LinkShortener.Idna.Prohibition
import LinkShortener.Idna.Punycode

/-!
The ASCII form of an internationalized domain name. A name that is ASCII already only has the
lengths of its labels checked. Any other name is cut at the four dots, and each label that is
not ASCII is folded, normalized, checked and encoded.
-/

namespace LinkShortener.Idna

def isAscii (text : List Char) : Bool := text.all (·.toNat < 128)

/-- A full stop of any of the four kinds that separate labels. -/
def isDot (c : Char) : Bool :=
  c = '.' || c = '\u3002' || c = '\uff0e' || c = '\uff61'

/-- A label of one to sixty-three characters. -/
def sized? (label : List Char) : Option (List Char) :=
  if 0 < label.length ∧ label.length < 64 then some label else none

/-- Whether letters that run from right to left stand in a label as they may: no letter of the
other direction beside them, and one of them at each end. -/
def directionHolds (label : List Char) : Bool :=
  if label.any isRightToLeft then
    !label.any isLeftToRight && label.head?.any isRightToLeft && label.getLast?.any isRightToLeft
  else true

/-- A label folded and normalized, if nothing in it is prohibited. -/
def prepare? (label : List Char) : Option (List Char) :=
  let label := normalize (label.flatMap fold)
  if label.any isProhibited || !directionHolds label then none else some label

/-- The mark of an encoded label. -/
def encodedMark : List Char := "xn--".toList

/-- The ASCII form of a label. -/
def label? (label : List Char) : Option (List Char) :=
  if isAscii label then sized? label
  else
    match prepare? label with
    | none => none
    | some prepared =>
      if isAscii prepared then sized? prepared
      else if encodedMark.isPrefixOf prepared then none
      else sized? (encodedMark ++ Punycode.encode prepared)

def joinLabels (labels : List (List Char)) : List Char := ['.'].intercalate labels

/-- The ASCII form of a domain name. The last label may be empty. -/
def encode? (name : List Char) : Option (List Char) :=
  if isAscii name then
    let labels := name.splitOn '.'
    let last := labels.getLast?.getD []
    if (labels.dropLast.all fun l => (sized? l).isSome) && last.length < 64 then some name else none
  else
    let labels := name.splitOnP isDot
    let rooted := labels.getLast?.any List.isEmpty
    let labels := if rooted then labels.dropLast else labels
    match labels.mapM label? with
    | some encoded => some (joinLabels encoded ++ if rooted then ['.'] else [])
    | none => none

end LinkShortener.Idna
