import LinkShortener.Fault
import LinkShortener.Net.Network
import LinkShortener.Text.Search

/-!
The atlas of places: which country and city an address lies in. An atlas is a list of networks
with the names of their places in several languages; the network with the most leading bits
that holds an address supplies its whole place, and nothing is inherited from wider ones.
-/

namespace LinkShortener

/-- Where an address lies, as far as it is known. -/
structure Place where
  country : Option String
  city : Option String
  deriving DecidableEq, Repr

namespace Place

/-- The place of an address of which nothing is known. -/
def nowhere : Place := ⟨none, none⟩

/-- The version of the addresses that an atlas is made for. -/
inductive Tree
  | four
  | six
  deriving DecidableEq, Repr

/-- A network with the names of its country and its city by language. -/
structure Region where
  network : Net.Network
  country : List (String × String)
  city : List (String × String)
  deriving DecidableEq, Repr

/-- An atlas, read in one language. -/
structure Atlas where
  kind : String
  tree : Tree
  language : String
  regions : List Region
  deriving DecidableEq, Repr

/-- An address as a number, with its version. -/
structure Address where
  value : Nat
  version : Tree
  deriving DecidableEq, Repr

namespace Address

/-- The number of an interface may follow a version 6 address. -/
def isZone (text : List Char) : Bool :=
  !text.isEmpty && text.all Char.isDigit && Net.decimal text < 4294967296

/-- The version 6 address that a text stands for, which may name an interface by number. -/
def ofSix? (text : List Char) : Option Address :=
  match text.span (· != '%') with
  | (address, []) => (Net.six? address).map (⟨·, .six⟩)
  | (address, _ :: zone) =>
    if isZone zone then (Net.six? address).map (⟨·, .six⟩) else none

def ofText? (text : String) : Option Address :=
  match Net.looseFour? text.toList with
  | some a => some ⟨a, .four⟩
  | none => ofSix? text.toList

end Address

namespace Atlas

/-- The better of two regions that hold an address: the narrower one, of equals the later. -/
def narrower (best : Option Region) (r : Region) : Option Region :=
  match best with
  | some b => if b.network.bits ≤ r.network.bits then some r else some b
  | none => some r

/-- The region that supplies the place of an address. -/
def region? (atlas : Atlas) (address : Nat) : Option Region :=
  (atlas.regions.filter (·.network.contains address)).foldl narrower none

def place (atlas : Atlas) (r : Region) : Place :=
  ⟨r.country.lookup atlas.language, r.city.lookup atlas.language⟩

/-- The place of the address that a text stands for. Only an atlas of cities can tell. -/
def locate (atlas : Atlas) (text : String) : Except Fault Place :=
  if !Text.occurs "City" atlas.kind.toList then .error (.notPlaceAtlas atlas.kind)
  else if text.toList.contains '\x00' then .error .nullInAddress
  else
    match Address.ofText? text with
    | none => .error (.unplaced text (.malformed text))
    | some address =>
      if atlas.tree = .four ∧ address.version = .six then
        .error (.unplaced text (.wrongTree text))
      else
        match atlas.region? address.value with
        | none => .error (.unplaced text (.absent text))
        | some r => .ok (atlas.place r)

end Atlas

end Place

end LinkShortener
