import LinkShortener.Fault
import LinkShortener.Link.Basic

/-!
The table of links. No two links have the same id or the same token, and ids fit into signed
words of 64 bits.
-/

namespace LinkShortener.Link

/-- Two links that may stand in one table. -/
def Apart (a b : Link) : Prop := a.id ≠ b.id ∧ a.token ≠ b.token

instance (a b : Link) : Decidable (Apart a b) := by unfold Apart; infer_instance

/-- The links of the catalog. -/
structure Table where
  rows : List Link
  apart : rows.Pairwise Apart

namespace Table

def empty : Table := ⟨[], .nil⟩

/-- Whether an id fits into the column for ids. -/
def fits (id : Int) : Bool := -9223372036854775808 ≤ id && id ≤ 9223372036854775807

/-- How many characters the column for tokens is declared to take. The database does not insist on
it, so it binds whoever makes tokens. -/
def tokenWidth : Nat := 16

def find? (t : Table) (token : String) : Option Link := t.rows.find? (·.token == token)

def findId? (t : Table) (id : Int) : Option Link := t.rows.find? (·.id == id)

def lastId? (t : Table) : Option Int := (t.rows.map (·.id)).max?

/-- How the database tells of a conflict of keys. -/
def conflict : Fault := .outage .databaseConflict "The id or the token is taken"

def insert (t : Table) (l : Link) : Except Fault Table :=
  if fits l.id then
    if h : ∀ r ∈ t.rows, Apart r l then
      .ok ⟨t.rows ++ [l], List.pairwise_append.2
        ⟨t.apart, List.pairwise_singleton _ _, fun r hr s hs => by
          rw [List.mem_singleton.1 hs]; exact h r hr⟩⟩
    else .error conflict
  else .error .idOutOfRange

/-- A link with another address if it has a token. -/
def retargeted (token url : String) (time : Moment) (l : Link) : Link :=
  if l.token = token then { l with url := url, updatedAt := time } else l

@[simp] theorem id_retargeted (token url : String) (time : Moment) (l : Link) :
    (retargeted token url time l).id = l.id := by unfold retargeted; split <;> rfl

@[simp] theorem token_retargeted (token url : String) (time : Moment) (l : Link) :
    (retargeted token url time l).token = l.token := by unfold retargeted; split <;> rfl

/-- The table with the link of a token pointed at another address. -/
def retarget (t : Table) (token url : String) (time : Moment) : Table :=
  ⟨t.rows.map (retargeted token url time), List.pairwise_map.2
    (t.apart.imp fun h => by simpa [Apart] using h)⟩

def delete (t : Table) (token : String) : Table :=
  ⟨t.rows.filter (·.token != token), t.apart.filter _⟩

/-- How many links have a token, which is one or none. -/
def count (t : Table) (token : String) : Nat := (t.rows.filter (·.token == token)).length

def sorted (t : Table) : List Link := t.rows.mergeSort fun a b => a.id ≤ b.id

end Table

end LinkShortener.Link
