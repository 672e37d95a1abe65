import LinkShortener.Fault
import LinkShortener.Visit.Basic

/-!
The table of clicks. No two clicks have the same event id. Counts are taken among the clicks of
a token, and grouped along a dimension by exact texts.
-/

namespace LinkShortener.Click

/-- Two clicks that may stand in one table. -/
def Apart (a b : Click) : Prop := a.event ≠ b.event

instance (a b : Click) : Decidable (Apart a b) := by unfold Apart; infer_instance

/-- The distinct values of clicks along a dimension, in the order of their first clicks, each
with the number of its clicks. -/
def groups (clicks : List Click) (dimension : Dimension) : List (String × Nat) :=
  let values := clicks.map (·.along dimension)
  values.eraseDups.map fun value => (value, values.count value)

/-- The clicks of the store. -/
structure Table where
  rows : List Click
  apart : rows.Pairwise Apart

namespace Table

def empty : Table := ⟨[], .nil⟩

/-- How many characters the column for tokens is declared to take, as in the table of links. -/
def tokenWidth : Nat := 16

def ofToken (t : Table) (token : String) : List Click := t.rows.filter (·.token == token)

/-- How the database tells of a conflict of keys. -/
def conflict : Fault := .outage .databaseConflict "The event id is taken"

def insert (t : Table) (c : Click) : Except Fault Table :=
  if h : ∀ r ∈ t.rows, Apart r c then
    .ok ⟨t.rows ++ [c], List.pairwise_append.2
      ⟨t.apart, List.pairwise_singleton _ _, fun r hr s hs => by
        rw [List.mem_singleton.1 hs]; exact h r hr⟩⟩
  else .error conflict

def count (t : Table) (token : String) : Nat := (t.ofToken token).length

def group (t : Table) (token : String) (dimension : Dimension) : List (String × Nat) :=
  groups (t.ofToken token) dimension

def sorted (t : Table) : List Click :=
  t.rows.mergeSort fun a b => !(decide (b.event < a.event))

end Table

end LinkShortener.Click
