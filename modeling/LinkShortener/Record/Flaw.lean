/-!
Flaws of records. A flaw says where in a record it is and what is wrong there; reading a record
collects the flaws of all its fields in the order of their declaration.
-/

namespace LinkShortener.Record

/-- What is wrong with a field or a document. -/
inductive Defect
  | notJson
  | notObject
  | missing
  | notText
  | notInt
  | intText
  | intFraction
  | intSize
  | notFinite
  | realText
  | truthText
  | choice
  | notMap
  | notMoment
  | momentText
  | momentRange
  | unexpected
  deriving DecidableEq, Repr

/-- A defect at a place. -/
structure Flaw where
  place : List String
  defect : Defect
  deriving DecidableEq, Repr

/-- A value read from a record, or the flaws found. -/
abbrev Checked (α : Type) := Except (List Flaw) α

namespace Checked

/-- Applies a read function to a read value; flaws of both are kept, the function's first. -/
def ap {α β : Type} (f : Checked (α → β)) (x : Checked α) : Checked β :=
  match f, x with
  | .ok f, .ok x => .ok (f x)
  | .ok _, .error flaws => .error flaws
  | .error flaws, .ok _ => .error flaws
  | .error flaws, .error more => .error (flaws ++ more)

@[simp] theorem ap_ok {α β : Type} (f : α → β) (x : α) : ap (.ok f) (.ok x) = .ok (f x) := rfl

/-- Reads every item of a list, collecting all flaws. -/
def all {α β : Type} (read : α → Checked β) : List α → Checked (List β)
  | [] => .ok []
  | x :: rest => ap (ap (.ok List.cons) (read x)) (all read rest)

def flaw {α : Type} (place : List String) (defect : Defect) : Checked α :=
  .error [⟨place, defect⟩]

end Checked

end LinkShortener.Record
