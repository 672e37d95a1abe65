import LinkShortener.Record.Field

/-!
The health of the service: of the whole, of the catalog's database and of the copies of links kept
beside it.
-/

namespace LinkShortener

open Json (Value)

/-- Whether a part of the service answers. -/
inductive Condition
  | healthy
  | unhealthy
  deriving DecidableEq, Repr

def Condition.text : Condition → String
  | .healthy => "healthy"
  | .unhealthy => "unhealthy"

def Condition.options : List (String × Condition) :=
  [Condition.healthy, .unhealthy].map fun c => (c.text, c)

/-- The health of the service and of its two stores of links. -/
structure Health where
  service : Condition
  database : Condition
  copies : Condition
  deriving DecidableEq, Repr

namespace Health

/-- The health that two stores make: the service is healthy when both are. -/
def ofStores (database copies : Condition) : Health :=
  ⟨if database = .healthy ∧ copies = .healthy then .healthy else .unhealthy, database, copies⟩

def ofJson (v : Value) : Record.Checked Health := do
  let ms ← Record.members v
  ((Record.Checked.ap (.ok Health.mk) (Record.required ms "status" (Record.choice Condition.options))).ap
    (Record.required ms "database" (Record.choice Condition.options))).ap
    (Record.required ms "cache" (Record.choice Condition.options))

def toJson (h : Health) : Value := .object
  [("status", .text h.service.text), ("database", .text h.database.text),
   ("cache", .text h.copies.text)]

end Health

end LinkShortener
