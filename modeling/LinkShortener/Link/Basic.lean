import LinkShortener.Moment.Printer
import LinkShortener.Record.Field

/-!
Links, the records that pair a token with the address it stands for, and the requests that ask
for one.
-/

namespace LinkShortener

structure Link where
  id : Int
  url : String
  token : String
  createdAt : Moment
  updatedAt : Moment
  deriving DecidableEq, Repr

namespace Link

open Json (Value)

def ofJson (v : Value) : Record.Checked Link := do
  let ms ← Record.members v
  ((((Record.Checked.ap (.ok Link.mk) (Record.required ms "id" Record.int)).ap
    (Record.required ms "original_url" Record.text)).ap
    (Record.required ms "url_token" Record.text)).ap
    (Record.required ms "created_at" Record.moment)).ap
    (Record.required ms "updated_at" Record.moment)

def toJson (l : Link) : Value := .object
  [("id", .int l.id), ("original_url", .text l.url), ("url_token", .text l.token),
   ("created_at", .text l.createdAt.text), ("updated_at", .text l.updatedAt.text)]

/-- The short description of a link in the catalog; what is not set yet reads `None`. -/
def describe (id : Option Int) (token : Option String) : String :=
  let id := id.elim "None" toString
  let token := token.getD "None"
  s!"<MappingRecord(id={id}, url_token='{token}')>"

end Link

/-- A request for a link to an address, which is checked later. -/
structure LinkRequest where
  url : String
  deriving DecidableEq, Repr

namespace LinkRequest

open Json (Value)

def ofJson (v : Value) : Record.Checked LinkRequest := do
  let ms ← Record.members v
  (Record.required ms "url" Record.text).map LinkRequest.mk

def toJson (r : LinkRequest) : Value := .object [("url", .text r.url)]

end LinkRequest

end LinkShortener
