import LinkShortener.Record.Field

/-!
Tallies, the statistics of one token: how many clicks, and how many under each value of the
four dimensions.
-/

namespace LinkShortener

open Json (Value)

structure Tally where
  token : String
  total : Int
  byCountry : List (String × Int)
  byCity : List (String × Int)
  byDevice : List (String × Int)
  byReferrer : List (String × Int)
  deriving DecidableEq, Repr

namespace Tally

def ofJson (v : Value) : Record.Checked Tally := do
  let ms ← Record.members v
  (((((Record.Checked.ap (.ok Tally.mk) (Record.required ms "url_token" Record.text)).ap
    (Record.required ms "total_clicks" Record.int)).ap
    (Record.counts ms "count_by_country")).ap
    (Record.counts ms "count_by_city")).ap
    (Record.counts ms "count_by_device_type")).ap
    (Record.counts ms "count_by_referrer")

/-- The record of a map from texts to numbers. -/
def countsJson (counts : List (String × Int)) : Value :=
  .object (counts.map fun (k, n) => (k, .int n))

def toJson (t : Tally) : Value := .object
  [("url_token", .text t.token), ("total_clicks", .int t.total),
   ("count_by_country", countsJson t.byCountry), ("count_by_city", countsJson t.byCity),
   ("count_by_device_type", countsJson t.byDevice),
   ("count_by_referrer", countsJson t.byReferrer)]

end Tally

end LinkShortener
