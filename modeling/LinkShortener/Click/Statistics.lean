import LinkShortener.Routine.Basic

/-!
The statistics of a token, counted when they are asked for: the total, then the clicks along
each of the four dimensions, one question after the other. A token without clicks has no
statistics, whether it has a link or not. The column store may reply in any shape; what in a reply
is no row of a value and a count breaks the counting off.
-/

namespace LinkShortener.Statistics

open Routine

/-! ### Rows -/

def groupRows (token : String) (dimension : Dimension) : Routine (List (String × Int)) := do
  let groups ← call (.database (.groupClicks token dimension))
  return groups.map fun (value, n) => (value, (n : Int))

def ofRows (token : String) : Routine Tally :=
  (do
    call (.database .connect)
    let total ← call (.database (.countClicks token))
    if total = 0 then .fail (.noClicks token)
    let byCountry ← groupRows token .country
    let byCity ← groupRows token .city
    let byDevice ← groupRows token .device
    let byReferrer ← groupRows token .referrer
    return ⟨token, total, byCountry, byCity, byDevice, byReferrer⟩ : Routine Tally).rescue
      Fault.isDatabaseOutage fun _ => .fail (.clicks (.tally token))

/-! ### Columns -/

def query (token : String) (c : ColumnsCall) : Routine c.Reply :=
  (call (.columns c)).rescue Fault.isColumnOutage fun _ => .fail (.clicks (.tally token))

/-- The total in the first cell of the first row; without rows it is zero. -/
def totalOf (reply : Datum) : Except DatumFlaw Int := do
  if reply.isVoid then return 0 else (← (← reply.first).first).toInt

/-- The value and the count in a row of two cells. -/
def groupOf (row : Datum) : Except DatumFlaw (Cell × Int) := do
  let (value, n) ← row.pair
  let n ← n.toInt
  return (← value.key, n)

/-- Groups with a further one, whose count replaces that of a group with the same value. -/
def including (groups : List (Cell × Int)) (group : Cell × Int) : List (Cell × Int) :=
  if groups.any (·.1.worth == group.1.worth) then
    groups.map fun (value, n) => (value, if value.worth == group.1.worth then group.2 else n)
  else groups ++ [group]

/-- The groups in the rows of a reply, one for each value. -/
def groupsOf (reply : Datum) : Except DatumFlaw (List (Cell × Int)) := do
  return (← (← reply.items).mapM groupOf).foldl including []

def groupColumns (token : String) (dimension : Dimension) : Routine (List (Cell × Int)) := do
  let rows ← query token (.groupClicks token dimension)
  ofOutcome ((groupsOf rows).mapError .datum)

/-- The groups whose values are texts. -/
def textGroups (groups : List (Cell × Int)) : List (String × Int) :=
  groups.filterMap fun (value, n) => value.text?.map (·, n)

/-- The values of groups that are no texts, under the name of their part of a tally. -/
def unfit (field : String) (groups : List (Cell × Int)) : List (String × Cell) :=
  groups.filterMap fun (value, _) => if value.text?.isNone then some (field, value) else none

/-- Counts the distinct clicks of a token in the column store. -/
def ofColumns (token : String) : Routine Tally := do
  let rows ← query token (.countClicks token)
  let total ← ofOutcome ((totalOf rows).mapError .datum)
  if total = 0 then .fail (.noClicks token)
  let byCountry ← groupColumns token .country
  let byCity ← groupColumns token .city
  let byDevice ← groupColumns token .device
  let byReferrer ← groupColumns token .referrer
  match unfit "count_by_country" byCountry ++ unfit "count_by_city" byCity ++
      unfit "count_by_device_type" byDevice ++ unfit "count_by_referrer" byReferrer with
  | [] =>
    return ⟨token, total, textGroups byCountry, textGroups byCity, textGroups byDevice,
      textGroups byReferrer⟩
  | unfit => .fail (.unfitGroups unfit)

def tally (backend : Backend) (token : String) : Routine Tally :=
  match backend with
  | .rows => ofRows token
  | .columns => ofColumns token

end LinkShortener.Statistics
