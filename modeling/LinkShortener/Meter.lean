import LinkShortener.Settings.Basic

/-!
The meters of the service. A meter counts one kind of event; it goes by a name and labels. A page
shows how often each has counted.
-/

namespace LinkShortener

/-- What the directory of links does. -/
inductive Operation
  | shorten
  | resolve
  | update
  | delete
  deriving DecidableEq, Repr

def Operation.text : Operation → String
  | .shorten => "shorten"
  | .resolve => "get"
  | .update => "update"
  | .delete => "delete"

/-- How an operation ends. -/
inductive Ending
  | success
  | refused
  | notFound
  | failed
  deriving DecidableEq, Repr

def Ending.text : Ending → String
  | .success => "success"
  | .refused => "validation_error"
  | .notFound => "not_found"
  | .failed => "error"

/-- Where the loop that consumes visits can fail. -/
inductive Stage
  | connect
  | fetch
  | process
  | commit
  deriving DecidableEq, Repr

def Stage.text : Stage → String
  | .connect => "connect"
  | .fetch => "fetch"
  | .process => "process"
  | .commit => "commit"

/-- What is counted. -/
inductive Meter
  | operations (operation : Operation) (ending : Ending)
  | durations (operation : Operation)
  | lookups (copied : Bool)
  | published
  | publishFailures
  | consumed
  | feedFailures (stage : Stage)
  | clicksStored (backend : Backend)
  | clicksRepeated
  deriving DecidableEq, Repr

namespace Meter

def name : Meter → String
  | operations .. => "shortlink_mapping_requests_total"
  | durations _ => "shortlink_mapping_operation_duration_seconds_count"
  | lookups _ => "shortlink_mapping_lookups_total"
  | published => "shortlink_stats_events_published_total"
  | publishFailures => "shortlink_stats_events_publish_failed_total"
  | consumed => "shortlink_stats_events_consumed_total"
  | feedFailures _ => "shortlink_stats_events_failed_total"
  | clicksStored _ => "shortlink_stats_rows_stored_total"
  | clicksRepeated => "shortlink_stats_rows_duplicate_total"

/-- The labels of a meter, sorted by their names. -/
def labels : Meter → List (String × String)
  | operations operation ending => [("operation", operation.text), ("status", ending.text)]
  | durations operation => [("operation", operation.text)]
  | lookups copied => [("cache_hit", if copied then "true" else "false")]
  | feedFailures stage => [("stage", stage.text)]
  | clicksStored backend => [("backend", backend.text)]
  | _ => []

/-- The meters that are shown before they have counted anything: those without labels. -/
def standing : List Meter := [published, publishFailures, consumed, clicksRepeated]

def spelled (m : Meter) : String :=
  match m.labels with
  | [] => m.name
  | labels =>
    let pairs := labels.map fun (label, value) => label ++ "=\"" ++ value ++ "\""
    m.name ++ "\x7b" ++ ",".intercalate pairs ++ "\x7d"

/-- The lines that show how often each meter has counted, given all that was counted, the latest
first. -/
def exposition (counted : List Meter) : String :=
  String.join ((standing ++ counted.reverse).eraseDups.map fun m =>
    m.spelled ++ " " ++ toString (counted.count m) ++ ".0\n")

end Meter

end LinkShortener
