import LinkShortener.Numeral.Grammar
import LinkShortener.Record.Flaw
import LinkShortener.Settings.Basic
import LinkShortener.Settings.Dotenv

/-!
Reading settings. For each setting on its own the environment comes before the file, and the
file before the default; only then is the text read. An unknown name with a value in the file
is a flaw, one in the environment is not.
-/

namespace LinkShortener.Settings

open Record (Checked Defect)

/-- What a setting is bound to. -/
abbrev Lookup := String → Option String

/-- The value of a setting read from its text, or its default. -/
def field {α : Type} (lookup : Lookup) (name : String) (read : String → Except Defect α)
    (default : α) : Checked α :=
  match lookup name with
  | some text => (read text).mapError fun d => [⟨[name], d⟩]
  | none => .ok default

def readText (text : String) : Except Defect String := .ok text

def readInt (text : String) : Except Defect Int :=
  match Numeral.readLenient text with
  | .number n => .ok n
  | .flawed => .error .intText
  | .tooLong => .error .intSize

def readReal (text : String) : Except Defect Numeral.Binary64 :=
  (Numeral.readReal? text).elim (.error .realText) .ok

/-- The words for truth values, in lower case. -/
def truthWords : List (String × Bool) :=
  [("1", true), ("true", true), ("t", true), ("yes", true), ("y", true), ("on", true),
   ("0", false), ("false", false), ("f", false), ("no", false), ("n", false), ("off", false)]

/-- A truth value; letters of either case are the same. -/
def readTruth (text : String) : Except Defect Bool :=
  (truthWords.lookup (text.map Char.toLower)).elim (.error .truthText) .ok

/-- A backend of the store of clicks. -/
def readBackend (text : String) : Except Defect Backend :=
  (Backend.options.lookup text).elim (.error .choice) .ok

def readProgram (l : Lookup) : Checked Program :=
  let base : Program := {}
  (((Checked.ap (.ok Program.mk) (field l "APP_NAME" readText base.name)).ap
    (field l "APP_ENV" readText base.environment)).ap
    (field l "LOG_LEVEL" readText base.logLevel))

def readDatabase (l : Lookup) : Checked Database :=
  let base : Database := {}
  (((Checked.ap (.ok Database.mk) (field l "DATABASE_URL" readText base.url)).ap
    (field l "DATABASE_POOL_SIZE" readInt base.poolSize)).ap
    (field l "DATABASE_MAX_OVERFLOW" readInt base.maxOverflow)).ap
    (field l "DATABASE_ECHO" readTruth base.echo)

def readKeyValue (l : Lookup) : Checked KeyValue :=
  let base : KeyValue := {}
  (((((Checked.ap (.ok KeyValue.mk) (field l "REDIS_URL" readText base.url)).ap
    (field l "REDIS_MAX_CONNECTIONS" readInt base.maxConnections)).ap
    (field l "REDIS_SOCKET_TIMEOUT_SECONDS" readReal base.socketTimeout)).ap
    (field l "ID_COUNTER_KEY" readText base.counterKey)).ap
    (field l "CACHE_KEY_PREFIX" readText base.copyMark)).ap
    (field l "CACHE_TTL_SECONDS" readInt base.copySeconds)

def readBus (l : Lookup) : Checked Bus :=
  let base : Bus := {}
  (((Checked.ap (.ok Bus.mk) (field l "KAFKA_BOOTSTRAP_SERVERS" readText base.servers)).ap
    (field l "KAFKA_STATS_TOPIC" readText base.topic)).ap
    (field l "KAFKA_CONSUMER_GROUP" readText base.group)).ap
    (field l "KAFKA_PRODUCER_LINGER_MS" readInt base.lingerMillis)

def readConsumer (l : Lookup) : Checked Consumer :=
  let base : Consumer := {}
  ((((Checked.ap (.ok Consumer.mk) (field l "CONSUMER_ENABLED" readTruth base.enabled)).ap
    (field l "CONSUMER_POLL_TIMEOUT_MS" readInt base.pollMillis)).ap
    (field l "CONSUMER_MAX_RECORDS" readInt base.maxRecords)).ap
    (field l "CONSUMER_RETRY_DELAY_SECONDS" readReal base.retrySeconds)).ap
    (field l "WORKER_METRICS_PORT" readInt base.metricsPort)

def readClicks (l : Lookup) : Checked Clicks :=
  let base : Clicks := {}
  ((((Checked.ap (.ok Clicks.mk) (field l "STATS_BACKEND" readBackend base.backend)).ap
    (field l "CLICKHOUSE_URL" readText base.url)).ap
    (field l "CLICKHOUSE_USERNAME" readText base.user)).ap
    (field l "CLICKHOUSE_PASSWORD" readText base.password)).ap
    (field l "CLICKHOUSE_DATABASE" readText base.database)

def readPlaces (l : Lookup) : Checked Places :=
  let base : Places := {}
  (Checked.ap (.ok Places.mk) (field l "GEOIP_DB_PATH" readText base.path)).ap
    (field l "GEOIP_LOCALE" readText base.locale)

/-- All settings from one source. -/
def ofLookup (l : Lookup) : Checked Settings :=
  ((((((Checked.ap (.ok Settings.mk) (readProgram l)).ap (readDatabase l)).ap
    (readKeyValue l)).ap (readBus l)).ap (readConsumer l)).ap (readClicks l)).ap (readPlaces l)

/-- The flaws of the names in a file that are no settings. -/
def checkNames (file : List (String × String)) : Checked Unit :=
  match file.filter fun (n, v) => !names.contains n && !v.isEmpty with
  | [] => .ok ()
  | unknown => .error (unknown.map fun (n, _) => ⟨[n], .unexpected⟩)

/-- The settings of an environment and the text of a file. -/
def load (environment : List (String × String)) (file : String) : Checked Settings :=
  let bound := Dotenv.read environment file
  (Checked.ap (.ok fun s _ => s)
    (ofLookup fun n => (environment.lookup n).or (bound.lookup n))).ap (checkNames bound)

end LinkShortener.Settings
