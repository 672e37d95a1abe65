import LinkShortener.Numeral.Shortest

/-!
The settings of the service, grouped by the part that they govern, with their defaults and
the names they go by in the environment.
-/

namespace LinkShortener

/-- Where clicks are stored. -/
inductive Backend
  | columns
  | rows
  deriving DecidableEq, Repr

def Backend.text : Backend → String
  | .columns => "clickhouse"
  | .rows => "sql"

def Backend.options : List (String × Backend) :=
  [Backend.columns, .rows].map fun b => (b.text, b)

namespace Settings

structure Program where
  name : String := "shortlink"
  environment : String := "development"
  logLevel : String := "INFO"
  deriving DecidableEq, Repr

structure Database where
  url : String := "postgresql+asyncpg://shortlink:shortlink@db:5432/shortlink"
  poolSize : Int := 20
  maxOverflow : Int := 10
  echo : Bool := false
  deriving DecidableEq, Repr

/-- The key-value server with the id counter and the copies of links. -/
structure KeyValue where
  url : String := "redis://redis:6379/0"
  maxConnections : Int := 50
  socketTimeout : Numeral.Binary64 := .ofRatio false 2 1
  counterKey : String := "mapping_count"
  copyMark : String := "url:"
  copySeconds : Int := 3600
  deriving DecidableEq, Repr

structure Bus where
  servers : String := "kafka:9092"
  topic : String := "url_stats_events"
  group : String := "url_stats_group"
  lingerMillis : Int := 10
  deriving DecidableEq, Repr

/-- The loop that consumes visits. -/
structure Consumer where
  enabled : Bool := true
  pollMillis : Int := 1000
  maxRecords : Int := 100
  retrySeconds : Numeral.Binary64 := .ofRatio false 1 1
  metricsPort : Int := 9200
  deriving DecidableEq, Repr

/-- The store of clicks. -/
structure Clicks where
  backend : Backend := .columns
  url : String := "http://clickhouse:8123"
  user : String := "default"
  password : String := "clickhouse"
  database : String := "url_shortener_analytics"
  deriving DecidableEq, Repr

structure Places where
  path : String := "assets/GeoLite2-City.mmdb"
  locale : String := "en"
  deriving DecidableEq, Repr

inductive Value
  | text (s : String)
  | int (n : Int)
  | truth (b : Bool)
  | real (x : Numeral.Binary64)
  deriving DecidableEq, Repr

end Settings

structure Settings where
  program : Settings.Program := {}
  database : Settings.Database := {}
  keyValue : Settings.KeyValue := {}
  bus : Settings.Bus := {}
  consumer : Settings.Consumer := {}
  clicks : Settings.Clicks := {}
  places : Settings.Places := {}
  deriving DecidableEq, Repr

namespace Settings

/-- Every setting under its name, in the order of declaration. -/
def toList (s : Settings) : List (String × Value) :=
  [("APP_NAME", .text s.program.name),
   ("APP_ENV", .text s.program.environment),
   ("LOG_LEVEL", .text s.program.logLevel),
   ("DATABASE_URL", .text s.database.url),
   ("DATABASE_POOL_SIZE", .int s.database.poolSize),
   ("DATABASE_MAX_OVERFLOW", .int s.database.maxOverflow),
   ("DATABASE_ECHO", .truth s.database.echo),
   ("REDIS_URL", .text s.keyValue.url),
   ("REDIS_MAX_CONNECTIONS", .int s.keyValue.maxConnections),
   ("REDIS_SOCKET_TIMEOUT_SECONDS", .real s.keyValue.socketTimeout),
   ("ID_COUNTER_KEY", .text s.keyValue.counterKey),
   ("CACHE_KEY_PREFIX", .text s.keyValue.copyMark),
   ("CACHE_TTL_SECONDS", .int s.keyValue.copySeconds),
   ("KAFKA_BOOTSTRAP_SERVERS", .text s.bus.servers),
   ("KAFKA_STATS_TOPIC", .text s.bus.topic),
   ("KAFKA_CONSUMER_GROUP", .text s.bus.group),
   ("KAFKA_PRODUCER_LINGER_MS", .int s.bus.lingerMillis),
   ("CONSUMER_ENABLED", .truth s.consumer.enabled),
   ("CONSUMER_POLL_TIMEOUT_MS", .int s.consumer.pollMillis),
   ("CONSUMER_MAX_RECORDS", .int s.consumer.maxRecords),
   ("CONSUMER_RETRY_DELAY_SECONDS", .real s.consumer.retrySeconds),
   ("WORKER_METRICS_PORT", .int s.consumer.metricsPort),
   ("STATS_BACKEND", .text s.clicks.backend.text),
   ("CLICKHOUSE_URL", .text s.clicks.url),
   ("CLICKHOUSE_USERNAME", .text s.clicks.user),
   ("CLICKHOUSE_PASSWORD", .text s.clicks.password),
   ("CLICKHOUSE_DATABASE", .text s.clicks.database),
   ("GEOIP_DB_PATH", .text s.places.path),
   ("GEOIP_LOCALE", .text s.places.locale)]

def names : List String := (toList {}).map (·.1)

/-- The settings whose value is not the default. -/
def changed (s : Settings) : List (String × Value) :=
  ((toList s).zip (toList {})).filterMap fun (mine, base) =>
    if mine.2 = base.2 then none else some mine

end Settings

end LinkShortener
