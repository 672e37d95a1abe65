/-!
The log of the service: entries of four levels, each under the name of the part that writes it.
-/

namespace LinkShortener.Log

/-- How grave an entry is. -/
inductive Level
  | debug
  | info
  | warning
  | error
  deriving DecidableEq, Repr

def Level.text : Level → String
  | .debug => "DEBUG"
  | .info => "INFO"
  | .warning => "WARNING"
  | .error => "ERROR"

/-- The parts of the service that write to the log. -/
inductive Source
  | process
  | worker
  | routes
  | directory
  | catalog
  | copies
  | counter
  | publisher
  | feed
  | intake
  | clicks
  | enrichment
  | atlas
  deriving DecidableEq, Repr

def Source.text : Source → String
  | .process => "shortlink"
  | .worker => "shortlink.worker"
  | .routes => "shortlink.routes"
  | .directory => "shortlink.resolver"
  | .catalog => "shortlink.mapping_store"
  | .copies => "shortlink.cache"
  | .counter => "shortlink.id_allocator"
  | .publisher => "shortlink.kafka"
  | .feed => "shortlink.consumer"
  | .intake => "shortlink.stats_processor"
  | .clicks => "shortlink.stats_storage"
  | .enrichment => "shortlink.enricher"
  | .atlas => "shortlink.geo"

structure Entry where
  level : Level
  source : Source
  text : String
  deriving DecidableEq, Repr

end LinkShortener.Log
