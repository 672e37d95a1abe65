import LinkShortener.Daemon.Manager

/-!
The two ways in which the service lives: as a server, which builds all parts when it starts and
releases them when it stops, and as a worker, which only consumes visits until its feed ends.
-/

namespace LinkShortener.Daemon

open Routine

/-- Starts the server: makes the tables and builds the parts. -/
def startUp (settings : Settings) : Routine Unit := do
  call (.database .prepare)
  buildAll settings

/-- Stops the server: releases the parts and the database. -/
def shutDown : Routine Unit := do
  release
  call (.database .dispose)

/-- Runs the worker until its feed ends. Only clicks kept as rows need the tables made. -/
def work (settings : Settings) : Routine Unit := do
  let port := settings.consumer.metricsPort
  call (.process (.serveMeters port))
  if settings.clicks.backend = .rows then call (.database .prepare)
  buildPipeline settings
  log .info .worker s!"Stats worker running, metrics on port {port}"
  (do let _ ← call (.process (.joinFeed false)) : Routine Unit).concluding fun _ => shutDown

end LinkShortener.Daemon
