import Chronicle.Database
import Chronicle.Logging.Config
import Chronicle.Settings

/-!
# Startup and shutdown

The service sets up its database when it starts and disposes of it when it stops, whatever became of
the work in between.

## Main definitions

* `Started` — what the work in between is given.
* `Lifespan.around` — startup, work and shutdown.
-/

namespace Chronicle

def Settings.logging (settings : Settings) : LogConfig :=
  .ofNames settings.logLevel settings.logJson

/-- What a started service works with: an engine, and the isolation level of its snapshots. -/
structure Started where
  engine : Engine
  isolation : String

namespace Lifespan

/-- Sets up the database. -/
def startup (settings : Settings) : Operation Database Started := do
  Operation.log .info "Initializing database" [("service", .text settings.serviceName)]
  Database.start (.text settings.databaseUrl)
    { size := .int settings.poolSize
      maxOverflow := .int settings.maxOverflow
      timeout := .int settings.poolTimeout }
    (.bool settings.echo)
  let engine ← Database.current
  Operation.log .info "Startup complete" [("service", .text settings.serviceName)]
  return { engine, isolation := settings.isolation }

def shutdown (settings : Settings) : Operation Database Unit := do
  Operation.log .info "Shutting down" [("service", .text settings.serviceName)]
  Database.stop

/-- Work between startup and shutdown. A failure of the work is part of its result, so that it does
not keep the service from shutting down. -/
def around {α : Type} (settings : Settings) (work : Started → α) : Operation Database α := do
  let result := work (← startup settings)
  shutdown settings
  return result

end Lifespan

end Chronicle
