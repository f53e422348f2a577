import Chronicle.Database.Engine
import Chronicle.Service.Operation
import Chronicle.Storage.Relational.Definition

/-!
# The database

The service uses one database at a time through an engine, which is set up from an address and the
sizes of its pool of connections. If that fails, the engine that was in use stays.

## Main definitions

* `Database` — the engine in use.
* `Database.start`, `Database.stop`, `Database.current` — setting up, disposing of and asking for
  the engine.
* `Database.startWith` — setting up with named arguments.
* `Database.createTables` — defining the tables.
-/

namespace Chronicle

/-- The engine in use, if one has been set up. -/
structure Database where
  engine : Option Engine := none

namespace Database

def address : Value → Except EngineFault Address
  | .text s => Address.read s
  | v => .error (.notAnAddress v)

/-- Sets up an engine. -/
def start (url : Value) (sizes : Pool) (echo : Value) : Operation Database Unit := do
  Operation.log .info "Initializing database engine" [
    ("pool_size", sizes.size),
    ("max_overflow", sizes.maxOverflow)]
  let engine ← Operation.lift <| Except.mapError Error.engine do
    Engine.ofAddress (← address url) sizes echo
  Operation.put { engine := some engine }

/-- The operation that sets up an engine, as its callers know it. -/
def startName : String := "init_database()"

/-- The arguments of setting up an engine that are given by name. -/
def argumentNames : List String := ["pool_size", "max_overflow", "pool_timeout", "echo"]

/-- Why an argument cannot be given by its name, if it cannot. -/
def refused? (name : String) : Option Error :=
  if argumentNames.contains name then none
  else if name = "database_url" then some (.repeatedArgument startName name)
  else some (.unknownArgument startName name)

/-- Sets up an engine with named arguments. -/
def startWith (url : Value) (arguments : Attributes) : Operation Database Unit :=
  let standard : Pool := {}
  match arguments.names.findSome? refused? with
  | some e => Operation.lift (.error e)
  | none =>
    start url
      { size := (arguments.get? "pool_size").getD standard.size
        maxOverflow := (arguments.get? "max_overflow").getD standard.maxOverflow
        timeout := (arguments.get? "pool_timeout").getD standard.timeout }
      ((arguments.get? "echo").getD (.bool false))

/-- Disposes of the engine, if there is one. -/
def stop : Operation Database Unit := do
  if (← Operation.get).engine.isSome then
    Operation.log .info "Disposing database engine" []
    Operation.put {}

def current : Operation Database Engine := do
  match (← Operation.get).engine with
  | some engine => return engine
  | none => Operation.lift (.error .notInitialized)

/-- The statements that define the tables. -/
def ensureTables : Operation Database (List String) := do
  Operation.log .info "Database tables ensured" [
    ("tables", .list (Relational.tableNames.map Value.text))]
  return Relational.definitions

/-- Defines the tables through the engine in use. -/
def createTables : Operation Database (List String) := do
  let _ ← current
  ensureTables

end Database

end Chronicle
