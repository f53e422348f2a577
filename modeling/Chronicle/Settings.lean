import Chronicle.Entity

/-!
# Settings

The settings of the service, read from environment variables and from arguments. A variable is named
by the prefix and the name of a field, an argument by the name of a field, both in either case of
their letters. Arguments win over variables; of two variables for one field the later one counts, of
two arguments the first; variables for no field are passed over and arguments for no field are
refused.

## Main definitions

* `Settings` — the settings.
* `Settings.ofEnvironment`, `Settings.ofArguments` — the values that variables and arguments give to
  fields.
* `Settings.read` — the settings of an environment and arguments.
-/

namespace Chronicle

structure Settings where
  serviceName : String
  databaseUrl : String
  poolSize : Int
  maxOverflow : Int
  /-- The seconds to wait for a connection. -/
  poolTimeout : Int
  echo : Bool
  /-- The isolation level of snapshots. -/
  isolation : String
  logLevel : String
  logJson : Bool
  deriving DecidableEq, Repr

namespace Settings

def variableStart : String := "DEMONLIST_AUDIT_"

/-- The names of the fields, in their order. -/
def fieldNames : List String := ["service_name", "database_url", "db_pool_size",
  "db_max_overflow", "db_pool_timeout", "db_echo", "reconstruction_isolation_level", "log_level",
  "log_json"]

/-- The isolation levels that give a consistent snapshot. -/
def isolationLevels : List String := ["REPEATABLE READ", "SERIALIZABLE"]

/-- The field that a key names after a start common to all keys. Only letters of ASCII have a
counterpart in a field name. -/
def fieldOf? (start key : String) : Option String :=
  fieldNames.find? fun name => (start ++ name).toLower == key.toLower

/-- The values that variables give to fields. -/
def ofEnvironment (environment : List (String × String)) : Attributes :=
  .ofEntries (environment.filterMap fun entry =>
    (fieldOf? variableStart entry.1).map fun name => (name, .text entry.2))

/-- The values that arguments give to fields. -/
def ofArguments (arguments : Attributes) : Attributes :=
  .ofEntries (arguments.entries.reverse.filterMap fun entry =>
    (fieldOf? "" entry.1).map fun name => (name, entry.2))

/-- Refuses the arguments that are no fields. -/
def noExtras (arguments : Attributes) : Checked Unit :=
  match arguments.names.filter fun name => (fieldOf? "" name).isNone with
  | [] => pure ()
  | extras => Except.error (extras.map fun name => ⟨[name], .extra⟩)

def ofFields (given : Attributes) : Checked Settings :=
  Settings.mk <$> given.optional "service_name" "demonlist-audit" Conversion.text
    <*> given.optional "database_url" "postgresql+asyncpg://localhost:5432/demonlist"
      Conversion.text
    <*> given.optional "db_pool_size" 5 Conversion.integer
    <*> given.optional "db_max_overflow" 2 Conversion.integer
    <*> given.optional "db_pool_timeout" 30 Conversion.integer
    <*> given.optional "db_echo" false Conversion.boolean
    <*> given.optional "reconstruction_isolation_level" "REPEATABLE READ"
      (Conversion.literal isolationLevels)
    <*> given.optional "log_level" "INFO" Conversion.text
    <*> given.optional "log_json" true Conversion.boolean

def read (environment : List (String × String)) (arguments : Attributes) :
    Except Error Settings :=
  Checked.orFail <| (fun settings _ => settings)
    <$> ofFields ((ofEnvironment environment).merge (ofArguments arguments)) <*> noExtras arguments

end Settings

end Chronicle
