import Chronicle.Text.Integer
import Chronicle.Value.Text

/-!
# Faults of an engine

Why no engine can be set up: an address that cannot be read, a driver that is not there, options
that contradict each other, or arguments that do not fit.

## Main definitions

* `EngineFault` — the causes.
* `EngineFault.message` — their wording.
-/

namespace Chronicle

/-- Why no engine can be set up. -/
inductive EngineFault where
  /-- An address without a scheme. -/
  | malformedAddress
  /-- Something that is no address. -/
  | notAnAddress (found : Value)
  /-- A text where an integer is needed. -/
  | notAnInteger (text : String) (fault : Text.IntegerFault)
  | unknownPlugin (group name : String)
  /-- More parts than two. -/
  | tooManyParts
  /-- A driver whose package is not there. -/
  | missingPackage (name : String)
  /-- Hosts with ports of their own besides a list of ports. -/
  | mixedHosts
  /-- Ports that are no integers; an absent one is `none`. -/
  | badPorts (ports : List (Option String))
  /-- Hosts and ports of different number. -/
  | unpairedPorts
  /-- A host without a name among others. -/
  | missingHost
  /-- A port that is absent or zero among others. -/
  | missingPort
  /-- An option given more than once where one integer is needed. -/
  | repeatedOption
  /-- A word that is neither true nor false. -/
  | notATruthValue (word : String)
  | serverOfFile (address : String)
  /-- A pool size that is no number. -/
  | notASize (found : Value)
  /-- Arguments that a database in memory has no use for. -/
  | unusedArguments
  | waitingDriver (name : String)
  /-- A way of echoing that is not known. -/
  | unknownEcho (found : Value)
  /-- A list or an object as a way of echoing. -/
  | compoundEcho (found : Value)

namespace EngineFault

/-- The wording of a text that is not read as an integer. -/
def integerMessage (text : String) : Text.IntegerFault → String
  | .noInteger =>
    "invalid literal for int() with base 10: " ++ ((Text.quoted text).take 200).toString
  | .tooLong digits =>
    "Exceeds the limit (" ++ toString Text.digitLimit
      ++ " digits) for integer string conversion: value has " ++ toString digits
      ++ " digits; use sys.set_int_max_str_digits() to increase the limit"

/-- A list of ports, written between brackets. -/
def writtenPorts (ports : List (Option String)) : String :=
  match ports.map fun port => (port.map Text.quoted).getD "None" with
  | [only] => "(" ++ only ++ ",)"
  | all => "(" ++ ", ".intercalate all ++ ")"

/-- The wording of a fault. -/
def message : EngineFault → String
  | malformedAddress => "Could not parse SQLAlchemy URL from given URL string"
  | notAnAddress found => "Expected string or URL object, got " ++ found.written
  | notAnInteger text fault => integerMessage text fault
  | unknownPlugin group name => "Can't load plugin: sqlalchemy." ++ group ++ ":" ++ name
  | tooManyParts => "too many values to unpack (expected 2)"
  | missingPackage name => "No module named '" ++ name ++ "'"
  | mixedHosts =>
    "Can't mix 'multihost' formats together; use \"host=h1,h2,h3&port=p1,p2,p3\" or "
      ++ "\"host=h1:p1&host=h2:p2&host=h3:p3\" separately"
  | badPorts ports => "Received non-integer port arguments: " ++ writtenPorts ports
  | unpairedPorts => "number of hosts and ports don't match"
  | missingHost => "All hosts are required to be present for asyncpg multiple host URL"
  | missingPort => "All ports are required to be present for asyncpg multiple host URL"
  | repeatedOption =>
    "int() argument must be a string, a bytes-like object or a real number, not 'tuple'"
  | notATruthValue word => "String is not true/false: " ++ Text.quoted word
  | serverOfFile address =>
    "Invalid SQLite URL: " ++ address ++ "\nValid SQLite URL forms are sqlite:///:memory: or "
      ++ "sqlite:////absolute/path/to/file.db"
  | notASize found => "unsupported operand type(s) for -: 'int' and '" ++ found.typeName ++ "'"
  | unusedArguments =>
    "Invalid argument(s) 'max_overflow','pool_timeout' sent to create_engine(), using "
      ++ "configuration SQLiteDialect_pysqlite/SingletonThreadPool/Engine.  Please check that the "
      ++ "keyword arguments are appropriate for this combination of components."
  | waitingDriver name =>
    "The asyncio extension requires an async driver to be used. The loaded '" ++ name
      ++ "' is not async."
  | unknownEcho found => found.written
  | compoundEcho found => "unhashable type: '" ++ found.typeName ++ "'"

end EngineFault

end Chronicle
