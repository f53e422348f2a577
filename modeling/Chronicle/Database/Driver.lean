import Chronicle.Database.Options

/-!
# Drivers

A scheme names a kind of database and, behind a plus sign, a driver; every kind has a driver of its
own choice. Only one of the known drivers can be used: the others need packages that are not there,
or wait for their database.

## Main definitions

* `Driver` — what is known about a driver.
* `Driver.ofScheme` — the driver of a scheme.
* `Driver.check` — whether a driver can be used with an address.
-/

namespace Chronicle

/-- What is known about a driver. -/
inductive Driver where
  /-- A driver that can be used. -/
  | ready
  /-- A driver for files, which waits for its database. -/
  | file
  /-- A driver whose package is not there. -/
  | missing (package : String)
  deriving DecidableEq, Repr

namespace Driver

/-- The drivers of one kind of database, by name, and the driver of its own choice. -/
structure Family where
  kind : String
  choice : String
  drivers : List (String × Driver)

/-- The name under which the driver of a family's own choice is known too. -/
def ownChoice : String := "base"

/-- The drivers for the servers of one family that go by two names. -/
def sharedDrivers : List (String × Driver) := [
  ("mysqldb", .missing "MySQLdb"), ("pymysql", .missing "pymysql"),
  ("aiomysql", .missing "aiomysql"), ("asyncmy", .missing "asyncmy"),
  ("cymysql", .missing "cymysql"), ("mysqlconnector", .missing "mysql"),
  ("mariadbconnector", .missing "mariadb"), ("pyodbc", .missing "pyodbc")]

/-- The known drivers. -/
def families : List Family := [
  { kind := "postgresql", choice := "psycopg2", drivers := [
      ("asyncpg", .ready), ("psycopg2", .missing "psycopg2"), ("psycopg", .missing "psycopg"),
      ("psycopg_async", .missing "psycopg"), ("psycopg2cffi", .missing "psycopg2cffi"),
      ("pg8000", .missing "pg8000")] },
  { kind := "sqlite", choice := "pysqlite", drivers := [
      ("pysqlite", .file), ("aiosqlite", .missing "aiosqlite"),
      ("pysqlcipher", .missing "pysqlcipher3")] },
  { kind := "mysql", choice := "mysqldb", drivers := sharedDrivers },
  { kind := "mariadb", choice := "mysqldb", drivers := sharedDrivers },
  { kind := "oracle", choice := "cx_oracle", drivers := [
      ("cx_oracle", .missing "cx_Oracle"), ("oracledb", .missing "oracledb"),
      ("oracledb_async", .missing "oracledb")] },
  { kind := "mssql", choice := "pyodbc", drivers := [
      ("pyodbc", .missing "pyodbc"), ("pymssql", .missing "pymssql"),
      ("aioodbc", .missing "aioodbc")] }]

def Family.driver? (f : Family) (name : String) : Option Driver :=
  f.drivers.lookup (if name = ownChoice then f.choice else name)

def find? (kind name : String) : Option Driver :=
  (families.find? (·.kind == kind)).bind (·.driver? name)

def ofScheme (scheme : String) : Except EngineFault Driver := do
  let parts := scheme.splitOn "+"
  let found ← match parts with
    | [kind] => pure (find? kind ownChoice)
    | [kind, name] => pure (find? kind name)
    | _ => throw .tooManyParts
  match found with
  | some driver => return driver
  | none => throw (.unknownPlugin "dialects" (".".intercalate parts))

/-- The name of a database that is kept in memory. -/
def memoryName : String := ":memory:"

/-- Whether the address of a file names none. -/
def isInMemory (a : Address) : Bool :=
  (a.database.getD "").isEmpty || a.database == some memoryName
    || a.option? "mode" == some ["memory"]

def namesServer (a : Address) : Bool :=
  !(a.user.getD "").isEmpty || !(a.host.getD "").isEmpty || !(a.password.getD "").isEmpty
    || a.port.getD 0 ≠ 0

/-- Fails if a driver cannot be used with an address. -/
def check (driver : Driver) (a : Address) : Except EngineFault Unit :=
  match driver with
  | ready => a.checkOptions
  | missing package => .error (.missingPackage package)
  | file =>
    if namesServer a then .error (.serverOfFile a.written)
    else if isInMemory a then .error .unusedArguments
    else .ok ()

end Driver

end Chronicle
