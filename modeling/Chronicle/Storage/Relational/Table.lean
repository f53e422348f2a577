import Chronicle.Kind

/-!
# Tables

The tables of the relational storage: for each kind one of the live entities, one of its
modifications and one of its additions. What is known about a table is data.

## Main definitions

* `ColumnType`, `Column` — columns.
* `Table` — the tables, with `name`, `columns`, `key` and `rowType`.
-/

namespace Chronicle.Relational

inductive ColumnType where
  | smallInteger
  | integer
  | bigInteger
  | boundedText (most : Nat)
  | text
  /-- A wall clock reading without an offset. -/
  | reading
  /-- A document of named values. -/
  | document
  /-- One of the labels of an enumeration with a name of its own. -/
  | label (typeName : String) (labels : List String)
  deriving DecidableEq, Repr

/-- A column. The key column of a table numbers its rows. -/
structure Column where
  name : String
  type : ColumnType
  nullable : Bool := false
  indexed : Bool := false
  /-- The table whose key the column holds. -/
  references : Option String := none
  comment : Option String := none
  deriving Repr

inductive Table where
  | entities (kind : Kind)
  | modifications (kind : Kind)
  | additions (kind : Kind)
  deriving DecidableEq, Repr

/-! ## Columns -/

def liveName : Kind → String
  | .demon => "demons"
  | .record => "records"

def demonColumns : List Column := [
  { name := "id", type := .integer },
  { name := "name", type := .boundedText 150, indexed := true },
  { name := "position", type := .smallInteger, indexed := true },
  { name := "requirement", type := .smallInteger },
  { name := "video", type := .boundedText 200, nullable := true },
  { name := "thumbnail", type := .text },
  { name := "verifier", type := .integer },
  { name := "publisher", type := .integer },
  { name := "level_id", type := .bigInteger, nullable := true },
  { name := "difficulty", type := .label "level_difficulty" difficulties,
    comment := some "Declaration order is tier order, hardest first" }]

def recordColumns : List Column := [
  { name := "id", type := .integer },
  { name := "progress", type := .smallInteger },
  { name := "video", type := .boundedText 200, nullable := true },
  { name := "status", type := .label "record_status" statuses },
  { name := "player", type := .integer, indexed := true },
  { name := "demon", type := .integer, indexed := true,
    references := some (liveName .demon) },
  { name := "enjoyment", type := .smallInteger, nullable := true }]

def additionColumns (kind : Kind) : List Column := [
  { name := "seq", type := .integer },
  { name := "entity_id", type := .integer, indexed := true,
    references := some (liveName kind) },
  { name := "actor_id", type := .integer },
  { name := "time", type := .reading, indexed := true }]

def modificationColumns (kind : Kind) : List Column :=
  additionColumns kind ++ [{ name := "diffs", type := .document }]

namespace Table

def all : List Table :=
  Kind.all.flatMap fun kind => [entities kind, modifications kind, additions kind]

def name : Table → String
  | entities kind => liveName kind
  | modifications kind => kind.name ++ "_modifications"
  | additions kind => kind.name ++ "_additions"

/-- The columns of a table; the key comes first. -/
def columns : Table → List Column
  | entities .demon => demonColumns
  | entities .record => recordColumns
  | modifications kind => modificationColumns kind
  | additions kind => additionColumns kind

/-- The column that numbers the rows of a table. -/
def key : Table → String
  | entities _ => "id"
  | modifications _ | additions _ => "seq"

def hasColumn (t : Table) (name : String) : Bool := t.columns.any (·.name == name)

/-- The names that every row answers to besides its columns. -/
def ownNames : List String := ["metadata", "mro", "registry", "__doc__", "__init__", "__mapper__",
  "__module__", "__table__", "__tablename__", "_sa_class_manager", "_sa_registry"]

/-- The name under which a row is known while it is built. -/
def selfName : String := "self"

def rowType : Table → String
  | entities .demon => "Demon"
  | entities .record => "Record"
  | modifications .demon => "DemonModification"
  | modifications .record => "RecordModification"
  | additions .demon => "DemonAddition"
  | additions .record => "RecordAddition"

end Table

end Chronicle.Relational
