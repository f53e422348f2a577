import Chronicle.Storage.Relational.Table

/-!
# Definition statements

The statements that define the tables: one for each enumeration, table, index and comment.

## Main definitions

* `definitions` — the statements, in the order of their texts.
-/

namespace Chronicle.Relational

/-! ## Columns -/

/-- A text between single quotes; a single quote inside is written twice. -/
def literal (s : String) : String := "'" ++ s.replace "'" "''" ++ "'"

def ColumnType.written : ColumnType → String
  | smallInteger => "SMALLINT"
  | integer => "INTEGER"
  | bigInteger => "BIGINT"
  | boundedText most => "VARCHAR(" ++ toString most ++ ")"
  | text => "TEXT"
  | reading => "TIMESTAMP WITHOUT TIME ZONE"
  | document => "JSONB"
  | label typeName _ => typeName

/-- A column of a table definition. The key numbers itself. -/
def Column.definition (c : Column) (key : String) : String :=
  c.name ++ " " ++ (if c.name = key then "SERIAL" else c.type.written)
    ++ if c.nullable then "" else " NOT NULL"

/-- The reference of a column to the key of another table. -/
def Column.reference? (c : Column) : Option String :=
  c.references.map fun table =>
    "FOREIGN KEY(" ++ c.name ++ ") REFERENCES " ++ table ++ " (id)"

/-- The statement that defines the enumeration of a column. -/
def Column.enumeration? (c : Column) : Option String :=
  match c.type with
  | .label typeName labels =>
    some ("CREATE TYPE " ++ typeName ++ " AS ENUM (" ++ ", ".intercalate (labels.map literal)
      ++ ")")
  | _ => none

/-- The statement that defines the index of a column. -/
def Column.index? (c : Column) (table : String) : Option String :=
  if c.indexed then
    some ("CREATE INDEX ix_" ++ table ++ "_" ++ c.name ++ " ON " ++ table ++ " (" ++ c.name ++ ")")
  else none

def Column.comment? (c : Column) (table : String) : Option String :=
  c.comment.map fun comment =>
    "COMMENT ON COLUMN " ++ table ++ "." ++ c.name ++ " IS " ++ literal comment

/-! ## Tables -/

def Table.definition (t : Table) : String :=
  let clauses := t.columns.map (·.definition t.key) ++ ["PRIMARY KEY (" ++ t.key ++ ")"]
    ++ t.columns.filterMap Column.reference?
  "CREATE TABLE " ++ t.name ++ " ( " ++ ", ".intercalate clauses ++ " )"

def Table.definitions (t : Table) : List String :=
  t.definition :: t.columns.filterMap Column.enumeration?
    ++ t.columns.filterMap (·.index? t.name) ++ t.columns.filterMap (·.comment? t.name)

/-- All statements, in the order of their texts. -/
def definitions : List String :=
  (Table.all.flatMap Table.definitions).mergeSort fun s t => decide (s ≤ t)

/-- The names of the tables, in their order. -/
def tableNames : List String := (Table.all.map Table.name).mergeSort fun s t => decide (s ≤ t)

end Chronicle.Relational
