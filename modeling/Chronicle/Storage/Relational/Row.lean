import Chronicle.Entity
import Chronicle.Storage.Relational.Table

/-!
# Rows

A row holds a cell for each column of its table. Entities and log entries are read from rows column
by column.

## Main definitions

* `Cell`, `Row` — cells and rows.
* `Row.ofCells`, `Row.ofAttributes?` — a row of a table from named cells.
* `Row.entity`, `Row.modification`, `Row.addition` — what a row stands for.
-/

namespace Chronicle.Relational

/-- What a row holds in a column. -/
inductive Cell where
  | value (v : Value)
  | moment (m : Moment)
  /-- A label of a database enumeration. -/
  | label (s : String)
  deriving Inhabited

namespace Cell

/-- The cell of a column that was not written. -/
def null : Cell := .value .null

/-- The value that an attribute takes from a cell: a label is a text. -/
def plain : Cell → Value
  | value v => v
  | moment m => .text m.written
  | label s => .text s

def asMoment : Cell → Except Refusal Moment
  | moment m => .ok m
  | value v => Conversion.moment v
  | label _ => .error .notAMoment

/-- A cell as a document; what counts as nothing stands for the empty one. -/
def asDocument (c : Cell) : Except Refusal Attributes :=
  if c.plain.isVoid then .ok .empty else Conversion.attributes c.plain

end Cell

/-- The cells of a row by their columns. -/
structure Row where
  cells : List (String × Cell)
  deriving Inhabited

namespace Row

def get (row : Row) (column : String) : Cell := (row.cells.lookup column).getD .null

/-- A row of a table; columns that are not named are null. -/
def ofCells (table : Table) (named : List (String × Cell)) : Row :=
  ⟨table.columns.map fun c => (c.name, (named.lookup c.name).getD .null)⟩

def set (row : Row) (column : String) (cell : Cell) : Row :=
  ⟨row.cells.map fun c => if c.1 = column then (column, cell) else c⟩

/-- Overwrites the columns of a row that a set names; names that are no column are passed over. -/
def assign (row : Row) (attributes : Attributes) : Row :=
  ⟨row.cells.map fun c => (c.1, ((attributes.get? c.1).map Cell.value).getD c.2)⟩

/-- Whether a new row takes a value under a name. -/
def takes (table : Table) (name : String) : Bool :=
  table.hasColumn name || Table.ownNames.contains name

/-- A new row of a table from the values of its columns. Values under other names that a row answers
to are passed over. -/
def ofAttributes? (table : Table) (attributes : Value) : Except Error Row :=
  match Attributes.ofValue? attributes with
  | none => .error (.notColumns table.rowType attributes)
  | some attributes =>
    if attributes.has Table.selfName then
      .error (.repeatedArgument "__init__()" Table.selfName)
    else match attributes.names.find? fun name => !takes table name with
      | some name => .error (.unknownColumn name table.rowType)
      | none => .ok (ofCells table (attributes.entries.map fun e => (e.1, .value e.2)))

/-! ## What a row stands for -/

/-- The attributes of an entity, from the columns of its schema. -/
def attributes (row : Row) (kind : Kind) : Attributes :=
  ⟨kind.spec.schema.fields.map fun f => (f.name, (row.get f.name).plain)⟩

def integer (row : Row) (column : String) : Checked Int :=
  Attributes.field column (Conversion.integer (row.get column).plain)

def entity (row : Row) (kind : Kind) : Except Error Entity :=
  Checked.orFail <| (fun id => ⟨id, kind, row.attributes kind⟩) <$> row.integer "id"

def modification (row : Row) (kind : Kind) : Except Error Modification :=
  Checked.orFail <| Modification.mk kind <$> row.integer "entity_id" <*> row.integer "actor_id"
    <*> Attributes.field "timestamp" (row.get "time").asMoment
    <*> Attributes.field "diffs" (row.get "diffs").asDocument

def addition (row : Row) (kind : Kind) : Except Error Addition :=
  Checked.orFail <| Addition.mk kind <$> row.integer "entity_id" <*> row.integer "actor_id"
    <*> Attributes.field "timestamp" (row.get "time").asMoment

/-- The row of an addition, its number not yet given. -/
def ofAddition (a : Addition) : Row :=
  ofCells (.additions a.kind) [
    ("entity_id", .value (.int a.entityId)),
    ("actor_id", .value (.int a.actorId)),
    ("time", .moment a.timestamp)]

/-- The row of a modification, its number not yet given. -/
def ofModification (m : Modification) : Row :=
  ofCells (.modifications m.kind) [
    ("entity_id", .value (.int m.entityId)),
    ("actor_id", .value (.int m.actorId)),
    ("time", .moment m.timestamp),
    ("diffs", .value m.diffs.toValue)]

end Row

end Chronicle.Relational
