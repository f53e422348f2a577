import Chronicle.History.ModificationLog
import Chronicle.Storage.Relational.Row

/-!
# Queries

A query asks for the rows of one table that meet all of its conditions, in the order of some of its
columns. Its text names a parameter for every value; parameters of one base name are numbered.

## Main definitions

* `Condition`, `Select` — queries.
* `Select.entities`, `Select.modifications`, `Select.additions` — the queries of the storage.
* `Select.text`, `Select.parameters` — a query as a statement with parameters.
-/

namespace Chronicle.Relational

/-- A condition on the rows of a table. -/
inductive Condition where
  /-- The column holds the number. -/
  | equals (column : String) (n : Int)
  /-- The column holds the moment or a later one. -/
  | notBefore (column : String) (m : Moment)
  | hasName (column name : String)
  /-- The document in the column has another value under the name. -/
  | differs (column name : String) (v : Value)

/-- A query of one table. -/
structure Select where
  table : Table
  conditions : List Condition
  order : List String

/-! ## The queries of the storage -/

namespace Select

def entities (kind : Kind) : Select where
  table := .entities kind
  conditions := []
  order := ["id"]

def filterConditions (filter : ModificationFilter) : List Condition :=
  (filter.entityId.map (.equals "entity_id")).toList
    ++ (filter.since.map (.notBefore "time")).toList
    ++ match filter.name, filter.sentinel with
      | none, _ => []
      | some name, none => [.hasName "diffs" name]
      | some name, some sentinel => [.hasName "diffs" name, .differs "diffs" name sentinel]

def modifications (kind : Kind) (filter : ModificationFilter) : Select where
  table := .modifications kind
  conditions := filterConditions filter
  order := ["time", "seq"]

def additions (kind : Kind) (since : Option Moment) : Select where
  table := .additions kind
  conditions := (since.map (.notBefore "time")).toList
  order := ["time", "seq"]

end Select

/-! ## Statements -/

def Table.qualified (t : Table) (column : String) : String := t.name ++ "." ++ column

/-- The name of the next parameter of a base name, after the base names already used. -/
def parameterName (used : List String) (base : String) : String :=
  base ++ "_" ++ toString (used.count base + 1)

/-- The place of a parameter in a statement. -/
def placeholder (name : String) : String := "%(" ++ name ++ ")s"

namespace Condition

/-- The values of a condition under the base names of their parameters. -/
def bases : Condition → List (String × Cell)
  | equals column n => [(column, .value (.int n))]
  | notBefore column m => [(column, .moment m)]
  | hasName column name => [(column, .value (.text name))]
  | differs column name v => [(column, .value (.text name)), ("param", .value v)]

/-- The text of a condition, after the base names already used. -/
def text (t : Table) (used : List String) (c : Condition) : String :=
  let parameter (base : String) := placeholder (parameterName used base)
  match c with
  | equals column _ => t.qualified column ++ " = " ++ parameter column
  | notBefore column _ => t.qualified column ++ " >= " ++ parameter column
  | hasName column _ => t.qualified column ++ " ? " ++ parameter column
  | differs column _ _ =>
    "(" ++ t.qualified column ++ " -> " ++ parameter column ++ ") != " ++ parameter "param"
      ++ "::JSONB"

def texts (t : Table) (used : List String) : List Condition → List String
  | [] => []
  | c :: rest => c.text t used :: texts t (used ++ c.bases.map (·.1)) rest

def parameters (used : List String) : List Condition → List (String × Cell)
  | [] => []
  | c :: rest =>
    c.bases.map (fun b => (parameterName used b.1, b.2))
      ++ parameters (used ++ c.bases.map (·.1)) rest

end Condition

namespace Select

def text (q : Select) : String :=
  let columns := ", ".intercalate (q.table.columns.map fun c => q.table.qualified c.name)
  let conditions := Condition.texts q.table [] q.conditions
  "SELECT " ++ columns ++ " FROM " ++ q.table.name
    ++ (if conditions.isEmpty then "" else " WHERE " ++ " AND ".intercalate conditions)
    ++ " ORDER BY " ++ ", ".intercalate (q.order.map q.table.qualified)

def parameters (q : Select) : List (String × Cell) := Condition.parameters [] q.conditions

end Select

end Chronicle.Relational
