import Chronicle.Proofs.Attributes
import Chronicle.Storage.Relational.Row

/-!
# Laws of rows

The columns of a row never change: writing a cell or overwriting with attributes keeps them, and
each column then holds what was written, else what it held before.

## Main definitions

* `Row.names` — the columns of a row.

## Main statements

* `Row.get_ofCells`, `Row.get_set`, `Row.get_assign` — what a row holds.
-/

namespace Chronicle.Relational.Row

variable {row : Row} {name : String}

/-- The columns of a row. -/
def names (row : Row) : List String := row.cells.map (·.1)

/-- The row with a cell of every column computed from the one it holds. -/
def mapCells (row : Row) (f : String → Cell → Cell) : Row :=
  ⟨row.cells.map fun c => (c.1, f c.1 c.2)⟩

@[simp] theorem names_mapCells (row : Row) (f : String → Cell → Cell) :
    (row.mapCells f).names = row.names := by
  simp [names, mapCells]

theorem lookup_mapCells (row : Row) (f : String → Cell → Cell) (name : String) :
    (row.mapCells f).cells.lookup name = (row.cells.lookup name).map (f name) :=
  Attributes.lookup_map_entries f row.cells name

theorem lookup_eq_none_iff : row.cells.lookup name = none ↔ name ∉ row.names := by
  simp only [List.lookup_eq_none_iff, names, List.mem_map, bne_iff_ne, ne_eq]
  constructor
  · rintro h ⟨c, hc, rfl⟩
    exact h c hc rfl
  · intro h c hc heq
    exact h ⟨c, hc, heq.symm⟩

theorem get_of_not_mem (h : name ∉ row.names) : row.get name = .null := by
  rw [get, lookup_eq_none_iff.2 h, Option.getD_none]

theorem get_mapCells {f : String → Cell → Cell} (h : name ∈ row.names) :
    (row.mapCells f).get name = f name (row.get name) := by
  rw [get, get, lookup_mapCells]
  cases hlookup : row.cells.lookup name with
  | none => exact absurd h (lookup_eq_none_iff.1 hlookup)
  | some c => rfl

/-! ## New rows -/

@[simp] theorem names_ofCells (table : Table) (named : List (String × Cell)) :
    (ofCells table named).names = table.columns.map (·.name) := by
  simp [names, ofCells]

theorem get_ofCells (table : Table) (named : List (String × Cell)) (name : String) :
    (ofCells table named).get name =
      if name ∈ table.columns.map (·.name) then (named.lookup name).getD .null else .null := by
  have hcells : (ofCells table named).cells =
      (table.columns.map (·.name)).map fun c => (c, (named.lookup c).getD .null) := by
    simp [ofCells]
  rw [get, hcells, Attributes.lookup_map_self]
  split <;> rfl

/-! ## Written rows -/

theorem set_eq_mapCells (row : Row) (column : String) (cell : Cell) :
    row.set column cell = row.mapCells fun name old => if name = column then cell else old := by
  refine congrArg Row.mk (List.map_congr_left fun c _ => ?_)
  by_cases h : c.1 = column
  · simp [h]
  · simp [h]

theorem assign_eq_mapCells (row : Row) (attributes : Attributes) :
    row.assign attributes =
      row.mapCells fun name old => ((attributes.get? name).map Cell.value).getD old := rfl

@[simp] theorem names_set (row : Row) (column : String) (cell : Cell) :
    (row.set column cell).names = row.names := by
  rw [set_eq_mapCells, names_mapCells]

@[simp] theorem names_assign (row : Row) (attributes : Attributes) :
    (row.assign attributes).names = row.names := by
  rw [assign_eq_mapCells, names_mapCells]

/-- A row holds the cell that was written into one of its columns. -/
theorem get_set (column : String) (cell : Cell) (h : name ∈ row.names) :
    (row.set column cell).get name = if name = column then cell else row.get name := by
  rw [set_eq_mapCells, get_mapCells h]

/-- A row holds what it was overwritten with, else what it held. -/
theorem get_assign (attributes : Attributes) (h : name ∈ row.names) :
    (row.assign attributes).get name =
      ((attributes.get? name).map Cell.value).getD (row.get name) := by
  rw [assign_eq_mapCells, get_mapCells h]

end Chronicle.Relational.Row
