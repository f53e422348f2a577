import Chronicle.Entity
import Chronicle.History.Timeline
import Chronicle.Sorting.Insertion
import Chronicle.Sorting.Runs

/-!
# Reconstruction of an earlier ordering

What an attribute of a set of entities was at an earlier moment follows from their present state and
the logs. The first update from that moment on that recorded a usable previous value of the
attribute ended the state in force at the moment, so the value it recorded is the historical one;
without such an update the present value is. Entities created at the moment or later are left out.

## Main definitions

* `HistoricalRow` — an entity with its historical and its present value.
* `SortKey` — the order of rows: null last, then by rank or value, then by id.
* `reconstructBy`, `reconstruct` — the rows at a moment, in order.
* `Movement`, `movements` — what changed between two reconstructions.
-/

namespace Chronicle

/-- An entity in a reconstructed ordering. -/
structure HistoricalRow where
  entity : Entity
  historical : Value
  current : Value

namespace HistoricalRow

def entityId (row : HistoricalRow) : Int := row.entity.id

def changedSince (row : HistoricalRow) : Bool := !row.historical.same row.current

end HistoricalRow

/-! ## The order of rows -/

/-- What a row is ordered by. -/
structure SortKey where
  absent : Bool
  value : Value
  id : Int

namespace SortKey

/-- The key of a value and an id; where values have ranks, a value counts by its rank. -/
def ofRanked (rank : Option (Value → Except Error Value)) (v : Value) (id : Int) :
    Except Error SortKey :=
  match v, rank with
  | .null, _ => .ok ⟨true, .int 0, id⟩
  | v, none => .ok ⟨false, v, id⟩
  | v, some rank => do return ⟨false, ← rank v, id⟩

/-- The key of a value and an id; a value of a closed set of labels counts by its rank. -/
def ofValue (ranking : Option (List String)) (v : Value) (id : Int) : Except Error SortKey :=
  ofRanked (ranking.map rankOf) v id

/-- Whether a key comes before another: the first part in which they differ decides. -/
def before (a b : SortKey) : Except Error Bool :=
  if a.absent ≠ b.absent then .ok (!a.absent && b.absent)
  else if a.value.agrees b.value then .ok (decide (a.id < b.id))
  else match a.value.less? b.value with
    | some less => .ok less
    | none => .error .incomparable

end SortKey

def HistoricalRow.keyed (rank : Option (Value → Except Error Value)) (row : HistoricalRow) :
    Except Error (SortKey × HistoricalRow) := do
  return (← SortKey.ofRanked rank row.historical row.entityId, row)

/-- Puts keyed rows in the order of their keys. As long as no key holds what is no number, keys have
one stable order, and any sort finds it; otherwise the runs of the list decide. -/
def sortKeyed (rows : List (SortKey × HistoricalRow)) :
    Except Error (List (SortKey × HistoricalRow)) :=
  if rows.all fun row => row.1.value.isRegular then
    Sorting.insertionSort (fun a b => a.1.before b.1) rows
  else Sorting.runSort (fun a b => a.1.before b.1) rows

/-- The rows in the order of their keys. -/
def sortRowsBy (rank : Option (Value → Except Error Value)) (rows : List HistoricalRow) :
    Except Error (List HistoricalRow) := do
  let keyed ← rows.mapM (HistoricalRow.keyed rank)
  return (← sortKeyed keyed).map (·.2)

/-- The rows in the order of their keys, where values may be labels in the order of a ranking. -/
def sortRows (ranking : Option (List String)) (rows : List HistoricalRow) :
    Except Error (List HistoricalRow) :=
  sortRowsBy (ranking.map rankOf) rows

/-! ## Reconstruction -/

/-- The ids of the entities created at a moment or later. -/
def addedFrom (additions : List Addition) (moment : Moment) : Except Error (List Int) := do
  return (← Timeline.notBefore Addition.timestamp moment additions).map (·.entityId)

/-- The updates from a moment on that recorded a usable previous value, oldest first. -/
def changesFrom (modifications : List Modification) (moment : Moment) (name : String)
    (sentinel : Option Value) : Except Error (List Modification) := do
  let sorted ← Timeline.sort Modification.timestamp modifications
  let late ← Timeline.notBefore Modification.timestamp moment sorted
  return late.filter fun m => m.carries name sentinel

/-- The row of an entity, given the usable updates from the moment on. -/
def rowFor (changes : List Modification) (name : String) (entity : Entity) : HistoricalRow where
  entity := entity
  historical := match changes.find? (·.entityId == entity.id) with
    | some m => m.diffs.get name
    | none => entity.value name
  current := entity.value name

/-- The ordering of entities by an attribute at a moment, where values may have ranks. -/
def reconstructBy (entities : List Entity) (modifications : List Modification)
    (additions : List Addition) (moment : Moment) (name : String) (sentinel : Option Value)
    (rank : Option (Value → Except Error Value)) : Except Error (List HistoricalRow) := do
  let added ← addedFrom additions moment
  let changes ← changesFrom modifications moment name sentinel
  let present := entities.filter fun e => !added.contains e.id
  sortRowsBy rank (present.map (rowFor changes name))

/-- The ordering of entities by an attribute at a moment, where values may be labels in the order of
a ranking. -/
def reconstruct (entities : List Entity) (modifications : List Modification)
    (additions : List Addition) (moment : Moment) (name : String) (sentinel : Option Value)
    (ranking : Option (List String)) : Except Error (List HistoricalRow) :=
  reconstructBy entities modifications additions moment name sentinel (ranking.map rankOf)

/-! ## Movements -/

/-- An entity whose value differs between two moments. -/
structure Movement where
  entity : Entity
  source : Value
  target : Value

/-- What changed between two reconstructions. -/
structure Movements where
  /-- The rows of the later one whose entities are not in the earlier one. -/
  added : List HistoricalRow
  /-- The entities of both whose values differ. -/
  moved : List Movement

/-- The last row of an entity. -/
def rowOf? (rows : List HistoricalRow) (id : Int) : Option HistoricalRow :=
  rows.reverse.find? (·.entityId == id)

/-- The movement to a later row, if its entity has an earlier row with another value. -/
def movementTo? (earlier : List HistoricalRow) (row : HistoricalRow) : Option Movement :=
  match rowOf? earlier row.entityId with
  | none => none
  | some previous =>
    if previous.historical.same row.historical then none
    else some ⟨row.entity, previous.historical, row.historical⟩

/-- What changed between two reconstructions, in the order of the later one. -/
def movements (earlier later : List HistoricalRow) : Movements where
  added := later.filter fun row => (rowOf? earlier row.entityId).isNone
  moved := later.filterMap (movementTo? earlier)

end Chronicle
