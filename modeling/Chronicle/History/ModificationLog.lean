import Chronicle.ByKind
import Chronicle.Entity
import Chronicle.History.Timeline

/-!
# The log of modifications

For each kind a timeline of its updates. Entries are only ever appended; a query filters the
timeline of one kind.

## Main definitions

* `ModificationFilter` — what a query asks for, every part optional.
* `ModificationLog` — the log, with `append`, `entries`, `firstEntry` and `count`.
-/

namespace Chronicle

/-- What a query of modifications asks for. The sentinel counts only together with a name. -/
structure ModificationFilter where
  entityId : Option Int := none
  name : Option String := none
  since : Option Moment := none
  sentinel : Option Value := none

namespace ModificationFilter

/-- Whether an entry is of the entity asked for and carries the attribute asked for. -/
def accepts (filter : ModificationFilter) (m : Modification) : Bool :=
  (match filter.entityId with
    | none => true
    | some id => m.entityId == id) &&
  (match filter.name with
    | none => true
    | some name => m.carries name filter.sentinel)

end ModificationFilter

/-- The updates of every kind, in the order of their moments. -/
structure ModificationLog where
  timelines : ByKind (List Modification)

namespace ModificationLog

/-- The log without entries. -/
def empty : ModificationLog := ⟨.replicate []⟩

def ofKind (log : ModificationLog) (kind : Kind) : List Modification := log.timelines.get kind

/-- Appends an entry in the place its moment gives it. -/
def append (log : ModificationLog) (m : Modification) : Except Error ModificationLog := do
  let timeline ← Timeline.insert Modification.timestamp m (log.ofKind m.kind)
  return ⟨log.timelines.set m.kind timeline⟩

/-- The entries of a kind that a query asks for, oldest first. -/
def entries (log : ModificationLog) (kind : Kind) (filter : ModificationFilter) :
    Except Error (List Modification) := do
  let timeline ← Timeline.sinceOr Modification.timestamp filter.since (log.ofKind kind)
  return timeline.filter filter.accepts

/-- The earliest entry of a kind that a query asks for. -/
def firstEntry (log : ModificationLog) (kind : Kind) (filter : ModificationFilter) :
    Except Error (Option Modification) := do
  return (← log.entries kind filter).head?

/-- The number of entries of a kind. -/
def count (log : ModificationLog) (kind : Kind) : Nat := (log.ofKind kind).length

end ModificationLog

end Chronicle
