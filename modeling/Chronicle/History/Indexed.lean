import Chronicle.ByKind
import Chronicle.Entity
import Chronicle.History.ModificationLog
import Chronicle.Sorting.Gallop

/-!
# Logs that find their places by halving

A log that keeps, beside the entries of each kind, the list of their moments. The place of an entry
and the start of a query are found by halving the list of moments; the entries themselves are not
looked at. Appending changes the two lists one after the other, once the place is known.

## Main definitions

* `Indexed` — a timeline and its moments, with `placeBehind`, `placeOf` and `since`.
* `IndexedLog` — such a timeline for each kind, with `append` and `count`.
* `IndexedModifications`, `IndexedAdditions` — the logs of modifications and of additions, with
  their queries.
-/

namespace Chronicle

variable {α : Type}

/-! ## Timelines -/

/-- Entries in the order of their moments, and their moments. -/
structure Indexed (α : Type) where
  entries : List α
  moments : List Moment

namespace Indexed

def empty : Indexed α := ⟨[], []⟩

/-- The place behind all moments that are not later. -/
def placeBehind (timeline : Indexed α) (moment : Moment) : Except Error Nat :=
  Sorting.bisect (fun other => do return !(← moment.before other)) timeline.moments
    0 timeline.moments.length

/-- The place of the first moment that is not earlier. -/
def placeOf (timeline : Indexed α) (moment : Moment) : Except Error Nat :=
  Sorting.bisect (fun other => other.before moment) timeline.moments 0 timeline.moments.length

/-- The entries from an optional moment on. -/
def since (timeline : Indexed α) (start : Option Moment) : Except Error (List α) :=
  match start with
  | none => .ok timeline.entries
  | some start => do return timeline.entries.drop (← timeline.placeOf start)

end Indexed

/-! ## Logs -/

/-- A timeline for each kind. -/
structure IndexedLog (α : Type) where
  timelines : ByKind (Indexed α)

namespace IndexedLog

/-- The log without entries. -/
def empty : IndexedLog α := ⟨.replicate .empty⟩

def ofKind (log : IndexedLog α) (kind : Kind) : Indexed α := log.timelines.get kind

/-- Inserts an entry among the entries of a kind. -/
def insertEntry (log : IndexedLog α) (kind : Kind) (place : Nat) (x : α) : IndexedLog α :=
  ⟨log.timelines.modify kind fun timeline =>
    { timeline with entries := timeline.entries.insertIdx place x }⟩

/-- Inserts a moment among the moments of a kind. -/
def insertMoment (log : IndexedLog α) (kind : Kind) (place : Nat) (moment : Moment) :
    IndexedLog α :=
  ⟨log.timelines.modify kind fun timeline =>
    { timeline with moments := timeline.moments.insertIdx place moment }⟩

/-- Appends an entry in the place its moment gives it: one change of the log after the other. -/
def append (kindOf : α → Kind) (stamp : α → Moment) (x : α) :
    ExceptT Error (StateM (IndexedLog α)) Unit := do
  let log ← get
  let place ← (log.ofKind (kindOf x)).placeBehind (stamp x)
  modify (·.insertEntry (kindOf x) place x)
  modify (·.insertMoment (kindOf x) place (stamp x))

/-- The number of entries of a kind. -/
def count (log : IndexedLog α) (kind : Kind) : Nat := (log.ofKind kind).entries.length

end IndexedLog

/-! ## Modifications -/

/-- The updates of every kind. -/
abbrev IndexedModifications : Type := IndexedLog Modification

namespace IndexedModifications

def append (m : Modification) : ExceptT Error (StateM IndexedModifications) Unit :=
  IndexedLog.append Modification.kind Modification.timestamp m

/-- The entries of a kind that a query asks for, oldest first. -/
def entries (log : IndexedModifications) (kind : Kind) (filter : ModificationFilter) :
    Except Error (List Modification) := do
  return (← (log.ofKind kind).since filter.since).filter filter.accepts

/-- The earliest entry of a kind that a query asks for. -/
def firstEntry (log : IndexedModifications) (kind : Kind) (filter : ModificationFilter) :
    Except Error (Option Modification) := do
  return (← entries log kind filter).head?

end IndexedModifications

/-! ## Additions -/

/-- The creations of every kind. -/
abbrev IndexedAdditions : Type := IndexedLog Addition

namespace IndexedAdditions

def append (a : Addition) : ExceptT Error (StateM IndexedAdditions) Unit :=
  IndexedLog.append Addition.kind Addition.timestamp a

/-- The entries of a kind from an optional moment on, oldest first. -/
def entries (log : IndexedAdditions) (kind : Kind) (since : Option Moment) :
    Except Error (List Addition) :=
  (log.ofKind kind).since since

def createdAt (log : IndexedAdditions) (kind : Kind) (entityId : Int) : Option Moment :=
  ((log.ofKind kind).entries.find? (·.entityId == entityId)).map (·.timestamp)

def addedSince (log : IndexedAdditions) (kind : Kind) (entityId : Int) (cutoff : Option Moment) :
    Except Error Bool := do
  return (← entries log kind cutoff).any (·.entityId == entityId)

end IndexedAdditions

end Chronicle
