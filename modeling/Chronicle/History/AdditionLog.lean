import Chronicle.ByKind
import Chronicle.Entity
import Chronicle.History.Timeline

/-!
# The log of additions

For each kind a timeline of the creations of its entities.

## Main definitions

* `AdditionLog` — the log, with `append`, `entries`, `createdAt`, `addedSince` and `count`.
-/

namespace Chronicle

/-- The creations of every kind, in the order of their moments. -/
structure AdditionLog where
  timelines : ByKind (List Addition)

namespace AdditionLog

/-- The log without entries. -/
def empty : AdditionLog := ⟨.replicate []⟩

def ofKind (log : AdditionLog) (kind : Kind) : List Addition := log.timelines.get kind

/-- Appends an entry in the place its moment gives it. -/
def append (log : AdditionLog) (a : Addition) : Except Error AdditionLog := do
  let timeline ← Timeline.insert Addition.timestamp a (log.ofKind a.kind)
  return ⟨log.timelines.set a.kind timeline⟩

/-- The entries of a kind from an optional moment on, oldest first. -/
def entries (log : AdditionLog) (kind : Kind) (since : Option Moment) :
    Except Error (List Addition) :=
  Timeline.sinceOr Addition.timestamp since (log.ofKind kind)

def createdAt (log : AdditionLog) (kind : Kind) (entityId : Int) : Option Moment :=
  ((log.ofKind kind).find? (·.entityId == entityId)).map (·.timestamp)

def addedSince (log : AdditionLog) (kind : Kind) (entityId : Int) (cutoff : Option Moment) :
    Except Error Bool := do
  return (← log.entries kind cutoff).any (·.entityId == entityId)

/-- The number of entries of a kind. -/
def count (log : AdditionLog) (kind : Kind) : Nat := (log.ofKind kind).length

end AdditionLog

end Chronicle
