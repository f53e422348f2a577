import Chronicle.Reconstruction
import Chronicle.Service.Operation

/-!
# Reads of the present and the past

Every read runs in a snapshot. The state at a moment is derived from the present state and both
logs; nothing else is stored.

## Main definitions

* `Service.get` — an entity as it is.
* `Service.auditTrail` — the modifications of an entity, oldest first.
* `Service.reconstructAt` — the ordering of a kind by an attribute at a moment.
* `Service.movements` — what changed between two moments.
-/

namespace Chronicle.Service

variable {σ : Type} [UnitOfWork σ]

/-! ## The present -/

def get (kind : Value) (id : Int) : Operation σ Entity := do
  let kind ← Kind.ofValue kind
  match ← Operation.within .snapshot (Block.perform (.getEntity kind id false)) with
  | some entity => return entity
  | none => Operation.lift (.error (.unknownEntity kind.name id))

/-- The modifications of an entity. -/
def auditTrail (kind : Value) (id : Int) : Operation σ (List Modification) := do
  let kind ← Kind.ofValue kind
  Operation.within .snapshot (Block.perform (.modifications kind { entityId := some id }))

/-! ## The past -/

/-- The attribute that orders a kind when none is asked for. -/
def standardOrder : String := "position"

/-- What a reconstruction reads: the entities, and the entries from the moment on. -/
structure Evidence where
  entities : List Entity
  modifications : List Modification
  additions : List Addition

/-- Reads what a reconstruction needs. -/
def evidence (kind : Kind) (name : String) (target : Moment) : Block Evidence := do
  let entities ← Block.perform (.listEntities kind)
  let modifications ← Block.perform (.modifications kind
    { name := some name, since := some target, sentinel := kind.sentinel? name })
  let additions ← Block.perform (.additions kind (some target))
  return { entities, modifications, additions }

/-- The ordering of a kind by a tracked attribute at a moment. -/
def reconstructAt (kind : Value) (moment : Moment) (name : Option String) :
    Operation σ (List HistoricalRow) := do
  let kind ← Kind.ofValue kind
  let name ← kind.requireTracked name
  let target ← moment.toNaive
  let found ← Operation.within .snapshot (evidence kind name target)
  let rows ← reconstruct found.entities found.modifications found.additions target name
    (kind.sentinel? name) (kind.ranking? name)
  Operation.log .debug "Reconstructed historical ordering" [
    ("kind", .text kind.name),
    ("attribute", .text name),
    ("target", .text target.written),
    ("entities", .int rows.length)]
  return rows

/-- What changed between two moments. -/
def movements (kind : Value) (source target : Moment) (name : Option String) :
    Operation σ Movements := do
  let start ← source.utc
  let stop ← target.utc
  if stop.micros ≤ start.micros then Operation.lift (.error .emptyInterval)
  let earlier ← reconstructAt kind source name
  let later ← reconstructAt kind target name
  return Chronicle.movements earlier later

end Chronicle.Service
