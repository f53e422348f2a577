import Chronicle.Diff
import Chronicle.Service.Operation

/-!
# Tracked writes

The only writes of entities: each checks the attributes against the schema of the kind, and leaves
in the same unit of work the new state of the entity and one log entry, attributed to an actor.

## Main definitions

* `Service.create` — a new entity and its addition.
* `Service.update` — a changed entity and its modification.
-/

namespace Chronicle.Service

variable {σ : Type} [UnitOfWork σ]

/-- The actor of a tracked write. -/
def requireActor (operation : String) (actor : Option Actor) : Except Error Actor :=
  match actor with
  | some actor => .ok actor
  | none => .error (.missingActor operation)

/-! ## Creation -/

/-- Writes an entity and its addition. -/
def creation (kind : Kind) (attributes : Attributes) (actor : Actor) (clock : Moment) :
    Block Entity := do
  let entity ← Block.perform (.insertEntity kind attributes.toValue)
  let now ← Block.lift clock.toNaive
  Block.perform (.appendAddition ⟨kind, entity.id, actor.id, now⟩)
  return entity

def create (kind attributes : Value) (actor : Option Actor) (clock : Moment) :
    Operation σ Entity := do
  let actor ← requireActor "create" actor
  let kind ← Kind.ofValue kind
  let attributes ← kind.validate attributes
  let entity ← Operation.within .transaction (creation kind attributes actor clock)
  Operation.log .info "Tracked entity created" [
    ("kind", .text kind.name),
    ("entity_id", .int entity.id),
    ("actor_id", .int actor.id)]
  return entity

/-! ## Update -/

/-- Writes the changed attributes of an entity and the modification, even if nothing changed. -/
def alteration (kind : Kind) (id : Int) (changes : Attributes) (actor : Actor) (clock : Moment) :
    Block (Entity × Modification) := do
  let some before ← Block.perform (.getEntity kind id true)
    | throw (.unknownEntity kind.name id)
  let attributes ← Block.lift (kind.validate (before.attributes.merge changes).toValue)
  let after := { before with attributes }
  let now ← Block.lift clock.toNaive
  let entry ← Block.lift (Modification.between before after kind.tracked (some actor) now)
  Block.perform (.saveEntity after)
  Block.perform (.appendModification entry)
  return (after, entry)

/-- The changed names of a modification, in order. -/
def changedNames (entry : Modification) : List String :=
  entry.diffs.names.mergeSort fun s t => decide (s ≤ t)

/-- Overwrites attributes of an entity. -/
def update (kind : Value) (id : Int) (changes : Attributes) (actor : Option Actor)
    (clock : Moment) : Operation σ Entity := do
  let actor ← requireActor "update" actor
  let kind ← Kind.ofValue kind
  let (after, entry) ← Operation.within .transaction (alteration kind id changes actor clock)
  Operation.log .info "Tracked entity updated" [
    ("kind", .text kind.name),
    ("entity_id", .int id),
    ("actor_id", .int actor.id),
    ("changed", .list ((changedNames entry).map Value.text))]
  return after

end Chronicle.Service
