import Chronicle.History.AdditionLog
import Chronicle.Storage.EntityTable
import Chronicle.Storage.UnitOfWork

/-!
# The in-memory storage

A store holds the entities of every kind, both logs, and the next id of every kind. A transaction
stages its writes: reads of entities see the store overlaid with what is staged, queries of the logs
see the store alone. A transaction that ends without a failure publishes entities, then
modifications, then additions; if a log refuses an entry, what was published before stays. Ids are
handed out from the store at once and never again.

## Main definitions

* `Store` — the store.
* `Staging` — a store with staged writes; `Staging.perform` takes a step.
* `Staging.publish` — the end of a transaction.
* `Store.run` — a unit of work on a store.
-/

namespace Chronicle

/-- Entities, logs and the next ids. -/
structure Store where
  entities : ByKind EntityTable
  modifications : ModificationLog
  additions : AdditionLog
  nextIds : ByKind Int

def Store.empty : Store where
  entities := .replicate .empty
  modifications := .empty
  additions := .empty
  nextIds := .replicate 1

/-- A store with the writes of a transaction. -/
structure Staging where
  store : Store
  readOnly : Bool
  entities : ByKind EntityTable
  modifications : List Modification
  additions : List Addition

namespace Staging

def start (store : Store) (mode : Mode) : Staging where
  store := store
  readOnly := mode == .snapshot
  entities := .replicate .empty
  modifications := []
  additions := []

/-- The entity of an id as the transaction sees it. -/
def find? (st : Staging) (kind : Kind) (id : Int) : Option Entity :=
  ((st.entities.get kind).get? id).or ((st.store.entities.get kind).get? id)

/-- Fails for an entity that does not exist. -/
def requireEntity (st : Staging) (kind : Kind) (id : Int) : Except Error Unit :=
  if (st.find? kind id).isSome then .ok () else .error (.unknownEntity kind.name id)

/-- The entities of a kind as the transaction sees them. -/
def list (st : Staging) (kind : Kind) : List Entity :=
  ((st.store.entities.get kind).overlay (st.entities.get kind)).rows

def stage (st : Staging) (e : Entity) : Staging :=
  { st with entities := st.entities.modify e.kind (·.upsert e) }

/-- Takes the next id of a kind from the store. -/
def takeId (st : Staging) (kind : Kind) : Int × Staging :=
  (st.store.nextIds.get kind,
    { st with store := { st.store with nextIds := st.store.nextIds.modify kind (· + 1) } })

/-- Stages a new entity. Its id is spent even if the attributes are no object. -/
def insert (st : Staging) (kind : Kind) (attributes : Value) : Except Error Entity × Staging :=
  let (id, st) := st.takeId kind
  match Attributes.ofValue? attributes with
  | some attributes => (.ok ⟨id, kind, attributes⟩, st.stage ⟨id, kind, attributes⟩)
  | none => (.error (.invalid [⟨["attributes"], .notAnObject⟩]), st)

def perform (st : Staging) : (s : Step) → Except Error s.Answer × Staging
  | .getEntity kind id _ => (.ok (st.find? kind id), st)
  | .listEntities kind => (.ok (st.list kind), st)
  | .insertEntity kind attributes =>
    if st.readOnly then (.error .readOnly, st) else st.insert kind attributes
  | .saveEntity e =>
    if st.readOnly then (.error .readOnly, st)
    else match st.requireEntity e.kind e.id with
      | .error error => (.error error, st)
      | .ok () => (.ok (), st.stage e)
  | .appendModification m =>
    if st.readOnly then (.error .readOnly, st)
    else match st.requireEntity m.kind m.entityId with
      | .error error => (.error error, st)
      | .ok () => (.ok (), { st with modifications := st.modifications ++ [m] })
  | .appendAddition a =>
    if st.readOnly then (.error .readOnly, st)
    else match st.requireEntity a.kind a.entityId with
      | .error error => (.error error, st)
      | .ok () => (.ok (), { st with additions := st.additions ++ [a] })
  | .modifications kind filter => (st.store.modifications.entries kind filter, st)
  | .additions kind since => (st.store.additions.entries kind since, st)

def run {α : Type} : Program α → Staging → α × Staging
  | .done a, st => (a, st)
  | .step s next, st =>
    let (answer, st) := st.perform s
    run (next answer) st

/-! ## Publishing -/

/-- Appends entries to a log one by one, up to the first that the log refuses. -/
def appendAll {α γ : Type} (append : γ → α → Except Error γ) : γ → List α → γ × Option Error
  | log, [] => (log, none)
  | log, x :: rest =>
    match append log x with
    | .ok log => appendAll append log rest
    | .error e => (log, some e)

/-- Publishes what is staged: entities, then modifications, then additions, up to the first entry
that a log refuses. -/
def publish (st : Staging) : Store × Option Error :=
  let store := { st.store with
    entities := .zipWith EntityTable.overlay st.store.entities st.entities }
  let (modifications, failure) :=
    appendAll ModificationLog.append store.modifications st.modifications
  let store := { store with modifications := modifications }
  match failure with
  | some e => (store, some e)
  | none =>
    let (additions, failure) := appendAll AdditionLog.append store.additions st.additions
    ({ store with additions := additions }, failure)

end Staging

namespace Store

def rolledBack : LogLine := { level := .debug, event := .text "In-memory transaction rolled back" }

/-- A unit of work on a store. A failure leaves the store as it was, spent ids apart. -/
def run {α : Type} (mode : Mode) (program : Program α) (failure? : α → Option Error)
    (store : Store) : Exit Store α :=
  let (result, st) := Staging.run program (.start store mode)
  match failure? result, mode with
  | some e, .transaction => { result, failure := some e, state := st.store, lines := [rolledBack] }
  | failure, .snapshot => { result, failure, state := st.store }
  | none, .transaction =>
    let (published, failure) := st.publish
    { result, failure, state := published }

instance : UnitOfWork Store where
  run := Store.run

end Store

end Chronicle
