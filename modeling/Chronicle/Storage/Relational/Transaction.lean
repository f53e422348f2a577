import Chronicle.Storage.Relational.Session
import Chronicle.Storage.UnitOfWork

/-!
# The relational storage

A unit of work is one transaction of a session: it is committed if the program ends without a
failure and rolled back otherwise. A snapshot sets its isolation level before it reads, and refuses
to write or to lock. An entity that is to be changed is locked when it is read, and a log entry is
only added after the row of its entity has been found.

## Main definitions

* `Work` — computations on a session that may fail.
* `Work.perform` — takes a storage step by calls on a session.
* `RelationalStore` — a session with the isolation level of snapshots; `RelationalStore.run` is a
  unit of work on it.
-/

namespace Chronicle.Relational

variable {σ : Type} [Session σ]

/-- A computation on a session that may fail. -/
abbrev Work (σ α : Type) : Type := ExceptT Error (StateM σ) α

namespace Work

def call (c : Call) : Work σ c.Answer := ExceptT.lift (Session.call c)

/-- Overwrites columns of the row of a key. -/
def assign (table : Table) (key : Int) (attributes : Attributes) : Work σ Unit :=
  modify (Session.assign table key attributes)

/-- Fails inside a snapshot. -/
def requireWritable (readOnly : Bool) : Work σ Unit :=
  if readOnly then throw .readOnly else pure ()

/-- Fails for an entity that has no row. -/
def requireRow (kind : Kind) (id : Int) : Work σ Unit := do
  if (← call (.find (.entities kind) id false)).isNone then throw (.unknownEntity kind.name id)

/-! ## Steps -/

def getEntity (kind : Kind) (id : Int) (lock : Bool) : Work σ (Option Entity) := do
  match ← call (.find (.entities kind) id lock) with
  | none => return none
  | some row => return some (← row.entity kind)

/-- Writes a new entity. -/
def insertEntity (kind : Kind) (attributes : Value) : Work σ Entity := do
  let row ← Row.ofAttributes? (.entities kind) attributes
  call (.add (.entities kind) row)
  call .flush
  let row ← call (.refresh (.entities kind) row)
  row.entity kind

def saveEntity (e : Entity) : Work σ Unit := do
  requireRow e.kind e.id
  assign (.entities e.kind) e.id e.attributes
  call .flush

/-- Adds a row to a log of an entity. -/
def appendRow (kind : Kind) (id : Int) (log : Table) (row : Row) : Work σ Unit := do
  requireRow kind id
  call (.add log row)
  call .flush

/-- Takes a storage step. -/
def perform (readOnly : Bool) : (s : Step) → Work σ s.Answer
  | .getEntity kind id lock => do
    if lock then requireWritable readOnly
    getEntity kind id lock
  | .listEntities kind => do
    (← call (.execute (.entities kind))).mapM (liftM <| Row.entity · kind)
  | .insertEntity kind attributes => do
    requireWritable readOnly
    insertEntity kind attributes
  | .saveEntity e => do
    requireWritable readOnly
    saveEntity e
  | .appendModification m => do
    requireWritable readOnly
    appendRow m.kind m.entityId (.modifications m.kind) (.ofModification m)
  | .appendAddition a => do
    requireWritable readOnly
    appendRow a.kind a.entityId (.additions a.kind) (.ofAddition a)
  | .modifications kind filter => do
    (← call (.execute (.modifications kind filter))).mapM (liftM <| Row.modification · kind)
  | .additions kind since => do
    (← call (.execute (.additions kind since))).mapM (liftM <| Row.addition · kind)

end Work

def runProgram {α : Type} (readOnly : Bool) : Program α → StateM σ α
  | .done a => pure a
  | .step s next => do runProgram readOnly (next (← (Work.perform readOnly s).run))

/-! ## Units of work -/

def call (c : Call) : StateM σ c.Answer := Session.call c

def transaction {α : Type} (isolation : String) (mode : Mode) (program : Program α)
    (failure? : α → Option Error) : StateM σ α := do
  call .connect
  call .start
  if mode = .snapshot then call (.isolate isolation)
  let result ← runProgram (mode == .snapshot) program
  match failure? result with
  | some e => call (.rollback e)
  | none => call .commit
  call .disconnect
  return result

end Relational

/-- A session with the isolation level of snapshots. -/
structure RelationalStore (σ : Type) where
  session : σ
  isolation : String

namespace RelationalStore

variable {σ : Type} [Relational.Session σ]

/-- A unit of work on a session. -/
def run {α : Type} (mode : Mode) (program : Program α) (failure? : α → Option Error)
    (store : RelationalStore σ) : Exit (RelationalStore σ) α :=
  let (result, session) :=
    Relational.transaction store.isolation mode program failure? store.session
  { result, failure := failure? result, state := { store with session } }

instance : UnitOfWork (RelationalStore σ) where
  run := run

end RelationalStore

end Chronicle
