import Chronicle.Storage.Relational.Select

/-!
# Sessions

A session is a connection through which rows are found, added and queried inside one transaction.
The rows that it hands out are held by the session: overwriting columns of one is no call, the next
flush writes it.

## Main definitions

* `Call`, `Call.Answer` — the calls and what each answers.
* `Session` — what can be called.
* `StandIn` — a session over given rows and query results that records its calls.
-/

namespace Chronicle.Relational

/-- A call on a session. -/
inductive Call where
  | connect
  | start
  /-- Chooses the isolation level of the transaction. -/
  | isolate (level : String)
  /-- Finds the row of a key, locking it if asked to. -/
  | find (table : Table) (key : Int) (lock : Bool)
  | add (table : Table) (row : Row)
  /-- Writes what was added or overwritten. -/
  | flush
  /-- Reads an added row back, with its key. -/
  | refresh (table : Table) (row : Row)
  | execute (query : Select)
  | commit
  | rollback (cause : Error)
  | disconnect

abbrev Call.Answer : Call → Type
  | find .. => Option Row
  | refresh .. => Row
  | execute _ => List Row
  | connect | start | isolate _ | add .. | flush | commit | rollback _ | disconnect => Unit

class Session (σ : Type) where
  /-- Makes a call. -/
  call : (c : Call) → σ → c.Answer × σ
  /-- Overwrites columns of the row of a key. -/
  assign : Table → Int → Attributes → σ → σ

/-! ## The recording stand-in -/

/-- A session without a database. Rows are found by table and key; queries are answered from a list
of results, each used once; an added row takes the next key when it is read back. Nothing is undone
by a rollback. -/
structure StandIn where
  rows : List ((Table × Int) × Row)
  nextKey : Int
  results : List (List Row)
  trace : List Call

namespace StandIn

def record (s : StandIn) (c : Call) : StandIn := { s with trace := s.trace ++ [c] }

/-- Stores a row under its table and key; a row stored there before is replaced. -/
def store (s : StandIn) (table : Table) (key : Int) (row : Row) : StandIn :=
  { s with rows := s.rows.filter (·.1 != (table, key)) ++ [((table, key), row)] }

/-- A stand-in that holds rows and has recorded nothing. -/
def ofRows (rows : List ((Table × Int) × Row)) (nextKey : Int) (results : List (List Row)) :
    StandIn :=
  rows.foldl (fun s r => s.store r.1.1 r.1.2 r.2) { rows := [], nextKey, results, trace := [] }

/-- Makes a call and records it. A row that is read back is recorded with its key. -/
def call : (c : Call) → StandIn → c.Answer × StandIn
  | .find table key lock, s =>
    (s.rows.lookup (table, key), s.record (.find table key lock))
  | .refresh table row, s =>
    let row := row.set table.key (.value (.int s.nextKey))
    (row, ({ s with nextKey := s.nextKey + 1 }.store table s.nextKey row).record
      (.refresh table row))
  | .execute query, s =>
    (s.results.headD [], { s with results := s.results.tail }.record (.execute query))
  | .connect, s => ((), s.record .connect)
  | .start, s => ((), s.record .start)
  | .isolate level, s => ((), s.record (.isolate level))
  | .add table row, s => ((), s.record (.add table row))
  | .flush, s => ((), s.record .flush)
  | .commit, s => ((), s.record .commit)
  | .rollback cause, s => ((), s.record (.rollback cause))
  | .disconnect, s => ((), s.record .disconnect)

/-- Overwrites columns of a stored row. -/
def assign (table : Table) (key : Int) (attributes : Attributes) (s : StandIn) : StandIn :=
  { s with rows := s.rows.map fun r =>
      if r.1 = (table, key) then (r.1, r.2.assign attributes) else r }

instance : Session StandIn where
  call := call
  assign := assign

end StandIn

end Chronicle.Relational
