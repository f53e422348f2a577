import Chronicle.Proofs.Relational.Evaluation
import Chronicle.Proofs.Relational.Rows
import Chronicle.Storage.Relational.Session
import Mathlib.Data.Option.Defs
import Mathlib.Logic.Function.Basic

/-!
# Stores of rows

What a database holds is seen through a session: rows by their keys, the rows that are not yet
written, and what the last commit left. A faithful session finds the rows that are there, numbers
new rows, and takes back at a rollback what was not committed. It may load a text as a label, and
what it answers to queries is left open.

## Main definitions

* `Contents` — the rows of every table, with `find?`, `insert` and `assign`.
* `RowStore` — contents with what is pending and what is committed; itself a session.
* `Faithful` — sessions through which a store of rows is seen.

## Main statements

* `Contents.find?_insert`, `Contents.find?_assign` — what writing does to the rows of a table.
* `faithful_id` — a store of rows is faithful to itself.
-/

namespace Chronicle.Relational

/-! ## Rows as they are stored and loaded -/

namespace Row

/-- A row with its key. -/
def keyed (row : Row) (table : Table) (key : Int) : Row := row.set table.key (.value (.int key))

/-- Whether a row is another as it may be loaded: every attribute takes the same value from it. -/
def Alike (row loaded : Row) : Prop :=
  ∀ column, (loaded.get column).plain = (row.get column).plain

end Row

/-! ## Contents -/

/-- The rows of every table by their keys, in the order in which they were inserted, and the key
that the next row takes. -/
@[ext] structure Contents where
  rows : Table → List (Int × Row)
  next : Table → Int

namespace Contents

/-- Tables without rows, whose keys begin with one. -/
def empty : Contents := ⟨fun _ => [], fun _ => 1⟩

/-- The row of a key. -/
def find? (c : Contents) (table : Table) (key : Int) : Option Row := (c.rows table).lookup key

/-- Inserts a row under the next key of its table. -/
def insert (c : Contents) (table : Table) (row : Row) : Contents where
  rows := Function.update c.rows table
    (c.rows table ++ [(c.next table, row.keyed table (c.next table))])
  next := Function.update c.next table (c.next table + 1)

/-- Overwrites columns of the row of a key. -/
def assign (c : Contents) (table : Table) (key : Int) (attributes : Attributes) : Contents :=
  { c with rows := Function.update c.rows table ((c.rows table).map fun r =>
      if r.1 = key then (r.1, r.2.assign attributes) else r) }

variable {c : Contents} {table other : Table} {row : Row} {attributes : Attributes} {key : Int}

@[simp] theorem rows_insert_self :
    (c.insert table row).rows table =
      c.rows table ++ [(c.next table, row.keyed table (c.next table))] :=
  Function.update_self ..

@[simp] theorem rows_insert_of_ne (h : other ≠ table) :
    (c.insert table row).rows other = c.rows other :=
  Function.update_of_ne h ..

@[simp] theorem next_insert_self : (c.insert table row).next table = c.next table + 1 :=
  Function.update_self ..

@[simp] theorem next_insert_of_ne (h : other ≠ table) :
    (c.insert table row).next other = c.next other :=
  Function.update_of_ne h ..

@[simp] theorem rows_assign_of_ne (h : other ≠ table) :
    (c.assign table key attributes).rows other = c.rows other :=
  Function.update_of_ne h ..

@[simp] theorem next_assign : (c.assign table key attributes).next = c.next := rfl

theorem find?_insert_of_ne (h : other ≠ table) :
    (c.insert table row).find? other key = c.find? other key := by
  rw [find?, find?, rows_insert_of_ne h]

theorem find?_assign_of_ne {id : Int} (h : other ≠ table) :
    (c.assign table key attributes).find? other id = c.find? other id := by
  rw [find?, find?, rows_assign_of_ne h]

/-- An inserted row is found under the next key if no row had that key before. -/
theorem find?_insert (h : c.find? table (c.next table) = none) :
    (c.insert table row).find? table key =
      if key = c.next table then some (row.keyed table (c.next table)) else c.find? table key := by
  rw [find?, rows_insert_self, List.lookup_append]
  by_cases hkey : key = c.next table
  · subst hkey
    simp [show (c.rows table).lookup (c.next table) = none from h]
  · have hne : (key == c.next table) = false := beq_eq_false_iff_ne.2 hkey
    simp [List.lookup_cons, hne, hkey, find?]

theorem isSome_find?_insert : ((c.insert table row).find? table (c.next table)).isSome = true := by
  rw [find?, rows_insert_self, List.lookup_append]
  simp

/-- Overwriting changes the row of one key. -/
theorem find?_assign {id : Int} :
    (c.assign table key attributes).find? table id =
      if id = key then (c.find? table id).map (·.assign attributes) else c.find? table id := by
  have hrows : (c.assign table key attributes).rows table = _ := Function.update_self ..
  rw [find?, hrows, find?]
  induction c.rows table with
  | nil => simp
  | cons r rest ih =>
    obtain ⟨number, row⟩ := r
    by_cases hid : id = number
    · subst hid
      by_cases hkey : id = key
      · simp [hkey]
      · simp [hkey]
    · have hne : (id == number) = false := beq_eq_false_iff_ne.2 hid
      by_cases hkey : number = key
      · simpa [List.lookup_cons, hkey, hne, hkey ▸ hne] using ih
      · simpa [List.lookup_cons, hkey, hne] using ih

theorem isSome_find?_assign {id : Int} :
    ((c.assign table key attributes).find? table id).isSome = (c.find? table id).isSome := by
  rw [find?_assign]
  split
  · exact Option.isSome_map
  · rfl

end Contents

/-! ## Stores -/

/-- What a session sees: the contents, those at the last commit, and the rows that are not yet
written. -/
@[ext] structure RowStore where
  committed : Contents
  current : Contents
  pending : List (Table × Row)

namespace RowStore

def empty : RowStore := ⟨.empty, .empty, []⟩

def add (d : RowStore) (table : Table) (row : Row) : RowStore :=
  { d with pending := d.pending ++ [(table, row)] }

/-- Writes the rows that are pending. -/
def flush (d : RowStore) : RowStore :=
  { d with current := d.pending.foldl (fun c r => c.insert r.1 r.2) d.current, pending := [] }

/-- Inserts a row. -/
def insert (d : RowStore) (table : Table) (row : Row) : RowStore :=
  { d with current := d.current.insert table row }

def assign (d : RowStore) (table : Table) (key : Int) (attributes : Attributes) : RowStore :=
  { d with current := d.current.assign table key attributes }

def commit (d : RowStore) : RowStore := { d.flush with committed := d.flush.current }

/-- Takes back what was not committed. Keys are not handed out again. -/
def rollback (d : RowStore) : RowStore :=
  let contents := { d.committed with next := d.current.next }
  ⟨contents, contents, []⟩

/-- Whether everything is written and committed. -/
structure Settled (d : RowStore) : Prop where
  pending : d.pending = []
  committed : d.committed = d.current

/-- Whether a store is another after a rollback. The keys that were handed out may or may not be
handed out again. -/
structure Discards (d d' : RowStore) : Prop where
  settled : d'.Settled
  rows : d'.current.rows = d.committed.rows
  next : ∀ table, d'.current.next table = d.committed.next table ∨
    d'.current.next table = d.current.next table

variable {d d' : RowStore}

theorem settled_empty : empty.Settled := ⟨rfl, rfl⟩

theorem settled_commit (d : RowStore) : d.commit.Settled := ⟨rfl, rfl⟩

theorem discards_rollback (d : RowStore) : d.Discards d.rollback :=
  ⟨⟨rfl, rfl⟩, rfl, fun _ => .inr rfl⟩

/-- Where everything is committed, nothing is taken back. -/
theorem Settled.eq_of_discards (h : d.Settled) (hd : d.Discards d') : d' = d := by
  have hnext : d'.current.next = d.current.next := by
    funext table
    rcases hd.next table with hnext | hnext
    · rw [hnext, h.committed]
    · exact hnext
  have hcurrent : d'.current = d.current := by
    have hrows : d'.current.rows = d.current.rows := by rw [hd.rows, h.committed]
    exact Contents.ext hrows hnext
  refine RowStore.ext ?_ hcurrent ?_
  · rw [hd.settled.committed, h.committed, hcurrent]
  · rw [hd.settled.pending, h.pending]

/-- Committing a settled store changes nothing. -/
theorem Settled.commit_eq (h : d.Settled) : d.commit = d := by
  rw [commit, flush, h.pending]
  exact RowStore.ext h.committed.symm rfl h.pending.symm

theorem flush_eq_self (h : d.pending = []) : d.flush = d := by
  rw [flush, h]
  exact RowStore.ext rfl rfl h.symm

theorem flush_add {table : Table} {row : Row} (h : d.pending = []) :
    (d.add table row).flush = d.insert table row := by
  simp [add, flush, insert, h]

end RowStore

/-! ## Faithful sessions -/

variable {σ : Type} [Session σ]

/-- Whether a session is faithful to the store of rows that is seen through it. -/
structure Faithful (view : σ → RowStore) : Prop where
  connect : ∀ s, view (Session.call .connect s).2 = view s
  start : ∀ s, view (Session.call .start s).2 = view s
  isolate : ∀ level s, view (Session.call (.isolate level) s).2 = view s
  find : ∀ table key lock s, (view s).pending = [] →
    Option.Rel Row.Alike ((view s).current.find? table key)
        (Session.call (.find table key lock) s).1 ∧
      view (Session.call (.find table key lock) s).2 = view s
  add : ∀ table row s, view (Session.call (.add table row) s).2 = (view s).add table row
  flush : ∀ s, view (Session.call .flush s).2 = (view s).flush
  /-- The row that was inserted last is read back with its key. -/
  refresh : ∀ table row key s, (view s).pending = [] →
    ((view s).current.rows table).getLast? = some (key, row.keyed table key) →
      (row.keyed table key).Alike (Session.call (.refresh table row) s).1 ∧
        view (Session.call (.refresh table row) s).2 = view s
  assign : ∀ table key attributes s, ((view s).current.find? table key).isSome = true →
    view (Session.assign table key attributes s) = (view s).assign table key attributes
  commit : ∀ s, view (Session.call .commit s).2 = (view s).commit
  rollback : ∀ e s, (view s).Discards (view (Session.call (.rollback e) s).2)
  disconnect : ∀ s, (view s).Settled → view (Session.call .disconnect s).2 = view s

/-! ## A store of rows as a session -/

/-- A cell as it is loaded from a column of labels. -/
def Cell.loaded : Cell → Cell
  | .value (.text s) => .label s
  | c => c

@[simp] theorem Cell.plain_loaded (c : Cell) : c.loaded.plain = c.plain := by
  unfold loaded
  split <;> rfl

/-- Whether a column of a table holds labels. -/
def Table.holdsLabels (t : Table) (column : String) : Bool :=
  t.columns.any fun c => c.name == column && match c.type with
    | .label .. => true
    | _ => false

/-- A row as it is loaded. -/
def Row.loaded (row : Row) (table : Table) : Row :=
  row.mapCells fun column cell => if table.holdsLabels column then cell.loaded else cell

theorem Row.alike_loaded (row : Row) (table : Table) : row.Alike (row.loaded table) := by
  intro column
  by_cases h : column ∈ row.names
  · rw [loaded, get_mapCells h]
    split
    · exact Cell.plain_loaded _
    · rfl
  · have hloaded : column ∉ (row.loaded table).names := by rwa [loaded, names_mapCells]
    rw [get_of_not_mem h, get_of_not_mem hloaded]

namespace RowStore

/-- The rows that a query asks for, in its order. -/
def answer (d : RowStore) (q : Select) : List Row :=
  (((d.current.rows q.table).map (·.2)).filter (q.accepts .ofSame)).mergeSort
    fun a b => !b.precedes a q.order

def call : (c : Call) → RowStore → c.Answer × RowStore
  | .find table key _, d => ((d.current.find? table key).map (·.loaded table), d)
  | .add table row, d => ((), d.add table row)
  | .flush, d => ((), d.flush)
  | .refresh table row, d =>
    ((((d.current.rows table).getLast?.map (·.2)).getD row).loaded table, d)
  | .execute q, d => ((d.answer q).map (·.loaded q.table), d)
  | .commit, d => ((), d.commit)
  | .rollback _, d => ((), d.rollback)
  | .connect, d | .start, d | .isolate _, d | .disconnect, d => ((), d)

instance : Session RowStore where
  call := call
  assign table key attributes d := d.assign table key attributes

end RowStore

/-- A store of rows is faithful to itself. -/
theorem faithful_id : Faithful (id : RowStore → RowStore) where
  connect _ := rfl
  start _ := rfl
  isolate _ _ := rfl
  find table key lock d _ := by
    refine ⟨?_, rfl⟩
    change Option.Rel _ _ ((d.current.find? table key).map (·.loaded table))
    cases hfind : d.current.find? table key with
    | none => simp only [id, hfind]; exact .none
    | some row => simp only [id, hfind]; exact .some (row.alike_loaded table)
  add _ _ _ := rfl
  flush _ := rfl
  refresh table row key d _ hlast := by
    refine ⟨?_, rfl⟩
    change Row.Alike _ ((((d.current.rows table).getLast?.map (·.2)).getD row).loaded table)
    rw [show (d.current.rows table).getLast? = _ from hlast]
    exact Row.alike_loaded _ table
  assign _ _ _ _ _ := rfl
  commit _ := rfl
  rollback _ := RowStore.discards_rollback
  disconnect _ _ := rfl

end Chronicle.Relational
