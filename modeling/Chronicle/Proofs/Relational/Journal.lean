import Chronicle.Proofs.Relational.Correspondence

/-!
# A journal of units of work

A recorder is a session that also keeps what was called on it, with the answers. A journal is a
storage that also keeps, for every unit of work, its mode, the failure that left its program and
what was called for it. Keeping this changes nothing: what is kept of the stand-in are the calls
that it records itself.

## Main definitions

* `Exchange` — a call with its answer.
* `Recorder` — a session with the exchanges on it.
* `UnitRecord`, `Journal` — a storage with a record of every unit of work.

## Main statements

* `Recorder.simulates` — a recorder answers as the stand-in does.
* `Journal.simulates` — a journal answers as the storage does.
* `Journal.run_recorder` — a unit of work is the same on a recorder.
-/

namespace Chronicle.Relational

/-! ## Recorders -/

/-- A call with what it was answered. -/
structure Exchange where
  call : Call
  answer : call.Answer

/-- The call as the stand-in records it: a row that is read back is recorded with its key. -/
def Exchange.recorded : Exchange → Call
  | ⟨.refresh table _, row⟩ => .refresh table row
  | ⟨c, _⟩ => c

/-- A session with the exchanges on it. -/
structure Recorder (σ : Type) where
  session : σ
  exchanges : List Exchange

namespace Recorder

variable {σ : Type} [Session σ]

def call (c : Call) (r : Recorder σ) : c.Answer × Recorder σ :=
  ((Session.call c r.session).1,
    { session := Session.after c r.session
      exchanges := r.exchanges ++ [⟨c, (Session.call c r.session).1⟩] })

instance : Session (Recorder σ) where
  call := call
  assign table key attributes r :=
    { r with session := Session.assign table key attributes r.session }

/-- The stand-in records the calls of a recorder. -/
theorem trace_after (c : Call) (s : StandIn) :
    (Session.after c s).trace = s.trace ++ [Exchange.recorded ⟨c, (Session.call c s).1⟩] := by
  cases c <;> rfl

/-- Whether a recorder holds a stand-in, with the exchanges since the stand-in had recorded some
calls. -/
structure Holds (earlier : List Call) (s : StandIn) (r : Recorder StandIn) : Prop where
  session : r.session = s
  trace : s.trace = earlier ++ r.exchanges.map Exchange.recorded

/-- A recorder answers as the stand-in that it holds. -/
theorem simulates (earlier : List Call) : Session.Simulates (Holds earlier) where
  call c s r h := by
    obtain ⟨rfl, htrace⟩ := h
    refine ⟨rfl, rfl, ?_⟩
    change (Session.after c r.session).trace =
      earlier ++ (r.exchanges ++ [Exchange.mk c (Session.call c r.session).1]).map Exchange.recorded
    simp [trace_after, htrace]
  assign table key attributes s r h :=
    ⟨congrArg (Session.assign table key attributes) h.session, h.trace⟩

end Recorder

/-! ## Journals -/

/-- What is kept of a unit of work: its mode, the failure that left its program, and the exchanges
for it. -/
structure UnitRecord where
  mode : Mode
  failure : Option Error
  exchanges : List Exchange

/-- A storage with a record of every unit of work. -/
structure Journal (σ : Type) where
  store : RelationalStore σ
  units : List UnitRecord

namespace Journal

/-- A storage of which nothing has been kept. -/
def start {σ : Type} (t : RelationalStore σ) : Journal σ := ⟨t, []⟩

section Run

variable {σ α : Type} [Session σ]

/-- A storage whose session is recorded. -/
def recorder (t : RelationalStore σ) : RelationalStore (Recorder σ) :=
  { session := ⟨t.session, []⟩, isolation := t.isolation }

/-- What is kept of a unit of work on a storage. -/
def unitRecord (mode : Mode) (program : Program α) (failure? : α → Option Error)
    (t : RelationalStore σ) : UnitRecord :=
  let exit := RelationalStore.run mode program failure? (recorder t)
  { mode, failure := failure? exit.result, exchanges := exit.state.session.exchanges }

theorem unitRecord_eq (mode : Mode) (program : Program α) (failure? : α → Option Error)
    (t : RelationalStore σ) :
    let last := (runProgram (mode == .snapshot) program).run ((recorder t).entered mode)
    unitRecord mode program failure? t = {
      mode
      failure := failure? last.1
      exchanges := (RelationalStore.left (failure? last.1) last.2).exchanges } := by
  simp only [unitRecord, RelationalStore.run_eq]

/-- A unit of work on the storage, of which a record is kept. -/
def run (mode : Mode) (program : Program α) (failure? : α → Option Error) (j : Journal σ) :
    Exit (Journal σ) α :=
  let exit := RelationalStore.run mode program failure? j.store
  { exit with state := {
      store := exit.state
      units := j.units ++ [unitRecord mode program failure? j.store] } }

instance : UnitOfWork (Journal σ) where
  run := run

end Run

/-- A unit of work on a recorded stand-in ends as on the stand-in, and the recorder holds what the
stand-in has recorded for it. -/
theorem run_recorder {α : Type} (mode : Mode) (program : Program α) (failure? : α → Option Error)
    (t : RelationalStore StandIn) :
    let exit := RelationalStore.run mode program failure? t
    let recorded := RelationalStore.run mode program failure? (recorder t)
    exit.result = recorded.result ∧ exit.failure = recorded.failure ∧
      RelationalStore.Matches (Recorder.Holds t.session.trace) exit.state recorded.state :=
  RelationalStore.simulates (Recorder.simulates t.session.trace) mode program failure? t
    (recorder t) ⟨⟨rfl, (List.append_nil _).symm⟩, rfl⟩

/-- Whether a journal is of a storage, with the units of work since its session had recorded some
calls. -/
structure Holds (earlier : List Call) (t : RelationalStore StandIn) (j : Journal StandIn) :
    Prop where
  store : j.store = t
  trace : t.session.trace =
    earlier ++ j.units.flatMap fun u => u.exchanges.map Exchange.recorded

/-- A journal answers as the storage that it is of. -/
theorem simulates (earlier : List Call) : UnitOfWork.Simulates (Holds earlier) := by
  intro α mode program failure? t j h
  obtain ⟨rfl, htrace⟩ := h
  refine ⟨rfl, rfl, rfl, ?_⟩
  obtain ⟨-, -, hstate⟩ := run_recorder mode program failure? j.store
  refine hstate.session.trace.trans ?_
  rw [htrace]
  change _ = earlier ++ (j.units ++ [unitRecord mode program failure? j.store]).flatMap _
  rw [List.flatMap_append, List.flatMap_singleton, List.append_assoc]
  rfl

theorem holds_start (t : RelationalStore StandIn) : Holds t.session.trace t (start t) :=
  ⟨rfl, (List.append_nil _).symm⟩

end Journal

end Chronicle.Relational
