import Chronicle.Proofs.Relational.Transactions

/-!
# What a unit of work calls

A unit of work connects and starts, isolates itself if it is a snapshot, takes its steps, commits or
rolls back and disconnects. What a step calls is one of a few sequences, on any session. So what
each of them does to a session holds of every program, by induction on the program.

## Main definitions

* `Call.writes` — calls that write or lock.
* `StepCalls` — the sequences of calls that a step makes.
* `RelationalStore.left` — a session when a unit of work has ended.

## Main statements

* `Work.perform_calls` — what a step calls.
* `runProgram_extends` — what holds after every step holds after a program.
* `RelationalStore.run_eq` — the parts of a unit of work.
* `Work.perform_readOnly_of_isWrite` — a write inside a snapshot is refused.
-/

namespace Chronicle

namespace Relational

/-- Whether a call writes rows or locks one for a later write. -/
def Call.writes : Call → Bool
  | add .. | flush | refresh .. => true
  | find _ _ lock => lock
  | connect | start | isolate _ | execute _ | commit | rollback _ | disconnect => false

variable {σ : Type} [Session σ]

/-- A session after a call. -/
def Session.after (c : Call) (session : σ) : σ := (Session.call c session).2

/-! ## Steps -/

/-- What a step may call on a session: nothing, a query, a lookup, or a lookup and a write. Nothing
is written or locked inside a snapshot. An entity that is overwritten, or to whose log a row is
added, has been found before. -/
inductive StepCalls (readOnly : Bool) (session : σ) : σ → Prop
  | none : StepCalls readOnly session session
  | query (q : Select) : StepCalls readOnly session (Session.after (.execute q) session)
  | lookup (kind : Kind) (id : Int) (lock : Bool) (h : readOnly = true → lock = false) :
    StepCalls readOnly session (Session.after (.find (.entities kind) id lock) session)
  | insert (kind : Kind) (row : Row) (h : readOnly = false) :
    StepCalls readOnly session (session |> Session.after (.add (.entities kind) row) |>
      Session.after .flush |> Session.after (.refresh (.entities kind) row))
  | save (e : Entity) (row : Row) (h : readOnly = false)
    (hrow : (Session.call (.find (.entities e.kind) e.id false) session).1 = some row) :
    StepCalls readOnly session (session |> Session.after (.find (.entities e.kind) e.id false) |>
      Session.assign (.entities e.kind) e.id e.attributes |> Session.after .flush)
  | modification (m : Modification) (row : Row) (h : readOnly = false)
    (hrow : (Session.call (.find (.entities m.kind) m.entityId false) session).1 = some row) :
    StepCalls readOnly session
      (session |> Session.after (.find (.entities m.kind) m.entityId false) |>
        Session.after (.add (.modifications m.kind) (.ofModification m)) |> Session.after .flush)
  | addition (a : Addition) (row : Row) (h : readOnly = false)
    (hrow : (Session.call (.find (.entities a.kind) a.entityId false) session).1 = some row) :
    StepCalls readOnly session
      (session |> Session.after (.find (.entities a.kind) a.entityId false) |>
        Session.after (.add (.additions a.kind) (.ofAddition a)) |> Session.after .flush)

namespace Work

omit [Session σ] in
/-- A computation that is to write goes on, unless it may not. -/
theorem exec_requireWritable_bind {α : Type} (readOnly : Bool) (x : Unit → Work σ α)
    (session : σ) :
    exec (requireWritable readOnly >>= x) session =
      if readOnly then (.error .readOnly, session) else exec (x ()) session := by
  cases readOnly <;> rfl

/-- A write inside a snapshot is refused before anything is called. -/
theorem perform_readOnly_of_isWrite {s : Step} (h : s.isWrite = true) (session : σ) :
    exec (perform true s) session = (.error .readOnly, session) := by
  cases s with
  | getEntity | listEntities | modifications | additions => cases h
  | insertEntity | saveEntity | appendModification | appendAddition => rfl

section Parts

variable {α : Type} {kind : Kind} {id : Int} {session : σ}

/-- A computation that needs a row goes on if the row is found. -/
theorem exec_requireRow_bind_some {row : Row} {x : Unit → Work σ α}
    (h : (Session.call (.find (.entities kind) id false) session).1 = some row) :
    exec (requireRow kind id >>= x) session =
      exec (x ()) (Session.after (.find (.entities kind) id false) session) := by
  have hrequire : exec (requireRow kind id) session =
      (.ok (), Session.after (.find (.entities kind) id false) session) := by
    rw [requireRow, exec_bind_ok (exec_call ..), h]
    rfl
  rw [exec_bind_ok hrequire]

theorem exec_requireRow_bind_none {x : Unit → Work σ α}
    (h : (Session.call (.find (.entities kind) id false) session).1 = none) :
    exec (requireRow kind id >>= x) session =
      (.error (.unknownEntity kind.name id),
        Session.after (.find (.entities kind) id false) session) := by
  rw [exec_bind, requireRow, exec_bind_ok (exec_call ..), h]
  rfl

/-- What is done to the row of an entity is done to a row that has been found. -/
theorem requireRow_calls {readOnly : Bool} {x : Unit → Work σ α}
    (h : ∀ row, (Session.call (.find (.entities kind) id false) session).1 = some row →
      StepCalls readOnly session
        (exec (x ()) (Session.after (.find (.entities kind) id false) session)).2) :
    StepCalls readOnly session (exec (requireRow kind id >>= x) session).2 := by
  cases hrow : (Session.call (.find (.entities kind) id false) session).1 with
  | none =>
    rw [exec_requireRow_bind_none hrow]
    exact .lookup kind id false fun _ => rfl
  | some row =>
    rw [exec_requireRow_bind_some hrow]
    exact h row hrow

theorem exec_getEntity_state (kind : Kind) (id : Int) (lock : Bool) (session : σ) :
    (exec (getEntity kind id lock) session).2 =
      Session.after (.find (.entities kind) id lock) session := by
  rw [getEntity, exec_bind_ok (exec_call ..)]
  cases (Session.call (.find (.entities kind) id lock) session).1 with
  | none => rfl
  | some row =>
    simp only [exec_bind, exec_liftM]
    cases row.entity kind <;> rfl

theorem exec_execute_state (q : Select) (read : Row → Except Error α) (session : σ) :
    (exec (do (← call (.execute q)).mapM fun row => (liftM (read row) : Work σ α)) session).2 =
      Session.after (.execute q) session := by
  rw [exec_bind_ok (exec_call (.execute q) session), exec_mapM]
  rfl

end Parts

/-- What a step calls. -/
theorem perform_calls (readOnly : Bool) (s : Step) (session : σ) :
    StepCalls readOnly session (exec (perform readOnly s) session).2 := by
  cases s with
  | getEntity kind id lock =>
    cases lock with
    | false =>
      have hstate := exec_getEntity_state kind id false session
      exact hstate ▸ .lookup kind id false fun _ => rfl
    | true =>
      refine (exec_requireWritable_bind readOnly _ session) ▸ ?_
      cases readOnly with
      | true => exact .none
      | false => exact exec_getEntity_state kind id true session ▸ .lookup kind id true nofun
  | listEntities | modifications | additions =>
    exact exec_execute_state _ _ session ▸ .query _
  | insertEntity kind attributes =>
    cases readOnly with
    | true => exact .none
    | false =>
      change StepCalls false session (exec (insertEntity kind attributes) session).2
      cases hrow : Row.ofAttributes? (.entities kind) attributes with
      | error e =>
        rw [insertEntity, hrow]
        exact .none
      | ok row =>
        rw [insertEntity, hrow]
        exact .insert kind row rfl
  | saveEntity e =>
    cases readOnly with
    | true => exact .none
    | false => exact requireRow_calls fun row hrow => .save e row rfl hrow
  | appendModification m =>
    cases readOnly with
    | true => exact .none
    | false => exact requireRow_calls fun row hrow => .modification m row rfl hrow
  | appendAddition a =>
    cases readOnly with
    | true => exact .none
    | false => exact requireRow_calls fun row hrow => .addition a row rfl hrow

end Work

/-! ## Programs and units of work -/

theorem runProgram_step {α : Type} (readOnly : Bool) (s : Step)
    (next : Except Error s.Answer → Program α) (session : σ) :
    (runProgram readOnly (.step s next)).run session =
      (runProgram readOnly (next (Work.exec (Work.perform readOnly s) session).1)).run
        (Work.exec (Work.perform readOnly s) session).2 := rfl

/-- What holds between the sessions before and after every step, and of sessions in a row, holds
between the sessions before and after a program. -/
theorem runProgram_extends {α : Type} (readOnly : Bool) {E : σ → σ → Prop}
    (hrefl : ∀ session, E session session)
    (htrans : ∀ {first second third}, E first second → E second third → E first third)
    (hstep : ∀ {before after}, StepCalls readOnly before after → E before after) (p : Program α)
    (session : σ) : E session ((runProgram readOnly p).run session).2 := by
  induction p generalizing session with
  | done a => exact hrefl session
  | step s next ih => exact htrans (hstep (Work.perform_calls readOnly s session)) (ih _ _)

end Relational

namespace RelationalStore

open Relational

variable {σ : Type} [Session σ]

/-- A session when a unit of work has ended: it has been committed, or rolled back after a failure,
and left. -/
def left (failure : Option Error) (session : σ) : σ :=
  match failure with
  | some e => session |> Session.after (.rollback e) |> Session.after .disconnect
  | none => session |> Session.after .commit |> Session.after .disconnect

/-- A unit of work is entered, runs its program and is left. -/
theorem run_eq {α : Type} (mode : Mode) (program : Program α) (failure? : α → Option Error)
    (t : RelationalStore σ) :
    let last := (runProgram (mode == .snapshot) program).run (t.entered mode)
    run mode program failure? t = {
      result := last.1
      failure := failure? last.1
      state := { t with session := left (failure? last.1) last.2 } } := by
  intro last
  have htransaction : (transaction t.isolation mode program failure?).run t.session =
      (do
        match failure? last.1 with
        | some e => call (.rollback e)
        | none => call .commit
        call .disconnect
        return last.1 : StateM σ α).run last.2 := by
    cases mode <;> rfl
  have hleft : transaction t.isolation mode program failure? t.session =
      (last.1, left (failure? last.1) last.2) := by
    refine htransaction.trans ?_
    cases failure? last.1 <;> rfl
  simp only [run, hleft]

/-- A unit of work comes to what its block comes to. -/
theorem outcome_run {α : Type} (mode : Mode) (b : Block α) (t : RelationalStore σ) :
    (run mode b.run Block.failure? t).outcome = (run mode b.run Block.failure? t).result := by
  rw [run_eq]
  generalize ((runProgram (mode == .snapshot) b.run).run (t.entered mode)).1 = result
  cases result <;> rfl

end RelationalStore

end Chronicle
