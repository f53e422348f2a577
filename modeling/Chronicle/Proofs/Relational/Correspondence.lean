import Chronicle.Proofs.Relational.Calls
import Chronicle.Proofs.Service.Simulation

/-!
# The relational storage on corresponding sessions

A unit of work reaches a session only through its calls and through the rows that it overwrites. So
where these correspond on two sessions, every unit of work does, and with it every call of the
service.

## Main definitions

* `Session.Simulates` — sessions whose calls correspond.
* `Work.Simulates` — computations that come to the same on corresponding sessions.

## Main statements

* `Work.perform_simulates` — a storage step on corresponding sessions.
* `runProgram_simulates` — a program on corresponding sessions, by induction on the program.
* `RelationalStore.simulates` — units of work on corresponding sessions.
-/

namespace Chronicle

namespace Relational

variable {σ τ : Type} [Session σ] [Session τ] {R : σ → τ → Prop}

/-- Whether every call on sessions that correspond is answered alike, and leaves sessions that
correspond as overwriting does. -/
structure Session.Simulates (R : σ → τ → Prop) : Prop where
  call : ∀ (c : Call) s t, R s t →
    (Session.call c s).1 = (Session.call c t).1 ∧ R (Session.call c s).2 (Session.call c t).2
  assign : ∀ table key attributes s t, R s t →
    R (Session.assign table key attributes s) (Session.assign table key attributes t)

namespace Work

/-! ## Computations -/

section Rules

omit [Session σ] [Session τ]

variable {α β : Type} {x : Work σ α} {y : Work τ α}

/-- Whether two computations, on sessions that correspond, come to the same and leave sessions that
correspond. -/
def Simulates (R : σ → τ → Prop) (x : Work σ α) (y : Work τ α) : Prop :=
  ∀ s t, R s t → (exec x s).1 = (exec y t).1 ∧ R (exec x s).2 (exec y t).2

namespace Simulates

theorem pure (a : α) : Simulates R (Pure.pure a : Work σ α) (Pure.pure a) := fun _ _ h => ⟨rfl, h⟩

theorem throw (e : Error) :
    Simulates R (MonadExcept.throw e : Work σ α) (MonadExcept.throw e) := fun _ _ h => ⟨rfl, h⟩

theorem lift (r : Except Error α) : Simulates R (liftM r : Work σ α) (liftM r) := by
  intro s t h
  rw [exec_liftM, exec_liftM]
  exact ⟨rfl, h⟩

theorem bind {f : α → Work σ β} {g : α → Work τ β} (hx : Simulates R x y)
    (hf : ∀ a, Simulates R (f a) (g a)) : Simulates R (x >>= f) (y >>= g) := by
  intro s t h
  obtain ⟨hresult, hstate⟩ := hx s t h
  rcases hxs : exec x s with ⟨result, s'⟩
  rcases hyt : exec y t with ⟨result', t'⟩
  rw [hxs, hyt] at hresult hstate
  cases hresult
  rw [exec_bind, exec_bind, hxs, hyt]
  cases result with
  | ok a => exact hf a s' t' hstate
  | error e => exact ⟨rfl, hstate⟩

theorem mapM (read : Row → Except Error α) (rows : List Row) :
    Simulates R (rows.mapM fun row => (liftM (read row) : Work σ α))
      (rows.mapM fun row => (liftM (read row) : Work τ α)) := by
  intro s t h
  rw [exec_mapM, exec_mapM]
  exact ⟨rfl, h⟩

theorem requireWritable (readOnly : Bool) :
    Simulates R (Work.requireWritable readOnly : Work σ Unit) (Work.requireWritable readOnly) := by
  cases readOnly with
  | false => exact pure ()
  | true => exact throw .readOnly

end Simulates

end Rules

/-! ## Steps -/

section Steps

open Simulates

variable (hR : Session.Simulates R)

include hR

theorem call_simulates (c : Call) :
    Simulates R (call c : Work σ c.Answer) (call c : Work τ c.Answer) := by
  intro s t h
  obtain ⟨hanswer, hstate⟩ := hR.call c s t h
  exact ⟨congrArg Except.ok hanswer, hstate⟩

theorem assign_simulates (table : Table) (key : Int) (attributes : Attributes) :
    Simulates R (assign table key attributes : Work σ Unit) (assign table key attributes) :=
  fun s t h => ⟨rfl, hR.assign table key attributes s t h⟩

theorem execute_simulates {α : Type} (q : Select) (read : Row → Except Error α) :
    Simulates R (do (← call (.execute q)).mapM fun row => (liftM (read row) : Work σ α))
      (do (← call (.execute q)).mapM fun row => (liftM (read row) : Work τ α)) :=
  .bind (call_simulates hR (.execute q)) fun rows => .mapM read rows

theorem getEntity_simulates (kind : Kind) (id : Int) (lock : Bool) :
    Simulates R (getEntity kind id lock : Work σ (Option Entity)) (getEntity kind id lock) := by
  refine .bind (call_simulates hR (.find (.entities kind) id lock)) fun row? => ?_
  cases row? with
  | none => exact .pure none
  | some row => exact .bind (.lift _) fun e => .pure (some e)

theorem requireRow_simulates (kind : Kind) (id : Int) :
    Simulates R (requireRow kind id : Work σ Unit) (requireRow kind id) := by
  refine .bind (call_simulates hR (.find (.entities kind) id false)) fun row? => ?_
  cases row? with
  | none => exact .throw _
  | some row => exact .pure ()

theorem insertEntity_simulates (kind : Kind) (attributes : Value) :
    Simulates R (insertEntity kind attributes : Work σ Entity) (insertEntity kind attributes) := by
  refine .bind (.lift _) fun row => .bind (call_simulates hR (.add _ row)) fun _ => ?_
  refine .bind (call_simulates hR .flush) fun _ => ?_
  exact .bind (call_simulates hR (.refresh _ row)) fun _ => .lift _

theorem saveEntity_simulates (e : Entity) :
    Simulates R (saveEntity e : Work σ Unit) (saveEntity e) := by
  refine .bind (requireRow_simulates hR e.kind e.id) fun _ => ?_
  exact .bind (assign_simulates hR _ _ _) fun _ => call_simulates hR .flush

theorem appendRow_simulates (kind : Kind) (id : Int) (log : Table) (row : Row) :
    Simulates R (appendRow kind id log row : Work σ Unit) (appendRow kind id log row) := by
  refine .bind (requireRow_simulates hR kind id) fun _ => ?_
  exact .bind (call_simulates hR (.add log row)) fun _ => call_simulates hR .flush

/-- A step on corresponding sessions. -/
theorem perform_simulates (readOnly : Bool) (s : Step) :
    Simulates R (perform readOnly s : Work σ s.Answer) (perform readOnly s) := by
  cases s with
  | getEntity kind id lock =>
    cases lock with
    | false => exact getEntity_simulates hR kind id false
    | true => exact .bind (.requireWritable readOnly) fun _ => getEntity_simulates hR kind id true
  | listEntities | modifications | additions => exact execute_simulates hR _ _
  | insertEntity kind attributes =>
    exact .bind (.requireWritable readOnly) fun _ => insertEntity_simulates hR kind attributes
  | saveEntity e => exact .bind (.requireWritable readOnly) fun _ => saveEntity_simulates hR e
  | appendModification | appendAddition =>
    exact .bind (.requireWritable readOnly) fun _ => appendRow_simulates hR _ _ _ _

end Steps

end Work

/-! ## Units of work -/

section UnitsOfWork

variable {α : Type} {s : σ} {t : τ} (hR : Session.Simulates R)

include hR

theorem after_simulates (c : Call) (h : R s t) : R (Session.after c s) (Session.after c t) :=
  (hR.call c s t h).2

/-- A program on corresponding sessions. -/
theorem runProgram_simulates (readOnly : Bool) (p : Program α) (h : R s t) :
    ((runProgram readOnly p).run s).1 = ((runProgram readOnly p).run t).1 ∧
      R ((runProgram readOnly p).run s).2 ((runProgram readOnly p).run t).2 := by
  induction p generalizing s t with
  | done a => exact ⟨rfl, h⟩
  | step step next ih =>
    obtain ⟨hanswer, hstate⟩ := Work.perform_simulates hR readOnly step s t h
    rw [runProgram_step, runProgram_step, ← hanswer]
    exact ih _ hstate

end UnitsOfWork

end Relational

namespace RelationalStore

open Relational

variable {σ τ : Type} [Session σ] [Session τ] {R : σ → τ → Prop}

/-- Whether two storages set the same isolation level and their sessions correspond. -/
structure Matches (R : σ → τ → Prop) (t : RelationalStore σ) (u : RelationalStore τ) : Prop where
  session : R t.session u.session
  isolation : t.isolation = u.isolation

theorem Matches.entered (hR : Session.Simulates R) {t : RelationalStore σ} {u : RelationalStore τ}
    (h : Matches R t u) (mode : Mode) : R (t.entered mode) (u.entered mode) := by
  obtain ⟨session, isolation⟩ := t
  obtain ⟨session', isolation'⟩ := u
  obtain ⟨hsession, rfl⟩ := h
  have hstart := after_simulates hR .start (after_simulates hR .connect hsession)
  cases mode with
  | transaction => exact hstart
  | snapshot => exact after_simulates hR (.isolate isolation) hstart

theorem left_simulates (hR : Session.Simulates R) {s : σ} {t : τ} (h : R s t)
    (failure : Option Error) : R (left failure s) (left failure t) := by
  cases failure with
  | none => exact after_simulates hR .disconnect (after_simulates hR .commit h)
  | some e => exact after_simulates hR .disconnect (after_simulates hR (.rollback e) h)

/-- Where sessions correspond, units of work do. -/
theorem simulates (hR : Session.Simulates R) : UnitOfWork.Simulates (Matches R) := by
  intro α mode program failure? t u h
  obtain ⟨hresult, hlast⟩ :=
    runProgram_simulates hR (mode == .snapshot) program (h.entered hR mode)
  simp only [UnitOfWork.run, run_eq, ← hresult]
  exact ⟨trivial, trivial, left_simulates hR hlast _, h.isolation⟩

end RelationalStore

end Chronicle
