import Chronicle.Proofs.Except
import Chronicle.Storage.Relational.Transaction

/-!
# Running computations on a session

A computation on a session runs part by part until a part fails. What its calls answer is up to the
session.

## Main definitions

* `Work.exec` — what a computation comes to on a session.

## Main statements

* `Work.exec_bind`, `Work.exec_call` — the parts of a computation.
* `Work.exec_mapM` — reading all rows of a list.
-/

namespace Chronicle.Relational.Work

variable {σ α β : Type}

/-- What a computation comes to, and the session afterwards. -/
def exec (x : Work σ α) (session : σ) : Except Error α × σ := x.run session

theorem exec_bind (x : Work σ α) (f : α → Work σ β) (session : σ) :
    exec (x >>= f) session =
      match exec x session with
      | (.ok a, session') => exec (f a) session'
      | (.error e, session') => (.error e, session') := by
  change (match x.run session with
    | (result, session') => (ExceptT.bindCont f result session')) = _
  unfold exec
  rcases x.run session with ⟨_ | _, _⟩ <;> rfl

/-- A computation goes on with the result of its first part. -/
theorem exec_bind_ok {x : Work σ α} {f : α → Work σ β} {session session' : σ} {a : α}
    (h : exec x session = (.ok a, session')) : exec (x >>= f) session = exec (f a) session' := by
  rw [exec_bind, h]

@[simp] theorem exec_liftM (r : Except Error α) (session : σ) :
    exec (liftM r : Work σ α) session = (r, session) := by
  cases r <;> rfl

/-- Reading all rows of a list is no call. -/
theorem exec_mapM (read : Row → Except Error α) (rows : List Row) (session : σ) :
    exec (rows.mapM fun row => (liftM (read row) : Work σ α)) session =
      (rows.mapM read, session) := by
  induction rows with
  | nil => rfl
  | cons row rest ih =>
    rw [List.mapM_cons, List.mapM_cons, exec_bind, exec_liftM]
    cases hrow : read row with
    | error e => rfl
    | ok a =>
      simp only [exec_bind, ih]
      cases rest.mapM read <;> rfl

/-! ## Calls -/

variable [Session σ]

theorem exec_call (c : Call) (session : σ) :
    exec (call c : Work σ c.Answer) session =
      (.ok (Session.call c session).1, (Session.call c session).2) := rfl

/-- A query reads the rows that the session answers it with. -/
theorem exec_execute (q : Select) (read : Row → Except Error α) (session : σ) :
    (exec (do (← call (.execute q)).mapM fun row => (liftM (read row) : Work σ α)) session).1 =
      (Session.call (.execute q) session).1.mapM read := by
  rw [exec_bind_ok (exec_call (.execute q) session), exec_mapM]

end Chronicle.Relational.Work
