import Chronicle.Proofs.Storage.Execution
import Chronicle.Service.Operation

/-!
# Laws of operations

What an operation comes to, part by part, and what a unit of work on a store comes to: a snapshot
leaves the store, a transaction that fails leaves all but spent ids, and one that does not publishes
what it staged.

## Main definitions

* `Operation.Alike` — operations that differ at most in the lines that they log.
* `Operation.Preserves` — operations that keep a property of the store.
* `Operation.ReadOnly` — operations that never change the store.

## Main statements

* `Operation.bind_result`, `Operation.bind_state` — going on with a result.
* `Operation.bind_of_ok`, `Operation.bind_of_error` — the same, with the lines that are logged.
* `Operation.within_snapshot` — a snapshot does not change the store.
* `Operation.within_of_error`, `Operation.within_of_ok` — the ends of a transaction.
-/

namespace Chronicle

namespace Operation

variable {σ α β : Type}

/-! ## Parts of operations -/

theorem bind_result (x : Operation σ α) (f : α → Operation σ β) (s : σ) :
    ((x >>= f) s).result =
      match (x s).result with
      | .ok a => (f a (x s).state).result
      | .error e => .error e := by
  change (Operation.bind x f s).result = _
  unfold Operation.bind
  rcases x s with ⟨_ | _, _, _⟩ <;> rfl

theorem bind_state (x : Operation σ α) (f : α → Operation σ β) (s : σ) :
    ((x >>= f) s).state =
      match (x s).result with
      | .ok a => (f a (x s).state).state
      | .error _ => (x s).state := by
  change (Operation.bind x f s).state = _
  unfold Operation.bind
  rcases x s with ⟨_ | _, _, _⟩ <;> rfl

theorem bind_of_ok {x : Operation σ α} {f : α → Operation σ β} {s t : σ} {a : α}
    {lines : List LogLine} (h : x s = { result := .ok a, state := t, lines }) :
    (x >>= f) s = { f a t with lines := lines ++ (f a t).lines } := by
  change Operation.bind x f s = _
  rw [Operation.bind, h]

theorem bind_of_error {x : Operation σ α} {f : α → Operation σ β} {s t : σ} {e : Error}
    {lines : List LogLine} (h : x s = { result := .error e, state := t, lines }) :
    (x >>= f) s = { result := .error e, state := t, lines } := by
  change Operation.bind x f s = _
  rw [Operation.bind, h]

/-- An operation goes on with the result of its first part. -/
theorem bind_result_ok {x : Operation σ α} {f : α → Operation σ β} {s : σ} {a : α}
    (h : (x s).result = .ok a) : ((x >>= f) s).result = (f a (x s).state).result := by
  rw [bind_result, h]

@[simp] theorem map_result (f : α → β) (x : Operation σ α) (s : σ) :
    ((f <$> x) s).result = f <$> (x s).result := by
  refine (bind_result x _ s).trans ?_
  rcases (x s).result with _ | _ <;> rfl

@[simp] theorem map_state (f : α → β) (x : Operation σ α) (s : σ) :
    ((f <$> x) s).state = (x s).state := by
  refine (bind_state x _ s).trans ?_
  rcases (x s).result with _ | _ <;> rfl

@[simp] theorem map_lines (f : α → β) (x : Operation σ α) (s : σ) :
    ((f <$> x) s).lines = (x s).lines := by
  change (Operation.bind x _ s).lines = _
  unfold Operation.bind
  rcases x s with ⟨_ | _, _, _⟩
  · rfl
  · exact List.append_nil _

/-- A computation that succeeds goes on with its result. -/
theorem lift_bind_ok (a : α) (f : α → Operation σ β) :
    ((liftM (Except.ok a : Except Error α) : Operation σ α) >>= f) = f a := rfl

/-! ## Operations that differ in their log lines -/

/-- Whether two operations always come to the same result and storage. -/
def Alike (x y : Operation σ α) : Prop :=
  ∀ s, (x s).result = (y s).result ∧ (x s).state = (y s).state

theorem Alike.refl (x : Operation σ α) : x.Alike x := fun _ => ⟨rfl, rfl⟩

/-- Logging what an operation came to changes neither its result nor the storage. -/
theorem alike_log_map (x : Operation σ α) (g : α → β) (level : Level) (event : String)
    (fields : α → List (String × Value)) :
    (x >>= fun a => log level event (fields a) >>= fun _ => pure (g a)).Alike (g <$> x) := by
  intro s
  rw [bind_result, bind_state, map_result, map_state]
  rcases (x s).result with _ | _ <;> exact ⟨rfl, rfl⟩

theorem alike_log (x : Operation σ α) (level : Level) (event : String)
    (fields : α → List (String × Value)) :
    (x >>= fun a => log level event (fields a) >>= fun _ => pure a).Alike x := by
  intro s
  obtain ⟨hresult, hstate⟩ := alike_log_map x id level event fields s
  rw [map_result, id_map] at hresult
  exact ⟨hresult, hstate.trans (map_state id x s)⟩

/-! ## Units of work on a store -/

variable {s s' : Store} {st : Staging} {b : Block α}

/-- A snapshot does not change the store, and logs nothing. -/
theorem within_snapshot (b : Block α) (s : Store) :
    within .snapshot b s = { result := (Staging.exec b (.start s .snapshot)).1, state := s } := by
  have hstate := Store.state_snapshot b.run Block.failure? s
  rcases hrun : Staging.run b.run (.start s .snapshot) with ⟨result, st⟩
  have hsnapshot : Store.run .snapshot b.run Block.failure? s = _ := Store.run_snapshot hrun
  rw [hsnapshot] at hstate
  simp only [within, UnitOfWork.run, hsnapshot, hstate, Staging.exec, hrun]
  cases result <;> rfl

theorem within_snapshot_result (b : Block α) (s : Store) :
    (within .snapshot b s).result = (Staging.exec b (.start s .snapshot)).1 := by
  rw [within_snapshot]

theorem within_snapshot_state (b : Block α) (s : Store) : (within .snapshot b s).state = s := by
  rw [within_snapshot]

/-! ## What operations preserve -/

/-- Whether a property of the store holds after an operation if it holds before. -/
def Preserves (P : Store → Prop) (x : Operation Store α) : Prop := ∀ s, P s → P (x s).state

/-- Whether an operation never changes the store. -/
def ReadOnly (x : Operation Store α) : Prop := ∀ P, x.Preserves P

theorem ReadOnly.state {x : Operation Store α} (hx : x.ReadOnly) (s : Store) : (x s).state = s :=
  hx (· = s) s rfl

/-! ## The ends of a transaction -/

/-- A transaction whose block fails publishes nothing, and logs that. -/
theorem within_of_error {e : Error}
    (h : Staging.exec b (.start s .transaction) = (.error e, st)) :
    within .transaction b s =
      { result := .error e, state := st.store, lines := [Store.rolledBack] } := by
  have hrun : Store.run .transaction b.run Block.failure? s = _ := Store.run_of_failure h rfl
  simp only [within, UnitOfWork.run, hrun, Exit.outcome]

/-- A transaction whose block succeeds publishes what it staged, and logs nothing. -/
theorem within_of_ok {a : α} (h : Staging.exec b (.start s .transaction) = (.ok a, st))
    (hpublish : st.publish = (s', none)) :
    within .transaction b s = { result := .ok a, state := s', lines := [] } := by
  have hrun : Store.run .transaction b.run Block.failure? s = _ := Store.run_of_success h rfl
  simp only [within, UnitOfWork.run, hrun, hpublish, Exit.outcome]

end Operation

end Chronicle
