import Chronicle.Proofs.Except
import Chronicle.Storage.Memory

/-!
# Running blocks in memory

A block runs part by part on a staging until a part fails. What a block leaves behind is the staging
at its end; where it only reads, that is the staging at its beginning.

## Main definitions

* `Staging.exec` — what a block comes to on a staging.
* `Staging.single` — a transaction that has staged one entity.
* `Store.find?` — the entity of an id.

## Main statements

* `Staging.exec_bind`, `Staging.exec_bind_ok` — the parts of a block.
* `Staging.run_of_readOnly` — a program that may not write leaves the staging as it was.
* `Store.run_of_failure`, `Store.run_of_success`, `Store.run_snapshot` — the ends of a unit of work.
* `Store.state_snapshot` — a snapshot changes nothing.
* `Store.result_run`, `Store.state_run` — what a unit of work comes to and leaves, however it ends.
* `Staging.overlay_single` — one staged entity is put among the others of its kind.
-/

namespace Chronicle

/-- The entity of an id. -/
def Store.find? (s : Store) (kind : Kind) (id : Int) : Option Entity :=
  (s.entities.get kind).get? id

theorem EntityTable.id_of_get? {t : EntityTable} {id : Int} {e : Entity} (h : t.get? id = some e) :
    e.id = id := by
  simpa using List.find?_some h

namespace Staging

variable {α β : Type} {st st' : Staging}

/-! ## Programs and blocks -/

theorem run_step (s : Step) (next : Except Error s.Answer → Program α) (st : Staging) :
    run (.step s next) st = run (next (st.perform s).1) (st.perform s).2 := rfl

theorem run_bind (p : Program α) (f : α → Program β) (st : Staging) :
    run (p.bind f) st = run (f (run p st).1) (run p st).2 := by
  induction p generalizing st with
  | done a => rfl
  | step s next ih => exact ih _ _

/-- What a block comes to. -/
def exec (b : Block α) (st : Staging) : Except Error α × Staging := run b.run st

theorem exec_bind (b : Block α) (f : α → Block β) (st : Staging) :
    exec (b >>= f) st =
      match exec b st with
      | (.ok a, st') => exec (f a) st'
      | (.error e, st') => (.error e, st') := by
  refine (run_bind b.run _ st).trans ?_
  unfold exec
  rcases run b.run st with ⟨_ | _, st'⟩ <;> rfl

/-- A block whose first part does not fail goes on with its result. -/
theorem exec_bind_ok {b : Block α} {f : α → Block β} {a : α} (h : exec b st = (.ok a, st')) :
    exec (b >>= f) st = exec (f a) st' := by
  rw [exec_bind, h]

theorem exec_perform (s : Step) (st : Staging) : exec (Block.perform s) st = st.perform s := rfl

/-- A block goes on with the result of a computation that succeeds. -/
theorem exec_lift_bind_ok {r : Except Error α} {f : α → Block β} {a : α} (h : r = .ok a) :
    exec (Block.lift r >>= f) st = exec (f a) st := by
  subst h
  rfl

/-- A block ends with the failure of a computation. -/
theorem exec_lift_bind_error {r : Except Error α} {f : α → Block β} {e : Error}
    (h : r = .error e) : exec (Block.lift r >>= f) st = (.error e, st) := by
  subst h
  rfl

/-! ## Steps that read -/

@[simp] theorem find?_start (s : Store) (mode : Mode) (kind : Kind) (id : Int) :
    (start s mode).find? kind id = s.find? kind id := by
  simp [find?, start, Store.find?]

theorem exec_getEntity (s : Store) (kind : Kind) (id : Int) (mode : Mode) (forUpdate : Bool) :
    exec (Block.perform (.getEntity kind id forUpdate)) (.start s mode) =
      (.ok (s.find? kind id), .start s mode) := by
  rw [exec_perform, perform, find?_start]

theorem exec_listEntities (s : Store) (kind : Kind) (mode : Mode) :
    exec (Block.perform (.listEntities kind)) (.start s mode) =
      (.ok (s.entities.get kind).rows, .start s mode) := by
  cases kind <;> rfl

theorem exec_modifications (s : Store) (kind : Kind) (filter : ModificationFilter) (mode : Mode) :
    exec (Block.perform (.modifications kind filter)) (.start s mode) =
      (s.modifications.entries kind filter, .start s mode) := rfl

theorem exec_additions (s : Store) (kind : Kind) (since : Option Moment) (mode : Mode) :
    exec (Block.perform (.additions kind since)) (.start s mode) =
      (s.additions.entries kind since, .start s mode) := rfl

/-! ## Blocks that may not write -/

/-- A write is refused before anything is done for it. -/
theorem perform_of_isWrite (h : st.readOnly = true) {s : Step} (hs : s.isWrite = true) :
    st.perform s = (.error .readOnly, st) := by
  cases s with
  | getEntity | listEntities | modifications | additions => cases hs
  | insertEntity | saveEntity | appendModification | appendAddition => exact if_pos h

/-- A step that may not write leaves the staging as it was. -/
theorem perform_of_readOnly (h : st.readOnly = true) (s : Step) : (st.perform s).2 = st := by
  cases s <;> simp [perform, h]

theorem run_of_readOnly (h : st.readOnly = true) (p : Program α) : (run p st).2 = st := by
  induction p generalizing st with
  | done a => rfl
  | step s next ih =>
    have hs := perform_of_readOnly h s
    rw [run_step, hs]
    exact ih _ h

/-! ## One staged entity -/

/-- A transaction that has staged one entity. -/
def single (s : Store) (e : Entity) : Staging where
  store := s
  readOnly := false
  entities := (ByKind.replicate .empty).modify e.kind (·.upsert e)
  modifications := []
  additions := []

theorem requireEntity_single (s : Store) (e : Entity) :
    (single s e).requireEntity e.kind e.id = .ok () := by
  simp [requireEntity, find?, single, EntityTable.get?_upsert]

/-- Publishing puts the one entity in its place among the others of its kind. -/
theorem overlay_single (s : Store) (e : Entity) :
    .zipWith EntityTable.overlay s.entities (single s e).entities =
      s.entities.modify e.kind (·.upsert e) := by
  unfold single
  cases e.kind <;> rfl

end Staging

/-! ## The end of a unit of work -/

namespace Store

variable {α : Type} {program : Program α} {failure? : α → Option Error} {s : Store} {a : α}
  {st : Staging} {e : Error}

/-- A transaction whose program fails publishes nothing. -/
theorem run_of_failure (h : Staging.run program (.start s .transaction) = (a, st))
    (hfailure : failure? a = some e) :
    run .transaction program failure? s =
      { result := a, failure := some e, state := st.store, lines := [rolledBack] } := by
  simp only [run, h, hfailure]

/-- A transaction whose program does not fail ends as the publication does. -/
theorem run_of_success (h : Staging.run program (.start s .transaction) = (a, st))
    (hfailure : failure? a = none) :
    run .transaction program failure? s =
      { result := a, failure := st.publish.2, state := st.publish.1 } := by
  simp only [run, h, hfailure]

/-- A snapshot publishes nothing. -/
theorem run_snapshot (h : Staging.run program (.start s .snapshot) = (a, st)) :
    run .snapshot program failure? s =
      { result := a, failure := failure? a, state := st.store } := by
  cases hfailure : failure? a <;> simp only [run, h, hfailure]

/-- However a unit of work ends, its result is that of its program. -/
theorem result_run (mode : Mode) (program : Program α) (failure? : α → Option Error) (s : Store) :
    (run mode program failure? s).result = (Staging.run program (.start s mode)).1 := by
  rcases hrun : Staging.run program (.start s mode) with ⟨a, st⟩
  cases mode with
  | snapshot => rw [run_snapshot hrun]
  | transaction =>
    cases hfailure : failure? a with
    | some e => rw [run_of_failure hrun hfailure]
    | none => rw [run_of_success hrun hfailure]

/-- A snapshot leaves the store as it was. -/
theorem state_snapshot (program : Program α) (failure? : α → Option Error) (s : Store) :
    (run .snapshot program failure? s).state = s := by
  have hst : (Staging.run program (.start s .snapshot)).2 = .start s .snapshot :=
    Staging.run_of_readOnly rfl program
  rcases hrun : Staging.run program (.start s .snapshot) with ⟨a, st⟩
  rw [hrun] at hst
  subst hst
  rw [run_snapshot hrun]
  rfl

/-- However a unit of work ends, it leaves the store as its program left it or what it published. -/
theorem state_run (mode : Mode) (program : Program α) (failure? : α → Option Error) (s : Store) :
    (run mode program failure? s).state = (Staging.run program (.start s mode)).2.store ∨
      (run mode program failure? s).state =
        (Staging.run program (.start s mode)).2.publish.1 := by
  rcases hrun : Staging.run program (.start s mode) with ⟨a, st⟩
  cases mode with
  | snapshot =>
    rw [run_snapshot hrun]
    exact .inl rfl
  | transaction =>
    cases hfailure : failure? a with
    | some e =>
      rw [run_of_failure hrun hfailure]
      exact .inl rfl
    | none =>
      rw [run_of_success hrun hfailure]
      exact .inr rfl

end Store

end Chronicle
