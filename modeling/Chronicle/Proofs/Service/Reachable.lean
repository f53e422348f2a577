import Chronicle.Proofs.Reconstruction.Evaluation
import Chronicle.Proofs.Service.Simulation
import Chronicle.Proofs.Storage.Publish

/-!
# Reachable stores

The stores that calls of the service and units of work of any other kind lead to. The entries that a
unit of work appends may know their offset or not; a log refuses those that it cannot compare with
what it holds, so the entries of one kind in a log either all know their offset or all do not, and
they are in the order of their moments.

## Main definitions

* `Store.Reachable` — the stores that can be reached from the empty one.
* `Store.Uniform` — stores whose logs hold, for each kind, entries that can be compared.

## Main statements

* `Call.perform_preserves` — what units of work preserve, calls preserve.
* `Store.keptByRuns_of_append` — what appends to the logs keep, units of work keep.
* `Store.Reachable.uniform`, `Store.Reachable.ordered` — the logs of reachable stores.
-/

namespace Chronicle

open Operation

/-! ## What calls preserve -/

section Preservation

variable {P : Store → Prop}

/-- Whether a property of the store holds after every unit of work if it holds before. -/
def Store.KeptByRuns (P : Store → Prop) : Prop :=
  ∀ {α : Type} (mode : Mode) (program : Program α) (failure? : α → Option Error) (s : Store),
    P s → P (Store.run mode program failure? s).state

/-- What every unit of work preserves, every call preserves. -/
theorem Call.perform_preserves (hP : Store.KeptByRuns P) (c : Call) :
    (c.perform : Operation Store Response).Preserves P := by
  have hR : UnitOfWork.Simulates fun s t : Store => s = t ∧ P s := by
    rintro α mode program failure? s t ⟨rfl, hs⟩
    exact ⟨rfl, rfl, rfl, hP mode program failure? s hs⟩
  intro s hs
  exact (c.perform_simulates hR s s ⟨rfl, hs⟩).2.2

/-- What every append to a log keeps, every unit of work keeps, also where a log refuses an
entry. -/
theorem Store.keptByRuns_of_append {P : ModificationLog → Prop} {Q : AdditionLog → Prop}
    (hP : ∀ log m log', P log → log.append m = .ok log' → P log')
    (hQ : ∀ log a log', Q log → log.append a = .ok log' → Q log') :
    KeptByRuns fun s => P s.modifications ∧ Q s.additions := by
  intro α mode program failure? s hs
  have hsame := Staging.run_sameRecords program (.start s mode)
  generalize hst : (Staging.run program (.start s mode)).2 = st at hsame
  have hmodifications : P st.store.modifications := hsame.modifications ▸ hs.1
  have hadditions : Q st.store.additions := hsame.additions ▸ hs.2
  rcases state_run mode program failure? s with hstate | hstate
  · rw [hstate, hst]
    exact ⟨hmodifications, hadditions⟩
  · obtain ⟨additions, hpublished, hstore⟩ := st.publish_store
    rw [hstate, hst, hstore]
    refine ⟨Staging.appendAll_preserves (fun m _ log log' => hP log m log') hmodifications, ?_⟩
    rcases hpublished with rfl | rfl
    · exact hadditions
    · exact Staging.appendAll_preserves (fun a _ log log' => hQ log a log') hadditions

end Preservation

/-! ## Uniform stores -/

/-- Whether the entries of each kind in each log can be compared with each other. -/
structure Store.Uniform (s : Store) : Prop where
  modifications : s.modifications.timelines.Uniform Modification.timestamp
  additions : s.additions.timelines.Uniform Addition.timestamp

theorem ByKind.uniform_replicate {α : Type} (stamp : α → Moment) :
    (ByKind.replicate ([] : List α)).Uniform stamp := by
  intro kind
  rw [ByKind.get_replicate]
  exact ⟨true, fun _ hx => absurd hx List.not_mem_nil⟩

namespace Store

theorem uniform_empty : Store.empty.Uniform :=
  ⟨ByKind.uniform_replicate _, ByKind.uniform_replicate _⟩

theorem SameRecords.uniform {s t : Store} (h : s.SameRecords t) (hs : s.Uniform) : t.Uniform :=
  ⟨h.modifications ▸ hs.modifications, h.additions ▸ hs.additions⟩

/-- A unit of work keeps a store uniform. -/
theorem uniform_keptByRuns : KeptByRuns Uniform := by
  intro α mode program failure? s hs
  obtain ⟨hmodifications, hadditions⟩ := keptByRuns_of_append
    (P := fun log => log.timelines.Uniform Modification.timestamp)
    (Q := fun log => log.timelines.Uniform Addition.timestamp)
    (fun _ _ _ => ModificationLog.uniform_of_append) (fun _ _ _ => AdditionLog.uniform_of_append)
    mode program failure? s ⟨hs.modifications, hs.additions⟩
  exact ⟨hmodifications, hadditions⟩

/-! ## Ordered stores -/

theorem ordered_empty : Store.empty.Ordered where
  modifications kind := ModificationLog.ofKind_empty kind ▸ .nil
  additions kind := AdditionLog.ofKind_empty kind ▸ .nil

/-- A unit of work keeps the logs in order. -/
theorem ordered_keptByRuns : KeptByRuns Ordered := by
  intro α mode program failure? s hs
  obtain ⟨hmodifications, hadditions⟩ := keptByRuns_of_append
    (P := fun log => ∀ kind, Timeline.Ordered Modification.timestamp (log.ofKind kind))
    (Q := fun log => ∀ kind, Timeline.Ordered Addition.timestamp (log.ofKind kind))
    (fun _ _ _ => ModificationLog.ordered_of_append) (fun _ _ _ => AdditionLog.ordered_of_append)
    mode program failure? s ⟨hs.modifications, hs.additions⟩
  exact ⟨hmodifications, hadditions⟩

/-! ## Reachable stores -/

/-- Whether a store can be reached from the empty one. -/
inductive Reachable : Store → Prop
  | empty : Reachable .empty
  /-- A call of the service, be it successful or not. -/
  | call {s : Store} (c : Call) (h : s.Reachable) : Reachable (c.step s)
  /-- A unit of work with any program, be it successful or not. -/
  | work {s : Store} {α : Type} (mode : Mode) (program : Program α) (failure? : α → Option Error)
      (h : s.Reachable) : Reachable (Store.run mode program failure? s).state

theorem Reachable.after {s : Store} (h : s.Reachable) (calls : List Call) :
    (s.after calls).Reachable := by
  induction calls generalizing s with
  | nil => exact h
  | cons c rest ih => exact ih (.call c h)

/-- What every unit of work keeps holds of every store that can be reached, if it holds of the empty
one. -/
theorem Reachable.of_keptByRuns {P : Store → Prop} (hempty : P .empty) (hP : KeptByRuns P)
    {s : Store} (h : s.Reachable) : P s := by
  induction h with
  | empty => exact hempty
  | call c _ ih => exact c.perform_preserves hP _ ih
  | work mode program failure? _ ih => exact hP mode program failure? _ ih

/-- Whatever led to a store, its logs hold entries that can be compared. -/
theorem Reachable.uniform {s : Store} (h : s.Reachable) : s.Uniform :=
  h.of_keptByRuns uniform_empty uniform_keptByRuns

/-- Whatever led to a store, its logs are in the order of their moments. -/
theorem Reachable.ordered {s : Store} (h : s.Reachable) : s.Ordered :=
  h.of_keptByRuns ordered_empty ordered_keptByRuns

end Store

end Chronicle
