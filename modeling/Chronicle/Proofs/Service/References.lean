import Chronicle.Proofs.Service.Simulation
import Chronicle.Proofs.Storage.Integrity
import Chronicle.Proofs.Storage.Register

/-!
# References and ids over whole runs

Whatever calls and units of work a store goes through, its references stay intact, and no id of a
kind is handed out twice. The ids are those that the same run registers on a store that registers
insertions; registering does not change the run.

## Main definitions

* `Register.Tracks` — a register of an intact store.

## Main statements

* `Register.simulates` — units of work on a register are those on its store.
* `references_intact` — intact references and increasing ids, after any activities.
-/

namespace Chronicle

namespace Register

/-- Whether a register is of a store, which is intact, and has registered increasing ids up to its
counters. -/
structure Tracks (r : Register) (s : Store) : Prop where
  store : r.store = s
  intact : s.Intact
  issues : Issues Store.empty.nextIds s.nextIds r.issued

theorem tracks_empty : empty.Tracks .empty := ⟨rfl, Store.intact_empty, .refl _⟩

/-- A unit of work on a register is that on its store, and registers the ids that it takes. -/
theorem simulates : UnitOfWork.Simulates Tracks := by
  rintro α mode program failure? r s ⟨rfl, hintact, hissues⟩
  refine ⟨rfl, rfl, rfl, hintact.run mode program failure?, ?_⟩
  exact hissues.append (r.store.issues_run mode program failure?)

end Register

/-- References are intact and ids are fresh. After any calls of the service and units of work with
any programs, successful or not: every log entry is logged under its own kind and of a live entity,
every live entity is filed under its own kind and id, its id is at least 1 and less than the next id
of the kind, and over the whole run the ids of one kind that insertions were answered increase
strictly, those of transactions that failed included. -/
theorem references_intact (activities : List Activity) :
    let s := afterAll Store.empty activities
    let r := afterAll Register.empty activities
    r.store = s ∧ s.Intact ∧ r.issued.Pairwise fun a b => a.kind = b.kind → a.id < b.id := by
  intro s r
  have h : r.Tracks s := afterAll_simulates Register.simulates Register.tracks_empty activities
  exact ⟨h.store, h.intact, h.issues.increasing⟩

end Chronicle
