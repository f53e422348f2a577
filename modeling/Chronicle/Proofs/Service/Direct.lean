import Chronicle.Proofs.Service.Ledger
import Chronicle.Proofs.Service.Reachable
import Chronicle.Proofs.Storage.Direct
import Chronicle.Proofs.Storage.Register

/-!
# Transactions act directly

In a store that can be reached, where neither the logs nor the entries that a program appends know
an offset, a transaction acts as if its steps changed a private copy of the store at once. If the
program succeeds, the copy takes the place of the store; if it fails, ids may have been spent.

## Main definitions

* `Store.overwritten` — the entities of a store with what steps have written.
* `Store.Gathers` — stores that have all of another store and of what steps have written, and
  nothing else.

## Main statements

* `Store.answeredFrom_taken` — what the steps of a program are answered.
* `Store.gathers_copy` — what a private copy holds in the end.
* `Store.run_eq_copy`, `Store.spentFrom_of_failure` — the ends of a transaction.
* `Store.Reachable.transaction_acts_directly` — transactions and their steps on a private copy.
-/

namespace Chronicle

namespace Store

theorem Sound.naive {s : Store} (hs : s.Sound) : s.Naive := ⟨hs.modifications, hs.additions⟩

variable {α : Type} {s t : Store} {program : Program α}

/-- The entities of a store with what steps have written, one after the other. -/
def overwritten (s : Store) (taken : List Taken) : Kind → Int → Option Entity :=
  taken.foldl Taken.overwrite s.find?

/-- Whether a store has all of another store and of what steps have written, and nothing else: the
entities as the steps have overwritten them, and the log entries in the order of their moments,
those of one moment in the order of the steps, after those of the other store. -/
structure Gathers (s t : Store) (taken : List Taken) : Prop where
  entities : t.find? = s.overwritten taken
  modifications : ∀ kind, .ok (t.modifications.ofKind kind) =
    Timeline.sort Modification.timestamp (s.modifications.ofKind kind ++
      (taken.filterMap Taken.modification?).filter (·.kind = kind))
  additions : ∀ kind, .ok (t.additions.ofKind kind) =
    Timeline.sort Addition.timestamp (s.additions.ofKind kind ++
      (taken.filterMap Taken.addition?).filter (·.kind = kind))

/-- A step of a program is answered from the entities as the steps before it have overwritten
them. -/
theorem answeredFrom_taken {earlier later : List Taken} {x : Taken}
    (h : program.takenWith s.carryOut s = earlier ++ x :: later) :
    x.step.AnsweredFrom s (s.overwritten earlier) x.answer := by
  obtain ⟨copy, hcopy, hx⟩ := Program.exists_of_takenWith s.find?_carryOut h
  have hanswered := s.answeredFrom_carryOut copy x.step
  rw [hcopy] at hanswered
  rw [hx]
  exact hanswered

/-- In the end a private copy has the entities as the steps have overwritten them. -/
theorem find?_runWith (s : Store) (program : Program α) :
    (program.runWith s.carryOut s).2.find? = s.overwritten (program.takenWith s.carryOut s) :=
  Program.see_runWith s.find?_carryOut program s

section Ends

variable {failure? : α → Option Error}
  (hentries : ∀ x ∈ program.takenWith Staging.perform (.start s .transaction), x.step.Naive)

include hentries

/-- In the end a private copy has all of the store and of what the steps have written. -/
theorem gathers_copy (hnaive : s.Naive) (hordered : s.Ordered) :
    s.Gathers (program.runWith s.carryOut s).2
      (program.takenWith Staging.perform (.start s .transaction)) := by
  obtain ⟨-, htaken, hcopy⟩ := Staging.Copies.run program s
  refine ⟨htaken ▸ find?_runWith s program, fun kind => ?_, fun kind => ?_⟩
  · have hnew := Timeline.Alike.filter (Taken.isAware_of_mem_modifications hentries) (·.kind = kind)
    rw [hcopy.modifications, Staging.modifications_run, ModificationLog.ofKind_foldl_place,
      Timeline.sort_append (hnaive.modifications kind) hnew (hordered.modifications kind)]
  · have hnew := Timeline.Alike.filter (Taken.isAware_of_mem_additions hentries) (·.kind = kind)
    rw [hcopy.additions, Staging.additions_run, AdditionLog.ofKind_foldl_place,
      Timeline.sort_append (hnaive.additions kind) hnew (hordered.additions kind)]

/-- A transaction whose program succeeds ends without a failure and leaves the copy. -/
theorem run_eq_copy (hnaive : s.Naive)
    (hsuccess : failure? (program.runWith s.carryOut s).1 = none) :
    run .transaction program failure? s = {
      result := (program.runWith s.carryOut s).1
      failure := none
      state := (program.runWith s.carryOut s).2 } := by
  obtain ⟨hresult, -, hcopy⟩ := Staging.Copies.run program s
  have hpublish := hcopy.publish hnaive
    (Staging.modifications_run program s .transaction ▸ Taken.isAware_of_mem_modifications hentries)
    (Staging.additions_run program s .transaction ▸ Taken.isAware_of_mem_additions hentries)
  rw [← hresult] at hsuccess ⊢
  rw [run_of_success rfl hsuccess, hpublish]

end Ends

/-- A transaction whose program fails has spent the ids that the copy has. -/
theorem spentFrom_of_failure {failure? : α → Option Error} {e : Error}
    (hfailure : failure? (program.runWith s.carryOut s).1 = some e) :
    let exit := run .transaction program failure? s
    exit.failure = some e ∧ s.SpentFrom exit.state ∧
      exit.state.nextIds = (program.runWith s.carryOut s).2.nextIds := by
  obtain ⟨hresult, -, hcopy⟩ := Staging.Copies.run program s
  have hissues := issues_run .transaction program failure? s
  rw [← hresult] at hfailure
  have hend := run_of_failure rfl hfailure
  rw [hend] at hissues ⊢
  exact ⟨rfl, ⟨hcopy.records, hissues.le⟩, hcopy.nextIds.symm⟩

/-- A transaction acts as if its steps changed a private copy of the store at once. It comes to the
same by the same steps; each is answered from the entities as the steps before it have overwritten
them and from the logs of the store; a step that fails stages nothing. If the program succeeds, the
copy takes the place of the store, and has all of it and of what the steps have written; if it
fails, ids may have been spent. -/
theorem Reachable.transaction_acts_directly (hs : s.Reachable) (hnaive : s.Naive)
    (program : Program α) (failure? : α → Option Error)
    (hentries : ∀ x ∈ program.takenWith Staging.perform (.start s .transaction), x.step.Naive) :
    let taken := program.takenWith Staging.perform (.start s .transaction)
    let direct := program.runWith s.carryOut s
    let exit := run .transaction program failure? s
    exit.result = direct.1 ∧ taken = program.takenWith s.carryOut s ∧
    (∀ earlier x later, taken = earlier ++ x :: later →
      x.step.AnsweredFrom s (s.overwritten earlier) x.answer) ∧
    (∀ (st : Staging) step e, (st.perform step).1 = .error e →
      st.SameStaged (st.perform step).2) ∧
    (failure? exit.result = none →
      exit.failure = none ∧ exit.state = direct.2 ∧ s.Gathers exit.state taken) ∧
    ∀ e, failure? exit.result = some e →
      exit.failure = some e ∧ s.SpentFrom exit.state ∧ exit.state.nextIds = direct.2.nextIds := by
  intro taken direct exit
  obtain ⟨hresult, htaken, -⟩ := Staging.Copies.run program s
  have hexit : exit.result = direct.1 :=
    (result_run .transaction program failure? s).trans hresult
  refine ⟨hexit, htaken, fun earlier x later h => answeredFrom_taken (htaken.symm.trans h),
    fun st step e => Staging.sameStaged_of_error, fun hsuccess => ?_, fun e hfailure => ?_⟩
  · have hend : exit = _ := run_eq_copy hentries hnaive (hexit ▸ hsuccess)
    rw [hend]
    exact ⟨rfl, rfl, gathers_copy hentries hnaive hs.ordered⟩
  · exact spentFrom_of_failure (hexit ▸ hfailure)

/-! ## A transaction with a failure on its way -/

/-- A script that changes the only demon, adds a second one, and goes on after a modification of a
third one that does not exist. -/
def sampleChanges : List ScriptStep := [
  ⟨.ok (.saveEntity ⟨1, .demon, ⟨[("name", .text "Bloodbath"), ("position", .int 2)]⟩⟩), false⟩,
  ⟨.ok (.insertEntity .demon (.object [("name", .text "Cataclysm")])), false⟩,
  ⟨.ok (.appendModification ⟨.demon, 3, 7, .naive ⟨27, by decide⟩, .empty⟩), true⟩,
  ⟨.ok (.appendModification ⟨.demon, 1, 7, .naive ⟨27, by decide⟩, ⟨[("position", .int 5)]⟩⟩),
    false⟩,
  ⟨.ok (.appendAddition ⟨.demon, 2, 7, .naive ⟨45, by decide⟩⟩), false⟩,
  ⟨.ok (.listEntities .demon), false⟩,
  ⟨.ok (.modifications .demon {}), false⟩]

/-- All of the script but its third step takes effect. -/
theorem sampleChanges_act_directly :
    let s := Store.empty.after sampleRun
    let program := Script.program sampleChanges
    let taken := program.takenWith Staging.perform (.start s .transaction)
    let exit := run .transaction program Report.failure s
    s.Reachable ∧ s.Naive ∧ (∀ x ∈ taken, x.step.Naive) ∧ Report.failure exit.result = none ∧
      exit.failure = none ∧ exit.state = (program.runWith s.carryOut s).2 ∧
      s.Gathers exit.state taken := by
  intro s program taken exit
  have hs : s.Reachable := Reachable.empty.after sampleRun
  have hnaive : s.Naive := (ledger_of_run sampleRun).sound.naive
  have hsteps : ∀ step ∈ sampleChanges, ∀ s, step.action = .ok s → s.Naive := by
    simp [sampleChanges, Step.Naive, Moment.isAware]
  have hentries : ∀ x ∈ taken, x.step.Naive := fun x => Script.naive_of_mem_takenWith hsteps
  have hsuccess : Report.failure exit.result = none := by decide +kernel
  obtain ⟨-, -, -, -, hend, -⟩ :=
    hs.transaction_acts_directly hnaive program Report.failure hentries
  exact ⟨hs, hnaive, hentries, hsuccess, hend hsuccess⟩

end Store

end Chronicle
