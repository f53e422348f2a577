import Chronicle.Proofs.Service.Reachable

/-!
# Failed transactions

A transaction can fail in its program or at its publication. A failure of the program leaves
entities and logs as they were. A publication ends at the first entry that a log refuses and takes
nothing back, so it leaves them as they were only if it has had nothing to publish until then.

## Main definitions

* `Store.staged` — a transaction as its program leaves it.
* `Staging.Unaltering` — transactions whose entities are the committed ones.
* `Staging.FirstClashes` — transactions whose first log entry is refused.

## Main statements

* `Store.Reachable.transaction_sameRecords_iff` — which failed transactions leave no trace.
-/

namespace Chronicle

namespace Staging

/-- Whether every entity that a transaction staged is the committed one. -/
def Unaltering (st : Staging) : Prop :=
  ∀ kind, ∀ e ∈ (st.entities.get kind).rows, st.store.find? kind e.id = some e

/-- Whether the first log entry that a transaction staged cannot be compared with the entries of its
kind in the log. Modifications come before additions. -/
def FirstClashes (st : Staging) : Prop :=
  match st.modifications, st.additions with
  | m :: _, _ => st.store.modifications.Clashes m
  | [], a :: _ => st.store.additions.Clashes a
  | [], [] => False

theorem firstRefused_iff {st : Staging} (h : st.store.Uniform) :
    st.FirstRefused ↔ st.FirstClashes := by
  unfold FirstRefused FirstClashes
  cases st.modifications with
  | cons m rest => exact ModificationLog.append_eq_error_iff h.modifications
  | nil =>
    cases st.additions with
    | cons a rest => exact AdditionLog.append_eq_error_iff h.additions
    | nil => exact .rfl

end Staging

namespace Store

variable {α : Type}

/-- A transaction as its program leaves it. -/
def staged (s : Store) (program : Program α) : α × Staging :=
  Staging.run program (.start s .transaction)

/-- A transaction that fails leaves entities and logs as they were if and only if its program
failed, or it staged no entity that differs from the committed one and the first of its log entries
is refused. -/
theorem Reachable.transaction_sameRecords_iff {s : Store} (hs : s.Reachable) (program : Program α)
    (failure? : α → Option Error)
    (hfail : (run .transaction program failure? s).failure.isSome = true) :
    s.SameRecords (run .transaction program failure? s).state ↔
      (failure? (s.staged program).1).isSome = true ∨
        (s.staged program).2.Unaltering ∧ (s.staged program).2.FirstClashes := by
  -- The program spends ids at most.
  have hsame := Staging.run_sameRecords program (.start s .transaction)
  unfold staged
  rcases hrun : Staging.run program (.start s .transaction) with ⟨a, st⟩
  rw [hrun] at hsame
  cases hfailure : failure? a with
  | some e =>
    rw [run_of_failure hrun hfailure]
    exact iff_of_true hsame (.inl rfl)
  | none =>
    rw [run_of_success hrun hfailure] at hfail ⊢
    have hpublish := Staging.publish_sameRecords_iff hfail
    rw [Staging.firstRefused_iff (hsame.uniform hs.uniform)] at hpublish
    have hshift : s.SameRecords st.publish.1 ↔ st.store.SameRecords st.publish.1 :=
      ⟨hsame.symm.trans, hsame.trans⟩
    exact hshift.trans (hpublish.trans (or_iff_right Bool.false_ne_true).symm)

/-! ## A transaction that fails half-way -/

/-- A script that writes a second demon and its addition at a moment that knows its offset. -/
def awareArrival : Program Report := Script.program [
  ⟨.ok (.insertEntity .demon (.object [("name", .text "Bloodbath")])), false⟩,
  ⟨.ok (.appendAddition ⟨.demon, 2, 7, .aware ⟨40, by decide⟩ 0⟩), false⟩]

theorem awareArrival_sameRecords_iff :
    let s := Store.empty.after sampleRun
    s.Reachable ∧ (run .transaction awareArrival Report.failure s).failure.isSome = true ∧
      (s.SameRecords (run .transaction awareArrival Report.failure s).state ↔
        (Report.failure (s.staged awareArrival).1).isSome = true ∨
          (s.staged awareArrival).2.Unaltering ∧ (s.staged awareArrival).2.FirstClashes) := by
  intro s
  have hs : s.Reachable := Reachable.empty.after sampleRun
  have hfail : (run .transaction awareArrival Report.failure s).failure.isSome = true := by
    decide +kernel
  exact ⟨hs, hfail, Reachable.transaction_sameRecords_iff hs awareArrival Report.failure hfail⟩

/-- The second demon appears, although its transaction fails. -/
theorem awareArrival_not_sameRecords :
    let s := Store.empty.after sampleRun
    s.Reachable ∧ (run .transaction awareArrival Report.failure s).failure.isSome = true ∧
      ¬ s.SameRecords (run .transaction awareArrival Report.failure s).state := by
  refine ⟨Reachable.empty.after sampleRun, by decide +kernel, fun h => ?_⟩
  have hsize := congrArg (fun entities => (entities.get .demon).size) h.entities
  exact absurd hsize (by decide +kernel)

end Store

end Chronicle
