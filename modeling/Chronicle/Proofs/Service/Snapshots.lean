import Chronicle.Proofs.Relational.Snapshots
import Chronicle.Proofs.Service.Run

/-!
# Snapshots only read

A snapshot changes neither storage: in memory nothing at all, in the stand-in no row and no key, and
no call of it writes or locks. A write inside a snapshot is refused before anything is done for it.
All reads of the service run in snapshots, so what is asked later is answered as without them.

## Main definitions

* `SameAnswers` — storages that answer alike whatever is asked of them.

## Main statements

* `UnitOfWork.sameAnswers_of_simulates` — storages whose units of work correspond.
* `snapshots_only_read` — snapshots and reads on both storages.
-/

namespace Chronicle

/-! ## What is asked later -/

/-- Whether two storages answer alike whatever call or unit of work comes next, and still do after
any list of activities. -/
def SameAnswers {σ : Type} [UnitOfWork σ] (s t : σ) : Prop :=
  ∀ activities : List Activity,
    (∀ c : Call, (c.perform (afterAll s activities)).result =
      (c.perform (afterAll t activities)).result) ∧
    ∀ {α : Type} (mode : Mode) (program : Program α) (failure? : α → Option Error),
      let first := UnitOfWork.run mode program failure? (afterAll s activities)
      let second := UnitOfWork.run mode program failure? (afterAll t activities)
      first.result = second.result ∧ first.failure = second.failure

/-- Storages whose units of work correspond answer alike. -/
theorem UnitOfWork.sameAnswers_of_simulates {σ : Type} [UnitOfWork σ] {R : σ → σ → Prop}
    (hR : UnitOfWork.Simulates R) {s t : σ} (h : R s t) : SameAnswers s t := by
  intro activities
  have hlast := afterAll_simulates hR h activities
  refine ⟨fun c => (c.perform_simulates hR _ _ hlast).1, fun mode program failure? => ?_⟩
  obtain ⟨hresult, hfailure, -⟩ := hR mode program failure? _ _ hlast
  exact ⟨hresult, hfailure⟩

namespace Relational

/-- A storage whose session answers the next queries from a list of results. -/
def answering (results : List (List Row)) (t : RelationalStore StandIn) :
    RelationalStore StandIn :=
  { t with session := { t.session with results } }

theorem keptBySnapshots_untouched : KeptBySnapshots Untouched where
  refl t := ⟨.refl t.session, rfl⟩
  trans h h' := ⟨h.session.trans h'.session, h'.isolation.trans h.isolation⟩
  snapshot := untouched_snapshot

/-- What has only been read answers alike, if queries are answered from the same results. -/
theorem Untouched.sameAnswers {t u : RelationalStore StandIn} (h : Untouched t u)
    (results : List (List Row)) : SameAnswers (answering results u) (answering results t) :=
  UnitOfWork.sameAnswers_of_simulates (RelationalStore.simulates StandIn.sameContents_simulates)
    ⟨⟨h.session.rows, h.session.nextKey, rfl⟩, h.isolation⟩

end Relational

open Relational

/-- Snapshots only read. A snapshot leaves a store in memory as it was, spent ids included. In the
stand-in it leaves the rows and the next key, and neither writes nor locks; both hold of every
program, whether it goes on after a failure or not. A step that writes is refused inside a snapshot
with the store in memory, and every session, as they were. So a call that does not write changes
nothing that a later call or unit of work is answered: in memory it leaves the whole store, and the
stand-in, given results for the queries to come, answers as if there had been no such call. -/
theorem snapshots_only_read :
    (∀ {α : Type} (program : Program α) (failure? : α → Option Error) (s : Store),
      (Store.run .snapshot program failure? s).state = s) ∧
    (∀ {α : Type} (program : Program α) (failure? : α → Option Error)
      (t : RelationalStore StandIn),
      Untouched t (RelationalStore.run .snapshot program failure? t).state) ∧
    (∀ step : Step, step.isWrite = true →
      (∀ st : Staging, st.readOnly = true → st.perform step = (.error .readOnly, st)) ∧
      ∀ {σ : Type} [Session σ] (session : σ),
        Work.exec (Work.perform true step) session = (.error .readOnly, session)) ∧
    ∀ c : Chronicle.Call, (c.request.isCreate || c.request.isUpdate) = false →
      (∀ s : Store, (c.perform s).state = s) ∧
      ∀ (t : RelationalStore StandIn) (results : List (List Row)),
        SameAnswers (answering results (c.perform t).state) (answering results t) := by
  refine ⟨Store.state_snapshot, untouched_snapshot, fun step hstep => ⟨?_, ?_⟩, fun c hc => ?_⟩
  · intro st hst
    exact Staging.perform_of_isWrite hst hstep
  · intro σ _ session
    exact Work.perform_readOnly_of_isWrite hstep session
  · refine ⟨c.perform_keeps keptBySnapshots_store hc, fun t results => ?_⟩
    exact (c.perform_keeps keptBySnapshots_untouched hc t).sameAnswers results

end Chronicle
