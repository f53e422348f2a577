import Chronicle.Proofs.Service.Ledger
import Chronicle.Proofs.Storage.Change

/-!
# Writes have their effect or none

In every store that calls of the service lead to, whatever their clock read, a write that passes its
checks changes one entity and one log by one entry each, and a call that fails changes nothing. The
publication of a write never fails, as no entry of a log knows an offset.

## Main definitions

* `Call.Effect` — what a call may do to a store.
* `Store.Publishes` — blocks whose publication does not fail.

## Main statements

* `Ledger.effect` — the effect of one call.
* `Ledger.count_modifications` — the number of modifications is that of the updates.
* `tracked_write_effect` — both, in every store that calls lead to.
-/

namespace Chronicle

open Service

/-! ## The effect of a call -/

/-- Whether no entity and no log entry of a kind has an id. -/
structure Store.Unused (s : Store) (kind : Kind) (id : Int) : Prop where
  entities : s.find? kind id = none
  modifications : ∀ m ∈ s.modifications.ofKind kind, m.entityId ≠ id
  additions : ∀ a ∈ s.additions.ofKind kind, a.entityId ≠ id

/-- What a call may do to a store. A creation that passes its checks adds an entity under an unused
id and an addition of it. An update that passes its checks replaces the entity by the one that it
returns, with other attributes at most, and adds a modification, also if nothing changed. A call
that fails leaves entities and logs as they were, and any other call leaves the whole store. -/
structure Call.Effect (c : Call) (s t : Store) : Prop where
  create : ∀ kind input actor?, c.request = .create kind input actor? →
    (c.perform s).result = .entity <$> createdEntity s kind input actor? c.clock ∧
    ∀ e, createdEntity s kind input actor? c.clock = .ok e →
      ∃ actor now, actor? = some actor ∧ c.clock.utc = .ok now ∧ s.Unused e.kind e.id ∧
        s.Gains t e ⟨e.kind, e.id, actor.id, .naive now⟩
  update : ∀ kind id changes actor?, c.request = .update kind id changes actor? →
    (c.perform s).result = .entity <$> updatedEntity s kind id changes actor? c.clock ∧
    ∀ e, updatedEntity s kind id changes actor? c.clock = .ok e →
      ∃ before actor now, actor? = some actor ∧ c.clock.utc = .ok now ∧
        s.find? e.kind id = some before ∧ e = { before with attributes := e.attributes } ∧
        s.Changes t before e ⟨e.kind, id, actor.id, .naive now,
          before.attributes.diff e.attributes e.kind.tracked⟩
  failed : ∀ e, (c.perform s).result = .error e → s.SameRecords t
  read : c.request.isCreate = false → c.request.isUpdate = false → t = s

/-- Whether a transaction that runs a block on a store fails only if the block does. -/
def Store.Publishes {α : Type} (s : Store) (b : Block α) : Prop :=
  let exit := run .transaction b.run Block.failure? s
  exit.failure = Block.failure? exit.result

namespace Store

variable {α : Type} {s : Store} {b : Block α} {st : Staging}

theorem publishes_of_error {e : Error}
    (h : Staging.exec b (.start s .transaction) = (.error e, st)) : s.Publishes b := by
  unfold Publishes
  rw [run_of_failure h rfl]
  rfl

theorem publishes_of_ok {a : α} (h : Staging.exec b (.start s .transaction) = (.ok a, st))
    (hpublish : st.publish.2 = none) : s.Publishes b := by
  unfold Publishes
  rw [run_of_success h rfl]
  exact hpublish

/-- The publication of a creation does not fail. -/
theorem Sound.publishes_creation (hs : s.Sound) (kind : Kind) (attributes : Attributes)
    (actor : Actor) (clock : Moment) : s.Publishes (creation kind attributes actor clock) := by
  cases hnow : clock.utc with
  | error e => exact publishes_of_error (exec_creation_error hnow)
  | ok now =>
    have hpublish := publish_creation hs (newEntity s kind attributes) actor now
    exact publishes_of_ok (exec_creation hnow) (congrArg Prod.snd hpublish)

/-- The publication of an update does not fail. -/
theorem Sound.publishes_alteration (hs : s.Sound) (kind : Kind) (id : Int) (changes : Attributes)
    (actor : Actor) (clock : Moment) : s.Publishes (alteration kind id changes actor clock) := by
  rcases exec_alteration_cases s kind id changes actor clock with
    ⟨before, attributes, now, hbefore, hattributes, hnow⟩ | ⟨e, -, he⟩
  · obtain rfl := hs.filed kind id before hbefore
    obtain rfl := EntityTable.id_of_get? hbefore
    have hpublish := publish_alteration hs before { before with attributes } actor now
    exact publishes_of_ok (exec_alteration hbefore hattributes hnow) (congrArg Prod.snd hpublish)
  · exact publishes_of_error he

end Store

namespace Call

/-- A call that is no write never changes the store. -/
theorem perform_readOnly {c : Call} (hcreate : c.request.isCreate = false)
    (hupdate : c.request.isUpdate = false) : (c.perform : Operation Store Response).ReadOnly :=
  Operation.readOnly_of_keeps (c.perform_keeps keptBySnapshots_store (by simp [hcreate, hupdate]))

/-- A call of a sound store that fails leaves entities and logs as they were. -/
theorem sameRecords_of_error {c : Call} {s : Store} (hs : s.Sound) {e : Error}
    (h : (c.perform s).result = .error e) : s.SameRecords (c.step s) := by
  have hnone := write?_of_error h
  cases c.steps hs with
  | created _ _ _ _ hwrite _ => cases hwrite.symm.trans hnone
  | updated _ _ _ _ _ hwrite _ => cases hwrite.symm.trans hnone
  | unchanged _ hstep => exact hstep.toSameRecords

end Call

namespace Ledger

variable {ws : List Write} {s : Store}

/-- The next id of a kind is unused. -/
theorem unused_nextId (h : Ledger ws s) (kind : Kind) : s.Unused kind (s.nextIds.get kind) where
  entities := h.find?_nextId kind
  modifications _ hm heq := absurd (h.modification_lt hm) (heq ▸ Int.lt_irrefl _)
  additions _ ha heq := absurd (h.addition_lt ha) (heq ▸ Int.lt_irrefl _)

/-- What a call does to a store that is accounted for. -/
theorem effect (h : Ledger ws s) (c : Call) : c.Effect s (c.step s) where
  create kindValue input actor? hrequest := by
    obtain ⟨request, clock⟩ := c
    obtain rfl : request = _ := hrequest
    rw [Call.step, Call.perform, Operation.map_result, Operation.map_state]
    rcases create_cases h.sound kindValue input actor? clock with
      ⟨kind, attributes, actor, now, hkind, hvalid, rfl, hnow, hresult, hstate⟩ |
      ⟨e, hchecks, hresult, -⟩
    · have hchecks : createdEntity s kindValue input (some actor) clock =
          .ok (newEntity s kind attributes) := by
        simp [createdEntity, requireActor, hkind, hvalid, hnow]
      rw [hresult, hstate, hchecks]
      refine ⟨rfl, fun e he => ?_⟩
      cases he
      have hunused := h.unused_nextId kind
      exact ⟨actor, now, rfl, hnow, hunused, Store.gains_withCreated rfl hunused.entities⟩
    · rw [hresult, hchecks]
      exact ⟨rfl, fun _ he => by cases he⟩
  update kindValue id changes actor? hrequest := by
    obtain ⟨request, clock⟩ := c
    obtain rfl : request = _ := hrequest
    rw [Call.step, Call.perform, Operation.map_result, Operation.map_state]
    rcases update_cases h.sound kindValue id changes actor? clock with
      ⟨before, attributes, actor, now, hkind, rfl, hbefore, hvalid, rfl, hnow, hresult, hstate⟩ |
      ⟨e, hchecks, hresult, -⟩
    · rw [hresult, hstate, updatedEntity_of_valid actor hkind hbefore hvalid hnow]
      refine ⟨rfl, fun e he => ?_⟩
      cases he
      exact ⟨before, actor, now, rfl, hnow, hbefore, rfl,
        Store.changes_withUpdated rfl rfl rfl hbefore⟩
    · rw [hresult, hchecks]
      exact ⟨rfl, fun _ he => by cases he⟩
  failed _ := Call.sameRecords_of_error h.sound
  read hcreate hupdate := (Call.perform_readOnly hcreate hupdate).state s

/-- A write that succeeded leaves a modification if and only if it was an update. -/
theorem isSome_modification? {w : Write} (hw : w.Valid) :
    w.modification?.isSome = w.call.request.isUpdate := by
  cases hbefore : w.before with
  | none =>
    have hcreate := hw.created hbefore
    have hupdate : w.call.request.isUpdate = false := by
      cases hrequest : w.call.request <;> simp_all [Request.isCreate, Request.isUpdate]
    simp [Write.modification?, hbefore, hupdate]
  | some e =>
    obtain ⟨m, hm, -⟩ := hw.exists_modification hbefore
    rw [hm, hw.updated e hbefore, Option.isSome_some]

/-- The log of a kind has one modification for each update that succeeded. -/
theorem count_modifications (h : Ledger ws s) (kind : Kind) :
    s.modifications.count kind =
      ws.countP fun w => w.call.request.isUpdate && decide (w.entity.kind = kind) := by
  calc s.modifications.count kind
    _ = (entriesOf Write.modification? kind ws).length := by
        rw [ModificationLog.count, h.modifications]
        exact Timeline.arranged_perm.length_eq
    _ = ws.countP fun w => w.modification?.isSome && decide (w.entity.kind = kind) := by
        rw [entriesOf, List.length_filterMap_eq_countP, List.countP_filter]
    _ = ws.countP fun w => w.call.request.isUpdate && decide (w.entity.kind = kind) :=
        List.countP_congr fun w hw => by rw [isSome_modification? (h.valid w hw)]

end Ledger

/-- In every store that calls of the service lead to, at any readings of their clock, the next call
has its effect or none, and neither the publication of a creation nor that of an update fails. So
the log of a kind has as many modifications as updates of the kind succeeded, and every live entity
has exactly one addition. -/
theorem tracked_write_effect (calls : List Call) :
    let s := Store.empty.after calls
    (∀ c : Call, c.Effect s (c.step s)) ∧
    (∀ kind attributes actor clock, s.Publishes (creation kind attributes actor clock)) ∧
    (∀ kind id changes actor clock, s.Publishes (alteration kind id changes actor clock)) ∧
    (∀ kind, s.modifications.count kind = (Store.empty.writes calls).countP fun w =>
      w.call.request.isUpdate && decide (w.entity.kind = kind)) ∧
    ∀ kind id e, s.find? kind id = some e →
      ∃ a, (s.additions.ofKind kind).filter (·.entityId == id) = [a] := by
  intro s
  have h := ledger_of_run calls
  exact ⟨h.effect, h.sound.publishes_creation, h.sound.publishes_alteration, h.count_modifications,
    fun _ _ _ => h.exists_addition⟩

end Chronicle
