import Chronicle.Proofs.Service.Keeping
import Chronicle.Proofs.Service.Write

/-!
# The effect of reads

Reads run in snapshots and leave the store as it is.

## Main statements

* `Service.reconstructAt_readOnly` — a reconstruction does not change the store.
* `Service.auditTrail_eq` — the entries of an audit trail.
-/

namespace Chronicle.Service

open Operation

@[simp] theorem ofValue_name (kind : Kind) : Kind.ofValue (.text kind.name) = .ok kind := by
  cases kind <;> rfl

/-- A kind is named by its name alone. -/
theorem eq_name_of_ofValue {v : Value} {kind : Kind} (h : Kind.ofValue v = .ok kind) :
    v = .text kind.name := by
  cases v with
  | text s =>
    cases hfind : Kind.ofName? s with
    | some found =>
      rw [Kind.ofValue, hfind] at h
      cases h
      have hname : kind.name = s := by simpa using List.find?_some hfind
      rw [hname]
    | none =>
      rw [Kind.ofValue, hfind] at h
      cases h
  | _ => cases h

theorem reconstructAt_readOnly (kind : Value) (moment : Moment) (name : Option String) :
    (reconstructAt kind moment name : Operation Store (List HistoricalRow)).ReadOnly :=
  readOnly_of_keeps (reconstructAt_keeps keptBySnapshots_store kind moment name)

/-- An audit trail holds the entries of the entity in the order of the log. -/
theorem auditTrail_eq (s : Store) (kind : Kind) (id : Int) :
    (auditTrail (.text kind.name) id s).result =
      .ok ((s.modifications.ofKind kind).filter (·.entityId == id)) := by
  have hentries : s.modifications.entries kind { entityId := some id } =
      .ok ((s.modifications.ofKind kind).filter (·.entityId == id)) := by
    rw [ModificationLog.entries_eq_ok_of_none rfl]
    exact congrArg Except.ok (List.filter_congr fun m _ => Bool.and_true _)
  rw [auditTrail, ofValue_name, lift_bind_ok, within_snapshot_result,
    Staging.exec_modifications, hentries]

end Chronicle.Service
