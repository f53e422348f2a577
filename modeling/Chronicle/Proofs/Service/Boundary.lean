import Chronicle.Proofs.Reconstruction.Presence
import Chronicle.Proofs.Schema.Projection

/-!
# The schema boundary

Only validated attributes pass into a store, so whatever calls lead to it, the attributes of its
entities are fixed points of validation. What a modification recorded was an attribute of an entity
once: it is of the attribute's type, and the present attributes stay fixed when it is put back.

## Main statements

* `Ledger.exists_of_modification` — a modification is of a live entity.
* `Ledger.normal_set_recorded` — putting back what a modification recorded.
* `stored_fixed_by_validate` — what is stored passes validation unchanged, after any calls.
-/

namespace Chronicle

open Service

namespace Ledger

variable {ws : List Write} {s : Store} {kind : Kind} {m : Modification}

/-- A modification is of a live entity of its kind. -/
theorem exists_of_modification (h : Ledger ws s) (hm : m ∈ s.modifications.ofKind kind) :
    m.kind = kind ∧ ∃ e, s.find? kind m.entityId = some e := by
  obtain ⟨w, hw, rfl, hentry⟩ := h.exists_of_mem_modifications hm
  rw [Write.entityId_of_modification? hentry]
  exact ⟨Write.kind_of_modification? hentry, h.exists_of_mem hw⟩

/-- Every entry of a modification is what it recorded under its name. -/
theorem get?_of_mem_diffs (h : Ledger ws s) (hm : m ∈ s.modifications.ofKind kind)
    {d : String × Value} (hd : d ∈ m.diffs.entries) : m.diffs.get? d.1 = some d.2 := by
  obtain ⟨w, hw, rfl, hentry⟩ := h.exists_of_mem_modifications hm
  obtain ⟨before, actor, now, -, -, -, rfl⟩ := Write.modification?_eq_some.1 hentry
  exact (Attributes.distinct_diff ..).get?_of_mem hd

/-- The present attributes with a recorded value put back are normal. -/
theorem normal_set_recorded (h : Ledger ws s) (hm : m ∈ s.modifications.ofKind kind) {e : Entity}
    (he : s.find? kind m.entityId = some e) {name : String} {v : Value}
    (hv : m.diffs.get? name = some v) : kind.Normal (e.attributes.set name v) := by
  obtain ⟨hname, hnormal⟩ := h.recorded_normal hm hv
  obtain ⟨type, htype⟩ := Kind.exists_typeOf? hname
  exact (h.normal he).set htype (hnormal type htype)

end Ledger

/-- What is stored passes validation unchanged. Whatever calls led to a store, with whatever
attributes and changes: the attributes of every entity are a fixed point of the validation of its
kind; and a modification records tracked attributes of its kind only, of a live entity whose present
attributes are a fixed point also with any of the recorded values put back. -/
theorem stored_fixed_by_validate (calls : List Call) :
    let s := Store.empty.after calls
    (∀ kind, ∀ e ∈ (s.entities.get kind).rows,
      e.kind = kind ∧ kind.validate e.attributes.toValue = .ok e.attributes) ∧
    ∀ kind, ∀ m ∈ s.modifications.ofKind kind,
      m.kind = kind ∧ ∃ e, s.find? kind m.entityId = some e ∧
        ∀ d ∈ m.diffs.entries, d.1 ∈ kind.tracked ∧
          kind.validate (e.attributes.set d.1 d.2).toValue = .ok (e.attributes.set d.1 d.2) := by
  intro s
  have h := ledger_of_run calls
  refine ⟨fun kind e he => ?_, fun kind m hm => ?_⟩
  · have hfind : s.find? kind e.id = some e := EntityTable.mem_rows_iff.1 he
    exact ⟨h.sound.filed kind e.id e hfind, Kind.normal_iff_validate.1 (h.normal hfind)⟩
  · obtain ⟨hkind, e, he⟩ := h.exists_of_modification hm
    refine ⟨hkind, e, he, fun d hd => ?_⟩
    have hget := h.get?_of_mem_diffs hm hd
    exact ⟨(h.recorded_normal hm hget).1,
      Kind.normal_iff_validate.1 (h.normal_set_recorded hm he hget)⟩

end Chronicle
