import Chronicle.Proofs.Relational.EntityRows
import Chronicle.Proofs.Relational.LogRows
import Chronicle.Proofs.Service.Ledger

/-!
# Contents that represent a store

A store in memory is represented by contents of tables: entities have their rows, the next ids are
the same, and the log tables have the rows of the entries that writes have left, in the order of the
writes. Inserting the rows of a new entity and its addition, or overwriting the row of an entity and
inserting that of its modification, keeps contents and store together.

## Main definitions

* `Modification.RecordedBy`, `Addition.RecordedBy` — whether a row is that of a log entry.
* `Contents.Represents` — whether contents represent a store that writes have led to.

## Main statements

* `Contents.Represents.created`, `Contents.Represents.updated` — what a write leaves.
-/

namespace Chronicle

/-! ## Log entries and their rows -/

/-- Whether a row with its number is that of a modification. -/
def Modification.RecordedBy (m : Modification) (r : Int × Relational.Row) : Prop :=
  r.2.Describes r.1 m.entityId m.actorId m.timestamp ∧ r.2.get "diffs" = .value m.diffs.toValue

/-- Whether a row with its number is that of an addition. -/
def Addition.RecordedBy (a : Addition) (r : Int × Relational.Row) : Prop :=
  r.2.Describes r.1 a.entityId a.actorId a.timestamp

namespace Relational

open Service

/-! ## Contents that represent a store -/

/-- Whether contents represent a store that writes have led to. -/
structure Contents.Represents (c : Contents) (ws : List Write) (s : Store) : Prop where
  entities : ∀ kind id, c.Shows kind id (s.find? kind id)
  nextIds : ∀ kind, c.next (.entities kind) = s.nextIds.get kind
  modifications : ∀ kind, List.Forall₂ Modification.RecordedBy
    (entriesOf Write.modification? kind ws) (c.rows (.modifications kind))
  additions : ∀ kind, List.Forall₂ Addition.RecordedBy
    (entriesOf Write.addition? kind ws) (c.rows (.additions kind))

namespace Contents

variable {c : Contents} {ws : List Write} {s : Store} {w : Write} {actor : Actor} {now : WallTime}

theorem represents_empty : empty.Represents [] .empty where
  entities kind id := by cases kind <;> exact .none
  nextIds kind := by cases kind <;> rfl
  modifications _ := .nil
  additions _ := .nil

/-- Inserting the row of an entry keeps a log table in step with the writes. -/
theorem forall₂_insert {α : Type} {R : α → Int × Row → Prop} {found? : Write → Option α} {x : α}
    {log : Kind → Table} {row : Row} (hlog : Function.Injective log) (hw : found? w = some x)
    (hrow : ∀ n, R x (n, row.keyed (log w.entity.kind) n)) {kind : Kind}
    (h : List.Forall₂ R (entriesOf found? kind ws) (c.rows (log kind))) :
    List.Forall₂ R (entriesOf found? kind (ws ++ [w]))
      ((c.insert (log w.entity.kind) row).rows (log kind)) := by
  rw [entriesOf_append, entriesOf_singleton, hw]
  by_cases hkind : kind = w.entity.kind
  · subst hkind
    rw [if_pos rfl, rows_insert_self]
    exact List.rel_append h (.cons (hrow _) .nil)
  · rw [if_neg hkind, List.append_nil, rows_insert_of_ne (hlog.ne hkind)]
    exact h

/-- Contents with the row of a new entity and that of its addition. -/
theorem Represents.created (h : c.Represents ws s) {kind : Kind} {attributes : Attributes}
    (hfresh : s.find? kind (s.nextIds.get kind) = none) (hattributes : kind.Normal attributes)
    (hentity : w.entity = newEntity s kind attributes)
    (haddition : w.addition? = some (newAddition w.entity actor now))
    (hmodification : w.modification? = none) :
    ((c.insert (.entities kind) (.ofNew kind attributes)).insert (.additions kind)
      (.ofAddition (newAddition w.entity actor now))).Represents (ws ++ [w])
        (s.withCreated w.entity (newAddition w.entity actor now)) := by
  -- No row has the next key, as no entity has the next id.
  have hnone : c.find? (.entities kind) (c.next (.entities kind)) = none := by
    have hsome := (h.entities kind (s.nextIds.get kind)).isSome_find?
    rw [hfresh, ← h.nextIds] at hsome
    exact Option.not_isSome_iff_eq_none.1 (Bool.not_eq_true _ ▸ hsome)
  have hkind : w.entity.kind = kind := by rw [hentity]; rfl
  refine ⟨fun other id => ?_, fun other => ?_, fun other => ?_, fun other => ?_⟩
  · refine .insert_of_ne ?_ nofun
    have hshows := (h.entities other id).insert hnone hattributes
    rw [Store.find?_withCreated, hentity]
    rwa [h.nextIds] at hshows
  · by_cases hother : other = kind
    · subst hother
      simp [Store.withCreated, hkind, ByKind.modify, h.nextIds]
    · simp [Store.withCreated, hkind, ByKind.modify, ByKind.get_set_of_ne _ _ hother, h.nextIds,
        hother]
  · simpa [entriesOf_append_none hmodification] using h.modifications other
  · have hlog : Function.Injective Table.additions := fun _ _ heq => Table.additions.inj heq
    rw [← hkind]
    refine forall₂_insert hlog haddition (Row.describes_ofAddition _) ?_
    simpa using h.additions other

/-- Contents with the overwritten row of an entity and the row of its modification. -/
theorem Represents.updated (h : c.Represents ws s) {before : Entity} {attributes : Attributes}
    (hbefore : s.find? before.kind before.id = some before)
    (hattributes : before.kind.Normal attributes) (hentity : w.entity = { before with attributes })
    (haddition : w.addition? = none)
    (hmodification : w.modification? = some (newModification before w.entity actor now)) :
    ((c.assign (.entities before.kind) before.id attributes).insert (.modifications before.kind)
      (.ofModification (newModification before w.entity actor now))).Represents (ws ++ [w])
        (s.withUpdated w.entity (newModification before w.entity actor now)) := by
  refine ⟨fun other id => ?_, fun other => ?_, fun other => ?_, fun other => ?_⟩
  · refine .insert_of_ne ?_ nofun
    have hfound := h.entities before.kind before.id
    rw [hbefore] at hfound
    rw [Store.find?_withUpdated, hentity]
    exact (h.entities other id).assign hfound hattributes
  · simpa [Store.withUpdated] using h.nextIds other
  · have hlog : Function.Injective Table.modifications := fun _ _ heq => Table.modifications.inj heq
    have hkind : w.entity.kind = before.kind := by rw [hentity]
    have hrow := fun n => And.intro
      (Row.describes_ofModification (newModification before w.entity actor now) n)
      (Row.diffs_ofModification (newModification before w.entity actor now) n)
    rw [← hkind]
    refine forall₂_insert hlog hmodification hrow ?_
    simpa using h.modifications other
  · simpa [entriesOf_append_none haddition] using h.additions other

end Contents

end Relational

end Chronicle
