import Chronicle.Proofs.History.Timeline
import Chronicle.Proofs.Relational.Evaluation
import Chronicle.Proofs.Relational.Rows

/-!
# Rows of log entries

The rows of a log are numbered in the order in which they were added. Rows ordered by moment and
number are in the order of a timeline, where entries of one moment keep the order in which they
came, and each row reads as the entry that it was made of.

## Main definitions

* `Timeline.Sooner` — the order of numbered entries by moment and number.
* `Row.numbered`, `Numbered` — rows with their numbers, the rows of a list of entries.
* `Row.Describes` — what the columns say that every log has.

## Main statements

* `Timeline.pairwise_sooner_arranged` — numbered entries on a timeline.
* `modification_numbered`, `addition_numbered` — what the rows of entries read as.
-/

namespace Chronicle

/-! ## Numbered entries on a timeline -/

namespace Timeline

variable {α : Type} {stamp : α → Moment} {p q : Int × α} {ps : List (Int × α)}

/-- Whether a numbered entry is sooner than another: at an earlier moment, or at the same one with a
smaller number. -/
def Sooner (stamp : α → Moment) (p q : Int × α) : Prop :=
  (stamp p.2).instant < (stamp q.2).instant ∨
    (stamp p.2).instant = (stamp q.2).instant ∧ p.1 < q.1

theorem Sooner.asymm (h : Sooner stamp p q) : ¬ Sooner stamp q p := by
  unfold Sooner at *
  omega

theorem map_place_snd : (place (fun p => stamp p.2) p ps).map (·.2) =
    place stamp p.2 (ps.map (·.2)) := by
  induction ps with
  | nil => rfl
  | cons q rest ih =>
    rw [place, List.orderedInsert_cons, List.map_cons, place, List.orderedInsert_cons]
    split
    · rfl
    · rw [List.map_cons]
      exact congrArg (q.2 :: ·) ih

theorem map_arranged_snd (ps : List (Int × α)) :
    (arranged (fun p => stamp p.2) ps).map (·.2) = arranged stamp (ps.map (·.2)) := by
  induction ps using List.reverseRecOn with
  | nil => rfl
  | append_singleton ps p ih =>
    rw [arranged_append_singleton, map_place_snd, ih, List.map_append, List.map_singleton,
      arranged_append_singleton]

/-- An entry with the largest number is placed after all entries of its moment. -/
theorem pairwise_sooner_place (h : ps.Pairwise (Sooner stamp)) (hp : ∀ q ∈ ps, q.1 < p.1) :
    (place (fun p => stamp p.2) p ps).Pairwise (Sooner stamp) := by
  induction ps with
  | nil => exact List.pairwise_singleton ..
  | cons q rest ih =>
    obtain ⟨hq, hrest⟩ := List.pairwise_cons.1 h
    obtain ⟨hpq, hprest⟩ := List.forall_mem_cons.1 hp
    rw [place, List.orderedInsert_cons]
    split
    · refine List.pairwise_cons.2 ⟨fun r hr => ?_, h⟩
      rcases List.mem_cons.1 hr with rfl | hr
      · exact .inl ‹_›
      · have hqr := hq r hr
        unfold Sooner at hqr ⊢
        omega
    · refine List.pairwise_cons.2 ⟨fun r hr => ?_, ih hrest hprest⟩
      rcases List.mem_cons.1 (place_perm.mem_iff.1 hr) with rfl | hr
      · unfold Sooner
        omega
      · exact hq r hr

/-- Entries that are numbered in the order in which they come are arranged by moment and number. -/
theorem pairwise_sooner_arranged (h : (ps.map (·.1)).Pairwise (· < ·)) :
    (arranged (fun p => stamp p.2) ps).Pairwise (Sooner stamp) := by
  induction ps using List.reverseRecOn with
  | nil => exact .nil
  | append_singleton ps p ih =>
    rw [List.map_append, List.map_singleton] at h
    obtain ⟨hps, -, hp⟩ := List.pairwise_append.1 h
    rw [arranged_append_singleton]
    refine pairwise_sooner_place (ih hps) fun q hq => ?_
    have hmem : q ∈ ps := arranged_perm.mem_iff.1 hq
    exact hp q.1 (List.mem_map_of_mem hmem) p.1 List.mem_cons_self

end Timeline

namespace Relational

/-! ## Rows of entries -/

/-- A row of a log with its number. -/
def Row.numbered (row : Row) (n : Int) : Row := row.set "seq" (.value (.int n))

/-- Whether rows are those of entries, numbered in the order in which the entries came. -/
def Numbered {α : Type} (rowOf : α → Row) (entries : List α) (rows : List Row) : Prop :=
  ∃ ps : List (Int × α), ps.map (·.2) = entries ∧ (ps.map (·.1)).Pairwise (· < ·) ∧
    rows = ps.map fun p => (rowOf p.2).numbered p.1

/-- The rows of entries, numbered from zero on. -/
def numberedRows {α : Type} (rowOf : α → Row) (entries : List α) : List Row :=
  entries.zipIdx.map fun p => (rowOf p.1).numbered p.2

theorem numbered_numberedRows {α : Type} (rowOf : α → Row) (entries : List α) :
    Numbered rowOf entries (numberedRows rowOf entries) := by
  refine ⟨entries.zipIdx.map fun p => (p.2, p.1), ?_, ?_, ?_⟩
  · simp [Function.comp_def]
  · have hnumbers : (entries.zipIdx.map (·.2)).Pairwise (· < ·) := by
      rw [List.zipIdx_map_snd]
      exact List.pairwise_lt_range'
    rw [List.map_map, List.pairwise_map]
    exact (List.pairwise_map.1 hnumbers).imp Int.ofNat_lt.2
  · simp [numberedRows, Function.comp_def]

/-- What the columns that every log has say. -/
structure Row.Describes (row : Row) (seq entityId actorId : Int) (timestamp : Moment) : Prop where
  seq : row.get "seq" = .value (.int seq)
  entityId : row.get "entity_id" = .value (.int entityId)
  actorId : row.get "actor_id" = .value (.int actorId)
  time : row.get "time" = .moment timestamp

namespace Row

theorem names_ofAddition (a : Addition) :
    (ofAddition a).names = ["seq", "entity_id", "actor_id", "time"] := names_ofCells _ _

theorem names_ofModification (m : Modification) :
    (ofModification m).names = ["seq", "entity_id", "actor_id", "time", "diffs"] :=
  names_ofCells _ _

theorem get_numbered {row : Row} {name : String} (n : Int) (h : name ∈ row.names) :
    (row.numbered n).get name = if name = "seq" then .value (.int n) else row.get name :=
  get_set "seq" _ h

theorem describes_ofAddition (a : Addition) (n : Int) :
    ((ofAddition a).numbered n).Describes n a.entityId a.actorId a.timestamp := by
  constructor <;>
    rw [get_numbered n (by simp [names_ofAddition])] <;>
    simp [ofAddition, get_ofCells, Table.columns, additionColumns, List.lookup_cons]

theorem describes_ofModification (m : Modification) (n : Int) :
    ((ofModification m).numbered n).Describes n m.entityId m.actorId m.timestamp := by
  constructor <;>
    rw [get_numbered n (by simp [names_ofModification])] <;>
    simp [ofModification, get_ofCells, Table.columns, modificationColumns, additionColumns,
      List.lookup_cons]

theorem diffs_ofModification (m : Modification) (n : Int) :
    ((ofModification m).numbered n).get "diffs" = .value m.diffs.toValue := by
  rw [get_numbered n (by simp [names_ofModification])]
  simp [ofModification, get_ofCells, Table.columns, modificationColumns, additionColumns,
    List.lookup_cons]

end Row

variable {row : Row} {kind : Kind} {n entityId actorId : Int} {timestamp : Moment}

theorem Row.Describes.addition (h : row.Describes n entityId actorId timestamp) :
    row.addition kind = .ok ⟨kind, entityId, actorId, timestamp⟩ := by
  rw [Row.addition, Row.integer, Row.integer, h.entityId, h.actorId, h.time]
  rfl

theorem Row.Describes.modification (h : row.Describes n entityId actorId timestamp)
    {diffs : Attributes} (hdiffs : row.get "diffs" = .value diffs.toValue) :
    row.modification kind = .ok ⟨kind, entityId, actorId, timestamp, diffs⟩ := by
  have hdocument : (row.get "diffs").asDocument = .ok diffs := by
    obtain ⟨entries⟩ := diffs
    rw [hdiffs]
    cases entries <;> rfl
  rw [Row.modification, Row.integer, Row.integer, h.entityId, h.actorId, h.time, hdocument]
  rfl

/-- The row of an addition reads as the addition. -/
theorem addition_numbered (a : Addition) (n : Int) :
    ((Row.ofAddition a).numbered n).addition a.kind = .ok a :=
  (Row.describes_ofAddition a n).addition

/-- The row of a modification reads as the modification. -/
theorem modification_numbered (m : Modification) (n : Int) :
    ((Row.ofModification m).numbered n).modification m.kind = .ok m :=
  (Row.describes_ofModification m n).modification (Row.diffs_ofModification m n)

/-- Rows of a log are ordered by moment and number. -/
theorem Row.Describes.precedes {other : Row} {k otherId otherActor : Int} {otherTime : Moment}
    (h : row.Describes n entityId actorId timestamp)
    (hother : other.Describes k otherId otherActor otherTime) :
    row.precedes other ["time", "seq"] = true ↔
      timestamp.instant < otherTime.instant ∨ timestamp.instant = otherTime.instant ∧ n < k := by
  simp only [Row.precedes, h.time, h.seq, hother.time, hother.seq, Cell.below, Bool.and_false,
    Bool.or_false, Bool.or_eq_true, Bool.and_eq_true, Bool.not_eq_true', decide_eq_true_eq,
    decide_eq_false_iff_not]
  omega

end Relational

end Chronicle
