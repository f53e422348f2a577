import Chronicle.Proofs.Reconstruction.Presence

/-!
# Reconstruction is total

On whatever calls leave behind, a reconstruction does not fail: all values of one attribute are
normal for one type, in the log as in the entities, so their keys can be compared, and no entry of a
log knows an offset. The keys order the rows strictly, since they end with the id. So the ordering
is determined by the rows alone, and a reconstruction finds it from entities and entries in any
order.

## Main definitions

* `HistoricalRow.Decided` — rows whose keys can be compared, and decide their order.
* `Modification.SameSequences` — logs with the same updates of each entity at each moment.
* `Store.TotallyOrders` — rows as a reconstruction finds them in any arrangement of a store.

## Main statements

* `Ledger.exists_reconstruct` — reconstructing from entities and entries in any order.
* `reconstructAt_total` — a reconstruction after any calls.
-/

namespace Chronicle

open Service

/-! ## Keys of rows -/

namespace HistoricalRow

variable {ranking : Option (List String)} {type : FieldType} {a b : HistoricalRow}

/-- Whether two rows have keys, these can be compared, and the comparison decides which row precedes
the other. -/
def Decided (ranking : Option (List String)) (a b : HistoricalRow) : Prop :=
  ∃ k l less, SortKey.ofValue ranking a.historical a.entityId = .ok k ∧
    SortKey.ofValue ranking b.historical b.entityId = .ok l ∧
    k.before l = .ok less ∧ (less = true ↔ a.Precedes ranking b)

theorem decided_of_normal (hr : type.RankedBy ranking) (ha : type.Normal a.historical)
    (hb : type.Normal b.historical) : a.Decided ranking b := by
  obtain ⟨less, hless, hiff⟩ := before_decides hr ha hb
  exact ⟨_, _, less, SortKey.ofValue_eq hr ha _, SortKey.ofValue_eq hr hb _, hless, hiff⟩

/-- A value of an attribute that sorts by rank is one of the labels. -/
theorem mem_ranking_of_normal {labels : List String} {v : Value}
    (hr : type.RankedBy (some labels)) (hv : type.Normal v) :
    ∃ label ∈ labels, v = .text label := by
  obtain rfl := hr labels rfl
  exact hv

end HistoricalRow

/-! ## Logs in another order -/

namespace Modification

variable {ms ns : List Modification}

/-- Whether two lists have the same updates of each entity at each instant, in the same order. -/
def SameSequences (ms ns : List Modification) : Prop :=
  ∀ id instant, Timeline.atInstant timestamp instant (ms.filter (·.entityId == id)) =
    Timeline.atInstant timestamp instant (ns.filter (·.entityId == id))

/-- Arranging recovers the updates of each entity in the order of their moments. -/
theorem SameSequences.filter_arranged (h : SameSequences ms ns)
    (hns : Timeline.Ordered timestamp ns) (id : Int) :
    (Timeline.arranged timestamp ms).filter (·.entityId == id) =
      ns.filter (·.entityId == id) := by
  refine (Timeline.arranged_ordered.filter _).ext (hns.filter _) fun instant => ?_
  rw [Timeline.filter_arranged, Timeline.atInstant_arranged]
  exact h id instant

end Modification

/-! ## Reconstructing in any order -/

/-- Whether rows are those of a reconstruction at a moment, whatever the order of what is stored. -/
structure Store.TotallyOrders (s : Store) (kind : Kind) (name : String) (t : WallTime)
    (rows : List HistoricalRow) : Prop where
  /-- Each row precedes all rows after it: by its value, null last, then by its id. -/
  increasing : rows.Pairwise (HistoricalRow.Precedes (kind.ranking? name))
  /-- The keys of any two rows can be compared, and agree with that. -/
  decided : ∀ a ∈ rows, ∀ b ∈ rows, a.Decided (kind.ranking? name) b
  /-- A value of an attribute that sorts by rank is null or one of the labels. -/
  ranked : ∀ labels, kind.ranking? name = some labels → ∀ row ∈ rows,
    row.historical ≠ .null → ∃ label ∈ labels, row.historical = .text label
  /-- No entry of the logs of the kind knows an offset, as the moment does not. -/
  naive : (∀ m ∈ s.modifications.ofKind kind, m.timestamp.isAware = false) ∧
    ∀ a ∈ s.additions.ofKind kind, a.timestamp.isAware = false
  /-- From entities and entries in any order, a reconstruction finds the same entities and orders
  them strictly; it finds the same rows if the updates of one entity at one moment are in the order
  in which they were logged. -/
  independent : ∀ es ms as, es.Perm (s.entities.get kind).rows →
    ms.Perm (s.modifications.ofKind kind) → as.Perm (s.additions.ofKind kind) →
    ∃ found, reconstruct es ms as (.naive t) name (kind.sentinel? name) (kind.ranking? name) =
        .ok found ∧
      found.Pairwise (HistoricalRow.Precedes (kind.ranking? name)) ∧
      (found.map (·.entity)).Perm (rows.map (·.entity)) ∧
      (Modification.SameSequences ms (s.modifications.ofKind kind) → found = rows)

namespace Ledger

variable {ws : List Write} {s : Store} {kind : Kind} {name : String} {t : WallTime}
  {es : List Entity} {ms : List Modification} {as : List Addition}

/-- The entities without a late addition do not depend on the order of entities and additions. -/
theorem perm_presentBefore (hes : es.Perm (s.entities.get kind).rows)
    (has : as.Perm (s.additions.ofKind kind)) (moment : Moment) :
    (es.filter fun e => !((Timeline.cutAt Addition.timestamp moment as).map
      (·.entityId)).contains e.id).Perm (s.presentBefore kind moment) := by
  have hadded : ((Timeline.cutAt Addition.timestamp moment as).map (·.entityId)).Perm
      (s.addedSince kind moment) := (has.filter _).map _
  have hids : ∀ id : Int,
      ((Timeline.cutAt Addition.timestamp moment as).map (·.entityId)).contains id =
        (s.addedSince kind moment).contains id := by
    intro id
    rw [Bool.eq_iff_iff, List.contains_iff_mem, List.contains_iff_mem, hadded.mem_iff]
  simp only [hids]
  exact hes.filter _

/-- Reconstructing from the entities and entries of a store, given in any order. -/
theorem exists_reconstruct (h : Ledger ws s) (hname : name ∈ kind.tracked)
    (hes : es.Perm (s.entities.get kind).rows) (hms : ms.Perm (s.modifications.ofKind kind))
    (has : as.Perm (s.additions.ofKind kind)) :
    ∃ found, reconstruct es ms as (.naive t) name (kind.sentinel? name) (kind.ranking? name) =
        .ok found ∧
      found.Pairwise (HistoricalRow.Precedes (kind.ranking? name)) ∧
      (found.map (·.entity)).Perm (s.presentBefore kind (.naive t)) ∧
      (Modification.SameSequences ms (s.modifications.ofKind kind) →
        found.Perm (s.rowsBefore kind name (.naive t))) := by
  have hmodifications : Timeline.Alike Modification.timestamp (Moment.naive t).isAware ms :=
    fun m hm => h.sound.modifications kind m (hms.mem_iff.1 hm)
  have hadditions : Timeline.Alike Addition.timestamp (Moment.naive t).isAware as :=
    fun a ha => h.sound.additions kind a (has.mem_iff.1 ha)
  have hpresent := perm_presentBefore (s := s) hes has (.naive t)
  rw [reconstruct_eq hmodifications hadditions]
  generalize (es.filter _) = present at hpresent ⊢
  have hchanges : ∀ m ∈ (Timeline.cutAt Modification.timestamp (.naive t)
      (Timeline.arranged Modification.timestamp ms)).filter (·.carries name (kind.sentinel? name)),
      m ∈ s.modifications.ofKind kind ∧ m.carries name (kind.sentinel? name) = true := by
    intro m hm
    obtain ⟨hcut, hcarries⟩ := List.mem_filter.1 hm
    have harranged := Timeline.arranged_perm.mem_iff.1 (Timeline.mem_cutAt.1 hcut).1
    exact ⟨hms.mem_iff.1 harranged, hcarries⟩
  obtain ⟨found, hfound, hperm, hordered⟩ := h.sortRows_rowFor hname hpresent hchanges
  refine ⟨found, hfound, hordered, ?_, fun hsame => ?_⟩
  · have hentities := hperm.map (·.entity)
    rw [List.map_map] at hentities
    exact hentities.trans ((List.map_id present).symm ▸ hpresent)
  · -- Each row is computed from the updates of its entity, which are in their order.
    have hrows : present.map _ = present.map (rowFor (s.changesSince kind (.naive t) name) name) :=
      List.map_congr_left fun e _ =>
        rowFor_filter_congr (hsame.filter_arranged (h.ordered.modifications kind) e.id) _ _ _
    exact hperm.trans (hrows ▸ hpresent.map _)

end Ledger

/-- A reconstruction does not fail, and its order is total. Whatever calls led to a store, for every
tracked attribute of a kind and every moment that has a reading of universal time, there is a
result; its rows are strictly increasing and do not depend on the order of what is stored. -/
theorem reconstructAt_total (calls : List Call) {kind : Kind} {name : String}
    (hname : name ∈ kind.tracked) {target : Moment} {t : WallTime} (ht : target.utc = .ok t) :
    let s := Store.empty.after calls
    ∃ rows, (reconstructAt (.text kind.name) target (some name) s).result = .ok rows ∧
      s.TotallyOrders kind name t rows := by
  intro s
  have h := ledger_of_run calls
  obtain ⟨type, htype⟩ := Kind.exists_typeOf? hname
  obtain ⟨rows, hrows, hperm, hordered⟩ := h.reconstructAt_ok hname ht
  have hnormal : ∀ row ∈ rows, type.Normal row.historical := by
    intro row hrow
    obtain ⟨e, he, rfl⟩ := Store.mem_rowsBefore.1 (hperm.mem_iff.1 hrow)
    exact h.historical_normal htype (Store.mem_presentBefore.1 he).1
  refine ⟨rows, hrows, hordered, fun a ha b hb => ?_, fun labels hlabels row hrow _ => ?_,
    ⟨h.sound.modifications kind, h.sound.additions kind⟩, fun es ms as hes hms has => ?_⟩
  · exact HistoricalRow.decided_of_normal (Kind.rankedBy htype) (hnormal a ha) (hnormal b hb)
  · exact HistoricalRow.mem_ranking_of_normal (hlabels ▸ Kind.rankedBy htype) (hnormal row hrow)
  · obtain ⟨found, hfound, hincreasing, hentities, hsame⟩ :=
      h.exists_reconstruct (t := t) hname hes hms has
    refine ⟨found, hfound, hincreasing, ?_, fun hsequences => ?_⟩
    · have hmap := hperm.map (·.entity)
      rw [Store.rowsBefore, List.map_map] at hmap
      exact hentities.trans (hmap.trans (.of_eq (List.map_id _))).symm
    · exact ((hsame hsequences).trans hperm.symm).eq_of_pairwise' hincreasing hordered

/-- The positions of the one demon at a moment inside its history. -/
theorem reconstructAt_total_sampleRun :
    "position" ∈ Kind.demon.tracked ∧ (Moment.naive ⟨25, by decide⟩).utc = .ok ⟨25, by decide⟩ ∧
      ∃ rows,
        (reconstructAt (.text Kind.demon.name) (.naive ⟨25, by decide⟩) (some "position")
          (Store.empty.after sampleRun)).result = .ok rows ∧
        (Store.empty.after sampleRun).TotallyOrders .demon "position" ⟨25, by decide⟩ rows := by
  have hname : "position" ∈ Kind.demon.tracked := by decide
  exact ⟨hname, rfl, reconstructAt_total sampleRun hname rfl⟩

end Chronicle
