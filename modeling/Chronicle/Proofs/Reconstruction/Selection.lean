import Chronicle.Proofs.Reconstruction.Keys
import Chronicle.Proofs.Reconstruction.Totality

/-!
# What a reconstruction selects

From lists in any order, a reconstruction finds for every entity the update that ended the value in
force at the moment: the earliest usable one from the moment on, and of several at one instant the
first in the list. It sorts one row for each entity that was not added from the moment on, by
whatever ranks its values have. So it depends on the updates of each entity at each instant, and on
nothing else in the order of the logs.

## Main definitions

* `Modification.Counts`, `Modification.IsFirst` — the updates that count for an entity, and the
  first of them.
* `Entity.IsAdded` — the entities that are left out.
* `Entity.HasValue` — the historical value of an entity.
* `Reconstructs` — rows that are a reconstruction.
* `rowAt` — the row of an entity that the code computes.

## Main statements

* `hasValue_rowAt` — the row of an entity has its historical value.
* `reconstructBy_congr` — reconstructions from logs in another order are the same.
* `reconstructBy_selects` — a reconstruction from any lists.
-/

namespace Chronicle

open Timeline

/-! ## The specified selection -/

/-- Whether an update counts for the value of an attribute of an entity at a moment: it is not
before the moment and recorded a usable previous value. -/
structure Modification.Counts (moment : Moment) (name : String) (sentinel : Option Value) (id : Int)
    (m : Modification) : Prop where
  entity : m.entityId = id
  late : moment.instant ≤ m.timestamp.instant
  usable : m.carries name sentinel = true

instance (moment : Moment) (name : String) (sentinel : Option Value) (id : Int) :
    DecidablePred (Modification.Counts moment name sentinel id) := fun m =>
  decidable_of_iff
    (m.entityId = id ∧ moment.instant ≤ m.timestamp.instant ∧ m.carries name sentinel = true)
    ⟨fun h => ⟨h.1, h.2.1, h.2.2⟩, fun h => ⟨h.entity, h.late, h.usable⟩⟩

/-- Whether an update is the earliest in a list that counts, and the first in the list of those at
its instant. -/
structure Modification.IsFirst (ms : List Modification) (moment : Moment) (name : String)
    (sentinel : Option Value) (id : Int) (m : Modification) : Prop where
  counts : m.Counts moment name sentinel id
  first : ∃ front back, ms = front ++ m :: back ∧
    (∀ n ∈ front, n.Counts moment name sentinel id → m.timestamp.instant < n.timestamp.instant) ∧
    ∀ n ∈ back, n.Counts moment name sentinel id → m.timestamp.instant ≤ n.timestamp.instant

namespace Entity

/-- Whether an entity was added at a moment or later. -/
def IsAdded (additions : List Addition) (moment : Moment) (e : Entity) : Prop :=
  ∃ a ∈ additions, a.entityId = e.id ∧ moment.instant ≤ a.timestamp.instant

instance (additions : List Addition) (moment : Moment) :
    DecidablePred (IsAdded additions moment) := fun e =>
  inferInstanceAs
    (Decidable (∃ a ∈ additions, a.entityId = e.id ∧ moment.instant ≤ a.timestamp.instant))

/-- Whether a value is the historical one of an attribute of an entity at a moment: the previous
value that the first update that counts recorded, or the present one where no update counts. -/
inductive HasValue (ms : List Modification) (moment : Moment) (name : String)
    (sentinel : Option Value) (e : Entity) : Value → Prop
  | recorded {m : Modification} (h : m.IsFirst ms moment name sentinel e.id) :
      HasValue ms moment name sentinel e (m.diffs.get name)
  | unchanged (h : ∀ m ∈ ms, ¬ m.Counts moment name sentinel e.id) :
      HasValue ms moment name sentinel e (e.value name)

end Entity

/-- Whether rows are the reconstruction of entities by an attribute at a moment. -/
structure Reconstructs (es : List Entity) (ms : List Modification) (as : List Addition)
    (moment : Moment) (name : String) (sentinel : Option Value)
    (rank : Option (Value → Except Error Value)) (rows : List HistoricalRow) : Prop where
  /-- There is one row for each given entity that was not added at the moment or later. -/
  entities : (rows.map (·.entity)).Perm (es.filter fun e => ¬ e.IsAdded as moment)
  historical : ∀ row ∈ rows, row.entity.HasValue ms moment name sentinel row.historical
  current : ∀ row ∈ rows, row.current = row.entity.value name
  /-- No row is behind one after it: null is last, then the rank or value decides, then the id. -/
  ordered : rows.Pairwise (HistoricalRow.KeysRelate rank SortKey.NotAfter)

/-- Whether the keys of any two rows of a reconstruction can be compared. -/
def ComparableKeys (es : List Entity) (ms : List Modification) (as : List Addition)
    (moment : Moment) (name : String) (sentinel : Option Value)
    (rank : Option (Value → Except Error Value)) : Prop :=
  ∀ e ∈ es, ¬ e.IsAdded as moment → ∀ f ∈ es, ¬ f.IsAdded as moment →
    ∀ v w, e.HasValue ms moment name sentinel v → f.HasValue ms moment name sentinel w →
      ∃ k l, SortKey.ofRanked rank v e.id = .ok k ∧ SortKey.ofRanked rank w f.id = .ok l ∧
        k.Comparable l

/-! ## The selection of the code -/

section Selection

variable {es : List Entity} {ms ns : List Modification} {as bs : List Addition} {moment : Moment}
  {name : String} {sentinel : Option Value} {rank : Option (Value → Except Error Value)}

/-- The row of an entity at a moment, from updates in any order. -/
def rowAt (ms : List Modification) (moment : Moment) (name : String) (sentinel : Option Value)
    (e : Entity) : HistoricalRow :=
  rowFor ((cutAt Modification.timestamp moment (arranged Modification.timestamp ms)).filter
    (·.carries name sentinel)) name e

/-- The updates of an entity among the usable ones from a moment on. -/
theorem filter_usable (ms : List Modification) (id : Int) :
    ((cutAt Modification.timestamp moment (arranged Modification.timestamp ms)).filter
        (·.carries name sentinel)).filter (·.entityId == id) =
      arranged Modification.timestamp
        (ms.filter fun m => m.Counts moment name sentinel id) := by
  rw [cutAt, List.filter_filter, List.filter_filter, filter_arranged]
  refine congrArg _ (List.filter_congr fun m _ => ?_)
  rw [Bool.eq_iff_iff]
  simp only [Bool.and_eq_true, beq_iff_eq, decide_eq_true_eq]
  constructor
  · rintro ⟨⟨hid, hcarries⟩, hlate⟩
    exact ⟨hid, hlate, hcarries⟩
  · intro h
    exact ⟨⟨h.entity, h.usable⟩, h.late⟩

/-- The row of an entity has its historical value. -/
theorem hasValue_rowAt (e : Entity) :
    e.HasValue ms moment name sentinel (rowAt ms moment name sentinel e).historical := by
  rw [rowAt, rowFor, ← List.head?_filter, filter_usable]
  generalize hsorted : arranged Modification.timestamp _ = sorted
  cases sorted with
  | nil =>
    have hnone := List.perm_nil.1 (hsorted ▸ arranged_perm.symm)
    exact .unchanged (by simpa using hnone)
  | cons m rest =>
    obtain ⟨front, back, hsplit, hfront, hback⟩ := split_of_arranged hsorted
    obtain ⟨left, right, rfl, hleft, hright⟩ := List.filter_eq_append_iff.1 hsplit
    obtain ⟨between, last, rfl, hbetween, hm, hlast⟩ := List.filter_eq_cons_iff.1 hright
    refine .recorded ⟨of_decide_eq_true hm, left ++ between, last, by simp, ?_, ?_⟩
    · intro n hn hcounts
      rcases List.mem_append.1 hn with hn | hn
      · exact hfront n (hleft ▸ List.mem_filter.2 ⟨hn, decide_eq_true hcounts⟩)
      · exact absurd (decide_eq_true hcounts) (hbetween n hn)
    · intro n hn hcounts
      exact hback n (hlast ▸ List.mem_filter.2 ⟨hn, decide_eq_true hcounts⟩)

/-- The entities that the code leaves out are those that were added. -/
theorem contains_added (e : Entity) :
    ((cutAt Addition.timestamp moment as).map (·.entityId)).contains e.id =
      decide (e.IsAdded as moment) := by
  rw [Bool.eq_iff_iff, List.contains_iff_mem, decide_eq_true_iff, List.mem_map]
  constructor
  · rintro ⟨a, ha, hid⟩
    obtain ⟨hmem, hlate⟩ := mem_cutAt.1 ha
    exact ⟨a, hmem, hid, hlate⟩
  · rintro ⟨a, hmem, hid, hlate⟩
    exact ⟨a, mem_cutAt.2 ⟨hmem, hlate⟩, hid⟩

/-- A reconstruction sorts the rows of the entities that were not added. -/
theorem reconstructBy_eq_sortRowsBy (hms : Alike Modification.timestamp moment.isAware ms)
    (has : Alike Addition.timestamp moment.isAware as) (es : List Entity) (name : String)
    (sentinel : Option Value) (rank : Option (Value → Except Error Value)) :
    reconstructBy es ms as moment name sentinel rank =
      sortRowsBy rank ((es.filter fun e => ¬ e.IsAdded as moment).map
        (rowAt ms moment name sentinel)) := by
  rw [reconstructBy_eq hms has]
  simp only [contains_added, decide_not]
  rfl

/-! ## Logs in another order -/

theorem isAdded_congr (has : bs.Perm as) (e : Entity) :
    e.IsAdded bs moment ↔ e.IsAdded as moment := by
  simp only [Entity.IsAdded, has.mem_iff]

/-- Lists with the same updates of each entity at each instant are arranged alike. -/
theorem Modification.SameSequences.arranged_filter (h : SameSequences ms ns) (id : Int) :
    (arranged timestamp ms).filter (·.entityId == id) =
      (arranged timestamp ns).filter (·.entityId == id) := by
  refine SameSequences.filter_arranged (fun id instant => ?_) arranged_ordered id
  rw [Timeline.filter_arranged, atInstant_arranged]
  exact h id instant

/-- A reconstruction depends on the updates of each entity at each instant in their order, and not
on the order of anything else in the logs. -/
theorem reconstructBy_congr (hms : Alike Modification.timestamp moment.isAware ms)
    (has : Alike Addition.timestamp moment.isAware as) (hperm : ns.Perm ms)
    (hsame : Modification.SameSequences ns ms) (hadded : bs.Perm as) :
    reconstructBy es ns bs moment name sentinel rank =
      reconstructBy es ms as moment name sentinel rank := by
  have hns : Alike Modification.timestamp moment.isAware ns := fun m hm =>
    hms m (hperm.mem_iff.1 hm)
  have hbs : Alike Addition.timestamp moment.isAware bs := fun a ha => has a (hadded.mem_iff.1 ha)
  rw [reconstructBy_eq_sortRowsBy hns hbs, reconstructBy_eq_sortRowsBy hms has]
  simp only [isAdded_congr hadded]
  refine congrArg (sortRowsBy rank) (List.map_congr_left fun e _ => ?_)
  exact rowFor_filter_congr (hsame.arranged_filter e.id) moment name sentinel

/-! ## The reconstruction -/

/-- Where keys can be compared, so can those of the rows that are sorted. -/
theorem ComparableKeys.keysRelate (hkeys : ComparableKeys es ms as moment name sentinel rank) :
    ∀ a ∈ (es.filter fun e => ¬ e.IsAdded as moment).map (rowAt ms moment name sentinel),
      ∀ b ∈ (es.filter fun e => ¬ e.IsAdded as moment).map (rowAt ms moment name sentinel),
        a.KeysRelate rank SortKey.Comparable b := by
  intro a ha b hb
  obtain ⟨e, he, rfl⟩ := List.mem_map.1 ha
  obtain ⟨f, hf, rfl⟩ := List.mem_map.1 hb
  simp only [List.mem_filter, decide_eq_true_eq] at he hf
  exact hkeys e he.1 he.2 f hf.1 hf.2 _ _ (hasValue_rowAt e) (hasValue_rowAt f)

/-- A reconstruction from entities and entries in any order, whose moments and keys can be compared
with each other: there is one row for each entity without a late addition, with the previous value
that the entity's first usable update from the moment on recorded, or else its present value; and
the rows are in the order of their keys. The result is the same for all logs in which the updates of
each entity at each instant come in the same order. -/
theorem reconstructBy_selects (hms : Alike Modification.timestamp moment.isAware ms)
    (has : Alike Addition.timestamp moment.isAware as)
    (hkeys : ComparableKeys es ms as moment name sentinel rank) :
    ∃ rows, reconstructBy es ms as moment name sentinel rank = .ok rows ∧
      Reconstructs es ms as moment name sentinel rank rows ∧
      ∀ ns bs, ns.Perm ms → Modification.SameSequences ns ms → bs.Perm as →
        reconstructBy es ns bs moment name sentinel rank = .ok rows := by
  obtain ⟨rows, hrows, hperm, hordered⟩ := sortRowsBy_ok hkeys.keysRelate
  have hfound : reconstructBy es ms as moment name sentinel rank = .ok rows :=
    (reconstructBy_eq_sortRowsBy hms has es name sentinel rank).trans hrows
  have hrow : ∀ row ∈ rows, ∃ e, rowAt ms moment name sentinel e = row := fun row hrow => by
    obtain ⟨e, -, he⟩ := List.mem_map.1 (hperm.mem_iff.1 hrow)
    exact ⟨e, he⟩
  refine ⟨rows, hfound, ⟨?_, ?_, ?_, hordered⟩, fun ns bs hns hsame hbs => ?_⟩
  · have hentities := hperm.map (·.entity)
    rw [List.map_map] at hentities
    exact hentities.trans (.of_eq (List.map_id _))
  · intro row hmem
    obtain ⟨e, rfl⟩ := hrow row hmem
    exact hasValue_rowAt e
  · intro row hmem
    obtain ⟨e, rfl⟩ := hrow row hmem
    rfl
  · rw [reconstructBy_congr hms has hns hsame hbs, hfound]

/-- A historical value is the present one or was recorded. -/
theorem Entity.HasValue.eq_or_mem {e : Entity} {v : Value}
    (h : e.HasValue ms moment name sentinel v) :
    v = e.value name ∨ ∃ m ∈ ms, v = m.diffs.get name := by
  cases h with
  | recorded h =>
    obtain ⟨front, back, rfl, -⟩ := h.first
    exact .inr ⟨_, by simp, rfl⟩
  | unchanged => exact .inl rfl

/-- Integers and null have keys that can be compared. -/
theorem comparableKeys_of_integers
    (hes : ∀ e ∈ es, e.value name = .null ∨ ∃ n, e.value name = .int n)
    (hms : ∀ m ∈ ms, m.diffs.get name = .null ∨ ∃ n, m.diffs.get name = .int n) :
    ComparableKeys es ms as moment name sentinel none := by
  have hkey : ∀ e ∈ es, ∀ v, e.HasValue ms moment name sentinel v →
      ∃ p n, SortKey.ofRanked none v e.id = .ok ⟨p, .int n, e.id⟩ := by
    intro e he v hv
    have hvalue : v = .null ∨ ∃ n, v = .int n := by
      rcases hv.eq_or_mem with rfl | ⟨m, hm, rfl⟩
      · exact hes e he
      · exact hms m hm
    rcases hvalue with rfl | ⟨n, rfl⟩
    · exact ⟨true, 0, rfl⟩
    · exact ⟨false, n, rfl⟩
  intro e he _ f hf _ v w hv hw
  obtain ⟨p, m, hk⟩ := hkey e he v hv
  obtain ⟨q, n, hl⟩ := hkey f hf w hw
  exact ⟨_, _, hk, hl, SortKey.comparable_int p q m n e.id f.id⟩

end Selection

/-! ## A list of two -/

section Sample

/-- Three demons, the last without a position. -/
def sampleEntities : List Entity := [
  ⟨1, .demon, ⟨[("position", .int 5)]⟩⟩, ⟨2, .demon, ⟨[("position", .int 3)]⟩⟩,
  ⟨3, .demon, ⟨[]⟩⟩]

/-- Updates that are not in the order of their moments, two of them at one moment. -/
def sampleModifications : List Modification := [
  ⟨.demon, 1, 7, .naive ⟨36, by decide⟩, ⟨[("position", .int 2)]⟩⟩,
  ⟨.demon, 1, 7, .naive ⟨26, by decide⟩, ⟨[("position", .int (-1))]⟩⟩,
  ⟨.demon, 1, 7, .naive ⟨26, by decide⟩, ⟨[("position", .int 4)]⟩⟩,
  ⟨.demon, 1, 7, .naive ⟨26, by decide⟩, ⟨[("position", .int 6)]⟩⟩,
  ⟨.demon, 2, 7, .naive ⟨6, by decide⟩, ⟨[("position", .int 9)]⟩⟩]

/-- Two additions of one demon. -/
def sampleAdditions : List Addition := [
  ⟨.demon, 2, 7, .naive ⟨16, by decide⟩⟩, ⟨.demon, 2, 7, .naive ⟨2, by decide⟩⟩]

/-- The positions at a moment inside the history. -/
theorem reconstructBy_selects_sample :
    Alike Modification.timestamp (Moment.naive ⟨10, by decide⟩).isAware sampleModifications ∧
      Alike Addition.timestamp (Moment.naive ⟨10, by decide⟩).isAware sampleAdditions ∧
      ComparableKeys sampleEntities sampleModifications sampleAdditions (.naive ⟨10, by decide⟩)
        "position" (some (.int (-1))) none ∧
      ∃ rows, reconstructBy sampleEntities sampleModifications sampleAdditions
          (.naive ⟨10, by decide⟩) "position" (some (.int (-1))) none = .ok rows ∧
        Reconstructs sampleEntities sampleModifications sampleAdditions (.naive ⟨10, by decide⟩)
          "position" (some (.int (-1))) none rows ∧
        ∀ ns bs, ns.Perm sampleModifications →
          Modification.SameSequences ns sampleModifications → bs.Perm sampleAdditions →
          reconstructBy sampleEntities ns bs (.naive ⟨10, by decide⟩) "position"
            (some (.int (-1))) none = .ok rows := by
  have hms : Alike Modification.timestamp (Moment.naive ⟨10, by decide⟩).isAware
      sampleModifications := by
    unfold Alike
    decide
  have has : Alike Addition.timestamp (Moment.naive ⟨10, by decide⟩).isAware sampleAdditions := by
    unfold Alike
    decide
  have hkeys : ComparableKeys sampleEntities sampleModifications sampleAdditions
      (.naive ⟨10, by decide⟩) "position" (some (.int (-1))) none := by
    refine comparableKeys_of_integers ?_ ?_
    · simp [sampleEntities, Entity.value, Attributes.get, Attributes.get?]
    · simp [sampleModifications, Attributes.get, Attributes.get?]
  exact ⟨hms, has, hkeys, reconstructBy_selects hms has hkeys⟩

end Sample

end Chronicle
