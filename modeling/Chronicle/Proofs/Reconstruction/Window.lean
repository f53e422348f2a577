import Chronicle.Proofs.Reconstruction.Selection

/-!
# Reconstructions at two moments

What two reconstructions from the same lists differ in is decided by the entries from the earlier
moment on and before the later one. An entity appears between the moments if it was last added
between them. The earlier value of an entity was recorded by its first usable update between the
moments, or else it is the later value. So the later rows, taken as the state of their entities, and
the updates between the moments are enough to reconstruct the earlier ones.

## Main definitions

* `Timeline.between` — the entries from one moment on and before another.
* `HistoricalRow.restored` — the entity of a row, with the row's historical value as its present
  one.
* `ExplainedBetween` — rows at two moments that differ by the entries between.
* `Relisted` — later rows in an order from which the earlier ones can be reconstructed.

## Main statements

* `firstChange_eq_or` — the first update that counts is between the moments, or the first from the
  later one on.
* `historical_of_later` — the earlier value from the later one and the updates between.
* `reconstructBy_between` — the rows at two moments, and the earlier ones from the later ones.
-/

namespace Chronicle

open Timeline

/-! ## Entries between two moments -/

namespace Timeline

variable {α : Type} {stamp : α → Moment} {start stop : Moment} {x : α} {xs : List α}

/-- The entries of a list from a moment on and before another. -/
def between (stamp : α → Moment) (start stop : Moment) (xs : List α) : List α :=
  xs.filter fun x =>
    decide (start.instant ≤ (stamp x).instant ∧ (stamp x).instant < stop.instant)

@[simp] theorem mem_between : x ∈ between stamp start stop xs ↔
    x ∈ xs ∧ start.instant ≤ (stamp x).instant ∧ (stamp x).instant < stop.instant := by
  simp [between]

/-- The entries before an instant come first in a list that is in order. -/
theorem Ordered.eq_append (h : Ordered stamp xs) (instant : Int) :
    xs = (xs.filter fun x => decide ((stamp x).instant < instant)) ++
      xs.filter fun x => decide (instant ≤ (stamp x).instant) := by
  induction xs with
  | nil => rfl
  | cons y rest ih =>
    obtain ⟨hy, hrest⟩ := List.pairwise_cons.1 h
    by_cases hlt : (stamp y).instant < instant
    · have hnot : ¬ instant ≤ (stamp y).instant := by omega
      simpa [List.filter_cons, hlt, hnot] using ih hrest
    · have hlate : ∀ z ∈ y :: rest, instant ≤ (stamp z).instant := by
        intro z hz
        rcases List.mem_cons.1 hz with rfl | hz
        · omega
        · have := hy z hz
          omega
      rw [List.filter_eq_nil_iff.2 (by grind), List.filter_eq_self.2 (by grind), List.nil_append]

end Timeline

/-! ## The first update that counts -/

section Values

variable {ms : List Modification} {start stop moment : Moment} {name : String}
  {sentinel : Option Value} {e : Entity}

/-- The first update in a list that counts for the value of an entity at a moment. -/
def firstChange (ms : List Modification) (moment : Moment) (name : String)
    (sentinel : Option Value) (id : Int) : Option Modification :=
  (arranged Modification.timestamp (ms.filter fun m => m.Counts moment name sentinel id)).head?

theorem historical_rowAt (e : Entity) : (rowAt ms moment name sentinel e).historical =
    match firstChange ms moment name sentinel e.id with
    | some m => m.diffs.get name
    | none => e.value name := by
  rw [rowAt, rowFor, ← List.head?_filter, filter_usable]
  rfl

/-- The first update that counts at a moment is between the moment and a later one, or it is the
first that counts at the later one. -/
theorem firstChange_eq_or (hle : start.instant ≤ stop.instant) (id : Int) :
    firstChange ms start name sentinel id =
      (firstChange (between Modification.timestamp start stop ms) start name sentinel id).or
        (firstChange ms stop name sentinel id) := by
  have hordered : Ordered Modification.timestamp (arranged Modification.timestamp
    (ms.filter fun m => m.Counts start name sentinel id)) := arranged_ordered
  have hearly : (ms.filter fun m => m.Counts start name sentinel id).filter
      (fun m => decide (m.timestamp.instant < stop.instant)) =
      (between Modification.timestamp start stop ms).filter
        fun m => m.Counts start name sentinel id := by
    rw [between, List.filter_comm, List.filter_filter, List.filter_filter]
    refine List.filter_congr fun m _ => ?_
    rw [Bool.eq_iff_iff]
    simp only [Bool.and_eq_true, decide_eq_true_eq]
    exact ⟨fun ⟨hcounts, hlt⟩ => ⟨hcounts, hcounts.late, hlt⟩,
      fun ⟨hcounts, _, hlt⟩ => ⟨hcounts, hlt⟩⟩
  have hlate : (ms.filter fun m => m.Counts start name sentinel id).filter
      (fun m => decide (stop.instant ≤ m.timestamp.instant)) =
      ms.filter fun m => m.Counts stop name sentinel id := by
    rw [List.filter_filter]
    refine List.filter_congr fun m _ => ?_
    rw [Bool.eq_iff_iff]
    simp only [Bool.and_eq_true, decide_eq_true_eq]
    exact ⟨fun ⟨hlate, hcounts⟩ => ⟨hcounts.entity, hlate, hcounts.usable⟩, fun h =>
      ⟨h.late, h.entity, Int.le_trans hle h.late, h.usable⟩⟩
  rw [firstChange, hordered.eq_append stop.instant, List.head?_append, filter_arranged,
    filter_arranged, hearly, hlate]
  rfl

/-! ## Restored entities -/

/-- An entity with another value of an attribute. -/
def Entity.withValue (e : Entity) (name : String) (v : Value) : Entity :=
  { e with attributes := e.attributes.set name v }

@[simp] theorem Entity.value_withValue (e : Entity) (name : String) (v : Value) :
    (e.withValue name v).value name = v := by
  simp [withValue, value, Attributes.get, Attributes.get?_set_self]

/-- The entity of a row in the state that the row shows: with the historical value of an attribute
as its present one. -/
def HistoricalRow.restored (name : String) (row : HistoricalRow) : Entity :=
  row.entity.withValue name row.historical

/-- The value of an entity at a moment is what the first update that counts recorded before a later
moment, or else it is the value at the later moment. -/
theorem historical_of_later (hle : start.instant ≤ stop.instant) (e : Entity) :
    (rowAt ms start name sentinel e).historical =
      match firstChange (between Modification.timestamp start stop ms) start name sentinel e.id with
      | some m => m.diffs.get name
      | none => (rowAt ms stop name sentinel e).historical := by
  have hchange : firstChange ms start name sentinel e.id = _ := firstChange_eq_or hle e.id
  rw [historical_rowAt, historical_rowAt, hchange]
  cases firstChange (between Modification.timestamp start stop ms) start name sentinel e.id <;> rfl

/-- The value of an entity at a moment is that of its restored entity, from the updates before the
later moment alone. -/
theorem historical_restored (hle : start.instant ≤ stop.instant) (e : Entity) :
    (rowAt (between Modification.timestamp start stop ms) start name sentinel
      ((rowAt ms stop name sentinel e).restored name)).historical =
      (rowAt ms start name sentinel e).historical := by
  have hvalue : ((rowAt ms stop name sentinel e).restored name).value name =
      (rowAt ms stop name sentinel e).historical := Entity.value_withValue ..
  rw [historical_rowAt, hvalue, historical_of_later hle]
  rfl

end Values

/-! ## The order of rows by ids and values -/

theorem SortKey.id_of_ofRanked {rank : Option (Value → Except Error Value)} {v : Value} {id : Int}
    {k : SortKey} (h : ofRanked rank v id = .ok k) : k.id = id := by
  unfold ofRanked at h
  split at h
  · cases h
    rfl
  · cases h
    rfl
  · obtain ⟨w, -, h⟩ := bind_eq_ok_iff.1 h
    cases h
    rfl

namespace HistoricalRow

variable {rank : Option (Value → Except Error Value)} {rows others : List HistoricalRow}

/-- The id and the historical value of a row, which are all that it is ordered by. -/
def standing (row : HistoricalRow) : Int × Value := (row.entityId, row.historical)

theorem keysRelate_congr {R : SortKey → SortKey → Prop} {a a' b b' : HistoricalRow}
    (ha : a.standing = a'.standing) (hb : b.standing = b'.standing) :
    a.KeysRelate rank R b ↔ a'.KeysRelate rank R b' := by
  obtain ⟨hid, hv⟩ := Prod.mk.inj ha
  obtain ⟨hid', hv'⟩ := Prod.mk.inj hb
  rw [KeysRelate, KeysRelate, hid, hv, hid', hv']

/-- Rows whose keys tie are of one id. -/
theorem entityId_eq_of_ties {a b : HistoricalRow} (h : a.KeysRelate rank SortKey.Ties b) :
    a.entityId = b.entityId := by
  obtain ⟨k, l, hk, hl, hties⟩ := h
  rw [← SortKey.id_of_ofRanked hk, ← SortKey.id_of_ofRanked hl, hties.id]

/-- How many standings of a list come before a standing by their keys. -/
noncomputable def placeOfStanding (rank : Option (Value → Except Error Value))
    (standings : List (Int × Value)) (p : Int × Value) : Int :=
  Sorting.height (fun p q => ∃ k l, SortKey.ofRanked rank p.2 p.1 = .ok k ∧
    SortKey.ofRanked rank q.2 q.1 = .ok l ∧ k.Before l) standings p

theorem placeOfStanding_standing (row : HistoricalRow) :
    placeOfStanding rank (rows.map standing) row.standing = row.placeAmong rank rows := by
  rw [placeOfStanding, placeAmong, Sorting.height, Sorting.height, List.countP_map]
  rfl

theorem placeAmong_perm (h : others.Perm rows) :
    placeAmong rank others = placeAmong rank rows := by
  funext row
  rw [placeAmong, placeAmong, Sorting.height, Sorting.height, h.countP_eq]

/-- Rows with the same standings, those of one place in the same order, are sorted to the same
standings. -/
theorem sortRowsBy_standings
    (hcomparable : ∀ a ∈ rows, ∀ b ∈ rows, a.KeysRelate rank SortKey.Comparable b)
    (hsame : Sorting.SameByKey (placeOfStanding rank (rows.map standing)) (others.map standing)
      (rows.map standing)) :
    ∃ sorted found, sortRowsBy rank rows = .ok sorted ∧ sortRowsBy rank others = .ok found ∧
      found.map standing = sorted.map standing := by
  have hperm : (others.map standing).Perm (rows.map standing) := hsame.perm
  have hothers : ∀ a ∈ others, ∀ b ∈ others, a.KeysRelate rank SortKey.Comparable b := by
    intro a ha b hb
    obtain ⟨x, hx, hxa⟩ := List.mem_map.1 (hperm.mem_iff.1 (List.mem_map_of_mem ha))
    obtain ⟨y, hy, hyb⟩ := List.mem_map.1 (hperm.mem_iff.1 (List.mem_map_of_mem hb))
    exact (keysRelate_congr hxa hyb).1 (hcomparable x hx y hy)
  obtain ⟨sorted, hsorted, harranges⟩ := sortRowsBy_arranges hcomparable
  obtain ⟨found, hfound, harranges'⟩ := sortRowsBy_arranges hothers
  refine ⟨sorted, found, hsorted, hfound, ?_⟩
  have hshown := harranges.map (f := standing) fun row _ => placeOfStanding_standing row
  have hshown' := harranges'.map (f := standing) fun row _ => placeOfStanding_standing row
  have hplace : placeOfStanding rank (others.map standing) =
      placeOfStanding rank (rows.map standing) := by
    funext p
    rw [placeOfStanding, placeOfStanding, Sorting.height, Sorting.height, hperm.countP_eq]
  rw [hplace] at hshown'
  exact (hshown'.congr hsame).unique hshown

end HistoricalRow

/-! ## Rows at two moments -/

/-- Whether the entries between two moments explain in what earlier and later rows differ. -/
structure ExplainedBetween (es : List Entity) (ms : List Modification) (as : List Addition)
    (start stop : Moment) (name : String) (sentinel : Option Value)
    (earlier later : List HistoricalRow) : Prop where
  /-- Every entity with a row at the earlier moment has one at the later moment. -/
  kept : ∀ a ∈ earlier, ∃ b ∈ later, b.entity = a.entity
  /-- The entities that only the later rows have are the given ones with an addition between the
  moments and none from the later moment on. -/
  appeared : ∀ e, ((∃ b ∈ later, b.entity = e) ∧ ¬ ∃ a ∈ earlier, a.entity = e) ↔
    e ∈ es ∧ (∃ x ∈ between Addition.timestamp start stop as, x.entityId = e.id) ∧
      ¬ e.IsAdded as stop
  /-- The earlier value is the one that the first usable update between the moments recorded, or the
  later value where there is no such update. -/
  historical : ∀ a ∈ earlier, ∀ b ∈ later, a.entity = b.entity →
    (∃ m : Modification,
      m.IsFirst (between Modification.timestamp start stop ms) start name sentinel a.entityId ∧
        a.historical = m.diffs.get name) ∨
    (∀ m ∈ between Modification.timestamp start stop ms,
      ¬ m.Counts start name sentinel a.entityId) ∧ a.historical = b.historical

/-- Whether rows are listed anew: in an order that leaves rows of one place as they are, or in the
order of the entities that a reconstruction was given. -/
def Relisted (rank : Option (Value → Except Error Value)) (given : List Entity)
    (later rows : List HistoricalRow) : Prop :=
  Sorting.SameByKey (HistoricalRow.placeAmong rank later) rows later ∨
    rows.Perm later ∧ rows.map (·.entity) = given

/-- Rows that are listed anew have those of one place in the order of the given entities. -/
theorem Relisted.sameByKey {rank : Option (Value → Except Error Value)} {given : List Entity}
    {row : Entity → HistoricalRow} {later rows : List HistoricalRow}
    (h : Relisted rank given later rows)
    (harranges : Sorting.Arranges (HistoricalRow.placeAmong rank (given.map row)) (given.map row)
      later)
    (hgiven : ∀ r ∈ given.map row, row r.entity = r) :
    Sorting.SameByKey (HistoricalRow.placeAmong rank (given.map row)) rows (given.map row) := by
  rcases h with h | ⟨hperm, hentities⟩
  · rw [HistoricalRow.placeAmong_perm harranges.perm] at h
    exact h.trans harranges.same
  · have hrows : rows = (rows.map (·.entity)).map row := by
      rw [List.map_map]
      refine (List.map_id _).symm.trans (List.map_congr_left fun r hr => ?_)
      exact (hgiven r ((hperm.trans harranges.perm).mem_iff.1 hr)).symm
    rw [hrows, hentities]
    exact .refl _

section Rows

variable {es : List Entity} {ms : List Modification} {as : List Addition}
  {start stop moment : Moment} {name : String} {sentinel : Option Value}
  {rank : Option (Value → Except Error Value)} {rows earlier later : List HistoricalRow}
  {row : HistoricalRow} {e : Entity}

/-- The rows of a reconstruction are those of the entities that were not added. -/
theorem mem_of_reconstructBy (hms : Alike Modification.timestamp moment.isAware ms)
    (has : Alike Addition.timestamp moment.isAware as)
    (h : reconstructBy es ms as moment name sentinel rank = .ok rows) :
    row ∈ rows ↔ ∃ e ∈ es, ¬ e.IsAdded as moment ∧ rowAt ms moment name sentinel e = row := by
  rw [reconstructBy_eq_sortRowsBy hms has] at h
  rw [(sortRowsBy_perm h).mem_iff, List.mem_map]
  simp only [List.mem_filter, decide_eq_true_eq, and_assoc]

/-- An entity was added from a moment on if it was added before a later moment or from that on. -/
theorem isAdded_iff_between (hle : start.instant ≤ stop.instant) :
    e.IsAdded as start ↔
      (∃ x ∈ between Addition.timestamp start stop as, x.entityId = e.id) ∨ e.IsAdded as stop := by
  constructor
  · rintro ⟨x, hx, hid, hlate⟩
    by_cases hlt : x.timestamp.instant < stop.instant
    · exact .inl ⟨x, mem_between.2 ⟨hx, hlate, hlt⟩, hid⟩
    · exact .inr ⟨x, hx, hid, Int.not_lt.1 hlt⟩
  · rintro (⟨x, hx, hid⟩ | ⟨x, hx, hid, hlate⟩)
    · exact ⟨x, (mem_between.1 hx).1, hid, (mem_between.1 hx).2.1⟩
    · exact ⟨x, hx, hid, Int.le_trans hle hlate⟩

theorem explainedBetween (hms : Alike Modification.timestamp start.isAware ms)
    (has : Alike Addition.timestamp start.isAware as) (haware : start.isAware = stop.isAware)
    (hle : start.instant ≤ stop.instant)
    (hearlier : reconstructBy es ms as start name sentinel rank = .ok earlier)
    (hlater : reconstructBy es ms as stop name sentinel rank = .ok later) :
    ExplainedBetween es ms as start stop name sentinel earlier later := by
  have hrow {row : HistoricalRow} : row ∈ earlier ↔ _ := mem_of_reconstructBy hms has hearlier
  have hrow' {row : HistoricalRow} : row ∈ later ↔ _ :=
    mem_of_reconstructBy (haware ▸ hms) (haware ▸ has) hlater
  refine ⟨fun a ha => ?_, fun e => ?_, fun a ha b hb hab => ?_⟩
  · obtain ⟨e, he, hadded, rfl⟩ := hrow.1 ha
    exact ⟨_, hrow'.2 ⟨e, he, fun h => hadded ((isAdded_iff_between hle).2 (.inr h)), rfl⟩, rfl⟩
  · have hin : (∃ a ∈ earlier, a.entity = e) ↔ e ∈ es ∧ ¬ e.IsAdded as start := by
      constructor
      · rintro ⟨a, ha, rfl⟩
        obtain ⟨e, he, hadded, rfl⟩ := hrow.1 ha
        exact ⟨he, hadded⟩
      · exact fun ⟨he, hadded⟩ => ⟨_, hrow.2 ⟨e, he, hadded, rfl⟩, rfl⟩
    have hin' : (∃ b ∈ later, b.entity = e) ↔ e ∈ es ∧ ¬ e.IsAdded as stop := by
      constructor
      · rintro ⟨b, hb, rfl⟩
        obtain ⟨e, he, hadded, rfl⟩ := hrow'.1 hb
        exact ⟨he, hadded⟩
      · exact fun ⟨he, hadded⟩ => ⟨_, hrow'.2 ⟨e, he, hadded, rfl⟩, rfl⟩
    rw [hin, hin', isAdded_iff_between hle]
    constructor
    · rintro ⟨⟨he, hstop⟩, hstart⟩
      exact ⟨he, by_contra fun h => hstart ⟨he, not_or.2 ⟨h, hstop⟩⟩, hstop⟩
    · rintro ⟨he, hbetween, hstop⟩
      exact ⟨⟨he, hstop⟩, fun h => h.2 (.inl hbetween)⟩
  · obtain ⟨e, -, -, rfl⟩ := hrow.1 ha
    obtain ⟨f, -, -, rfl⟩ := hrow'.1 hb
    obtain rfl : e = f := hab
    -- The earlier value is the historical one of the restored entity among the updates between.
    have hvalue : ((rowAt ms stop name sentinel e).restored name).HasValue
        (between Modification.timestamp start stop ms) start name sentinel _ := hasValue_rowAt _
    rw [historical_restored hle] at hvalue
    generalize (rowAt ms start name sentinel e).historical = v at hvalue ⊢
    cases hvalue with
    | recorded h => exact .inl ⟨_, h, rfl⟩
    | unchanged h => exact .inr ⟨h, Entity.value_withValue ..⟩

/-! ## The earlier rows from the later ones -/

/-- The rows at an earlier moment of the entities of rows, without those added from it on. -/
def rowsBack (ms : List Modification) (as : List Addition) (start : Moment) (name : String)
    (sentinel : Option Value) (rows : List HistoricalRow) : List HistoricalRow :=
  (rows.filter fun row => ¬ row.entity.IsAdded as start).map fun row =>
    rowAt ms start name sentinel row.entity

theorem rowsBack_rowAt (hle : start.instant ≤ stop.instant) (es : List Entity) :
    rowsBack ms as start name sentinel
        ((es.filter fun e => ¬ e.IsAdded as stop).map (rowAt ms stop name sentinel)) =
      (es.filter fun e => ¬ e.IsAdded as start).map (rowAt ms start name sentinel) := by
  have hfilter : (es.filter fun e => ¬ e.IsAdded as start) =
      (es.filter fun e => ¬ e.IsAdded as stop).filter fun e => ¬ e.IsAdded as start := by
    rw [List.filter_filter]
    refine List.filter_congr fun e _ => ?_
    rw [Bool.eq_iff_iff, Bool.and_eq_true, decide_eq_true_eq, decide_eq_true_eq,
      isAdded_iff_between hle]
    exact ⟨fun h => ⟨h, (not_or.1 h).2⟩, And.left⟩
  rw [hfilter, rowsBack, List.filter_map, List.map_map]
  rfl

/-- From the restored entities of rows and the updates before the rows' moment come the earlier
standings of their entities. -/
theorem standings_restored (hle : start.instant ≤ stop.instant)
    (hrows : ∀ row ∈ rows, rowAt ms stop name sentinel row.entity = row) :
    (((rows.map (HistoricalRow.restored name)).filter fun e => ¬ e.IsAdded as start).map
        (rowAt (between Modification.timestamp start stop ms) start name sentinel)).map
        HistoricalRow.standing =
      (rowsBack ms as start name sentinel rows).map HistoricalRow.standing := by
  rw [rowsBack, List.filter_map, List.map_map, List.map_map, List.map_map]
  refine List.map_congr_left fun row hrow => ?_
  have hvalue : _ = (rowAt ms start name sentinel row.entity).historical :=
    historical_restored hle row.entity
  rw [hrows row (List.mem_filter.1 hrow).1] at hvalue
  exact congrArg (Prod.mk row.entityId) hvalue

theorem standing_rowsBack (ms : List Modification) (as : List Addition) (start : Moment)
    (name : String) (sentinel : Option Value) (rows : List HistoricalRow) :
    (rowsBack ms as start name sentinel rows).map HistoricalRow.standing =
      (rows.filter fun row => ¬ row.entity.IsAdded as start).map fun row =>
        (rowAt ms start name sentinel row.entity).standing :=
  List.map_map

theorem mem_rowsBack {rows : List HistoricalRow} {row : HistoricalRow} (hrow : row ∈ rows)
    (hkept : ¬ row.entity.IsAdded as start) :
    rowAt ms start name sentinel row.entity ∈ rowsBack ms as start name sentinel rows :=
  List.mem_map_of_mem (List.mem_filter.2 ⟨hrow, decide_eq_true hkept⟩)

/-- Earlier rows are of one place if and only if their keys tie. -/
theorem placeOfStanding_rowsBack_eq_iff {present : List HistoricalRow} {a b : HistoricalRow}
    (hstart : ∀ a ∈ rowsBack ms as start name sentinel present,
      ∀ b ∈ rowsBack ms as start name sentinel present, a.KeysRelate rank SortKey.Comparable b)
    (ha : a ∈ present) (hkepta : ¬ a.entity.IsAdded as start)
    (hb : b ∈ present) (hkeptb : ¬ b.entity.IsAdded as start) :
    HistoricalRow.placeOfStanding rank
          ((rowsBack ms as start name sentinel present).map HistoricalRow.standing)
          (rowAt ms start name sentinel a.entity).standing =
        HistoricalRow.placeOfStanding rank
          ((rowsBack ms as start name sentinel present).map HistoricalRow.standing)
          (rowAt ms start name sentinel b.entity).standing ↔
      (rowAt ms start name sentinel a.entity).KeysRelate rank SortKey.Ties
        (rowAt ms start name sentinel b.entity) := by
  rw [HistoricalRow.placeOfStanding_standing, HistoricalRow.placeOfStanding_standing]
  exact HistoricalRow.placeAmong_eq_iff hstart (mem_rowsBack ha hkepta) (mem_rowsBack hb hkeptb)

/-- The earlier value of a later row is decided by its id and its value. -/
theorem historical_back (hle : start.instant ≤ stop.instant) {a : HistoricalRow} {id : Int}
    (ha : rowAt ms stop name sentinel a.entity = a) (hid : a.entityId = id) :
    (rowAt ms start name sentinel a.entity).historical =
      match firstChange (between Modification.timestamp start stop ms) start name sentinel id with
      | some m => m.diffs.get name
      | none => a.historical := by
  have hlater : (rowAt ms start name sentinel a.entity).historical = _ :=
    historical_of_later hle a.entity
  rw [ha] at hlater
  exact hid ▸ hlater

/-- Later rows that are listed in another order, those of one place in the same one, have earlier
standings in another order, those of one place in the same one. For either an update between the
moments gives all rows of an id one value, or all of them keep their later values. -/
theorem sameByKey_rowsBack (hle : start.instant ≤ stop.instant) {present : List HistoricalRow}
    (hpresent : ∀ row ∈ present, rowAt ms stop name sentinel row.entity = row)
    (hstop : ∀ a ∈ present, ∀ b ∈ present, a.KeysRelate rank SortKey.Comparable b)
    (hstart : ∀ a ∈ rowsBack ms as start name sentinel present,
      ∀ b ∈ rowsBack ms as start name sentinel present, a.KeysRelate rank SortKey.Comparable b)
    (hrows : Sorting.SameByKey (HistoricalRow.placeAmong rank present) rows present) :
    Sorting.SameByKey
      (HistoricalRow.placeOfStanding rank
        ((rowsBack ms as start name sentinel present).map HistoricalRow.standing))
      ((rowsBack ms as start name sentinel rows).map HistoricalRow.standing)
      ((rowsBack ms as start name sentinel present).map HistoricalRow.standing) := by
  have hadded {a b : HistoricalRow} (hid : a.entityId = b.entityId) :
      a.entity.IsAdded as start ↔ b.entity.IsAdded as start := by
    have hid' : a.entity.id = b.entity.id := hid
    simp only [Entity.IsAdded, hid']
  nth_rewrite 3 [standing_rowsBack]
  rw [standing_rowsBack ms as start name sentinel rows]
  refine hrows.map_filter fun b hb hkeptb => ?_
  have hkeptb := of_decide_eq_true hkeptb
  have hplace : ∀ a ∈ present, ¬ a.entity.IsAdded as start → (_ ↔ _) := fun a ha hkepta =>
    placeOfStanding_rowsBack_eq_iff hstart ha hkepta hb hkeptb
  have hid {a : HistoricalRow} (hties : (rowAt ms start name sentinel a.entity).KeysRelate rank
      SortKey.Ties (rowAt ms start name sentinel b.entity)) : a.entityId = b.entityId := by
    have hback := HistoricalRow.entityId_eq_of_ties hties
    exact hback
  cases hchange : firstChange (between Modification.timestamp start stop ms) start name sentinel
      b.entityId with
  | some m =>
    have hvalue : ∀ a ∈ present, a.entityId = b.entityId →
        (rowAt ms start name sentinel a.entity).historical = m.diffs.get name := fun a ha hid => by
      rw [historical_back hle (hpresent a ha) hid, hchange]
    refine .inl fun a ha hkepta hsame => ?_
    have hties := (hplace a ha (of_decide_eq_true hkepta)).1 hsame
    exact Prod.ext (hid hties) ((hvalue a ha (hid hties)).trans (hvalue b hb rfl).symm)
  | none =>
    have hstanding : ∀ a ∈ present, a.entityId = b.entityId →
        (rowAt ms start name sentinel a.entity).standing = a.standing := fun a ha hid => by
      refine Prod.ext rfl ?_
      change (rowAt ms start name sentinel a.entity).historical = a.historical
      rw [historical_back hle (hpresent a ha) hid, hchange]
    refine .inr fun a ha => ?_
    rw [decide_eq_true_iff, HistoricalRow.placeAmong_eq_iff hstop ha hb]
    constructor
    · rintro ⟨hkepta, hsame⟩
      have hties := (hplace a ha hkepta).1 hsame
      exact (HistoricalRow.keysRelate_congr (hstanding a ha (hid hties))
        (hstanding b hb rfl)).1 hties
    · intro hties
      have hid : a.entityId = b.entityId := HistoricalRow.entityId_eq_of_ties hties
      have hkepta : ¬ a.entity.IsAdded as start := fun h => hkeptb ((hadded hid).1 h)
      refine ⟨hkepta, (hplace a ha hkepta).2 ?_⟩
      exact (HistoricalRow.keysRelate_congr (hstanding a ha hid) (hstanding b hb rfl)).2 hties

/-- Two reconstructions from the same lists differ by the entries between their moments: the
entities that appear were added between them, and each earlier value was recorded by the first
usable update between them or is the later value. So the earlier rows can be reconstructed from the
later ones, as the state of their entities, with nothing but the updates between the moments and the
additions. -/
theorem reconstructBy_between (hms : Alike Modification.timestamp start.isAware ms)
    (has : Alike Addition.timestamp start.isAware as) (haware : start.isAware = stop.isAware)
    (hle : start.instant ≤ stop.instant) :
    (∀ earlier later, reconstructBy es ms as start name sentinel rank = .ok earlier →
      reconstructBy es ms as stop name sentinel rank = .ok later →
      ExplainedBetween es ms as start stop name sentinel earlier later) ∧
    (ComparableKeys es ms as start name sentinel rank →
      ComparableKeys es ms as stop name sentinel rank →
      ∃ earlier later, reconstructBy es ms as start name sentinel rank = .ok earlier ∧
        reconstructBy es ms as stop name sentinel rank = .ok later ∧
        ∀ rows, Relisted rank (es.filter fun e => ¬ e.IsAdded as stop) later rows →
          ∃ found, reconstructBy (rows.map (HistoricalRow.restored name))
              (between Modification.timestamp start stop ms) as start name sentinel rank =
              .ok found ∧
            found.map HistoricalRow.standing = earlier.map HistoricalRow.standing) := by
  refine ⟨fun _ _ => explainedBetween hms has haware hle, fun hstart hstop => ?_⟩
  obtain ⟨later, hlater, harranges⟩ := sortRowsBy_arranges hstop.keysRelate
  obtain ⟨earlier, hearlier, -⟩ := sortRowsBy_arranges hstart.keysRelate
  refine ⟨earlier, later, (reconstructBy_eq_sortRowsBy hms has ..).trans hearlier,
    (reconstructBy_eq_sortRowsBy (haware ▸ hms) (haware ▸ has) ..).trans hlater,
    fun rows hrelisted => ?_⟩
  have hpresent : ∀ row ∈ (es.filter fun e => ¬ e.IsAdded as stop).map
      (rowAt ms stop name sentinel), rowAt ms stop name sentinel row.entity = row := by
    intro row hrow
    obtain ⟨e, -, rfl⟩ := List.mem_map.1 hrow
    rfl
  have hrows := hrelisted.sameByKey harranges hpresent
  have hsame := sameByKey_rowsBack hle hpresent hstop.keysRelate
    (rowsBack_rowAt hle es ▸ hstart.keysRelate) hrows
  have hbetween : Alike Modification.timestamp start.isAware
    (between Modification.timestamp start stop ms) := hms.filter _
  rw [reconstructBy_eq_sortRowsBy hbetween has]
  rw [← standings_restored hle fun row hrow => hpresent row (hrows.perm.mem_iff.1 hrow),
    rowsBack_rowAt hle] at hsame
  obtain ⟨sorted, found, hsorted, hfound, heq⟩ :=
    HistoricalRow.sortRowsBy_standings hstart.keysRelate hsame
  cases hsorted.symm.trans hearlier
  exact ⟨found, hfound, heq⟩

/-- The positions before and after an addition and two updates, one of which comes to a sentinel. -/
theorem reconstructBy_between_sample :
    let start : Moment := .naive ⟨10, by decide⟩
    let stop : Moment := .naive ⟨30, by decide⟩
    let unranked : Option Value := some (.int (-1))
    Alike Modification.timestamp start.isAware sampleModifications ∧
      Alike Addition.timestamp start.isAware sampleAdditions ∧ start.isAware = stop.isAware ∧
      start.instant ≤ stop.instant ∧
      ComparableKeys sampleEntities sampleModifications sampleAdditions start "position" unranked
        none ∧
      ComparableKeys sampleEntities sampleModifications sampleAdditions stop "position" unranked
        none ∧
      ∃ earlier later,
        reconstructBy sampleEntities sampleModifications sampleAdditions start "position" unranked
          none = .ok earlier ∧
        reconstructBy sampleEntities sampleModifications sampleAdditions stop "position" unranked
          none = .ok later ∧
        ExplainedBetween sampleEntities sampleModifications sampleAdditions start stop "position"
          unranked earlier later ∧
        ∃ found, reconstructBy (later.map (HistoricalRow.restored "position"))
            (between Modification.timestamp start stop sampleModifications) sampleAdditions start
            "position" unranked none = .ok found ∧
          found.map HistoricalRow.standing = earlier.map HistoricalRow.standing := by
  intro start stop unranked
  have hms : Alike Modification.timestamp start.isAware sampleModifications := by
    unfold Alike
    decide
  have has : Alike Addition.timestamp start.isAware sampleAdditions := by
    unfold Alike
    decide
  have hkeys : ∀ moment, ComparableKeys sampleEntities sampleModifications sampleAdditions moment
      "position" unranked none := by
    intro moment
    refine comparableKeys_of_integers ?_ ?_
    · simp [sampleEntities, Entity.value, Attributes.get, Attributes.get?]
    · simp [sampleModifications, Attributes.get, Attributes.get?]
  have hle : start.instant ≤ stop.instant := by decide
  obtain ⟨hexplained, hfound⟩ := @reconstructBy_between sampleEntities sampleModifications
    sampleAdditions start stop "position" unranked none hms has rfl hle
  obtain ⟨earlier, later, hearlier, hlater, hagain⟩ := hfound (hkeys start) (hkeys stop)
  exact ⟨hms, has, rfl, hle, hkeys start, hkeys stop, earlier, later, hearlier, hlater,
    hexplained earlier later hearlier hlater, hagain later (.inl (.refl later))⟩

end Rows

end Chronicle
