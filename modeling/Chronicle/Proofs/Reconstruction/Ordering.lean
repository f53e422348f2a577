import Chronicle.Proofs.Reconstruction.Keys
import Chronicle.Proofs.Schema.Normal
import Mathlib.Order.RelClasses

/-!
# The order of reconstructed rows

Normal values of one type have an order: integers and texts by value, labels of a ranking by rank,
null last. The keys of rows decide it, with the id of the entity where two values are equal; so the
rows of different entities are always put in order.

## Main definitions

* `Value.Ahead` — the order of values.
* `HistoricalRow.Precedes` — the order of rows.

## Main statements

* `Value.instIsStrictOrder`, `HistoricalRow.instIsStrictOrder` — both are strict orders.
* `HistoricalRow.before_iff_precedes` — the keys of rows are in the order of the rows.
* `sortRows_ok` — rows of different entities are put in order.
-/

namespace Chronicle

/-! ## The order of values -/

/-- The order of values: integers and texts by value, labels of a ranking by rank, null last. -/
inductive Value.Ahead (ranking : Option (List String)) : Value → Value → Prop
  | last {v : Value} (h : v ≠ .null) : Ahead ranking v .null
  | int {m n : Int} (h : m < n) : Ahead ranking (.int m) (.int n)
  | text {s t : String} (hr : ranking = none) (h : s < t) : Ahead ranking (.text s) (.text t)
  | label {labels : List String} {s t : String} (hr : ranking = some labels)
      (h : labels.idxOf s < labels.idxOf t) : Ahead ranking (.text s) (.text t)

namespace Value

variable {ranking : Option (List String)}

theorem ahead_total_text (s t : String) :
    Ahead none (.text s) (.text t) ∨ text s = text t ∨ Ahead none (.text t) (.text s) := by
  by_cases hst : s < t
  · exact .inl (.text rfl hst)
  · by_cases hts : t < s
    · exact .inr (.inr (.text rfl hts))
    · exact .inr (.inl (congrArg text (String.le_antisymm hts hst)))

instance instIsStrictOrder : IsStrictOrder Value (Ahead ranking) where
  irrefl v h := by
    cases h with
    | last h => exact h rfl
    | int h => exact Int.lt_irrefl _ h
    | text _ h => exact String.lt_irrefl _ h
    | label _ h => exact Nat.lt_irrefl _ h
  trans u v w huv hvw := by
    cases huv with
    | last => cases hvw; contradiction
    | int h =>
      cases hvw with
      | last => exact .last nofun
      | int h' => exact .int (Int.lt_trans h h')
    | text hr h =>
      cases hvw with
      | last => exact .last nofun
      | text _ h' => exact .text hr (String.lt_trans h h')
      | label hr' => cases hr.symm.trans hr'
    | label hr h =>
      cases hvw with
      | last => exact .last nofun
      | text hr' => cases hr.symm.trans hr'
      | label hr' h' =>
        cases hr.symm.trans hr'
        exact .label hr (Nat.lt_trans h h')

end Value

/-- Whether a ranking, if there is one, lists the labels of a type. -/
def FieldType.RankedBy (type : FieldType) (ranking : Option (List String)) : Prop :=
  ∀ labels, ranking = some labels → type = .label labels

theorem Kind.rankedBy {kind : Kind} {name : String} {type : FieldType}
    (h : kind.typeOf? name = some type) : type.RankedBy (kind.ranking? name) := by
  intro labels hlabels
  cases kind with
  | demon =>
    by_cases hname : name = "difficulty"
    · subst hname
      cases h
      cases hlabels
      rfl
    · simp [ranking?, spec, demonSpec, List.lookup_cons, beq_eq_false_iff_ne.2 hname] at hlabels
  | record =>
    by_cases hname : name = "status"
    · subst hname
      cases h
      cases hlabels
      rfl
    · simp [ranking?, spec, recordSpec, List.lookup_cons, beq_eq_false_iff_ne.2 hname] at hlabels

/-! ## Keys -/

namespace SortKey

/-- The key of a value that is normal for a type with that ranking. -/
def ofNormal (ranking : Option (List String)) (v : Value) (id : Int) : SortKey :=
  match v, ranking with
  | .null, _ => ⟨true, .int 0, id⟩
  | .text s, some labels => ⟨false, .int (labels.idxOf s), id⟩
  | v, _ => ⟨false, v, id⟩

variable {ranking : Option (List String)} {type : FieldType} {v w : Value}

theorem rankIn_label {labels : List String} {s : String} (h : s ∈ labels) :
    rankIn labels (.text s) = .ok (labels.idxOf s) := by
  have hfind : labels.findIdx? (fun label => Value.same (.text label) (.text s)) =
      some (labels.idxOf s) := by
    have hsame : (fun label => Value.same (.text label) (.text s)) = (· == s) := by
      funext label
      rw [Value.same]
    rw [hsame]
    exact List.findIdx?_eq_some_of_exists ⟨s, h, beq_self_eq_true s⟩
  simp only [rankIn, hfind]

theorem ofValue_eq (hr : type.RankedBy ranking) (hv : type.Normal v) (id : Int) :
    ofValue ranking v id = .ok (ofNormal ranking v id) := by
  induction type with
  | integer | position | text =>
    obtain ⟨_, rfl, _⟩ := hv
    cases ranking with
    | none => rfl
    | some labels => cases hr labels rfl
  | label labels =>
    obtain ⟨s, hs, rfl⟩ := hv
    cases ranking with
    | none => rfl
    | some _ =>
      cases hr _ rfl
      simp [ofValue, ofRanked, rankOf, rankIn_label hs, ofNormal]
  | nullable type ih =>
    cases ranking with
    | some labels => cases hr labels rfl
    | none =>
      rcases hv with rfl | hv
      · rfl
      · exact ih nofun hv

/-- The key of a value that comes ahead of another comes before the key of that. -/
theorem before_of_ahead (h : v.Ahead ranking w) (i j : Int) :
    (ofNormal ranking v i).Before (ofNormal ranking w j) := by
  cases h with
  | last h =>
    have hv : (ofNormal ranking v i).absent = false := by
      unfold ofNormal
      split
      · contradiction
      · rfl
      · rfl
    exact .present hv rfl
  | int h => cases ranking <;> exact before_int false h i j
  | text hr h =>
    subst hr
    exact .value rfl (Value.less?_iff.2 (.text h))
  | label hr h =>
    subst hr
    exact before_int false (Int.ofNat_lt.2 h) i j

/-- Keys of one value differ in their ids only. -/
theorem ofNormal_eq (v : Value) (i j : Int) :
    ofNormal ranking v j = { ofNormal ranking v i with id := j } := by
  unfold ofNormal
  split <;> rfl

@[simp] theorem id_ofNormal (v : Value) (i : Int) : (ofNormal ranking v i).id = i := by
  unfold ofNormal
  split <;> rfl

end SortKey

/-! ## Normal values of one type -/

namespace FieldType

variable {type : FieldType} {ranking : Option (List String)} {v w : Value}

/-- Two normal values of one type are equal or one comes ahead of the other. -/
theorem Normal.ahead_total (hr : type.RankedBy ranking) (hv : type.Normal v) (hw : type.Normal w) :
    v.Ahead ranking w ∨ v = w ∨ w.Ahead ranking v := by
  induction type with
  | integer | position =>
    obtain ⟨m, rfl, _⟩ := hv
    obtain ⟨n, rfl, _⟩ := hw
    rcases Int.lt_trichotomy m n with h | rfl | h
    · exact .inl (.int h)
    · exact .inr (.inl rfl)
    · exact .inr (.inr (.int h))
  | text =>
    obtain ⟨s, rfl, _⟩ := hv
    obtain ⟨t, rfl, _⟩ := hw
    cases ranking with
    | none => exact Value.ahead_total_text s t
    | some labels => cases hr labels rfl
  | label labels =>
    obtain ⟨s, hs, rfl⟩ := hv
    obtain ⟨t, ht, rfl⟩ := hw
    cases ranking with
    | none => exact Value.ahead_total_text s t
    | some _ =>
      cases hr _ rfl
      rcases Nat.lt_trichotomy (labels.idxOf s) (labels.idxOf t) with h | h | h
      · exact .inl (.label rfl h)
      · exact .inr (.inl (congrArg Value.text ((List.idxOf_inj hs).1 h)))
      · exact .inr (.inr (.label rfl h))
  | nullable type ih =>
    have hnone : type.RankedBy ranking := fun labels h => by cases hr labels h
    by_cases hv' : v = .null
    · by_cases hw' : w = .null
      · exact .inr (.inl (hv'.trans hw'.symm))
      · exact .inr (.inr (hv' ▸ .last hw'))
    · by_cases hw' : w = .null
      · exact .inl (hw' ▸ .last hv')
      · exact ih hnone (hv.resolve_left hv') (hw.resolve_left hw')

end FieldType

/-! ## Rows in order -/

namespace HistoricalRow

variable {ranking : Option (List String)} {type : FieldType} {a b : HistoricalRow}

/-- The order of rows: by historical value, rows of one value by id. -/
def Precedes (ranking : Option (List String)) (a b : HistoricalRow) : Prop :=
  a.historical.Ahead ranking b.historical ∨
    a.historical = b.historical ∧ a.entityId < b.entityId

instance instIsStrictOrder : IsStrictOrder HistoricalRow (Precedes ranking) where
  irrefl a h := by
    rcases h with h | ⟨-, h⟩
    · exact irrefl_of (Value.Ahead ranking) _ h
    · exact Int.lt_irrefl _ h
  trans a b c hab hbc := by
    rcases hab with hab | ⟨hab, hid⟩
    · rcases hbc with hbc | ⟨hbc, -⟩
      · exact .inl (IsTrans.trans _ _ _ hab hbc)
      · exact .inl (hbc ▸ hab)
    · rcases hbc with hbc | ⟨hbc, hid'⟩
      · exact .inl (hab ▸ hbc)
      · exact .inr ⟨hab.trans hbc, Int.lt_trans hid hid'⟩

theorem precedes_total (hr : type.RankedBy ranking) (ha : type.Normal a.historical)
    (hb : type.Normal b.historical) (hid : a.entityId ≠ b.entityId) :
    a.Precedes ranking b ∨ b.Precedes ranking a := by
  rcases ha.ahead_total hr hb with h | h | h
  · exact .inl (.inl h)
  · rcases Int.lt_or_gt_of_ne hid with hlt | hlt
    · exact .inl (.inr ⟨h, hlt⟩)
    · exact .inr (.inr ⟨h.symm, hlt⟩)
  · exact .inr (.inl h)

/-- The keys of rows with normal values can be compared. -/
theorem comparable_of_normal (hr : type.RankedBy ranking) (ha : type.Normal a.historical)
    (hb : type.Normal b.historical) :
    (SortKey.ofNormal ranking a.historical a.entityId).Comparable
      (SortKey.ofNormal ranking b.historical b.entityId) := by
  rcases ha.ahead_total hr hb with h | h | h
  · exact .inl (SortKey.before_of_ahead h _ _)
  · rw [h, SortKey.ofNormal_eq b.historical b.entityId a.entityId]
    exact SortKey.comparable_of_agrees rfl (Value.agrees_refl _)
  · exact .inr (.inl (SortKey.before_of_ahead h _ _))

theorem Precedes.before (h : a.Precedes ranking b) :
    (SortKey.ofNormal ranking a.historical a.entityId).Before
      (SortKey.ofNormal ranking b.historical b.entityId) := by
  rcases h with h | ⟨h, hid⟩
  · exact SortKey.before_of_ahead h _ _
  · rw [h, SortKey.ofNormal_eq b.historical b.entityId a.entityId]
    exact .id rfl (Value.agrees_refl _) (by simpa using hid)

/-- The keys of rows with normal values are in the order of the rows. -/
theorem before_iff_precedes (hr : type.RankedBy ranking) (ha : type.Normal a.historical)
    (hb : type.Normal b.historical) :
    (SortKey.ofNormal ranking a.historical a.entityId).Before
      (SortKey.ofNormal ranking b.historical b.entityId) ↔ a.Precedes ranking b := by
  refine ⟨fun h => ?_, Precedes.before⟩
  rcases ha.ahead_total hr hb with hahead | heq | hahead
  · exact .inl hahead
  · refine .inr ⟨heq, ?_⟩
    rcases Int.lt_trichotomy a.entityId b.entityId with hid | hid | hid
    · exact hid
    · rw [heq, hid] at h
      exact absurd h (SortKey.not_before_self _)
    · exact absurd (Precedes.before (.inr ⟨heq.symm, hid⟩)) (SortKey.before_asymm h)
  · exact absurd (SortKey.before_of_ahead hahead _ _) (SortKey.before_asymm h)

/-- The keys of rows with normal values decide the order of the rows. -/
theorem before_decides (hr : type.RankedBy ranking) (ha : type.Normal a.historical)
    (hb : type.Normal b.historical) :
    ∃ less, (SortKey.ofNormal ranking a.historical a.entityId).before
        (SortKey.ofNormal ranking b.historical b.entityId) = .ok less ∧
      (less = true ↔ a.Precedes ranking b) := by
  obtain ⟨less, hless, hiff⟩ := (comparable_of_normal hr ha hb).decides
  exact ⟨less, hless, hiff.trans (before_iff_precedes hr ha hb)⟩

end HistoricalRow

/-- Rows of different entities with normal values of one type are put in order. -/
theorem sortRows_ok {ranking : Option (List String)} {type : FieldType} {rows : List HistoricalRow}
    (hr : type.RankedBy ranking) (hnormal : ∀ row ∈ rows, type.Normal row.historical)
    (hids : (rows.map HistoricalRow.entityId).Nodup) :
    ∃ sorted, sortRows ranking rows = .ok sorted ∧ sorted.Perm rows ∧
      sorted.Pairwise (HistoricalRow.Precedes ranking) := by
  have hkey : ∀ row ∈ rows, SortKey.ofRanked (ranking.map rankOf) row.historical row.entityId =
      .ok (SortKey.ofNormal ranking row.historical row.entityId) := fun row hrow =>
    SortKey.ofValue_eq hr (hnormal row hrow) row.entityId
  have hcomparable : ∀ a ∈ rows, ∀ b ∈ rows,
      a.KeysRelate (ranking.map rankOf) SortKey.Comparable b := fun a ha b hb =>
    ⟨_, _, hkey a ha, hkey b hb,
      HistoricalRow.comparable_of_normal hr (hnormal a ha) (hnormal b hb)⟩
  obtain ⟨sorted, hsorted, hperm, hordered⟩ := sortRowsBy_ok hcomparable
  have hdistinct : sorted.Pairwise fun a b => a.entityId ≠ b.entityId :=
    List.pairwise_map.1 ((hperm.map _).nodup_iff.2 hids)
  refine ⟨sorted, hsorted, hperm, (hordered.and hdistinct).imp_of_mem fun {a b} ha hb hab => ?_⟩
  obtain ⟨⟨k, l, hk, hl, hnotAfter⟩, hid⟩ := hab
  have ha' := hperm.mem_iff.1 ha
  have hb' := hperm.mem_iff.1 hb
  cases hk.symm.trans (hkey a ha')
  cases hl.symm.trans (hkey b hb')
  rcases hnotAfter with h | h
  · exact (HistoricalRow.before_iff_precedes hr (hnormal a ha') (hnormal b hb')).1 h
  · exact absurd (by simpa using h.id) hid

end Chronicle
