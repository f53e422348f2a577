import Chronicle.Proofs.Sorting.Runs
import Chronicle.Proofs.Value.Order
import Chronicle.Reconstruction

/-!
# Sorting rows by comparable keys

The order of keys is lexicographic: null last, then by value, then by id. It is a strict order on
all keys, and as long as any two keys of a list are in order or tie, the comparison answers by
places: a key is as far up as there are keys before it. So both sorts put the rows of a list in the
order of their keys, whatever the values are, and rows whose keys tie stay in their order.

## Main definitions

* `SortKey.Before`, `SortKey.Ties`, `SortKey.Comparable` — how two keys can be to each other.
* `HistoricalRow.KeysRelate` — rows that have keys, which are in a relation.
* `HistoricalRow.placeAmong` — how many rows of a list come before a row.

## Main statements

* `SortKey.before_trans`, `SortKey.before_of_ties_of_before` — the order of keys.
* `sortRowsBy_arranges`, `sortRowsBy_ok` — rows with comparable keys are put in their stable order.
* `sortRowsBy_perm` — what is sorted has the rows of the list.
-/

namespace Chronicle

namespace SortKey

variable {a b c : SortKey}

/-- Whether a key comes before another: null last, then by value, then by id. -/
inductive Before (a b : SortKey) : Prop
  | present (ha : a.absent = false) (hb : b.absent = true)
  | value (h : a.absent = b.absent) (hless : a.value.less? b.value = some true)
  | id (h : a.absent = b.absent) (hagrees : a.value.agrees b.value = true) (hid : a.id < b.id)

/-- Whether two keys cannot be told apart. -/
structure Ties (a b : SortKey) : Prop where
  absent : a.absent = b.absent
  agrees : a.value.agrees b.value = true
  id : a.id = b.id

/-- Whether two keys are in an order or tie. -/
def Comparable (a b : SortKey) : Prop := a.Before b ∨ b.Before a ∨ a.Ties b

/-- Whether a key is not after another. -/
def NotAfter (a b : SortKey) : Prop := a.Before b ∨ a.Ties b

/-! ## Laws -/

theorem Ties.symm (h : a.Ties b) : b.Ties a :=
  ⟨h.absent.symm, Value.agrees_symm h.agrees, h.id.symm⟩

theorem before_of_ties_of_before (hab : a.Ties b) (hbc : b.Before c) : a.Before c := by
  cases hbc with
  | present hb hc => exact .present (hab.absent.trans hb) hc
  | value h hless =>
    exact .value (hab.absent.trans h) (Value.less?_of_agrees_of_less? hab.agrees hless)
  | id h hagrees hid =>
    exact .id (hab.absent.trans h) (Value.agrees_trans hab.agrees hagrees) (hab.id ▸ hid)

theorem before_trans (hab : a.Before b) (hbc : b.Before c) : a.Before c := by
  cases hab with
  | present ha hb =>
    cases hbc with
    | present hb' => exact absurd (hb.symm.trans hb') nofun
    | value h => exact .present ha (h.symm.trans hb)
    | id h => exact .present ha (h.symm.trans hb)
  | value h hless =>
    cases hbc with
    | present hb hc => exact .present (h.trans hb) hc
    | value h' hless' => exact .value (h.trans h') (Value.less?_trans hless hless')
    | id h' hagrees => exact .value (h.trans h') (Value.less?_of_less?_of_agrees hless hagrees)
  | id h hagrees hid =>
    cases hbc with
    | present hb hc => exact .present (h.trans hb) hc
    | value h' hless => exact .value (h.trans h') (Value.less?_of_agrees_of_less? hagrees hless)
    | id h' hagrees' hid' =>
      exact .id (h.trans h') (Value.agrees_trans hagrees hagrees') (Int.lt_trans hid hid')

/-! ## The comparison -/

theorem before_of_before (h : a.Before b) : a.before b = .ok true ∧ b.before a = .ok false := by
  cases h with
  | present ha hb => simp [before, ha, hb]
  | value h hless =>
    have hagrees := Value.agrees_of_less? hless
    have hagrees' : b.value.agrees a.value = false := Value.agrees_comm .. ▸ hagrees
    simp [before, h, hagrees, hagrees', hless, Value.less?_asymm hless]
  | id h hagrees hid =>
    have hnot : ¬ b.id < a.id := Int.not_lt.2 (Int.le_of_lt hid)
    simp [before, h, hagrees, Value.agrees_symm hagrees, hid, hnot]

theorem before_of_ties (h : a.Ties b) : a.before b = .ok false := by
  simp [before, h.absent, h.agrees, h.id]

theorem before_asymm (h : a.Before b) : ¬ b.Before a := fun hba => by
  have hanswer := (before_of_before h).2
  rw [(before_of_before hba).1] at hanswer
  cases hanswer

theorem not_before_self (a : SortKey) : ¬ a.Before a := fun h => before_asymm h h

/-- Keys that are in an order or tie are decided by the comparison. -/
theorem Comparable.decides (h : a.Comparable b) :
    ∃ less, a.before b = .ok less ∧ (less = true ↔ a.Before b) := by
  rcases h with h | h | h
  · exact ⟨true, (before_of_before h).1, by simp [h]⟩
  · exact ⟨false, (before_of_before h).2, by simp [before_asymm h]⟩
  · have hnot : ¬ a.Before b := fun hab => by
      have := (before_of_before hab).1
      rw [before_of_ties h] at this
      cases this
    exact ⟨false, before_of_ties h, by simp [hnot]⟩

theorem Comparable.notAfter (h : a.Comparable b) (hnot : ¬ b.Before a) : a.NotAfter b := by
  rcases h with h | h | h
  · exact .inl h
  · exact absurd h hnot
  · exact .inr h

/-- A key before another is before every key that the other is not before. -/
theorem before_or_before (hab : a.Before b) (hac : a.Comparable c) : a.Before c ∨ c.Before b := by
  rcases hac with h | h | h
  · exact .inl h
  · exact .inr (before_trans h hab)
  · exact .inr (before_of_ties_of_before h.symm hab)

theorem before_int (p : Bool) {m n : Int} (h : m < n) (i j : Int) :
    (⟨p, .int m, i⟩ : SortKey).Before ⟨p, .int n, j⟩ :=
  .value rfl (by simp [Value.less?, Value.number?, Number.less_ofInt, h])

/-- Keys of one value can be compared by their ids. -/
theorem comparable_of_agrees (habsent : a.absent = b.absent)
    (hagrees : a.value.agrees b.value = true) : a.Comparable b := by
  rcases Int.lt_trichotomy a.id b.id with h | h | h
  · exact .inl (.id habsent hagrees h)
  · exact .inr (.inr ⟨habsent, hagrees, h⟩)
  · exact .inr (.inl (.id habsent.symm (Value.agrees_symm hagrees) h))

/-- Keys of integers can be compared. -/
theorem comparable_int (p q : Bool) (m n i j : Int) :
    (⟨p, .int m, i⟩ : SortKey).Comparable ⟨q, .int n, j⟩ := by
  cases p <;> cases q
  case false.true => exact .inl (.present rfl rfl)
  case true.false => exact .inr (.inl (.present rfl rfl))
  all_goals
    rcases Int.lt_trichotomy m n with h | rfl | h
    · exact .inl (before_int _ h i j)
    · exact comparable_of_agrees rfl (Value.agrees_refl _)
    · exact .inr (.inl (before_int _ h j i))

end SortKey

/-! ## Sorting rows -/

namespace HistoricalRow

/-- Whether two rows have keys, and these are in a relation. -/
def KeysRelate (rank : Option (Value → Except Error Value)) (R : SortKey → SortKey → Prop)
    (a b : HistoricalRow) : Prop :=
  ∃ k l, SortKey.ofRanked rank a.historical a.entityId = .ok k ∧
    SortKey.ofRanked rank b.historical b.entityId = .ok l ∧ R k l

/-- How many rows of a list come before a row by their keys. -/
noncomputable def placeAmong (rank : Option (Value → Except Error Value))
    (rows : List HistoricalRow) (row : HistoricalRow) : Int :=
  Sorting.height (KeysRelate rank SortKey.Before) rows row

variable {rank : Option (Value → Except Error Value)} {rows : List HistoricalRow}
  {a b : HistoricalRow}

theorem keysRelate_iff {R : SortKey → SortKey → Prop} {k l : SortKey}
    (hk : SortKey.ofRanked rank a.historical a.entityId = .ok k)
    (hl : SortKey.ofRanked rank b.historical b.entityId = .ok l) :
    a.KeysRelate rank R b ↔ R k l := by
  constructor
  · rintro ⟨k', l', hk', hl', hR⟩
    cases hk.symm.trans hk'
    cases hl.symm.trans hl'
    exact hR
  · exact fun hR => ⟨k, l, hk, hl, hR⟩

/-- Rows whose keys can be compared have places in the order of their keys. -/
theorem placeAmong_lt_iff
    (hcomparable : ∀ a ∈ rows, ∀ b ∈ rows, a.KeysRelate rank SortKey.Comparable b)
    (ha : a ∈ rows) (hb : b ∈ rows) :
    a.placeAmong rank rows < b.placeAmong rank rows ↔ a.KeysRelate rank SortKey.Before b := by
  have hasymm : ∀ x ∈ rows, ∀ y ∈ rows,
      x.KeysRelate rank SortKey.Before y → ¬ y.KeysRelate rank SortKey.Before x := by
    rintro x - y - ⟨k, l, hk, hl, hkl⟩ hyx
    exact SortKey.before_asymm hkl ((keysRelate_iff hl hk).1 hyx)
  have hweak : ∀ x ∈ rows, ∀ y ∈ rows, ∀ z ∈ rows, x.KeysRelate rank SortKey.Before y →
      x.KeysRelate rank SortKey.Before z ∨ z.KeysRelate rank SortKey.Before y := by
    rintro x hx y - z hz ⟨k, l, hk, hl, hkl⟩
    obtain ⟨k', m, hk', hm, hkm⟩ := hcomparable x hx z hz
    cases hk.symm.trans hk'
    rw [keysRelate_iff hk hm, keysRelate_iff hm hl]
    exact SortKey.before_or_before hkl hkm
  exact Int.ofNat_lt.trans (Sorting.height_lt_iff hasymm hweak ha hb)

/-- Rows whose keys can be compared have one place if and only if their keys tie. -/
theorem placeAmong_eq_iff
    (hcomparable : ∀ a ∈ rows, ∀ b ∈ rows, a.KeysRelate rank SortKey.Comparable b)
    (ha : a ∈ rows) (hb : b ∈ rows) :
    a.placeAmong rank rows = b.placeAmong rank rows ↔ a.KeysRelate rank SortKey.Ties b := by
  obtain ⟨k, l, hk, hl, hkl⟩ := hcomparable a ha b hb
  have hab := placeAmong_lt_iff hcomparable ha hb
  have hba := placeAmong_lt_iff hcomparable hb ha
  rw [keysRelate_iff hk hl] at hab ⊢
  rw [keysRelate_iff hl hk] at hba
  constructor
  · intro heq
    rcases hkl with h | h | h
    · exact absurd (hab.2 h) (by omega)
    · exact absurd (hba.2 h) (by omega)
    · exact h
  · intro h
    have hnot : ¬ k.Before l := fun hbefore => SortKey.not_before_self l
      (SortKey.before_of_ties_of_before h.symm hbefore)
    have hnot' : ¬ l.Before k := fun hbefore => SortKey.not_before_self k
      (SortKey.before_of_ties_of_before h hbefore)
    rw [← hab] at hnot
    rw [← hba] at hnot'
    omega

end HistoricalRow

section Sorting

variable {rank : Option (Value → Except Error Value)} {rows : List HistoricalRow}
  {keyed sorted : List (SortKey × HistoricalRow)}

/-- Where keys can be compared it does not matter which sort is taken. -/
theorem sortKeyed_eq_runSort {key : SortKey × HistoricalRow → Int}
    (hless : Sorting.Compares (fun a b => a.1.before b.1) key keyed) :
    sortKeyed keyed = Sorting.runSort (fun a b => a.1.before b.1) keyed := by
  unfold sortKeyed
  split
  · exact Sorting.insertionSort_eq_runSort hless
  · rfl

theorem perm_of_sortKeyed (h : sortKeyed keyed = .ok sorted) : sorted.Perm keyed := by
  unfold sortKeyed at h
  split at h
  · exact Sorting.perm_of_insertionSort h
  · exact Sorting.perm_of_runSort h

/-- Rows are keyed one by one. -/
theorem keyed_of_mapM (h : rows.mapM (HistoricalRow.keyed rank) = .ok keyed) :
    keyed.map (·.2) = rows ∧
      ∀ x ∈ keyed, SortKey.ofRanked rank x.2.historical x.2.entityId = .ok x.1 := by
  induction rows generalizing keyed with
  | nil =>
    cases h
    simp
  | cons row rest ih =>
    rw [List.mapM_cons, bind_eq_ok_iff] at h
    obtain ⟨x, hx, h⟩ := h
    obtain ⟨others, hothers, h⟩ := bind_eq_ok_iff.1 h
    cases h
    obtain ⟨k, hk, hx⟩ := bind_eq_ok_iff.1 hx
    cases hx
    obtain ⟨hmap, hkeys⟩ := ih hothers
    exact ⟨by simp [hmap], List.forall_mem_cons.2 ⟨hk, hkeys⟩⟩

/-- Rows whose keys can be compared are put in their stable order by keys. -/
theorem sortRowsBy_arranges
    (hcomparable : ∀ a ∈ rows, ∀ b ∈ rows, a.KeysRelate rank SortKey.Comparable b) :
    ∃ sorted, sortRowsBy rank rows = .ok sorted ∧
      Sorting.Arranges (HistoricalRow.placeAmong rank rows) rows sorted := by
  obtain ⟨keyed, hkeyed⟩ : ∃ keyed, rows.mapM (HistoricalRow.keyed rank) = .ok keyed :=
    exists_mapM_eq_ok fun row hrow => by
      obtain ⟨k, -, hk, -⟩ := hcomparable row hrow row hrow
      exact ⟨(k, row), by simp [HistoricalRow.keyed, hk]⟩
  obtain ⟨hmap, hkeys⟩ := keyed_of_mapM hkeyed
  have hmem : ∀ x ∈ keyed, x.2 ∈ rows := fun x hx => hmap ▸ List.mem_map_of_mem hx
  have hcompares : Sorting.Compares (fun x y => x.1.before y.1)
      (fun x => x.2.placeAmong rank rows) keyed := by
    intro x hx y hy
    have hrelate {R : SortKey → SortKey → Prop} : x.2.KeysRelate rank R y.2 ↔ R x.1 y.1 :=
      HistoricalRow.keysRelate_iff (hkeys x hx) (hkeys y hy)
    obtain ⟨less, hless, hiff⟩ := (hrelate.1 (hcomparable x.2 (hmem x hx) y.2 (hmem y hy))).decides
    have hplace := HistoricalRow.placeAmong_lt_iff hcomparable (hmem x hx) (hmem y hy)
    refine hless.trans (congrArg Except.ok ?_)
    rw [Bool.eq_iff_iff, decide_eq_true_iff, hplace, hrelate, hiff]
  obtain ⟨sorted, hsorted, harranges⟩ := Sorting.runSort_arranges hcompares
  refine ⟨sorted.map (·.2), ?_, hmap ▸ harranges.map fun _ _ => by rw [hmap]⟩
  rw [sortRowsBy, hkeyed, ok_bind, sortKeyed_eq_runSort hcompares, hsorted]
  rfl

/-- Rows whose keys can be compared are put in the order of their keys. -/
theorem sortRowsBy_ok
    (hcomparable : ∀ a ∈ rows, ∀ b ∈ rows, a.KeysRelate rank SortKey.Comparable b) :
    ∃ sorted, sortRowsBy rank rows = .ok sorted ∧ sorted.Perm rows ∧
      sorted.Pairwise (HistoricalRow.KeysRelate rank SortKey.NotAfter) := by
  obtain ⟨sorted, hsorted, harranges⟩ := sortRowsBy_arranges hcomparable
  refine ⟨sorted, hsorted, harranges.perm, harranges.sorted.imp_of_mem fun {a b} ha hb hle => ?_⟩
  have ha' := harranges.perm.mem_iff.1 ha
  have hb' := harranges.perm.mem_iff.1 hb
  obtain ⟨k, l, hk, hl, hkl⟩ := hcomparable a ha' b hb'
  refine ⟨k, l, hk, hl, hkl.notAfter fun hbefore => Int.not_lt.2 hle ?_⟩
  exact (HistoricalRow.placeAmong_lt_iff hcomparable hb' ha').2 ⟨l, k, hl, hk, hbefore⟩

/-- Whatever the keys are, what is sorted has the rows of the list. -/
theorem sortRowsBy_perm {sorted : List HistoricalRow} (h : sortRowsBy rank rows = .ok sorted) :
    sorted.Perm rows := by
  obtain ⟨keyed, hkeyed, h⟩ := bind_eq_ok_iff.1 h
  obtain ⟨ordered, hordered, h⟩ := bind_eq_ok_iff.1 h
  cases h
  exact (keyed_of_mapM hkeyed).1 ▸ (perm_of_sortKeyed hordered).map (·.2)

end Sorting

end Chronicle
