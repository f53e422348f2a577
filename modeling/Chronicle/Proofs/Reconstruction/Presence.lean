import Chronicle.Proofs.Reconstruction.Evaluation
import Chronicle.Proofs.Reconstruction.Ordering
import Chronicle.Proofs.Service.Ledger

/-!
# Reconstruction in any run

Whatever the clock of a run read, a reconstruction at a moment has one row for every entity whose
addition is stamped before the moment, in the order of the historical values. A historical value is
one that an update recorded, or the present one, so it is normal for the type of its attribute.

## Main definitions

* `Value.usable` — whether a recorded value counts.
* `Store.rowsBefore` — the rows that a reconstruction sorts.

## Main statements

* `historical_source` — where a historical value comes from.
* `Ledger.exists_presentBefore_iff` — the entities that came between two moments.
* `Ledger.recorded_normal` — what a modification recorded is of the type of its attribute.
* `Ledger.reconstructAt_ok` — a reconstruction does not fail, and its rows are in order.
-/

namespace Chronicle

open Service

/-! ## Usable values -/

/-- Whether a recorded value counts: it is not the sentinel. -/
def Value.usable (sentinel : Option Value) (v : Value) : Bool :=
  match sentinel with
  | none => true
  | some s => !v.same s

theorem Modification.carries_eq (m : Modification) (name : String) (sentinel : Option Value) :
    m.carries name sentinel = (m.diffs.get? name).any (Value.usable sentinel) := by
  unfold carries Value.usable
  cases m.diffs.get? name <;> cases sentinel <;> rfl

/-- A historical value is a usable one that an entry of the entity from the moment on recorded, or,
if there is no such entry, the present value. -/
theorem historical_source (s : Store) (kind : Kind) (moment : Moment) (name : String) (e : Entity) :
    let row := rowFor (s.changesSince kind moment name) name e
    (∃ m ∈ s.modifications.ofKind kind, m.entityId = e.id ∧
      moment.instant ≤ m.timestamp.instant ∧ m.diffs.get? name = some row.historical ∧
      row.historical.usable (kind.sentinel? name) = true) ∨
    (∀ m ∈ s.modifications.ofKind kind, m.entityId = e.id →
      moment.instant ≤ m.timestamp.instant → m.carries name (kind.sentinel? name) = false) ∧
      row.historical = row.current := by
  intro row
  cases hfind : (s.changesSince kind moment name).find? (·.entityId == e.id) with
  | some m =>
    have hid : m.entityId = e.id := by simpa using List.find?_some hfind
    obtain ⟨⟨hmem, hinstant⟩, hcarries⟩ :=
      Store.mem_changesSince.1 (List.mem_of_find?_eq_some hfind)
    rw [Modification.carries_eq, Option.any_eq_true] at hcarries
    obtain ⟨v, hv, husable⟩ := hcarries
    have hrow : row.historical = v := by simp [row, rowFor, hfind, Attributes.get, hv]
    exact .inl ⟨m, hmem, hid, hinstant, hrow ▸ hv, hrow ▸ husable⟩
  | none =>
    refine .inr ⟨fun m hm hid hinstant => ?_, by simp [row, rowFor, hfind]⟩
    cases hcarries : m.carries name (kind.sentinel? name) with
    | false => rfl
    | true =>
      have hmem : m ∈ s.changesSince kind moment name :=
        Store.mem_changesSince.2 ⟨⟨hm, hinstant⟩, hcarries⟩
      simpa [hid] using List.find?_eq_none.1 hfind m hmem

/-! ## Entities before a moment -/

namespace Store

variable {s : Store} {kind : Kind} {moment start stop : Moment} {id : Int} {e : Entity}

theorem mem_addedSince : id ∈ s.addedSince kind moment ↔
    ∃ a ∈ s.additions.ofKind kind, a.entityId = id ∧ moment.instant ≤ a.timestamp.instant := by
  simp only [addedSince, List.mem_map, Timeline.mem_cutAt]
  constructor
  · rintro ⟨a, ⟨ha, hle⟩, hid⟩
    exact ⟨a, ha, hid, hle⟩
  · rintro ⟨a, ha, hid, hle⟩
    exact ⟨a, ⟨ha, hle⟩, hid⟩

theorem mem_presentBefore : e ∈ s.presentBefore kind moment ↔
    s.find? kind e.id = some e ∧ e.id ∉ s.addedSince kind moment := by
  rw [presentBefore, List.mem_filter, EntityTable.mem_rows_iff]
  simp only [Bool.not_eq_true', List.contains_eq_mem, decide_eq_false_iff_not]
  rfl

/-- The ids of the entities before a moment. -/
theorem nodup_presentBefore (s : Store) (kind : Kind) (moment : Moment) :
    ((s.presentBefore kind moment).map (·.id)).Nodup :=
  (EntityTable.ids_nodup _).sublist (List.filter_sublist.map _)

/-- What was there before a moment was there before any later moment. -/
theorem presentBefore_mono (hle : start.instant ≤ stop.instant)
    (he : e ∈ s.presentBefore kind start) : e ∈ s.presentBefore kind stop := by
  obtain ⟨hfind, hadded⟩ := mem_presentBefore.1 he
  refine mem_presentBefore.2 ⟨hfind, fun hlate => hadded ?_⟩
  obtain ⟨a, ha, hid, hstop⟩ := mem_addedSince.1 hlate
  exact mem_addedSince.2 ⟨a, ha, hid, Int.le_trans hle hstop⟩

/-- The rows of a store at a moment, in the order of the entities. -/
def rowsBefore (s : Store) (kind : Kind) (name : String) (moment : Moment) : List HistoricalRow :=
  (s.presentBefore kind moment).map (rowFor (s.changesSince kind moment name) name)

theorem mem_rowsBefore {name : String} {row : HistoricalRow} :
    row ∈ s.rowsBefore kind name moment ↔
      ∃ e ∈ s.presentBefore kind moment, rowFor (s.changesSince kind moment name) name e = row :=
  List.mem_map

theorem ids_rowsBefore (s : Store) (kind : Kind) (name : String) (moment : Moment) :
    (s.rowsBefore kind name moment).map HistoricalRow.entityId =
      (s.presentBefore kind moment).map (·.id) := List.map_map

end Store

/-- A write found no entity but the first one or one that another write left. -/
theorem Follow.before_eq {e : Option Entity} {ws : List Write} (h : Follow e ws) {w : Write}
    (hw : w ∈ ws) : w.before = e ∨ ∃ v ∈ ws, w.before = some v.entity := by
  induction ws generalizing e with
  | nil => cases hw
  | cons v rest ih =>
    rcases List.mem_cons.1 hw with rfl | hw
    · exact .inl h.1
    · rcases ih h.2 hw with hbefore | ⟨u, hu, hbefore⟩
      · exact .inr ⟨v, List.mem_cons_self, hbefore⟩
      · exact .inr ⟨u, List.mem_cons_of_mem v hu, hbefore⟩

namespace Ledger

variable {ws : List Write} {s : Store} {kind : Kind} {moment start stop : Moment} {id : Int}
  {name : String} {e : Entity} {m : Modification}

theorem ordered (h : Ledger ws s) : s.Ordered where
  modifications kind := by
    rw [h.modifications]
    exact Timeline.arranged_ordered
  additions kind := by
    rw [h.additions]
    exact Timeline.arranged_ordered

/-- An entity that has an addition is live. -/
theorem exists_of_addition (h : Ledger ws s) {a : Addition} (ha : a ∈ s.additions.ofKind kind) :
    ∃ e, s.find? kind a.entityId = some e := by
  rw [h.additions, Timeline.arranged_perm.mem_iff] at ha
  obtain ⟨w, hw, rfl, hentry⟩ := mem_entriesOf.1 ha
  rw [Write.entityId_of_addition? hentry]
  exact h.exists_of_mem hw

/-- No entity has two additions. -/
theorem addition_unique (h : Ledger ws s) {a b : Addition} (ha : a ∈ s.additions.ofKind kind)
    (hb : b ∈ s.additions.ofKind kind) (hid : a.entityId = b.entityId) : a = b := by
  obtain ⟨e, he⟩ := h.exists_of_addition hb
  obtain ⟨c, hc⟩ := h.exists_addition he
  have hmem : ∀ x ∈ s.additions.ofKind kind, x.entityId = b.entityId → x = c := by
    intro x hx hxid
    have hfilter : x ∈ (s.additions.ofKind kind).filter (·.entityId == b.entityId) := by
      simp [hx, hxid]
    rw [hc] at hfilter
    simpa using hfilter
  rw [hmem a ha hid, hmem b hb rfl]

/-- The entities that were there before one moment but not before an earlier one are those whose
addition is stamped between the two. -/
theorem exists_presentBefore_iff (h : Ledger ws s) (id : Int) :
    (∃ e ∈ s.presentBefore kind stop, e ∉ s.presentBefore kind start ∧ e.id = id) ↔
      ∃ a ∈ s.additions.ofKind kind, a.entityId = id ∧ start.instant ≤ a.timestamp.instant ∧
        a.timestamp.instant < stop.instant := by
  constructor
  · rintro ⟨e, hstop, hstart, rfl⟩
    obtain ⟨hfind, hearly⟩ := Store.mem_presentBefore.1 hstop
    have hlate : e.id ∈ s.addedSince kind start := by
      by_contra hnot
      exact hstart (Store.mem_presentBefore.2 ⟨hfind, hnot⟩)
    obtain ⟨a, ha, hid, hle⟩ := Store.mem_addedSince.1 hlate
    refine ⟨a, ha, hid, hle, ?_⟩
    by_contra hnot
    exact hearly (Store.mem_addedSince.2 ⟨a, ha, hid, by omega⟩)
  · rintro ⟨a, ha, rfl, hstart, hstop⟩
    obtain ⟨e, he⟩ := h.exists_of_addition ha
    have hid := EntityTable.id_of_get? he
    refine ⟨e, Store.mem_presentBefore.2 ⟨hid ▸ he, fun hlate => ?_⟩, fun hmem => ?_, hid⟩
    · obtain ⟨b, hb, hbid, hle⟩ := Store.mem_addedSince.1 hlate
      have heq := h.addition_unique ha hb (hbid.trans hid).symm
      subst heq
      omega
    · exact (Store.mem_presentBefore.1 hmem).2 (Store.mem_addedSince.2 ⟨a, ha, hid.symm, hstart⟩)

/-! ## Rows -/

/-- The entities that writes found have normal attributes. -/
theorem before_normal (h : Ledger ws s) {w : Write} (hw : w ∈ ws) (hbefore : w.before = some e) :
    w.entity.kind.Normal e.attributes := by
  have hlife : w ∈ life ws w.entity.kind w.entity.id := mem_life.2 ⟨hw, rfl, rfl⟩
  rcases (h.follow w.entity.kind w.entity.id).before_eq hlife with hnone | ⟨v, hv, hsome⟩
  · cases hbefore.symm.trans hnone
  · obtain rfl := Option.some.inj (hbefore.symm.trans hsome)
    obtain ⟨hmem, hkind, -⟩ := mem_life.1 hv
    rw [hkind]
    exact (h.valid v hmem).normal

/-- A modification is one that an update of its entity left. -/
theorem exists_of_mem_modifications (h : Ledger ws s) (hm : m ∈ s.modifications.ofKind kind) :
    ∃ w ∈ ws, w.entity.kind = kind ∧ w.modification? = some m := by
  rw [h.modifications, Timeline.arranged_perm.mem_iff] at hm
  exact mem_entriesOf.1 hm

/-- A modification records tracked attributes, with values that are normal for their types. -/
theorem recorded_normal (h : Ledger ws s) (hm : m ∈ s.modifications.ofKind kind) {v : Value}
    (hv : m.diffs.get? name = some v) :
    name ∈ kind.tracked ∧ ∀ type, kind.typeOf? name = some type → type.Normal v := by
  obtain ⟨w, hw, rfl, hentry⟩ := h.exists_of_mem_modifications hm
  obtain ⟨before, actor, now, hbefore, -, -, rfl⟩ := Write.modification?_eq_some.1 hentry
  -- What an update recorded is a value of the entity that it found.
  rw [newModification, Attributes.get?_diff] at hv
  split at hv
  · cases hv
    exact ⟨‹_ ∧ _›.1, fun type htype => (h.before_normal hw hbefore).value_normal htype⟩
  · cases hv

/-- The historical value of a row that is computed from usable logged updates is normal for the type
of the attribute. -/
theorem rowFor_normal (h : Ledger ws s) {type : FieldType} (htype : kind.typeOf? name = some type)
    {changes : List Modification}
    (hchanges : ∀ m ∈ changes, m ∈ s.modifications.ofKind kind ∧
      m.carries name (kind.sentinel? name) = true)
    (he : s.find? kind e.id = some e) : type.Normal (rowFor changes name e).historical := by
  cases hfind : changes.find? (·.entityId == e.id) with
  | some m =>
    obtain ⟨hm, hcarries⟩ := hchanges m (List.mem_of_find?_eq_some hfind)
    rw [Modification.carries_eq, Option.any_eq_true] at hcarries
    obtain ⟨v, hv, -⟩ := hcarries
    have hrow : (rowFor changes name e).historical = v := by
      simp [rowFor, hfind, Attributes.get, hv]
    rw [hrow]
    exact (h.recorded_normal hm hv).2 type htype
  | none =>
    have hrow : (rowFor changes name e).historical = e.value name := by simp [rowFor, hfind]
    rw [hrow]
    exact (h.normal he).value_normal htype

/-- Historical values are normal for the type of the attribute. -/
theorem historical_normal (h : Ledger ws s) {type : FieldType}
    (htype : kind.typeOf? name = some type) (he : s.find? kind e.id = some e) :
    type.Normal (rowFor (s.changesSince kind moment name) name e).historical := by
  refine h.rowFor_normal htype (fun m hm => ?_) he
  obtain ⟨⟨hm, -⟩, hcarries⟩ := Store.mem_changesSince.1 hm
  exact ⟨hm, hcarries⟩

/-- Rows that are computed from usable logged updates are put in order. -/
theorem sortRows_rowFor (h : Ledger ws s) (hname : name ∈ kind.tracked) {present : List Entity}
    (hpresent : present.Perm (s.presentBefore kind moment)) {changes : List Modification}
    (hchanges : ∀ m ∈ changes, m ∈ s.modifications.ofKind kind ∧
      m.carries name (kind.sentinel? name) = true) :
    ∃ rows, sortRows (kind.ranking? name) (present.map (rowFor changes name)) = .ok rows ∧
      rows.Perm (present.map (rowFor changes name)) ∧
      rows.Pairwise (HistoricalRow.Precedes (kind.ranking? name)) := by
  obtain ⟨type, htype⟩ := Kind.exists_typeOf? hname
  refine sortRows_ok (Kind.rankedBy htype) (fun row hrow => ?_) ?_
  · obtain ⟨e, he, rfl⟩ := List.mem_map.1 hrow
    exact h.rowFor_normal htype hchanges (Store.mem_presentBefore.1 (hpresent.mem_iff.1 he)).1
  · rw [List.map_map]
    exact (hpresent.map (·.id)).nodup_iff.2 (s.nodup_presentBefore kind moment)

/-- A reconstruction has one row for every entity that was there before the moment, in order. -/
theorem reconstructAt_ok (h : Ledger ws s) {t : WallTime} (hname : name ∈ kind.tracked)
    (ht : moment.utc = .ok t) :
    ∃ rows, (reconstructAt (.text kind.name) moment (some name) s).result = .ok rows ∧
      rows.Perm (s.rowsBefore kind name (.naive t)) ∧
      rows.Pairwise (HistoricalRow.Precedes (kind.ranking? name)) := by
  rw [reconstructAt_eq h.sound h.ordered hname ht]
  refine h.sortRows_rowFor hname (.refl _) fun m hm => ?_
  obtain ⟨⟨hm, -⟩, hcarries⟩ := Store.mem_changesSince.1 hm
  exact ⟨hm, hcarries⟩

end Ledger

end Chronicle
