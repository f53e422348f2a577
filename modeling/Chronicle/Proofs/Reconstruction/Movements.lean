import Chronicle.Proofs.Reconstruction.Presence

/-!
# Movements as a patch

The movements between two moments say exactly what leads from the rows at the first to the rows at
the second: the earlier rows, with the values that their entities moved to, together with the added
rows are the later rows, in another order.

## Main definitions

* `Movements.patch` — earlier rows, patched with movements.
* `Successive` — the rows of one state at two moments.
* `Movements.Exact` — movements that are an exact patch.

## Main statements

* `Successive.patch_perm` — a patch has the later rows.
* `Successive.exact` — the movements between successive rows are an exact patch.
* `movements_exact` — so are the movements that the service finds in any run.
-/

namespace Chronicle

open Service

/-! ## Lists in which every key occurs once -/

section Keys

variable {α β γ : Type} {xs : List α} {x : α}

theorem find?_key_of_nodup (key : α → Int) (h : (xs.map key).Nodup) (hx : x ∈ xs) :
    xs.find? (key · == key x) = some x := by
  cases hfind : xs.find? (key · == key x) with
  | none => simpa using List.find?_eq_none.1 hfind x hx
  | some y =>
    have hkey : key y = key x := by simpa using List.find?_some hfind
    rw [List.inj_on_of_nodup_map h (List.mem_of_find?_eq_some hfind) hx hkey]

/-- The parts of what is kept of a list are in the order of the list. -/
theorem sublist_map_filterMap {f : α → Option β} {g : β → γ} {k : α → γ}
    (h : ∀ x y, f x = some y → g y = k x) (xs : List α) :
    ((xs.filterMap f).map g).Sublist (xs.map k) := by
  induction xs with
  | nil => exact .slnil
  | cons x rest ih =>
    cases hx : f x with
    | none =>
      rw [List.filterMap_cons_none hx]
      exact ih.cons (k x)
    | some y =>
      rw [List.filterMap_cons_some hx, List.map_cons, List.map_cons, h x y hx]
      exact ih.cons_cons (k x)

end Keys

/-! ## Patching -/

attribute [ext] HistoricalRow

namespace Movements

/-- A row with the value that its entity moved to, if it moved. -/
def shift (found : Movements) (row : HistoricalRow) : HistoricalRow :=
  match found.moved.find? (·.entity.id == row.entityId) with
  | some m => { row with historical := m.target }
  | none => row

/-- Earlier rows with the values that their entities moved to, and the added rows. -/
def patch (found : Movements) (earlier : List HistoricalRow) : List HistoricalRow :=
  earlier.map found.shift ++ found.added

@[simp] theorem entityId_shift (found : Movements) (row : HistoricalRow) :
    (found.shift row).entityId = row.entityId := by
  unfold shift
  split <;> rfl

/-- Whether movements are an exact patch between rows at two moments. Every entity of the earlier
rows is in the later ones. Added are the rows of entities that are in the later rows only. An entity
of both has one movement, with its two values, if and only if they differ. Both lists are in the
order of the later rows, and the patched earlier rows are sorted to the later ones. -/
structure Exact (found : Movements) (ranking : Option (List String))
    (earlier later : List HistoricalRow) : Prop where
  kept : ∀ row ∈ earlier, row.entityId ∈ later.map HistoricalRow.entityId
  added : found.added =
    later.filter fun row => decide (row.entityId ∉ earlier.map HistoricalRow.entityId)
  moved : ∀ m, m ∈ found.moved ↔ ∃ a ∈ earlier, ∃ b ∈ later, a.entityId = b.entityId ∧
    a.historical ≠ b.historical ∧ m = ⟨b.entity, a.historical, b.historical⟩
  movedInOrder : (found.moved.map (·.entity.id)).Sublist (later.map HistoricalRow.entityId)
  distinct : (later.map HistoricalRow.entityId).Nodup
  patched : sortRows ranking (found.patch earlier) = .ok later
  ordered : later.Pairwise (HistoricalRow.Precedes ranking)

end Movements

/-- Whether rows show one state at two moments, the later rows what was there before and possibly
more. -/
structure Successive (earlier later : List HistoricalRow) : Prop where
  distinctEarlier : (earlier.map HistoricalRow.entityId).Nodup
  distinctLater : (later.map HistoricalRow.entityId).Nodup
  plainEarlier : ∀ a ∈ earlier, a.historical.IsPlain
  plainLater : ∀ b ∈ later, b.historical.IsPlain
  kept : ∀ a ∈ earlier, ∃ b ∈ later, b.entity = a.entity ∧ b.current = a.current

namespace Successive

variable {earlier later : List HistoricalRow} {a b : HistoricalRow} {m : Movement}

theorem rowOf?_eq_some (h : Successive earlier later) (ha : a ∈ earlier) :
    rowOf? earlier a.entityId = some a := by
  have hnodup : (earlier.reverse.map HistoricalRow.entityId).Nodup := by
    rw [List.map_reverse]
    exact List.nodup_reverse.2 h.distinctEarlier
  exact find?_key_of_nodup HistoricalRow.entityId hnodup (List.mem_reverse.2 ha)

theorem isNone_rowOf?_iff {id : Int} :
    (rowOf? earlier id).isNone = true ↔ id ∉ earlier.map HistoricalRow.entityId := by
  rw [Option.isNone_iff_eq_none, rowOf?, List.find?_eq_none]
  simp

theorem added_eq (earlier later : List HistoricalRow) : (movements earlier later).added =
    later.filter fun row => decide (row.entityId ∉ earlier.map HistoricalRow.entityId) :=
  List.filter_congr fun row _ => by rw [Bool.eq_iff_iff, isNone_rowOf?_iff, decide_eq_true_iff]

/-- An entity whose values differ moves from the one to the other. -/
theorem movementTo?_of_ne (h : Successive earlier later) (ha : a ∈ earlier) (hb : b ∈ later)
    (hid : a.entityId = b.entityId) (hne : a.historical ≠ b.historical) :
    movementTo? earlier b = some ⟨b.entity, a.historical, b.historical⟩ := by
  have hdiffers : a.historical.same b.historical = false :=
    (Value.differs_iff_ne (h.plainEarlier a ha) (h.plainLater b hb)).2 hne
  rw [movementTo?, ← hid, h.rowOf?_eq_some ha]
  simp [hdiffers]

/-- An entity whose values are equal does not move. -/
theorem movementTo?_of_eq (h : Successive earlier later) (ha : a ∈ earlier) (hb : b ∈ later)
    (hid : a.entityId = b.entityId) (heq : a.historical = b.historical) :
    movementTo? earlier b = none := by
  have hsame : a.historical.same b.historical = true :=
    (Value.same_iff_eq (h.plainEarlier a ha) (h.plainLater b hb)).2 heq
  rw [movementTo?, ← hid, h.rowOf?_eq_some ha]
  simp [hsame]

theorem entity_of_movementTo? {row : HistoricalRow} {m : Movement}
    (hm : movementTo? earlier row = some m) : m.entity = row.entity := by
  unfold movementTo? at hm
  split at hm
  · cases hm
  · split at hm
    · cases hm
    · cases hm
      rfl

theorem sublist_moved (earlier later : List HistoricalRow) :
    ((movements earlier later).moved.map (·.entity.id)).Sublist
      (later.map HistoricalRow.entityId) :=
  sublist_map_filterMap (fun _ _ hm => congrArg Entity.id (entity_of_movementTo? hm)) later

/-- The movement of an entity is the movement to its later row. -/
theorem find?_moved (h : Successive earlier later) (hb : b ∈ later) :
    (movements earlier later).moved.find? (·.entity.id == b.entityId) =
      movementTo? earlier b := by
  cases hm : movementTo? earlier b with
  | some m =>
    have hid : m.entity.id = b.entityId := congrArg Entity.id (entity_of_movementTo? hm)
    have hmem : m ∈ (movements earlier later).moved := List.mem_filterMap.2 ⟨b, hb, hm⟩
    have hnodup := h.distinctLater.sublist (sublist_moved earlier later)
    rw [← hid]
    exact find?_key_of_nodup (fun m : Movement => m.entity.id) hnodup hmem
  | none =>
    refine List.find?_eq_none.2 fun m hmem hid => ?_
    obtain ⟨c, hc, hcm⟩ := List.mem_filterMap.1 hmem
    have hentity := entity_of_movementTo? hcm
    have hcb : c.entityId = b.entityId :=
      (congrArg Entity.id hentity).symm.trans (by simpa using hid)
    rw [List.inj_on_of_nodup_map h.distinctLater hc hb hcb, hm] at hcm
    cases hcm

/-- What moved are the entities of both lists whose values differ. -/
theorem mem_moved (h : Successive earlier later) :
    m ∈ (movements earlier later).moved ↔ ∃ a ∈ earlier, ∃ b ∈ later,
      a.entityId = b.entityId ∧ a.historical ≠ b.historical ∧
        m = ⟨b.entity, a.historical, b.historical⟩ := by
  constructor
  · intro hmem
    obtain ⟨b, hb, hm⟩ := List.mem_filterMap.1 hmem
    have hid : b.entityId ∈ earlier.map HistoricalRow.entityId := by
      by_contra hnot
      have hnone := Option.isNone_iff_eq_none.1 (isNone_rowOf?_iff.2 hnot)
      rw [movementTo?, hnone] at hm
      cases hm
    obtain ⟨a, ha, hab⟩ := List.mem_map.1 hid
    by_cases heq : a.historical = b.historical
    · rw [h.movementTo?_of_eq ha hb hab heq] at hm
      cases hm
    · rw [h.movementTo?_of_ne ha hb hab heq] at hm
      cases hm
      exact ⟨a, ha, b, hb, hab, heq, rfl⟩
  · rintro ⟨a, ha, b, hb, hab, hne, rfl⟩
    exact List.mem_filterMap.2 ⟨b, hb, h.movementTo?_of_ne ha hb hab hne⟩

/-- The movements lead from the earlier row of an entity to its later one. -/
theorem shift_eq (h : Successive earlier later) (ha : a ∈ earlier) (hb : b ∈ later)
    (hentity : b.entity = a.entity) (hcurrent : b.current = a.current) :
    (movements earlier later).shift a = b := by
  have hid : a.entityId = b.entityId := congrArg Entity.id hentity.symm
  rw [Movements.shift, hid, h.find?_moved hb]
  by_cases heq : a.historical = b.historical
  · rw [h.movementTo?_of_eq ha hb hid heq]
    exact HistoricalRow.ext hentity.symm heq hcurrent.symm
  · rw [h.movementTo?_of_ne ha hb hid heq]
    exact HistoricalRow.ext hentity.symm rfl hcurrent.symm

/-- A patch has the later rows. -/
theorem patch_perm (h : Successive earlier later) :
    ((movements earlier later).patch earlier).Perm later := by
  -- Shifting maps the earlier rows to the later rows of the same entities.
  have hshift : (earlier.map (movements earlier later).shift).Perm
      (later.filter fun row => !(rowOf? earlier row.entityId).isNone) := by
    have hids : (earlier.map (movements earlier later).shift).map HistoricalRow.entityId =
        earlier.map HistoricalRow.entityId := by
      simp [Function.comp_def]
    have hnodup : (earlier.map (movements earlier later).shift).Nodup :=
      .of_map HistoricalRow.entityId (hids ▸ h.distinctEarlier)
    have hlater : (later.filter fun row => !(rowOf? earlier row.entityId).isNone).Nodup :=
      (List.Nodup.of_map _ h.distinctLater).filter _
    refine (List.perm_ext_iff_of_nodup hnodup hlater).2 fun row => ?_
    rw [List.mem_map, List.mem_filter, Bool.not_eq_true', ← Bool.not_eq_true, isNone_rowOf?_iff,
      not_not]
    constructor
    · rintro ⟨a, ha, rfl⟩
      obtain ⟨b, hb, hentity, hcurrent⟩ := h.kept a ha
      refine ⟨h.shift_eq ha hb hentity hcurrent ▸ hb, ?_⟩
      rw [Movements.entityId_shift]
      exact List.mem_map_of_mem ha
    · rintro ⟨hrow, hid⟩
      obtain ⟨a, ha, haid⟩ := List.mem_map.1 hid
      obtain ⟨b, hb, hentity, hcurrent⟩ := h.kept a ha
      have hbid : b.entityId = row.entityId := (congrArg Entity.id hentity).trans haid
      obtain rfl := List.inj_on_of_nodup_map h.distinctLater hb hrow hbid
      exact ⟨a, ha, h.shift_eq ha hb hentity hcurrent⟩
  refine (hshift.append_right _).trans (List.perm_append_comm.trans ?_)
  exact List.filter_append_perm _ later

/-- The movements between successive rows in order are an exact patch. -/
theorem exact (h : Successive earlier later) {type : FieldType} {ranking : Option (List String)}
    (hr : type.RankedBy ranking) (hnormal : ∀ b ∈ later, type.Normal b.historical)
    (hordered : later.Pairwise (HistoricalRow.Precedes ranking)) :
    (movements earlier later).Exact ranking earlier later where
  kept a ha := by
    obtain ⟨b, hb, hentity, -⟩ := h.kept a ha
    exact List.mem_map.2 ⟨b, hb, congrArg Entity.id hentity⟩
  added := added_eq earlier later
  moved _ := h.mem_moved
  movedInOrder := sublist_moved earlier later
  distinct := h.distinctLater
  patched := by
    have hpatch := h.patch_perm
    obtain ⟨sorted, hsorted, hperm, hsortedOrdered⟩ := sortRows_ok hr
      (fun row hrow => hnormal row (hpatch.mem_iff.1 hrow))
      ((hpatch.map _).nodup_iff.2 h.distinctLater)
    -- Rows of different entities have only one order.
    rw [hsorted, (hperm.trans hpatch).eq_of_pairwise' hsortedOrdered hordered]
  ordered := hordered

end Successive

/-! ## The movements of a run -/

namespace Ledger

variable {ws : List Write} {s : Store} {kind : Kind} {name : String} {start stop : Moment}
  {earlier later : List HistoricalRow}

/-- The rows of a state at two moments are successive. -/
theorem successive (h : Ledger ws s) {type : FieldType} (htype : kind.typeOf? name = some type)
    (hle : start.instant ≤ stop.instant) (hearlier : earlier.Perm (s.rowsBefore kind name start))
    (hlater : later.Perm (s.rowsBefore kind name stop)) : Successive earlier later := by
  have hdistinct : ∀ moment,
      ((s.rowsBefore kind name moment).map HistoricalRow.entityId).Nodup := by
    intro moment
    rw [Store.ids_rowsBefore]
    exact s.nodup_presentBefore kind moment
  have hplain : ∀ moment, ∀ row ∈ s.rowsBefore kind name moment, row.historical.IsPlain := by
    intro moment row hrow
    obtain ⟨e, he, rfl⟩ := Store.mem_rowsBefore.1 hrow
    exact (h.historical_normal htype (Store.mem_presentBefore.1 he).1).isPlain
  refine ⟨(hearlier.map _).nodup_iff.2 (hdistinct _), (hlater.map _).nodup_iff.2 (hdistinct _),
    fun a ha => hplain _ a (hearlier.mem_iff.1 ha), fun b hb => hplain _ b (hlater.mem_iff.1 hb),
    fun a ha => ?_⟩
  obtain ⟨e, he, rfl⟩ := Store.mem_rowsBefore.1 (hearlier.mem_iff.1 ha)
  have hlate := Store.presentBefore_mono hle he
  exact ⟨_, hlater.mem_iff.2 (Store.mem_rowsBefore.2 ⟨e, hlate, rfl⟩), rfl, rfl⟩

/-- Added are the entities whose addition is stamped from the first moment on and before the
second. -/
theorem mem_added_iff (h : Ledger ws s) (hearlier : earlier.Perm (s.rowsBefore kind name start))
    (hlater : later.Perm (s.rowsBefore kind name stop)) (id : Int) :
    id ∈ (movements earlier later).added.map HistoricalRow.entityId ↔
      ∃ a ∈ s.additions.ofKind kind, a.entityId = id ∧ start.instant ≤ a.timestamp.instant ∧
        a.timestamp.instant < stop.instant := by
  have hids : ∀ {id : Int}, id ∈ earlier.map HistoricalRow.entityId ↔
      ∃ e ∈ s.presentBefore kind start, e.id = id := by
    intro id
    rw [(hearlier.map _).mem_iff, Store.ids_rowsBefore, List.mem_map]
  rw [← h.exists_presentBefore_iff, Successive.added_eq]
  simp only [List.mem_map, List.mem_filter, decide_eq_true_iff]
  constructor
  · rintro ⟨row, ⟨hrow, hnew⟩, rfl⟩
    obtain ⟨e, he, rfl⟩ := Store.mem_rowsBefore.1 (hlater.mem_iff.1 hrow)
    exact ⟨e, he, fun hearly => hnew (List.mem_map.1 (hids.2 ⟨e, hearly, rfl⟩)), rfl⟩
  · rintro ⟨e, he, hnew, rfl⟩
    refine ⟨_, ⟨hlater.mem_iff.2 (Store.mem_rowsBefore.2 ⟨e, he, rfl⟩), fun hmem => hnew ?_⟩, rfl⟩
    -- An entity before the first moment with the same id is the same live entity.
    obtain ⟨f, hf, (hid : f.id = e.id)⟩ := hids.1 (List.mem_map.2 hmem)
    have hlive := (Store.mem_presentBefore.1 he).1
    have heq := (Store.mem_presentBefore.1 hf).1
    rw [hid, hlive] at heq
    exact Option.some.inj heq ▸ hf

end Ledger

section Run

variable {kind : Kind} {name : String} {source target : Moment} {start stop : WallTime}

/-- The movements that the service finds are those between its two reconstructions. -/
theorem Service.movements_eq {s : Store} {earlier later : List HistoricalRow}
    (hstart : source.utc = .ok start) (hstop : target.utc = .ok stop)
    (hlt : source.instant < target.instant)
    (hearlier : (reconstructAt (.text kind.name) source (some name) s).result = .ok earlier)
    (hlater : (reconstructAt (.text kind.name) target (some name) s).result = .ok later) :
    (Service.movements (.text kind.name) source target (some name) s).result =
      .ok (Chronicle.movements earlier later) := by
  have hstate := (reconstructAt_readOnly (.text kind.name) source (some name)).state s
  have hinterval : ¬ stop.micros ≤ start.micros := by
    have hmicros := Moment.instant_of_utc hstart
    have hmicros' := Moment.instant_of_utc hstop
    omega
  unfold Service.movements
  rw [hstart, Operation.lift_bind_ok, hstop, Operation.lift_bind_ok, if_neg hinterval]
  refine (Operation.bind_result_ok hearlier).trans ?_
  rw [hstate]
  exact Operation.bind_result_ok hlater

/-- The movements between two moments are an exact patch. In every store that calls of the service
lead to, at any readings of their clock, the reconstructions of a kind by a tracked attribute at two
moments, one after the other, do not fail, and the movements between the moments are an exact patch
between their rows. Added are the entities whose addition is stamped from the first moment on and
before the second. -/
theorem movements_exact (calls : List Call) (hname : name ∈ kind.tracked)
    (hstart : source.utc = .ok start) (hstop : target.utc = .ok stop)
    (hlt : source.instant < target.instant) :
    let s := Store.empty.after calls
    ∃ earlier later found,
      (reconstructAt (.text kind.name) source (some name) s).result = .ok earlier ∧
      (reconstructAt (.text kind.name) target (some name) s).result = .ok later ∧
      (Service.movements (.text kind.name) source target (some name) s).result = .ok found ∧
      found.Exact (kind.ranking? name) earlier later ∧
      ∀ id, id ∈ found.added.map HistoricalRow.entityId ↔
        ∃ a ∈ s.additions.ofKind kind, a.entityId = id ∧
          source.instant ≤ a.timestamp.instant ∧ a.timestamp.instant < target.instant := by
  intro s
  have h : Ledger (Store.empty.writes calls) s := ledger_of_run calls
  have hsource : (Moment.naive start).instant = source.instant := Moment.instant_of_utc hstart
  have htarget : (Moment.naive stop).instant = target.instant := Moment.instant_of_utc hstop
  obtain ⟨type, htype⟩ := Kind.exists_typeOf? hname
  obtain ⟨earlier, hearlier, hpast, -⟩ := h.reconstructAt_ok hname hstart
  obtain ⟨later, hlater, hpresent, hordered⟩ := h.reconstructAt_ok hname hstop
  have hnormal : ∀ b ∈ later, type.Normal b.historical := by
    intro b hb
    obtain ⟨e, he, rfl⟩ := Store.mem_rowsBefore.1 (hpresent.mem_iff.1 hb)
    exact h.historical_normal htype (Store.mem_presentBefore.1 he).1
  have hsuccessive := h.successive htype (by omega) hpast hpresent
  have hadded := h.mem_added_iff hpast hpresent
  rw [hsource, htarget] at hadded
  exact ⟨earlier, later, Chronicle.movements earlier later, hearlier, hlater,
    movements_eq hstart hstop hlt hearlier hlater,
    hsuccessive.exact (Kind.rankedBy htype) hnormal hordered, hadded⟩

/-- A demon that leaves the list and comes back to it between two moments. -/
theorem movements_exact_sampleRun :
    let source := Moment.naive ⟨15, by decide⟩
    let target := Moment.naive ⟨35, by decide⟩
    let s := Store.empty.after sampleRun
    "position" ∈ Kind.demon.tracked ∧ source.utc = .ok ⟨15, by decide⟩ ∧
      target.utc = .ok ⟨35, by decide⟩ ∧ source.instant < target.instant ∧
      ∃ earlier later found,
        (reconstructAt (.text Kind.demon.name) source (some "position") s).result = .ok earlier ∧
        (reconstructAt (.text Kind.demon.name) target (some "position") s).result = .ok later ∧
        (Service.movements (.text Kind.demon.name) source target (some "position") s).result =
          .ok found ∧
        found.Exact (Kind.demon.ranking? "position") earlier later ∧
        ∀ id, id ∈ found.added.map HistoricalRow.entityId ↔
          ∃ a ∈ s.additions.ofKind .demon, a.entityId = id ∧
            source.instant ≤ a.timestamp.instant ∧ a.timestamp.instant < target.instant := by
  intro source target s
  have hname : "position" ∈ Kind.demon.tracked := by decide
  have hlt : source.instant < target.instant := by decide
  exact ⟨hname, rfl, rfl, hlt, movements_exact sampleRun hname rfl rfl hlt⟩

end Run

end Chronicle
