import Chronicle.Proofs.History.Stability
import Chronicle.Proofs.Service.Read

/-!
# What a reconstruction evaluates

On a sound store whose logs are in order, a reconstruction fails at no step before the sort: it
sorts one row for every entity that has no addition from the moment on.

## Main definitions

* `Store.changesSince` — the usable updates from a moment on.
* `Store.presentBefore` — the entities that were not created from a moment on.

## Main statements

* `reconstructBy_eq` — what a reconstruction from lists in any order sorts.
* `reconstruct_selected` — selecting in the logs beforehand changes nothing.
* `rowFor_congr` — the row of an entity depends only on the updates of that entity.
* `Service.reconstructAt_result` — a reconstruction from a store, by what the logs answer.
* `Service.reconstructAt_eq` — the rows that a reconstruction from a store sorts.
-/

namespace Chronicle

open Timeline

namespace Store

/-- The updates of a kind from a moment on that recorded a usable previous value. -/
def changesSince (s : Store) (kind : Kind) (moment : Moment) (name : String) : List Modification :=
  (cutAt Modification.timestamp moment (s.modifications.ofKind kind)).filter
    (·.carries name (kind.sentinel? name))

theorem mem_changesSince {s : Store} {kind : Kind} {moment : Moment} {name : String}
    {m : Modification} :
    m ∈ s.changesSince kind moment name ↔
      (m ∈ s.modifications.ofKind kind ∧ moment.instant ≤ m.timestamp.instant) ∧
        m.carries name (kind.sentinel? name) = true := by
  rw [changesSince, List.mem_filter, mem_cutAt]

/-- The ids of a kind with an addition from a moment on. -/
def addedSince (s : Store) (kind : Kind) (moment : Moment) : List Int :=
  (cutAt Addition.timestamp moment (s.additions.ofKind kind)).map (·.entityId)

/-- The entities of a kind without an addition from a moment on. -/
def presentBefore (s : Store) (kind : Kind) (moment : Moment) : List Entity :=
  (s.entities.get kind).rows.filter fun e => !(s.addedSince kind moment).contains e.id

/-- Whether the logs are in the order of their moments. -/
structure Ordered (s : Store) : Prop where
  modifications : ∀ kind, Timeline.Ordered Modification.timestamp (s.modifications.ofKind kind)
  additions : ∀ kind, Timeline.Ordered Addition.timestamp (s.additions.ofKind kind)

end Store

/-! ## Reconstructing from lists -/

section Reconstruct

variable {moment : Moment} {modifications : List Modification} {additions : List Addition}

/-- On entries that can be compared with the moment, given in any order, a reconstruction fails at
no step before the sort. -/
theorem reconstructBy_eq
    (hmodifications : Alike Modification.timestamp moment.isAware modifications)
    (hadditions : Alike Addition.timestamp moment.isAware additions) (entities : List Entity)
    (name : String) (sentinel : Option Value) (rank : Option (Value → Except Error Value)) :
    reconstructBy entities modifications additions moment name sentinel rank =
      sortRowsBy rank
        ((entities.filter fun e =>
          !((cutAt Addition.timestamp moment additions).map (·.entityId)).contains e.id).map
          (rowFor ((cutAt Modification.timestamp moment
            (arranged Modification.timestamp modifications)).filter (·.carries name sentinel))
            name)) := by
  have hadded : addedFrom additions moment =
      .ok ((cutAt Addition.timestamp moment additions).map (·.entityId)) := by
    rw [addedFrom, notBefore_eq_ok hadditions]
    rfl
  have hchanges : changesFrom modifications moment name sentinel =
      .ok ((cutAt Modification.timestamp moment
        (arranged Modification.timestamp modifications)).filter (·.carries name sentinel)) := by
    rw [changesFrom, sort_eq_arranged hmodifications, ok_bind,
      notBefore_eq_ok hmodifications.arranged]
    rfl
  rw [reconstructBy, hadded, ok_bind, hchanges, ok_bind]

theorem reconstruct_eq
    (hmodifications : Alike Modification.timestamp moment.isAware modifications)
    (hadditions : Alike Addition.timestamp moment.isAware additions) (entities : List Entity)
    (name : String) (sentinel : Option Value) (ranking : Option (List String)) :
    reconstruct entities modifications additions moment name sentinel ranking =
      sortRows ranking
        ((entities.filter fun e =>
          !((cutAt Addition.timestamp moment additions).map (·.entityId)).contains e.id).map
          (rowFor ((cutAt Modification.timestamp moment
            (arranged Modification.timestamp modifications)).filter (·.carries name sentinel))
            name)) :=
  reconstructBy_eq hmodifications hadditions entities name sentinel (ranking.map rankOf)

/-- A reconstruction selects again from the logs, so it is the same from what was selected. -/
theorem reconstruct_selected
    (hmodifications : Alike Modification.timestamp moment.isAware modifications)
    (hadditions : Alike Addition.timestamp moment.isAware additions)
    (hordered : Ordered Modification.timestamp modifications) (entities : List Entity)
    (name : String) (sentinel : Option Value) (ranking : Option (List String)) :
    reconstruct entities
        ((cutAt Modification.timestamp moment modifications).filter (·.carries name sentinel))
        (cutAt Addition.timestamp moment additions) moment name sentinel ranking =
      reconstruct entities modifications additions moment name sentinel ranking := by
  have hselected : ∀ m ∈ (cutAt Modification.timestamp moment modifications).filter
      (·.carries name sentinel),
      moment.instant ≤ m.timestamp.instant ∧ m.carries name sentinel = true := fun m hm =>
    ⟨(mem_cutAt.1 (List.mem_filter.1 hm).1).2, (List.mem_filter.1 hm).2⟩
  rw [reconstruct_eq (hmodifications.cutAt.filter _) hadditions.cutAt,
    reconstruct_eq hmodifications hadditions, arranged_eq_self (hordered.cutAt.filter _),
    arranged_eq_self hordered, cutAt_eq_self fun m hm => (hselected m hm).1,
    List.filter_eq_self.2 fun m hm => (hselected m hm).2,
    cutAt_eq_self fun a ha => (mem_cutAt.1 ha).2]

/-- The row of an entity depends only on the updates of that entity. -/
theorem rowFor_congr {changes others : List Modification} {e : Entity}
    (h : changes.filter (·.entityId == e.id) = others.filter (·.entityId == e.id))
    (name : String) : rowFor changes name e = rowFor others name e := by
  have hfind : changes.find? (·.entityId == e.id) = others.find? (·.entityId == e.id) := by
    rw [← List.head?_filter, h, List.head?_filter]
  rw [rowFor, rowFor, hfind]

/-- What an entity's row is computed from depends only on the updates of that entity. -/
theorem rowFor_filter_congr {ms ns : List Modification} {e : Entity}
    (h : ms.filter (·.entityId == e.id) = ns.filter (·.entityId == e.id)) (moment : Moment)
    (name : String) (sentinel : Option Value) :
    rowFor ((cutAt Modification.timestamp moment ms).filter (·.carries name sentinel)) name e =
      rowFor ((cutAt Modification.timestamp moment ns).filter (·.carries name sentinel)) name
        e := by
  have hselect : ∀ xs : List Modification,
      ((cutAt Modification.timestamp moment xs).filter (·.carries name sentinel)).filter
          (·.entityId == e.id) =
        (cutAt Modification.timestamp moment (xs.filter (·.entityId == e.id))).filter
          (·.carries name sentinel) := by
    intro xs
    rw [List.filter_comm]
    exact congrArg (List.filter _) (List.filter_comm ..)
  refine rowFor_congr ?_ name
  rw [hselect, hselect, h]

end Reconstruct

/-! ## Reconstructing from a store -/

namespace Service

variable {s : Store} {kind : Kind} {name : String} {moment : Moment} {t : WallTime}

theorem requireTracked_eq (h : name ∈ kind.tracked) :
    kind.requireTracked (some name) = .ok name := by
  have hcontains : kind.tracked.contains name = true := List.contains_iff_mem.2 h
  rw [Kind.requireTracked, Option.filter_some, if_pos hcontains]

theorem of_requireTracked {name? : Option String} (h : kind.requireTracked name? = .ok name) :
    name? = some name ∧ name ∈ kind.tracked := by
  unfold Kind.requireTracked at h
  split at h
  · rename_i hfilter
    cases h
    obtain ⟨hsome, hcontains⟩ := Option.filter_eq_some_iff.1 hfilter
    exact ⟨hsome, List.contains_iff_mem.1 hcontains⟩
  · cases h

/-- A reconstruction is of a tracked attribute of a kind at a moment with a reading of universal
time, or it fails alike on every store. -/
theorem reconstructAt_cases (kindValue : Value) (moment : Moment) (name? : Option String) :
    (∃ kind name t, kindValue = .text (Kind.name kind) ∧ name? = some name ∧
      name ∈ kind.tracked ∧ moment.utc = .ok t) ∨
    ∃ e, ∀ s : Store, (reconstructAt kindValue moment name? s).result = .error e := by
  unfold reconstructAt
  cases hkind : Kind.ofValue kindValue with
  | error e => exact .inr ⟨e, fun _ => rfl⟩
  | ok kind =>
    rw [Operation.lift_bind_ok]
    cases hname : kind.requireTracked name? with
    | error e => exact .inr ⟨e, fun _ => rfl⟩
    | ok name =>
      rw [Operation.lift_bind_ok]
      cases ht : moment.utc with
      | error e =>
        rw [toNaive_of_utc_error ht]
        exact .inr ⟨e, fun _ => rfl⟩
      | ok t =>
        obtain ⟨hsome, hmem⟩ := of_requireTracked hname
        exact .inl ⟨kind, name, t, eq_name_of_ofValue hkind, hsome, hmem, rfl⟩

/-- What a snapshot of a store finds. -/
theorem exec_evidence (s : Store) (kind : Kind) (name : String) (target : Moment) :
    (Staging.exec (evidence kind name target) (.start s .snapshot)).1 = (do
      let modifications ← s.modifications.entries kind
        { name := some name, since := some target, sentinel := kind.sentinel? name }
      let additions ← s.additions.entries kind (some target)
      return ⟨(s.entities.get kind).rows, modifications, additions⟩) := by
  unfold evidence
  rw [Staging.exec_bind_ok (Staging.exec_listEntities s kind .snapshot), Staging.exec_bind,
    Staging.exec_modifications]
  cases s.modifications.entries kind
      { name := some name, since := some target, sentinel := kind.sentinel? name } with
  | error e => rfl
  | ok modifications =>
    dsimp only
    rw [Staging.exec_bind, Staging.exec_additions]
    cases s.additions.entries kind (some target) <;> rfl

/-- A reconstruction from a store is one from what the logs answer. -/
theorem reconstructAt_result (s : Store) (hname : name ∈ kind.tracked) (moment : Moment) :
    (reconstructAt (.text kind.name) moment (some name) s).result = (do
      let target ← moment.toNaive
      let modifications ← s.modifications.entries kind
        { name := some name, since := some target, sentinel := kind.sentinel? name }
      let additions ← s.additions.entries kind (some target)
      reconstruct (s.entities.get kind).rows modifications additions target name
        (kind.sentinel? name) (kind.ranking? name)) := by
  unfold reconstructAt
  rw [ofValue_name, Operation.lift_bind_ok, requireTracked_eq hname, Operation.lift_bind_ok]
  cases moment.toNaive with
  | error e => rfl
  | ok target =>
    have hfound := (Operation.within_snapshot_result (evidence kind name target) s).trans
      (exec_evidence s kind name target)
    rw [Operation.lift_bind_ok, ok_bind, Operation.bind_result, hfound]
    cases s.modifications.entries kind
        { name := some name, since := some target, sentinel := kind.sentinel? name } with
    | error e => rfl
    | ok modifications =>
      cases s.additions.entries kind (some target) with
      | error e => rfl
      | ok additions =>
        simp only [ok_bind, pure_eq_ok, Operation.bind_result]
        cases reconstruct (s.entities.get kind).rows modifications additions target name
          (kind.sentinel? name) (kind.ranking? name) <;> rfl

/-- A reconstruction sorts the rows of the entities without a later addition. -/
theorem reconstructAt_eq (hs : s.Sound) (hordered : s.Ordered) (hname : name ∈ kind.tracked)
    (ht : moment.utc = .ok t) :
    (reconstructAt (.text kind.name) moment (some name) s).result =
      sortRows (kind.ranking? name)
        ((s.presentBefore kind (.naive t)).map
          (rowFor (s.changesSince kind (.naive t) name) name)) := by
  have hmodifications : Alike Modification.timestamp (Moment.naive t).isAware
      (s.modifications.ofKind kind) := hs.modifications kind
  have hadditions : Alike Addition.timestamp (Moment.naive t).isAware (s.additions.ofKind kind) :=
    hs.additions kind
  rw [reconstructAt_result s hname moment, toNaive_of_utc ht, ok_bind,
    ModificationLog.entries_eq_ok rfl hmodifications (hordered.modifications kind), ok_bind,
    AdditionLog.entries_eq_ok hadditions (hordered.additions kind), ok_bind]
  refine (reconstruct_selected hmodifications hadditions (hordered.modifications kind) ..).trans ?_
  rw [reconstruct_eq hmodifications hadditions, arranged_eq_self (hordered.modifications kind)]
  rfl

end Service

end Chronicle
