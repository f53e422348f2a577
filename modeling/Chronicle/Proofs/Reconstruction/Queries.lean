import Chronicle.Proofs.Reconstruction.Keys
import Chronicle.Proofs.Service.Reachable

/-!
# Reconstructions and queries of the logs

A reconstruction from a store asks the logs only for the entries that it can use: the updates from
the moment on that recorded a usable previous value, and the additions from the moment on. On every
store that can be reached it comes to what the complete logs of the kind give, also where an entry
cannot be compared with the moment, and its rows are those that the queries for a single entity
name.

## Main definitions

* `Store.rowsOf` — the reconstruction from the complete logs of a kind.
* `Store.Answers` — rows as the queries for single entities name them.

## Main statements

* `Service.reconstructAt_eq_rowsOf` — selecting in the logs changes no answer.
* `Store.answers_of_rowsOf` — the rows agree with the queries for single entities.
* `Service.reconstructAt_answers` — both together, on every store that can be reached.
-/

namespace Chronicle

open Timeline

/-! ## Entries that cannot be compared with the moment -/

section Reconstruct

variable {moment : Moment} {modifications : List Modification} {additions : List Addition}

/-- On lists of entries that can be compared with each other, but not all with the moment, a
reconstruction fails. -/
theorem reconstruct_eq_error {aware : Bool}
    (hcomparable : Alike Modification.timestamp aware modifications)
    (hmoment : ¬ (Alike Modification.timestamp moment.isAware modifications ∧
      Alike Addition.timestamp moment.isAware additions)) (entities : List Entity) (name : String)
    (sentinel : Option Value) (ranking : Option (List String)) :
    reconstruct entities modifications additions moment name sentinel ranking =
      .error .mixedAwareness := by
  rw [reconstruct, reconstructBy]
  by_cases hadditions : Alike Addition.timestamp moment.isAware additions
  · have hlate : ¬ Alike Modification.timestamp moment.isAware
        (arranged Modification.timestamp modifications) := fun h =>
      hmoment ⟨fun m hm => h m (arranged_perm.mem_iff.2 hm), hadditions⟩
    have hchanges : changesFrom modifications moment name sentinel = .error .mixedAwareness := by
      rw [changesFrom, sort_eq_arranged hcomparable, ok_bind, notBefore_eq_error hlate]
      rfl
    rw [addedFrom, notBefore_eq_ok hadditions, hchanges]
    rfl
  · rw [addedFrom, notBefore_eq_error hadditions]
    rfl

end Reconstruct

/-! ## The complete logs -/

namespace Store

variable {s : Store} {kind : Kind} {name : String} {t : WallTime} {rows : List HistoricalRow}

/-- The rows of a kind by an attribute at a moment, reconstructed from the complete logs. -/
def rowsOf (s : Store) (kind : Kind) (moment : Moment) (name : String) :
    Except Error (List HistoricalRow) := do
  reconstruct (s.entities.get kind).rows (s.modifications.ofKind kind) (s.additions.ofKind kind)
    (← moment.toNaive) name (kind.sentinel? name) (kind.ranking? name)

/-- The query for the earliest update of an entity from a moment on that recorded a usable previous
value of an attribute. -/
def changeOf (kind : Kind) (id : Int) (name : String) (moment : Moment) : ModificationFilter where
  entityId := some id
  name := some name
  since := some moment
  sentinel := kind.sentinel? name

/-- Whether rows are of the entities of a kind and agree with what the logs answer about each. -/
structure Answers (s : Store) (kind : Kind) (moment : Moment) (name : String)
    (rows : List HistoricalRow) : Prop where
  entities : ∀ row ∈ rows, row.entity ∈ (s.entities.get kind).rows
  /-- An entity has a row if and only if it was not added from the moment on. -/
  added : ∀ e ∈ (s.entities.get kind).rows,
    ∃ added, s.additions.addedSince kind e.id (some moment) = .ok added ∧
      ((∃ row ∈ rows, row.entity = e) ↔ added = false)
  /-- The value of a row was recorded by the first change, or is the present one. -/
  historical : ∀ row ∈ rows,
    ∃ change?, s.modifications.firstEntry kind (changeOf kind row.entityId name moment) =
        .ok change? ∧
      row.historical = match change? with
        | some m => m.diffs.get name
        | none => row.entity.value name

/-- On logs that can be compared with the moment, the rows of the entities without a late addition
are sorted. -/
theorem rowsOf_eq
    (hmodifications :
      Alike Modification.timestamp (Moment.naive t).isAware (s.modifications.ofKind kind))
    (hadditions : Alike Addition.timestamp (Moment.naive t).isAware (s.additions.ofKind kind))
    (hordered : s.Ordered) : s.rowsOf kind (.naive t) name =
      sortRows (kind.ranking? name)
        ((s.presentBefore kind (.naive t)).map
          (rowFor (s.changesSince kind (.naive t) name) name)) := by
  have htarget : (Moment.naive t).toNaive = .ok (.naive t) := rfl
  rw [rowsOf, htarget, ok_bind, reconstruct_eq hmodifications hadditions,
    arranged_eq_self (hordered.modifications kind)]
  rfl

/-! ## Queries for single entities -/

theorem addedSince_query (hordered : s.Ordered)
    (hadditions : Alike Addition.timestamp (Moment.naive t).isAware (s.additions.ofKind kind))
    (id : Int) : s.additions.addedSince kind id (some (.naive t)) =
      .ok ((s.addedSince kind (.naive t)).contains id) := by
  rw [AdditionLog.addedSince, AdditionLog.entries_eq_ok hadditions (hordered.additions kind),
    ok_bind, addedSince, pure_eq_ok, List.contains_eq_any_beq, List.any_map]
  simp only [Function.comp_def, Bool.beq_comm]

theorem firstEntry_query (hordered : s.Ordered)
    (hmodifications :
      Alike Modification.timestamp (Moment.naive t).isAware (s.modifications.ofKind kind))
    (id : Int) :
    s.modifications.firstEntry kind (changeOf kind id name (.naive t)) =
      .ok ((s.changesSince kind (.naive t) name).find? (·.entityId == id)) := by
  rw [ModificationLog.firstEntry,
    ModificationLog.entries_eq_ok rfl hmodifications (hordered.modifications kind), ok_bind,
    changesSince, pure_eq_ok, ← List.head?_filter, List.filter_filter]
  rfl

/-- What the complete logs give agrees with the queries for single entities. -/
theorem answers_of_rowsOf {moment : Moment} (huniform : s.Uniform) (hordered : s.Ordered)
    (h : s.rowsOf kind moment name = .ok rows) :
    ∃ t, moment.utc = .ok t ∧ s.Answers kind (.naive t) name rows := by
  obtain ⟨target, htarget, hrows⟩ := bind_eq_ok_iff.1 h
  obtain ⟨t, ht, rfl⟩ := map_eq_ok_iff.1 htarget
  replace h : s.rowsOf kind (.naive t) name = .ok rows := hrows
  obtain ⟨aware, (halike : Alike Modification.timestamp aware (s.modifications.ofKind kind))⟩ :=
    huniform.modifications kind
  have hmoment : Alike Modification.timestamp (Moment.naive t).isAware
      (s.modifications.ofKind kind) ∧
      Alike Addition.timestamp (Moment.naive t).isAware (s.additions.ofKind kind) := by
    by_contra hmoment
    rw [reconstruct_eq_error halike hmoment] at hrows
    cases hrows
  obtain ⟨hmodifications, hadditions⟩ := hmoment
  rw [rowsOf_eq hmodifications hadditions hordered] at h
  have hperm : rows.Perm ((s.presentBefore kind (.naive t)).map
      (rowFor (s.changesSince kind (.naive t) name) name)) := sortRowsBy_perm h
  have hrow : ∀ {row}, row ∈ rows ↔ ∃ e ∈ s.presentBefore kind (.naive t),
      rowFor (s.changesSince kind (.naive t) name) name e = row := fun {row} =>
    hperm.mem_iff.trans List.mem_map
  refine ⟨t, ht, ⟨fun row hmem => ?_,
    fun e he => ⟨_, addedSince_query hordered hadditions e.id, ?_⟩,
    fun row hmem => ⟨_, firstEntry_query hordered hmodifications row.entityId, ?_⟩⟩⟩
  · obtain ⟨e, he, rfl⟩ := hrow.1 hmem
    exact (List.mem_filter.1 he).1
  · constructor
    · rintro ⟨row, hmem, rfl⟩
      obtain ⟨e, hpresent, rfl⟩ := hrow.1 hmem
      exact Bool.not_eq_eq_eq_not.1 (List.mem_filter.1 hpresent).2
    · intro hadded
      have hpresent : e ∈ s.presentBefore kind (.naive t) :=
        List.mem_filter.2 ⟨he, Bool.not_eq_eq_eq_not.2 hadded⟩
      exact ⟨_, hrow.2 ⟨e, hpresent, rfl⟩, rfl⟩
  · obtain ⟨e, -, rfl⟩ := hrow.1 hmem
    rfl

end Store

/-! ## Reconstructing from a store -/

namespace Service

variable {s : Store} {kind : Kind} {name : String}

/-- Selecting in the logs changes no answer: a reconstruction from a store comes to what the
complete logs give, also where it fails. -/
theorem reconstructAt_eq_rowsOf (huniform : s.Uniform) (hordered : s.Ordered)
    (hname : name ∈ kind.tracked) (moment : Moment) :
    (reconstructAt (.text kind.name) moment (some name) s).result =
      s.rowsOf kind moment name := by
  rw [reconstructAt_result s hname moment, Store.rowsOf]
  cases moment.toNaive with
  | error e => rfl
  | ok target =>
    rw [ok_bind, ok_bind]
    obtain ⟨aware, (halike : Alike Modification.timestamp aware (s.modifications.ofKind kind))⟩ :=
      huniform.modifications kind
    by_cases hmodifications :
        Alike Modification.timestamp target.isAware (s.modifications.ofKind kind)
    · rw [ModificationLog.entries_eq_ok rfl hmodifications (hordered.modifications kind), ok_bind]
      by_cases hadditions : Alike Addition.timestamp target.isAware (s.additions.ofKind kind)
      · rw [AdditionLog.entries_eq_ok hadditions (hordered.additions kind), ok_bind]
        exact reconstruct_selected hmodifications hadditions (hordered.modifications kind) ..
      · rw [AdditionLog.entries_eq_error huniform.additions hadditions,
          reconstruct_eq_error halike fun h => hadditions h.2]
        rfl
    · rw [ModificationLog.entries_eq_error rfl huniform.modifications hmodifications,
        reconstruct_eq_error halike fun h => hmodifications h.1]
      rfl

/-- On every store that can be reached, whatever its entries are stamped with, a reconstruction
comes to what the complete logs of the kind give, and its rows agree with what the logs answer about
each entity. -/
theorem reconstructAt_answers (hs : s.Reachable) (hname : name ∈ kind.tracked) (moment : Moment) :
    (reconstructAt (.text kind.name) moment (some name) s).result = s.rowsOf kind moment name ∧
      ∀ rows, (reconstructAt (.text kind.name) moment (some name) s).result = .ok rows →
        ∃ t, moment.utc = .ok t ∧ s.Answers kind (.naive t) name rows := by
  have heq := reconstructAt_eq_rowsOf hs.uniform hs.ordered hname moment
  exact ⟨heq, fun rows h => Store.answers_of_rowsOf hs.uniform hs.ordered (heq.symm.trans h)⟩

/-- A unit of work that records an update of the past. -/
def lateEntry : Program Report := Script.program [
  ⟨.ok (.appendModification
    ⟨.demon, 1, 7, .naive ⟨19, by decide⟩, ⟨[("position", .int 9)]⟩⟩), false⟩]

/-- The positions at a moment inside a history with an update that came late. -/
theorem reconstructAt_answers_lateEntry :
    let s := (Store.run .transaction lateEntry Report.failure (Store.empty.after sampleRun)).state
    s.Reachable ∧ "position" ∈ Kind.demon.tracked ∧
      (reconstructAt (.text Kind.demon.name) (.naive ⟨12, by decide⟩) (some "position") s).result =
        s.rowsOf .demon (.naive ⟨12, by decide⟩) "position" ∧
      ∃ rows, s.rowsOf .demon (.naive ⟨12, by decide⟩) "position" = .ok rows ∧
        rows.map (·.historical.same (.int 9)) = [true] ∧
        ∃ t, (Moment.naive ⟨12, by decide⟩).utc = .ok t ∧
          s.Answers .demon (.naive t) "position" rows := by
  intro s
  have hs : s.Reachable := .work _ _ _ (Store.Reachable.empty.after sampleRun)
  obtain ⟨heq, hanswers⟩ := @reconstructAt_answers s .demon "position" hs (by decide)
    (.naive ⟨12, by decide⟩)
  have hvalues : (s.rowsOf .demon (.naive ⟨12, by decide⟩) "position").toOption.map
      (·.map (·.historical.same (.int 9))) = some [true] := by
    rw [Store.rowsOf_eq (by unfold Alike; decide +kernel) (by unfold Alike; decide +kernel)
      hs.ordered]
    decide +kernel
  cases hrows : s.rowsOf .demon (.naive ⟨12, by decide⟩) "position" with
  | error e =>
    rw [hrows] at hvalues
    cases hvalues
  | ok rows =>
    rw [hrows] at hvalues
    exact ⟨hs, by decide, heq.trans hrows, rows, rfl, Option.some.inj hvalues,
      hanswers rows (heq.trans hrows)⟩

end Service

end Chronicle
