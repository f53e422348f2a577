import Chronicle.Proofs.Relational.LogRows
import Chronicle.Proofs.Relational.Work
import Chronicle.Proofs.Storage.Publish

/-!
# Queries of both storages

A query of a log table, on rows numbered in the order in which they were added, has one answer, and
the answer reads as what the log in memory finds among the same entries, in the same order.

## Main definitions

* `Modification.Storable` — entries with plain documents and without offsets.
* `Finds` — whether any session that answers a query finds given entries.

## Main statements

* `Selecting.answers`, `Selecting.eq_of_answers` — the one answer of a query on numbered rows.
* `log_queries_agree` — both storages find the same entries.
-/

namespace Chronicle

open Timeline

/-! ## Queries of the logs in memory -/

/-- A log without offsets finds what a query without offsets selects. -/
theorem ModificationLog.entries_eq_filter {log : ModificationLog} {kind : Kind}
    {filter : ModificationFilter}
    (halike : Alike Modification.timestamp false (log.ofKind kind))
    (hordered : Ordered Modification.timestamp (log.ofKind kind))
    (hsince : ∀ start ∈ filter.since, start.isAware = false) :
    log.entries kind filter = .ok ((log.ofKind kind).filter filter.selects) := by
  unfold ModificationFilter.selects
  cases hstart : filter.since with
  | none => simp [entries_eq_ok_of_none hstart]
  | some start =>
    rw [entries_eq_ok hstart (hsince start hstart ▸ halike) hordered, cutAt, List.filter_filter]
    simp [Bool.and_comm]

theorem AdditionLog.entries_eq_filter {log : AdditionLog} {kind : Kind} {since : Option Moment}
    (halike : Alike Addition.timestamp false (log.ofKind kind))
    (hordered : Ordered Addition.timestamp (log.ofKind kind))
    (hsince : ∀ start ∈ since, start.isAware = false) :
    log.entries kind since = .ok ((log.ofKind kind).filter (Addition.selectedBy since)) := by
  unfold Addition.selectedBy
  cases since with
  | none => simp [entries, sinceOr]
  | some start => exact entries_eq_ok (hsince start rfl ▸ halike) hordered

/-- Whether an entry has a moment without an offset and a document of plain values. -/
structure Modification.Storable (m : Modification) : Prop where
  naive : m.timestamp.isAware = false
  plain : ∀ d ∈ m.diffs.entries, d.2.IsPlain

theorem Modification.Storable.isPlain {m : Modification} (hm : m.Storable) {name : String}
    {v : Value} (hv : m.diffs.get? name = some v) : v.IsPlain := by
  obtain ⟨front, back, hentries, -⟩ := List.lookup_eq_some_iff.1 hv
  exact hm.plain (name, v) (by simp [hentries])

namespace Relational

variable {eq : DocumentEquality} {kind : Kind}

/-! ## Conditions -/

section Conditions

variable {row : Row} {n entityId actorId : Int} {timestamp : Moment} {diffs : Attributes}

theorem Row.Describes.all_equals (h : row.Describes n entityId actorId timestamp)
    (id : Option Int) :
    (id.map (Condition.equals "entity_id")).toList.all (·.holds eq row) =
      id.all (entityId == ·) := by
  cases id with
  | none => rfl
  | some id => simp [Condition.holds, h.entityId]

theorem Row.Describes.all_notBefore (h : row.Describes n entityId actorId timestamp)
    (since : Option Moment) :
    (since.map (Condition.notBefore "time")).toList.all (·.holds eq row) =
      since.all fun start => decide (start.instant ≤ timestamp.instant) := by
  cases since with
  | none => rfl
  | some start => simp [Condition.holds, h.time]

theorem document?_of_get (h : row.get "diffs" = .value diffs.toValue) :
    row.document? "diffs" = some diffs := by
  rw [Row.document?, h]
  rfl

theorem holds_hasName (h : row.get "diffs" = .value diffs.toValue) (name : String) :
    (Condition.hasName "diffs" name).holds eq row = diffs.has name := by
  simp [Condition.holds, document?_of_get h]

theorem holds_differs (h : row.get "diffs" = .value diffs.toValue) (name : String) (v : Value) :
    (Condition.differs "diffs" name v).holds eq row =
      (diffs.get? name).any fun w => !eq.same w v := by
  simp [Condition.holds, document?_of_get h]

theorem DocumentEquality.same_eq (eq : DocumentEquality) {v w : Value} (hv : v.IsPlain)
    (hw : w.IsPlain) : eq.same v w = v.same w :=
  Bool.eq_iff_iff.2 ((eq.same_iff hv hw).trans (Value.same_iff_eq hv hw).symm)

/-- A usable previous value is one that is there and differs from the sentinel. -/
theorem carries_eq_and (eq : DocumentEquality) {m : Modification} {name : String} {s : Value}
    (hm : ∀ v, m.diffs.get? name = some v → v.IsPlain) (hs : s.IsPlain) :
    m.carries name (some s) =
      (m.diffs.has name && (m.diffs.get? name).any fun v => !eq.same v s) := by
  unfold Modification.carries Attributes.has
  cases hget : m.diffs.get? name with
  | none => rfl
  | some v =>
    have hsame := eq.same_eq (hm v hget) hs
    simp [hsame]

/-- The row of an entry meets the conditions of a query if and only if the log in memory finds the
entry. -/
theorem accepts_modification {m : Modification} {filter : ModificationFilter} (hm : m.Storable)
    (hsentinel : ∀ v ∈ filter.sentinel, v.IsPlain) (n : Int) :
    (Select.modifications kind filter).accepts eq ((Row.ofModification m).numbered n) =
      filter.selects m := by
  have hrow := Row.describes_ofModification m n
  have hdiffs := Row.diffs_ofModification m n
  rw [Select.accepts, Select.modifications, Select.filterConditions, List.all_append,
    List.all_append, hrow.all_equals, hrow.all_notBefore, ModificationFilter.selects,
    ModificationFilter.accepts_eq]
  obtain ⟨entityId, name, since, sentinel⟩ := filter
  cases name with
  | none => simp [Bool.and_comm]
  | some name =>
    cases sentinel with
    | none =>
      simp only [List.all_cons, List.all_nil, holds_hasName hdiffs, m.carries_none,
        Modification.changed, Option.all_some, Bool.and_true, Bool.and_assoc]
      exact Bool.and_left_comm ..
    | some s =>
      simp only [List.all_cons, List.all_nil, holds_hasName hdiffs, holds_differs hdiffs,
        carries_eq_and eq (fun _ => hm.isPlain) (hsentinel s rfl), Option.all_some, Bool.and_true,
        Bool.and_assoc]
      exact Bool.and_left_comm ..

theorem accepts_addition {a : Addition} {since : Option Moment} (n : Int) :
    (Select.additions kind since).accepts eq ((Row.ofAddition a).numbered n) =
      a.selectedBy since := by
  rw [Select.accepts, Select.additions, (Row.describes_ofAddition a n).all_notBefore,
    Addition.selectedBy]

end Conditions

/-! ## The answer of a query -/

section Answer

variable {α : Type} {stamp : α → Moment} {rowOf : α → Row} {selects : α → Bool} {q : Select}
  {ps : List (Int × α)} {answer : List Row}

/-- Whether the rows of entries say their moments, and meet the conditions of a query by moment and
number if and only if the entry is selected. -/
structure Selecting (eq : DocumentEquality) (q : Select) (stamp : α → Moment) (rowOf : α → Row)
    (selects : α → Bool) (entries : List α) : Prop where
  order : q.order = ["time", "seq"]
  describes : ∀ x n, ∃ entityId actorId,
    ((rowOf x).numbered n).Describes n entityId actorId (stamp x)
  accepts : ∀ x ∈ entries, ∀ n, q.accepts eq ((rowOf x).numbered n) = selects x

theorem Selecting.precedes {entries : List α} (h : Selecting eq q stamp rowOf selects entries)
    (a b : Int × α) :
    ((rowOf a.2).numbered a.1).precedes ((rowOf b.2).numbered b.1) q.order = true ↔
      Sooner stamp a b := by
  obtain ⟨_, _, ha⟩ := h.describes a.2 a.1
  obtain ⟨_, _, hb⟩ := h.describes b.2 b.1
  rw [h.order]
  exact ha.precedes hb

/-- The selected entries, arranged by moment and number, answer the query. -/
theorem Selecting.answers (h : Selecting eq q stamp rowOf selects (ps.map (·.2)))
    (hps : (ps.map (·.1)).Pairwise (· < ·)) :
    q.Answers eq (ps.map fun p => (rowOf p.2).numbered p.1)
      (((arranged (fun p => stamp p.2) ps).filter (selects ·.2)).map
        fun p => (rowOf p.2).numbered p.1) where
  complete := by
    have haccepts : (ps.map fun p => (rowOf p.2).numbered p.1).filter (q.accepts eq) =
        (ps.filter (selects ·.2)).map fun p => (rowOf p.2).numbered p.1 := by
      rw [List.filter_map]
      refine congrArg (List.map _) (List.filter_congr fun p hp => ?_)
      exact h.accepts p.2 (List.mem_map_of_mem hp) p.1
    rw [haccepts]
    exact (arranged_perm.filter _).map _
  ordered := by
    refine List.pairwise_map.2 (((pairwise_sooner_arranged hps).filter _).imp fun hab => ?_)
    rw [← Bool.not_eq_true, h.precedes]
    exact hab.asymm

/-- A query has one answer. -/
theorem Selecting.eq_of_answers (h : Selecting eq q stamp rowOf selects (ps.map (·.2)))
    (hps : (ps.map (·.1)).Pairwise (· < ·))
    (hanswer : q.Answers eq (ps.map fun p => (rowOf p.2).numbered p.1) answer) :
    answer = ((arranged (fun p => stamp p.2) ps).filter (selects ·.2)).map
      fun p => (rowOf p.2).numbered p.1 := by
  refine hanswer.unique (h.answers hps) fun a ha b hb hab hba => ?_
  obtain ⟨p, hp, rfl⟩ := List.mem_map.1 ha
  obtain ⟨r, hr, rfl⟩ := List.mem_map.1 hb
  rw [← Bool.not_eq_true, h.precedes] at hab hba
  -- Rows that the order does not tell apart have one number.
  have hnumber : p.1 = r.1 := by
    unfold Sooner at hab hba
    omega
  have hnodup : (ps.map (·.1)).Nodup := hps.imp Int.ne_of_lt
  rw [List.inj_on_of_nodup_map hnodup hp hr hnumber]

end Answer

/-! ## Agreement -/

/-- Whether a query of a table with given rows has an answer, and a step on any session that answers
the query finds given entries. -/
def Finds (eq : DocumentEquality) (q : Select) (rows : List Row) (s : Step) (found : s.Answer) :
    Prop :=
  (∃ answer, q.Answers eq rows answer) ∧
    ∀ {σ : Type} [Session σ] (session : σ) (readOnly : Bool),
      q.Answers eq rows (Session.call (.execute q) session).1 →
        (Work.exec (Work.perform readOnly s) session).1 = .ok found

/-- The answer of a query reads as the selected entries on their timeline. -/
theorem Selecting.mapM_answer {α : Type} {stamp : α → Moment} {rowOf : α → Row} {selects : α → Bool}
    {q : Select} {entries : List α} {rows answer : List Row} (read : Row → Except Error α)
    (h : Selecting eq q stamp rowOf selects entries) (hrows : Numbered rowOf entries rows)
    (hread : ∀ x ∈ entries, ∀ n, read ((rowOf x).numbered n) = .ok x)
    (hanswer : q.Answers eq rows answer) :
    answer.mapM read = .ok ((arranged stamp entries).filter selects) := by
  obtain ⟨ps, rfl, hps, rfl⟩ := hrows
  have hresult : (((arranged (fun p => stamp p.2) ps).filter (selects ·.2)).map (·.2)) =
      (arranged stamp (ps.map (·.2))).filter selects := by
    rw [← map_arranged_snd, List.filter_map]
    rfl
  rw [h.eq_of_answers hps hanswer, List.mapM_map, ← hresult]
  refine mapM_eq_ok fun p hp => ?_
  have hmem : p ∈ ps := arranged_perm.mem_iff.1 (List.mem_filter.1 hp).1
  exact hread p.2 (List.mem_map_of_mem hmem) p.1

theorem Selecting.exists_answer {α : Type} {stamp : α → Moment} {rowOf : α → Row}
    {selects : α → Bool} {q : Select} {entries : List α} {rows : List Row}
    (h : Selecting eq q stamp rowOf selects entries) (hrows : Numbered rowOf entries rows) :
    ∃ answer, q.Answers eq rows answer := by
  obtain ⟨ps, rfl, hps, rfl⟩ := hrows
  exact ⟨_, h.answers hps⟩

/-- Modifications of a kind, as both storages find them. -/
theorem modifications_agree (eq : DocumentEquality) (kind : Kind) {ms : List Modification}
    (hms : ∀ m ∈ ms, m.Storable) {filter : ModificationFilter}
    (hsince : ∀ start ∈ filter.since, start.isAware = false)
    (hsentinel : ∀ v ∈ filter.sentinel, v.IsPlain) {rows : List Row}
    (hrows : Numbered Row.ofModification (ms.filter (·.kind = kind)) rows) :
    ∃ log found, Staging.appendAll ModificationLog.append .empty ms = (log, none) ∧
      log.entries kind filter = .ok found ∧
      Finds eq (.modifications kind filter) rows (.modifications kind filter) found := by
  obtain ⟨log, happend, hlog⟩ := Staging.appendAll_modifications fun m hm => (hms m hm).naive
  have halike : Alike Modification.timestamp false (ms.filter (·.kind = kind)) := fun m hm =>
    (hms m (List.mem_filter.1 hm).1).naive
  have hselecting : Selecting eq (Select.modifications kind filter) Modification.timestamp
      Row.ofModification filter.selects (ms.filter (·.kind = kind)) := by
    refine ⟨rfl, fun m n => ⟨_, _, Row.describes_ofModification m n⟩, fun m hm n => ?_⟩
    exact accepts_modification (hms m (List.mem_filter.1 hm).1) hsentinel n
  have hread : ∀ m ∈ ms.filter (·.kind = kind), ∀ n,
      Row.modification ((Row.ofModification m).numbered n) kind = .ok m := by
    intro m hm n
    obtain rfl : m.kind = kind := of_decide_eq_true (List.mem_filter.1 hm).2
    exact modification_numbered m n
  refine ⟨log, _, happend,
    ModificationLog.entries_eq_filter (hlog kind ▸ halike.arranged) (hlog kind ▸ arranged_ordered)
      hsince,
    hselecting.exists_answer hrows, fun session readOnly hanswer => ?_⟩
  rw [hlog kind, ← Selecting.mapM_answer (Row.modification · kind) hselecting hrows hread hanswer]
  exact Work.exec_execute _ (Row.modification · kind) session

/-- Additions of a kind, as both storages find them. -/
theorem additions_agree (eq : DocumentEquality) (kind : Kind) {as : List Addition}
    (has : ∀ a ∈ as, a.timestamp.isAware = false) {since : Option Moment}
    (hsince : ∀ start ∈ since, start.isAware = false) {rows : List Row}
    (hrows : Numbered Row.ofAddition (as.filter (·.kind = kind)) rows) :
    ∃ log found, Staging.appendAll AdditionLog.append .empty as = (log, none) ∧
      log.entries kind since = .ok found ∧
      Finds eq (.additions kind since) rows (.additions kind since) found := by
  obtain ⟨log, happend, hlog⟩ := Staging.appendAll_additions has
  have halike : Alike Addition.timestamp false (as.filter (·.kind = kind)) := fun a ha =>
    has a (List.mem_filter.1 ha).1
  have hselecting : Selecting eq (Select.additions kind since) Addition.timestamp
      Row.ofAddition (Addition.selectedBy since) (as.filter (·.kind = kind)) :=
    ⟨rfl, fun a n => ⟨_, _, Row.describes_ofAddition a n⟩, fun a _ n => accepts_addition n⟩
  have hread : ∀ a ∈ as.filter (·.kind = kind), ∀ n,
      Row.addition ((Row.ofAddition a).numbered n) kind = .ok a := by
    intro a ha n
    obtain rfl : a.kind = kind := of_decide_eq_true (List.mem_filter.1 ha).2
    exact addition_numbered a n
  refine ⟨log, _, happend,
    AdditionLog.entries_eq_filter (hlog kind ▸ halike.arranged) (hlog kind ▸ arranged_ordered)
      hsince,
    hselecting.exists_answer hrows, fun session readOnly hanswer => ?_⟩
  rw [hlog kind, ← Selecting.mapM_answer (Row.addition · kind) hselecting hrows hread hanswer]
  exact Work.exec_execute _ (Row.addition · kind) session

/-- Both storages find the same log entries. For all entries without offsets, and with plain values,
in any order, and any query without offsets: appending the entries in memory does not fail, nor does
the query; the statement that the relational storage executes on the rows of the entries, numbered
in the same order, has an answer, and from any session that gives such an answer the storage reads
exactly what the log in memory finds, in the same order. -/
theorem log_queries_agree (eq : DocumentEquality) (kind : Kind) {ms : List Modification}
    {as : List Addition} (hms : ∀ m ∈ ms, m.Storable) (has : ∀ a ∈ as, a.timestamp.isAware = false)
    {filter : ModificationFilter} (hfilter : ∀ start ∈ filter.since, start.isAware = false)
    (hsentinel : ∀ v ∈ filter.sentinel, v.IsPlain) {since : Option Moment}
    (hsince : ∀ start ∈ since, start.isAware = false) {rows additionRows : List Row}
    (hrows : Numbered Row.ofModification (ms.filter (·.kind = kind)) rows)
    (hadditionRows : Numbered Row.ofAddition (as.filter (·.kind = kind)) additionRows) :
    (∃ log found, Staging.appendAll ModificationLog.append .empty ms = (log, none) ∧
      log.entries kind filter = .ok found ∧
      Finds eq (.modifications kind filter) rows (.modifications kind filter) found) ∧
    ∃ log found, Staging.appendAll AdditionLog.append .empty as = (log, none) ∧
      log.entries kind since = .ok found ∧
      Finds eq (.additions kind since) additionRows (.additions kind since) found :=
  ⟨modifications_agree eq kind hms hfilter hsentinel hrows,
    additions_agree eq kind has hsince hadditionRows⟩

/-- Updates of a demon, one of them recorded late, and one of a record. -/
def sampleModifications : List Modification := [
  ⟨.demon, 1, 7, .naive ⟨32, by decide⟩, ⟨[("position", .int 3)]⟩⟩,
  ⟨.record, 1, 7, .naive ⟨12, by decide⟩, ⟨[("video", .null)]⟩⟩,
  ⟨.demon, 1, 8, .naive ⟨22, by decide⟩, ⟨[("position", .int (-1)), ("video", .null)]⟩⟩]

def sampleAdditions : List Addition := [⟨.demon, 1, 7, .naive ⟨25, by decide⟩⟩]

/-- A query with all of its parts. -/
def sampleFilter : ModificationFilter where
  entityId := some 1
  name := some "position"
  since := some (.naive ⟨15, by decide⟩)
  sentinel := some (.int (-1))

theorem storable_sampleModifications : ∀ m ∈ sampleModifications, m.Storable := by
  simp only [sampleModifications, List.forall_mem_cons]
  refine ⟨⟨rfl, ?_⟩, ⟨rfl, ?_⟩, ⟨rfl, ?_⟩, List.forall_mem_nil _⟩ <;> simp [Value.IsPlain]

theorem log_queries_agree_sample :
    let rows := numberedRows Row.ofModification (sampleModifications.filter (·.kind = .demon))
    let additionRows := numberedRows Row.ofAddition (sampleAdditions.filter (·.kind = .demon))
    (∀ m ∈ sampleModifications, m.Storable) ∧
      (∀ a ∈ sampleAdditions, a.timestamp.isAware = false) ∧
      (∃ log found, Staging.appendAll ModificationLog.append .empty sampleModifications =
          (log, none) ∧
        log.entries .demon sampleFilter = .ok found ∧
        Finds .ofSame (.modifications .demon sampleFilter) rows
          (.modifications .demon sampleFilter) found) ∧
      ∃ log found, Staging.appendAll AdditionLog.append .empty sampleAdditions = (log, none) ∧
        log.entries .demon sampleFilter.since = .ok found ∧
        Finds .ofSame (.additions .demon sampleFilter.since) additionRows
          (.additions .demon sampleFilter.since) found := by
  intro rows additionRows
  have hadditions : ∀ a ∈ sampleAdditions, a.timestamp.isAware = false := by
    simp [sampleAdditions, Moment.isAware]
  have hsince : ∀ start ∈ sampleFilter.since, start.isAware = false := by
    rintro start ⟨⟩
    rfl
  have hsentinel : ∀ v ∈ sampleFilter.sentinel, v.IsPlain := by
    rintro v ⟨⟩
    trivial
  exact ⟨storable_sampleModifications, hadditions,
    log_queries_agree .ofSame .demon storable_sampleModifications hadditions hsince hsentinel hsince
      (numbered_numberedRows ..) (numbered_numberedRows ..)⟩

end Relational

end Chronicle
