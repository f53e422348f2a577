import Chronicle.Proofs.Relational.Journal
import Chronicle.Proofs.Relational.LogRows

/-!
# Every unit of work is one well-formed transaction

Whatever program a unit of work runs, its calls are the opening, the statements of the steps, one
commit or one rollback, and the end. A row that is added is flushed before the end, and a row is
added to a log only after the row of its entity has been found in the same unit of work.

## Main definitions

* `Exchange.Placed`, `Orderly` — statements that stand in their place among others.
* `Recorder.Continues` — recorders with orderly exchanges between them.
* `UnitRecord.WellFormed` — a unit of work that is one well-formed transaction.

## Main statements

* `continues_of_stepCalls` — the statements of a step are orderly.
* `Journal.wellFormed_unitRecord` — every unit of work is well-formed.
* `Journal.wellFormed_afterAll` — so are those of any list of activities.
-/

namespace Chronicle.Relational

/-! ## Statements in their place -/

/-- Whether a call is made between the start of a unit of work and its end. -/
def Call.isStatement : Call → Bool
  | find .. | add .. | flush | refresh .. | execute _ => true
  | connect | start | isolate _ | commit | rollback _ | disconnect => false

/-- The kind whose log a table is. -/
def Table.logOf? : Table → Option Kind
  | modifications kind | additions kind => some kind
  | entities _ => none

/-- Whether an exchange stands in its place between those before and those after it: it is a
statement, a row that it adds is flushed after it, and if it adds a row to a log, the row of the
entity that this row refers to has been found before it. -/
structure Exchange.Placed (before : List Exchange) (x : Exchange) (after : List Exchange) :
    Prop where
  statement : x.call.isStatement = true
  flushed : ∀ table row, x.call = .add table row → ∃ y ∈ after, y.call = .flush
  found : ∀ log row kind, x.call = .add log row → log.logOf? = some kind →
    ∃ id lock entityRow, row.get "entity_id" = .value (.int id) ∧
      ⟨.find (.entities kind) id lock, some entityRow⟩ ∈ before

/-- Whether every exchange of a list stands in its place, after some others. -/
def Orderly (before xs : List Exchange) : Prop :=
  ∀ init x after, xs = init ++ x :: after → x.Placed (before ++ init) after

theorem Exchange.Placed.mono {before after more later : List Exchange} {x : Exchange}
    (h : x.Placed before after) (hbefore : before ⊆ more) (hafter : after ⊆ later) :
    x.Placed more later where
  statement := h.statement
  flushed table row hx := by
    obtain ⟨y, hy, hflush⟩ := h.flushed table row hx
    exact ⟨y, hafter hy, hflush⟩
  found log row kind hx hlog := by
    obtain ⟨id, lock, entityRow, hid, hfound⟩ := h.found log row kind hx hlog
    exact ⟨id, lock, entityRow, hid, hbefore hfound⟩

/-- A statement that adds no row stands in any place. -/
theorem Exchange.Placed.of_ne_add {before after : List Exchange} {x : Exchange}
    (hstatement : x.call.isStatement = true) (hadd : ∀ table row, x.call ≠ .add table row) :
    x.Placed before after where
  statement := hstatement
  flushed table row hx := absurd hx (hadd table row)
  found log row _ hx _ := absurd hx (hadd log row)

namespace Orderly

variable {before xs ys : List Exchange} {x : Exchange}

theorem nil (before : List Exchange) : Orderly before [] := by
  intro init x after h
  simp at h

theorem cons (hx : x.Placed before xs) (hxs : Orderly (before ++ [x]) xs) :
    Orderly before (x :: xs) := by
  intro init y after h
  cases init with
  | nil =>
    obtain ⟨rfl, rfl⟩ := List.cons.inj h
    simpa using hx
  | cons first rest =>
    obtain ⟨rfl, rfl⟩ := List.cons.inj h
    simpa using hxs rest y after rfl

/-- Orderly lists one after the other are orderly. -/
theorem append (hxs : Orderly before xs) (hys : Orderly [] ys) : Orderly before (xs ++ ys) := by
  intro init x after h
  rcases List.append_eq_append_iff.1 h with ⟨middle, rfl, hys'⟩ | ⟨middle, rfl, hxs'⟩
  · exact (hys middle x after hys').mono (by simp) (List.Subset.refl _)
  · cases middle with
    | nil =>
      exact (hys [] x after (by simpa using hxs'.symm)).mono (by simp) (List.Subset.refl _)
    | cons first rest =>
      obtain ⟨rfl, rfl⟩ := List.cons.inj hxs'
      exact (hxs init x rest rfl).mono (List.Subset.refl _) (by simp)

theorem isStatement (h : Orderly before xs) : ∀ x ∈ xs, x.call.isStatement = true := by
  intro x hx
  obtain ⟨init, after, rfl⟩ := List.append_of_mem hx
  exact (h init x after rfl).statement

end Orderly

/-! ## Steps and programs -/

namespace Recorder

variable {σ : Type} {r r' r'' : Recorder σ}

/-- Whether a recorder has come from another by orderly exchanges. -/
def Continues (r r' : Recorder σ) : Prop :=
  ∃ xs, r'.exchanges = r.exchanges ++ xs ∧ Orderly [] xs

theorem Continues.refl (r : Recorder σ) : r.Continues r := ⟨[], by simp, .nil []⟩

theorem Continues.trans (h : r.Continues r') (h' : r'.Continues r'') : r.Continues r'' := by
  obtain ⟨xs, hr', hxs⟩ := h
  obtain ⟨ys, hr'', hys⟩ := h'
  refine ⟨xs ++ ys, ?_, hxs.append hys⟩
  rw [hr'', hr', List.append_assoc]

end Recorder

section Programs

variable {σ : Type} [Session σ] {r r' : Recorder σ}

@[simp] theorem Recorder.exchanges_after (c : Call) (r : Recorder σ) :
    (Session.after c r).exchanges = r.exchanges ++ [⟨c, (Session.call c r).1⟩] := rfl

@[simp] theorem Recorder.exchanges_assign (table : Table) (key : Int) (attributes : Attributes)
    (r : Recorder σ) : (Session.assign table key attributes r).exchanges = r.exchanges := rfl

/-- A row is added to a log once the row of its entity has been found. -/
theorem continues_append {log : Table} {kind : Kind} {row entityRow : Row} {id : Int}
    (hid : row.get "entity_id" = .value (.int id)) (hlog : log.logOf? = some kind)
    (hfound : (Session.call (.find (.entities kind) id false) r).1 = some entityRow) :
    r.Continues (r |> Session.after (.find (.entities kind) id false) |>
      Session.after (.add log row) |> Session.after .flush) := by
  refine ⟨[⟨.find (.entities kind) id false, some entityRow⟩, ⟨.add log row, ()⟩, ⟨.flush, ()⟩],
    by simp [hfound], ?_⟩
  refine .cons (.of_ne_add rfl nofun) (.cons ⟨rfl, ?_, ?_⟩ (.cons (.of_ne_add rfl nofun) (.nil _)))
  · intro _ _ _
    exact ⟨⟨.flush, ()⟩, by simp⟩
  · rintro _ _ kind' ⟨⟩ hkind
    obtain rfl := Option.some.inj (hlog.symm.trans hkind)
    exact ⟨id, false, entityRow, hid, by simp⟩

theorem get_entityId_ofModification (m : Modification) :
    (Row.ofModification m).get "entity_id" = .value (.int m.entityId) := by
  simp [Row.ofModification, Row.get_ofCells, Table.columns, modificationColumns, additionColumns]

theorem get_entityId_ofAddition (a : Addition) :
    (Row.ofAddition a).get "entity_id" = .value (.int a.entityId) := by
  simp [Row.ofAddition, Row.get_ofCells, Table.columns, additionColumns]

/-- The statements of a step are orderly. -/
theorem continues_of_stepCalls {readOnly : Bool} (h : StepCalls readOnly r r') :
    r.Continues r' := by
  cases h with
  | none => exact .refl r
  | query q => exact ⟨_, rfl, .cons (.of_ne_add rfl nofun) (.nil _)⟩
  | lookup kind id lock => exact ⟨_, rfl, .cons (.of_ne_add rfl nofun) (.nil _)⟩
  | insert kind row =>
    refine ⟨[⟨.add (.entities kind) row, ()⟩, ⟨.flush, ()⟩, ⟨.refresh (.entities kind) row, _⟩],
      by simp; rfl, .cons ⟨rfl, ?_, ?_⟩ ?_⟩
    · intro _ _ _
      exact ⟨⟨.flush, ()⟩, by simp⟩
    · rintro _ _ _ ⟨⟩ hkind
      cases hkind
    · exact .cons (.of_ne_add rfl nofun) (.cons (.of_ne_add rfl nofun) (.nil _))
  | save e row _ hrow =>
    refine ⟨[⟨.find (.entities e.kind) e.id false, some row⟩, ⟨.flush, ()⟩], by simp [hrow], ?_⟩
    exact .cons (.of_ne_add rfl nofun) (.cons (.of_ne_add rfl nofun) (.nil _))
  | modification m row _ hrow => exact continues_append (get_entityId_ofModification m) rfl hrow
  | addition a row _ hrow => exact continues_append (get_entityId_ofAddition a) rfl hrow

end Programs

/-! ## Units of work -/

/-- The calls with which a unit of work starts. -/
def opening (mode : Mode) (isolation : String) : List Call :=
  match mode with
  | .transaction => [.connect, .start]
  | .snapshot => [.connect, .start, .isolate isolation]

/-- The call that ends the transaction of a unit of work. -/
def ending : Option Error → Call
  | none => .commit
  | some e => .rollback e

namespace UnitRecord

/-- The exchanges between the start of a unit of work and its end. -/
def statements (u : UnitRecord) : List Exchange := u.exchanges.filter (·.call.isStatement)

/-- Whether a unit of work is one well-formed transaction: it is opened, with the isolation level of
snapshots if it is one, its statements follow, then one commit, or one rollback if a failure has
left its program, and then the end. Every statement stands in its place between the others. -/
structure WellFormed (isolation : String) (u : UnitRecord) : Prop where
  calls : u.exchanges.map Exchange.call =
    opening u.mode isolation ++ u.statements.map Exchange.call ++ [ending u.failure, .disconnect]
  orderly : ∀ before x after, u.statements = before ++ x :: after → x.Placed before after

/-- Orderly statements between an opening and an end are a well-formed transaction. -/
theorem wellFormed_of_eq {isolation : String} {u : UnitRecord} {first statements last :
    List Exchange} (hu : u.exchanges = first ++ statements ++ last)
    (hfirst : first.map Exchange.call = opening u.mode isolation)
    (hlast : last.map Exchange.call = [ending u.failure, .disconnect])
    (horderly : Orderly [] statements) : u.WellFormed isolation := by
  have hnone : ∀ xs : List Exchange, (∀ c ∈ xs.map Exchange.call, c.isStatement = false) →
      xs.filter (·.call.isStatement) = [] := by
    intro xs hxs
    refine List.filter_eq_nil_iff.2 fun x hx => ?_
    simp [hxs x.call (List.mem_map_of_mem hx)]
  have hstatements : u.statements = statements := by
    have hopening : ∀ c ∈ opening u.mode isolation, c.isStatement = false := by
      cases u.mode <;> simp [opening, Call.isStatement]
    have hending : ∀ c ∈ [ending u.failure, .disconnect], c.isStatement = false := by
      cases u.failure <;> simp [ending, Call.isStatement]
    rw [UnitRecord.statements, hu, List.filter_append, List.filter_append,
      hnone first (hfirst ▸ hopening), hnone last (hlast ▸ hending),
      List.filter_eq_self.2 horderly.isStatement, List.nil_append, List.append_nil]
  refine ⟨?_, ?_⟩
  · rw [hu, List.map_append, List.map_append, hfirst, hlast, hstatements]
  · rw [hstatements]
    exact horderly

end UnitRecord

namespace Journal

section Run

variable {σ α : Type} [Session σ]

theorem exchanges_entered (mode : Mode) (t : RelationalStore σ) :
    ((recorder t).entered mode).exchanges.map Exchange.call = opening mode t.isolation := by
  cases mode <;> rfl

theorem exchanges_left (failure : Option Error) (r : Recorder σ) :
    ∃ last, (RelationalStore.left failure r).exchanges = r.exchanges ++ last ∧
      last.map Exchange.call = [ending failure, .disconnect] := by
  cases failure with
  | none => exact ⟨_, by simp [RelationalStore.left]; rfl, rfl⟩
  | some e => exact ⟨_, by simp [RelationalStore.left]; rfl, rfl⟩

/-- Every unit of work is one well-formed transaction. -/
theorem wellFormed_unitRecord (mode : Mode) (program : Program α) (failure? : α → Option Error)
    (t : RelationalStore σ) : (unitRecord mode program failure? t).WellFormed t.isolation := by
  rw [unitRecord_eq]
  generalize hlast : (runProgram (mode == .snapshot) program).run ((recorder t).entered mode) = last
  obtain ⟨statements, hstatements, horderly⟩ := runProgram_extends (mode == .snapshot)
    Recorder.Continues.refl Recorder.Continues.trans continues_of_stepCalls program
    ((recorder t).entered mode)
  obtain ⟨closing, hclosing, hcalls⟩ := exchanges_left (failure? last.1) last.2
  rw [hlast] at hstatements
  refine UnitRecord.wellFormed_of_eq ?_ (exchanges_entered mode t) hcalls horderly
  rw [hclosing, hstatements]

end Run

/-- Every unit of work that is kept in a journal is one well-formed transaction. -/
theorem wellFormed_afterAll {σ : Type} [Session σ] (t : RelationalStore σ)
    (activities : List Activity) :
    ∀ u ∈ (afterAll (start t) activities).units, u.WellFormed t.isolation := by
  have hR : UnitOfWork.Simulates fun j j' : Journal σ =>
      j = j' ∧ j.store.isolation = t.isolation ∧ ∀ u ∈ j.units, u.WellFormed t.isolation := by
    rintro α mode program failure? j _ ⟨rfl, hisolation, hunits⟩
    refine ⟨rfl, rfl, rfl, hisolation, List.forall_mem_append.2 ⟨hunits, ?_⟩⟩
    rw [← hisolation]
    exact List.forall_mem_singleton.2 (wellFormed_unitRecord mode program failure? j.store)
  exact (afterAll_simulates hR ⟨rfl, rfl, List.forall_mem_nil _⟩ activities).2.2

end Journal

end Chronicle.Relational
