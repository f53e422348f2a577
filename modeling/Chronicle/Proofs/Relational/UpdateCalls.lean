import Chronicle.Proofs.Relational.WellFormed

/-!
# What an update calls

An update first looks its entity up and locks the row. Everything that can fail comes before
anything is added or flushed: the row of the entity is found once to be overwritten and once more
when the modification is added, and overwriting its columns does not take it away.

## Main definitions

* `Call.stages` — calls that add a row or flush.
* `Careful` — blocks that neither add nor flush if they fail.

## Main statements

* `StandIn.isSome_lookup_assign` — overwriting takes no row away.
* `careful_alteration` — an update that fails neither adds nor flushes.
* `every_unit_wellFormed` — units of work, and those of updates in particular.
-/

namespace Chronicle.Relational

/-- Whether a call adds a row or flushes what was added or overwritten. -/
def Call.stages : Call → Bool
  | add .. | flush => true
  | connect | start | isolate _ | find .. | refresh .. | execute _ | commit | rollback _
  | disconnect => false

/-! ## Rows that stay -/

/-- Overwriting columns of a row takes no row away. -/
theorem StandIn.isSome_lookup_assign (table : Table) (key : Int) (attributes : Attributes)
    (s : StandIn) (place : Table × Int) :
    ((Session.assign table key attributes s).rows.lookup place).isSome =
      (s.rows.lookup place).isSome := by
  change ((s.rows.map fun r =>
    if r.1 = (table, key) then (r.1, r.2.assign attributes) else r).lookup place).isSome = _
  induction s.rows with
  | nil => rfl
  | cons r rest ih =>
    obtain ⟨place', row⟩ := r
    by_cases hplace : place' = (table, key)
    · simp only [List.map_cons, if_pos hplace, List.lookup_cons]
      cases place == place' with
      | true => rfl
      | false => exact ih
    · simp only [List.map_cons, if_neg hplace, List.lookup_cons]
      cases place == place' with
      | true => rfl
      | false => exact ih

/-! ## Blocks that fail before they write -/

variable {α β : Type} {r r' : Recorder StandIn}

/-- Whether a block, if it fails, neither adds nor flushes before. -/
def Careful (b : Block α) (r : Recorder StandIn) : Prop :=
  ∃ xs, (exec false b r).2.exchanges = r.exchanges ++ xs ∧
    ∀ e, (exec false b r).1 = .error e → ∀ x ∈ xs, x.call.stages = false

namespace Careful

/-- A block that succeeds is careful. -/
theorem of_ok {b : Block α} {a : α} (h : (exec false b r).1 = .ok a) : Careful b r := by
  obtain ⟨xs, hxs, -⟩ := runProgram_extends false Recorder.Continues.refl
    Recorder.Continues.trans continues_of_stepCalls b.run r
  exact ⟨xs, hxs, fun e he => by cases h.symm.trans he⟩

theorem of_error {b : Block α} {e : Error} {xs : List Exchange}
    (h : exec false b r = (.error e, r')) (hr' : r'.exchanges = r.exchanges ++ xs)
    (hxs : ∀ x ∈ xs, x.call.stages = false) :
    Careful b r := by
  refine ⟨xs, ?_, fun _ _ => hxs⟩
  rw [h, hr']

/-- A computation that fails ends a block before it has called anything. -/
theorem lift_bind {result : Except Error α} {f : α → Block β}
    (hf : ∀ a, result = .ok a → Careful (f a) r) : Careful (Block.lift result >>= f) r := by
  cases result with
  | error e => exact of_error rfl (List.append_nil _).symm (List.forall_mem_nil _)
  | ok a => exact hf a rfl

end Careful

/-! ## Updates -/

/-- Once the row of an entity has been found, it is overwritten and its modification is added. -/
theorem careful_write {e : Entity} {entry : Modification} (hkind : entry.kind = e.kind)
    (hid : entry.entityId = e.id) (a : α) :
    Careful (do
      Block.perform (.saveEntity e)
      Block.perform (.appendModification entry)
      return a) r := by
  cases hfound : (Session.call (.find (.entities e.kind) e.id false) r).1 with
  | none =>
    have hsave : exec false (Block.perform (.saveEntity e)) r =
        (.error (.unknownEntity e.kind.name e.id),
          Session.after (.find (.entities e.kind) e.id false) r) :=
      Work.exec_requireRow_bind_none hfound
    refine .of_error (exec_bind_error hsave) rfl (List.forall_mem_singleton.2 rfl)
  | some row =>
    let saved := r |> Session.after (.find (.entities e.kind) e.id false) |>
      Session.assign (.entities e.kind) e.id e.attributes |> Session.after .flush
    have hsave : exec false (Block.perform (.saveEntity e)) r = (.ok (), saved) :=
      Work.exec_requireRow_bind_some hfound
    have hrow : (Session.call (.find (.entities entry.kind) entry.entityId false) saved).1.isSome
        = true := by
      rw [hkind, hid]
      refine (StandIn.isSome_lookup_assign _ _ _ _ _).trans ?_
      exact Option.isSome_iff_exists.2 ⟨row, hfound⟩
    obtain ⟨row', hrow'⟩ := Option.isSome_iff_exists.1 hrow
    have happend : exec false (Block.perform (.appendModification entry)) saved =
        (.ok (), saved |> Session.after (.find (.entities entry.kind) entry.entityId false) |>
          Session.after (.add (.modifications entry.kind) (.ofModification entry)) |>
          Session.after .flush) :=
      Work.exec_requireRow_bind_some hrow'
    refine .of_ok (a := a) ?_
    rw [exec_bind_ok hsave, exec_bind_ok happend]
    rfl

/-- What follows a lookup is careful if it is careful whatever has been found. -/
theorem lookup_bind {kind : Kind} {id : Int} {f : Option Entity → Block α}
    (hf : ∀ before?, Careful (f before?) (Session.after (.find (.entities kind) id true) r)) :
    let last := exec false (Block.perform (.getEntity kind id true) >>= f) r
    ∃ row? xs, last.2.exchanges = r.exchanges ++ ⟨.find (.entities kind) id true, row?⟩ :: xs ∧
      ∀ e, last.1 = .error e → ∀ x ∈ xs, x.call.stages = false := by
  intro last
  have hlooked : (exec false (Block.perform (.getEntity kind id true)) r).2 =
      Session.after (.find (.entities kind) id true) r := Work.exec_getEntity_state kind id true r
  rcases hget : exec false (Block.perform (.getEntity kind id true)) r with ⟨result, looked⟩
  rw [hget] at hlooked
  subst hlooked
  cases result with
  | error e =>
    have hlast : last = _ := exec_bind_error hget
    rw [hlast]
    exact ⟨_, [], rfl, fun _ _ => List.forall_mem_nil _⟩
  | ok before? =>
    have hlast : last = _ := exec_bind_ok hget
    obtain ⟨xs, hxs, hquiet⟩ := hf before?
    rw [hlast]
    refine ⟨(Session.call (.find (.entities kind) id true) r).1, xs, ?_, hquiet⟩
    rw [hxs, Recorder.exchanges_after, List.append_assoc]
    rfl

/-- An update looks its entity up first, and has neither added nor flushed if it fails. -/
theorem careful_alteration (kind : Kind) (id : Int) (changes : Attributes) (actor : Actor)
    (clock : Moment) (r : Recorder StandIn) :
    let last := exec false (Service.alteration kind id changes actor clock) r
    ∃ row? xs, last.2.exchanges = r.exchanges ++ ⟨.find (.entities kind) id true, row?⟩ :: xs ∧
      ∀ e, last.1 = .error e → ∀ x ∈ xs, x.call.stages = false := by
  refine lookup_bind fun before? => ?_
  cases before? with
  | none => exact .of_error rfl (List.append_nil _).symm (List.forall_mem_nil _)
  | some before =>
    refine .lift_bind fun attributes _ => .lift_bind fun now _ => .lift_bind fun entry hentry => ?_
    rw [Modification.between, if_pos ⟨rfl, rfl⟩] at hentry
    cases hentry
    exact careful_write rfl rfl _

/-! ## Every unit of work -/

/-- The transaction of an update looks its entity up before any other statement, and if a failure
leaves it, nothing has been added or flushed. -/
theorem unitRecord_alteration (kind : Kind) (id : Int) (changes : Attributes) (actor : Actor)
    (clock : Moment) (t : RelationalStore StandIn) :
    let u := Journal.unitRecord .transaction (Service.alteration kind id changes actor clock).run
      Block.failure? t
    (∃ row?, u.statements.head? = some ⟨.find (.entities kind) id true, row?⟩) ∧
      (u.failure.isSome = true → ∀ x ∈ u.exchanges, x.call.stages = false) := by
  let r := (Journal.recorder t).entered .transaction
  let last := exec false (Service.alteration kind id changes actor clock) r
  obtain ⟨row?, xs, hxs, hquiet⟩ := careful_alteration kind id changes actor clock r
  obtain ⟨closing, hclosing, hcalls⟩ := Journal.exchanges_left (Block.failure? last.1) last.2
  intro u
  have hu : u = {
      mode := .transaction
      failure := Block.failure? last.1
      exchanges := (RelationalStore.left (Block.failure? last.1) last.2).exchanges } :=
    Journal.unitRecord_eq .transaction _ Block.failure? t
  have hexchanges : u.exchanges = [⟨.connect, ()⟩, ⟨.start, ()⟩] ++
      ⟨.find (.entities kind) id true, row?⟩ :: xs ++ closing := by
    rw [hu, hclosing, hxs]
    rfl
  refine ⟨⟨row?, ?_⟩, fun hfailure => ?_⟩
  · rw [UnitRecord.statements, hexchanges]
    rfl
  · have hlast : ∃ e, last.1 = .error e := by
      rw [hu] at hfailure
      cases hresult : last.1 with
      | error e => exact ⟨e, rfl⟩
      | ok a =>
        rw [hresult] at hfailure
        cases hfailure
    obtain ⟨e, he⟩ := hlast
    have hend : ∀ x ∈ closing, x.call.stages = false := by
      intro x hx
      have hcall := List.mem_map_of_mem (f := Exchange.call) hx
      rw [hcalls, he] at hcall
      rcases List.mem_pair.1 hcall with hcall | hcall <;> rw [hcall] <;> rfl
    rw [hexchanges]
    simp only [List.forall_mem_append, List.forall_mem_cons]
    exact ⟨⟨⟨rfl, rfl, List.forall_mem_nil _⟩, rfl, hquiet e he⟩, hend⟩

/-- A unit of work fails with the failure that has left its block. -/
theorem failure_of_within_error {mode : Mode} {b : Block α} {j : Journal StandIn} {e : Error}
    (h : (Operation.within mode b j).result = .error e) :
    (Journal.unitRecord mode b.run Block.failure? j.store).failure = some e := by
  have hresult : (RelationalStore.run mode b.run Block.failure? j.store).result = .error e :=
    (RelationalStore.outcome_run mode b j.store).symm.trans h
  have hrecorder := (Journal.run_recorder mode b.run Block.failure? j.store).1
  rw [hresult] at hrecorder
  exact congrArg Block.failure? hrecorder.symm

/-- The units of work of an update: none if the update fails before, else one transaction. -/
theorem units_update (kind : Value) (id : Int) (changes : Attributes) (actor? : Option Actor)
    (clock : Moment) (t : RelationalStore StandIn) :
    let last := Service.update kind id changes actor? clock (Journal.start t)
    (last.state.units = [] ∧ ∃ e, last.result = .error e) ∨
    ∃ u k row?, last.state.units = [u] ∧ u.mode = .transaction ∧ Kind.ofValue kind = .ok k ∧
      u.statements.head? = some ⟨.find (.entities k) id true, row?⟩ ∧
      ∀ e, last.result = .error e →
        u.failure = some e ∧ ∀ x ∈ u.exchanges, x.call.stages = false := by
  intro last
  rcases Service.update_alike kind id changes actor? clock with
    ⟨k, actor, hkind, -, halike⟩ | ⟨e, -, halike⟩
  · obtain ⟨hresult, hstate⟩ := halike (Journal.start t)
    rw [Operation.map_result] at hresult
    rw [Operation.map_state] at hstate
    obtain ⟨⟨row?, hhead⟩, hquiet⟩ := unitRecord_alteration k id changes actor clock t
    refine .inr ⟨_, k, row?, congrArg Journal.units hstate, rfl, hkind, hhead, ?_⟩
    intro e he
    rw [hresult, map_eq_error_iff] at he
    have hfailure := failure_of_within_error he
    exact ⟨hfailure, hquiet (Option.isSome_iff_exists.2 ⟨e, hfailure⟩)⟩
  · obtain ⟨hresult, hstate⟩ := halike (Journal.start t)
    exact .inl ⟨congrArg Journal.units hstate, e, hresult⟩

/-- Every unit of work is one well-formed transaction. Whatever calls of the service and units of
work are carried out on the stand-in, with any rows and query results, a journal keeps of them what
the stand-in records: each unit of work is opened, a snapshot sets its isolation level, statements
follow, then one commit, or one rollback if and only if a failure has left the program, and then the
end. A row that is added is flushed, and a row is added to a log only after the row of its entity
has been found. An update looks its entity up, locking it, before any other statement, and adds and
flushes nothing if it fails. -/
theorem every_unit_wellFormed (t : RelationalStore StandIn) :
    (∀ activities : List Activity,
      let j := afterAll (Journal.start t) activities
      j.store = afterAll t activities ∧
      (afterAll t activities).session.trace =
        t.session.trace ++ j.units.flatMap (fun u => u.exchanges.map Exchange.recorded) ∧
      ∀ u ∈ j.units, u.WellFormed t.isolation) ∧
    ∀ (kind : Value) (id : Int) (changes : Attributes) (actor? : Option Actor) (clock : Moment),
      let last := Service.update kind id changes actor? clock (Journal.start t)
      (last.state.units = [] ∧ ∃ e, last.result = .error e) ∨
      ∃ u k row?, last.state.units = [u] ∧ u.mode = .transaction ∧ Kind.ofValue kind = .ok k ∧
        u.statements.head? = some ⟨.find (.entities k) id true, row?⟩ ∧
        ∀ e, last.result = .error e →
          u.failure = some e ∧ ∀ x ∈ u.exchanges, x.call.stages = false := by
  refine ⟨fun activities => ?_, fun kind id changes actor? clock => ?_⟩
  · obtain ⟨hstore, htrace⟩ := afterAll_simulates (Journal.simulates t.session.trace)
      (Journal.holds_start t) activities
    exact ⟨hstore, htrace, Journal.wellFormed_afterAll t activities⟩
  · exact units_update kind id changes actor? clock t

end Chronicle.Relational
