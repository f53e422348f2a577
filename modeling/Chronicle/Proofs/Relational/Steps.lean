import Chronicle.Proofs.Relational.EntityRows
import Chronicle.Proofs.Relational.Work

/-!
# Steps on a faithful session

What a storage step does through a faithful session is told by the store of rows that is seen
before and after it: reads leave the store, writes insert or overwrite one row.

## Main definitions

* `exec` — what a block comes to on a session.
* `Leads` — whether a computation leads from one store of rows to another.

## Main statements

* `Leads.work_bind`, `Leads.block_bind` — the parts of a computation.
* `Faithful.getEntity`, `Faithful.insertEntity`, `Faithful.saveEntity`, `Faithful.appendRow` — what
  the steps do.
-/

namespace Chronicle.Relational

variable {σ α β : Type} {view : σ → RowStore} {d d' d'' : RowStore}

/-- Whether a computation, from every session through which a store is seen, comes to a result and
to a session through which another store is seen. -/
def Leads (view : σ → RowStore) (x : σ → Except Error α × σ) (d : RowStore)
    (result : Except Error α) (d' : RowStore) : Prop :=
  ∀ session, view session = d → (x session).1 = result ∧ view (x session).2 = d'

theorem leads_of_eq {x : σ → Except Error α × σ} {result : Except Error α}
    (h : ∀ session, x session = (result, session)) : Leads view x d result d := by
  intro session hsession
  rw [h]
  exact ⟨rfl, hsession⟩

/-- A computation goes on with the result of its first part. -/
theorem Leads.work_bind {x : Work σ α} {f : α → Work σ β} {a : α}
    {result : Except Error β} (hx : Leads view (Work.exec x) d (.ok a) d')
    (hf : Leads view (Work.exec (f a)) d' result d'') :
    Leads view (Work.exec (x >>= f)) d result d'' := by
  intro session hsession
  obtain ⟨hresult, hview⟩ := hx session hsession
  rw [Work.exec_bind_ok (Prod.ext hresult rfl)]
  exact hf _ hview

/-! ## Blocks on a session -/

variable [Session σ]

/-- What a block comes to on a session. -/
def exec (readOnly : Bool) (b : Block α) (session : σ) : Except Error α × σ :=
  (runProgram readOnly b.run).run session

theorem runProgram_bind (readOnly : Bool) (p : Program α) (f : α → Program β) (session : σ) :
    (runProgram readOnly (p.bind f)).run session =
      (runProgram readOnly (f ((runProgram readOnly p).run session).1)).run
        ((runProgram readOnly p).run session).2 := by
  induction p generalizing session with
  | done a => rfl
  | step s next ih => exact ih _ _

theorem exec_bind_ok {readOnly : Bool} {b : Block α} {f : α → Block β} {session session' : σ}
    {a : α} (h : exec readOnly b session = (.ok a, session')) :
    exec readOnly (b >>= f) session = exec readOnly (f a) session' := by
  refine (runProgram_bind readOnly b.run _ session).trans ?_
  rw [show (runProgram readOnly b.run).run session = _ from h]
  rfl

/-- A block ends with the failure of its first part. -/
theorem exec_bind_error {readOnly : Bool} {b : Block α} {f : α → Block β} {session session' : σ}
    {e : Error} (h : exec readOnly b session = (.error e, session')) :
    exec readOnly (b >>= f) session = (.error e, session') := by
  refine (runProgram_bind readOnly b.run _ session).trans ?_
  rw [show (runProgram readOnly b.run).run session = _ from h]
  rfl

namespace Leads

variable {a : α} {result : Except Error β}

theorem block_bind {readOnly : Bool} {b : Block α} {f : α → Block β}
    (hb : Leads view (exec readOnly b) d (.ok a) d')
    (hf : Leads view (exec readOnly (f a)) d' result d'') :
    Leads view (exec readOnly (b >>= f)) d result d'' := by
  intro session hsession
  obtain ⟨hresult, hview⟩ := hb session hsession
  rw [exec_bind_ok (Prod.ext hresult rfl)]
  exact hf _ hview

theorem lift_bind {readOnly : Bool} {r : Except Error α} {f : α → Block β} (hr : r = .ok a)
    (hf : Leads view (exec readOnly (f a)) d result d') :
    Leads view (exec readOnly (Block.lift r >>= f)) d result d' := by
  subst hr
  exact hf

theorem lift_bind_error {readOnly : Bool} {r : Except Error α} {f : α → Block β} {e : Error}
    (hr : r = .error e) : Leads view (exec readOnly (Block.lift r >>= f)) d (.error e) d := by
  subst hr
  exact leads_of_eq fun _ => rfl

end Leads

/-! ## Steps -/

namespace Faithful

variable {kind : Kind} {id : Int} {a : Attributes}

/-- The row of an entity reads as the entity. -/
theorem getEntity (h : Faithful view) (hd : d.pending = []) {e? : Option Entity}
    (he : d.current.Shows kind id e?) (lock : Bool) :
    Leads view (Work.exec (Work.getEntity kind id lock)) d (.ok e?) d := by
  rintro session rfl
  obtain ⟨hloaded, hview⟩ := h.find (.entities kind) id lock session hd
  unfold Contents.Shows at he
  rw [Work.getEntity, Work.exec_bind_ok (Work.exec_call ..)]
  -- The stored row stands between the entity and the row that is loaded.
  generalize (view session).current.find? (.entities kind) id = row? at he hloaded
  generalize (Session.call (.find (.entities kind) id lock) session).1 = loaded? at hloaded ⊢
  cases hloaded with
  | none =>
    cases he
    exact ⟨rfl, hview⟩
  | some hloaded =>
    cases he with
    | some hrow =>
      obtain ⟨rfl, hrow⟩ := hrow
      simp only [hrow.entity_of_alike hloaded]
      exact ⟨rfl, hview⟩

theorem call_add (h : Faithful view) (table : Table) (row : Row) :
    Leads view (Work.exec (Work.call (.add table row))) d (.ok ()) (d.add table row) := by
  rintro session rfl
  exact ⟨rfl, h.add table row session⟩

theorem call_assign (h : Faithful view) {table : Table} {key : Int}
    (hrow : (d.current.find? table key).isSome = true) :
    Leads view (Work.exec (Work.assign table key a)) d (.ok ()) (d.assign table key a) := by
  rintro session rfl
  exact ⟨rfl, h.assign table key a session hrow⟩

theorem call_flush (h : Faithful view) :
    Leads view (Work.exec (Work.call .flush)) d (.ok ()) d.flush := by
  rintro session rfl
  exact ⟨rfl, h.flush session⟩

/-- Writing a row that was added inserts the row. -/
theorem flush_add (h : Faithful view) (hd : d.pending = []) (table : Table) (row : Row) :
    Leads view (Work.exec (Work.call .flush)) (d.add table row) (.ok ()) (d.insert table row) :=
  RowStore.flush_add hd ▸ h.call_flush

/-- The row that was inserted last is read back with its key. -/
theorem refresh_insert (h : Faithful view) (hd : d.pending = []) (ha : kind.Normal a) :
    Leads view (Work.exec do (← Work.call (.refresh (.entities kind) (.ofNew kind a))).entity kind)
      (d.insert (.entities kind) (.ofNew kind a)) (.ok ⟨d.current.next (.entities kind), kind, a⟩)
      (d.insert (.entities kind) (.ofNew kind a)) := by
  intro session hsession
  have hpending : (view session).pending = [] := by rw [hsession]; exact hd
  have hlast : ((view session).current.rows (.entities kind)).getLast? =
      some (d.current.next (.entities kind),
        (Row.ofNew kind a).keyed (.entities kind) (d.current.next (.entities kind))) := by
    rw [hsession, RowStore.insert, Contents.rows_insert_self, List.getLast?_concat]
  obtain ⟨hloaded, hview⟩ := h.refresh _ _ _ session hpending hlast
  rw [Work.exec_bind_ok (Work.exec_call ..), Work.exec_liftM]
  exact ⟨(Row.holds_ofNew ha _).entity_of_alike hloaded, hview.trans hsession⟩

theorem requireRow (h : Faithful view) (hd : d.pending = [])
    (hrow : (d.current.find? (.entities kind) id).isSome = true) :
    Leads view (Work.exec (Work.requireRow kind id)) d (.ok ()) d := by
  rintro session rfl
  obtain ⟨hloaded, hview⟩ := h.find (.entities kind) id false session hd
  have hsome := isSome_eq_of_rel hloaded
  rw [hrow] at hsome
  rw [Work.requireRow, Work.exec_bind_ok (Work.exec_call ..), Option.isNone_eq_false_iff.2 hsome]
  exact ⟨rfl, hview⟩

/-- Writing a new entity inserts its row under the next id. -/
theorem insertEntity (h : Faithful view) (hd : d.pending = []) (ha : kind.Normal a) :
    Leads view (Work.exec (Work.insertEntity kind a.toValue)) d
      (.ok ⟨d.current.next (.entities kind), kind, a⟩)
      (d.insert (.entities kind) (.ofNew kind a)) := by
  have hrow : Leads view (Work.exec (liftM (Row.ofAttributes? (.entities kind) a.toValue))) d
      (.ok (.ofNew kind a)) d := by
    refine leads_of_eq fun session => ?_
    rw [Work.exec_liftM, Row.ofAttributes?_eq_ok ha]
  refine hrow.work_bind ((h.call_add _ _).work_bind ?_)
  exact (h.flush_add hd _ _).work_bind (h.refresh_insert hd ha)

/-- Overwriting an entity that has a row overwrites its row. -/
theorem saveEntity (h : Faithful view) (hd : d.pending = []) {e : Entity}
    (hrow : (d.current.find? (.entities e.kind) e.id).isSome = true) :
    Leads view (Work.exec (Work.saveEntity e)) d (.ok ())
      (d.assign (.entities e.kind) e.id e.attributes) := by
  refine (h.requireRow hd hrow).work_bind (.work_bind (h.call_assign hrow) ?_)
  have hflush := h.call_flush (d := d.assign (.entities e.kind) e.id e.attributes)
  rwa [RowStore.flush_eq_self (show (d.assign ..).pending = [] from hd)] at hflush

/-- Appending to a log of an entity that has a row inserts the row of the entry. -/
theorem appendRow (h : Faithful view) (hd : d.pending = [])
    (hrow : (d.current.find? (.entities kind) id).isSome = true) (log : Table) (row : Row) :
    Leads view (Work.exec (Work.appendRow kind id log row)) d (.ok ()) (d.insert log row) :=
  (h.requireRow hd hrow).work_bind ((h.call_add log row).work_bind (h.flush_add hd log row))

end Faithful

end Chronicle.Relational
