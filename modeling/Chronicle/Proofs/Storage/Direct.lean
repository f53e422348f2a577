import Chronicle.Proofs.Storage.Integrity
import Chronicle.Proofs.Storage.Written

/-!
# Steps on a private copy

A transaction stages its writes and publishes them at its end. It could as well work on a private
copy of the store, which every write changes at once and which takes the place of the store at the
end. Queries of the logs see the store all the same, not the copy.

## Main definitions

* `Store.carryOut` — a step on a private copy of a store.
* `Staging.Copies` — the private copy that a transaction amounts to.
* `Step.AnsweredFrom` — what a step is answered where certain entities are seen.

## Main statements

* `Staging.Copies.perform` — a step keeps the copy.
* `Staging.Copies.publish` — what is published is the copy.
* `Store.find?_carryOut`, `Store.answeredFrom_carryOut` — what a step does to the entities of a
  copy, and what it is answered from them.
-/

namespace Chronicle

namespace Store

/-- Whether no entry of the logs knows the offset of its clock. -/
structure Naive (s : Store) : Prop where
  modifications : ∀ kind, Timeline.Alike Modification.timestamp false (s.modifications.ofKind kind)
  additions : ∀ kind, Timeline.Alike Addition.timestamp false (s.additions.ofKind kind)

/-- The store with an entity written under its id. -/
def write (s : Store) (e : Entity) : Store :=
  { s with entities := s.entities.modify e.kind (·.upsert e) }

/-- Goes on with a changed copy of a store if the copy has an entity. -/
def onEntity (copy : Store) (kind : Kind) (id : Int) (changed : Store) :
    Except Error Unit × Store :=
  if (copy.find? kind id).isSome then (.ok (), changed)
  else (.error (.unknownEntity kind.name id), copy)

/-- Carries out a step on a private copy of a store. Queries of the logs see the store. -/
def carryOut (s copy : Store) : (step : Step) → Except Error step.Answer × Store
  | .getEntity kind id _ => (.ok (copy.find? kind id), copy)
  | .listEntities kind => (.ok (copy.entities.get kind).rows, copy)
  | .insertEntity kind attributes =>
    let id := copy.nextIds.get kind
    let copy := { copy with nextIds := copy.nextIds.modify kind (· + 1) }
    match Attributes.ofValue? attributes with
    | some attributes => (.ok ⟨id, kind, attributes⟩, copy.write ⟨id, kind, attributes⟩)
    | none => (.error (.invalid [⟨["attributes"], .notAnObject⟩]), copy)
  | .saveEntity e => copy.onEntity e.kind e.id (copy.write e)
  | .appendModification m =>
    copy.onEntity m.kind m.entityId { copy with modifications := copy.modifications.place m }
  | .appendAddition a =>
    copy.onEntity a.kind a.entityId { copy with additions := copy.additions.place a }
  | .modifications kind filter => (s.modifications.entries kind filter, copy)
  | .additions kind since => (s.additions.entries kind since, copy)

theorem find?_write (s : Store) (e : Entity) :
    (s.write e).find? =
      fun kind id => if kind = e.kind ∧ id = e.id then some e else s.find? kind id := by
  funext kind id
  exact ByKind.get?_upsert s.entities e kind id

end Store

/-! ## The copy of a transaction -/

namespace Staging

/-- Whether a transaction of a store, with what it has staged, amounts to a private copy of the
store. -/
structure Copies (s : Store) (st : Staging) (copy : Store) : Prop where
  writable : st.readOnly = false
  records : s.SameRecords st.store
  nextIds : copy.nextIds = st.store.nextIds
  find? : st.find? = copy.find?
  modifications : copy.modifications = st.modifications.foldl ModificationLog.place s.modifications
  additions : copy.additions = st.additions.foldl AdditionLog.place s.additions

theorem copies_start (s : Store) : Copies s (.start s .transaction) s where
  writable := rfl
  records := .refl s
  nextIds := rfl
  find? := by
    funext kind id
    exact find?_start s .transaction kind id
  modifications := rfl
  additions := rfl

namespace Copies

variable {s copy : Store} {st : Staging}

/-- The tables of the copy are those of the store with what is staged laid over them. -/
theorem entities (h : Copies s st copy) :
    .zipWith EntityTable.overlay st.store.entities st.entities = copy.entities := by
  refine ByKind.ext_get fun kind => EntityTable.ext_get? fun id => ?_
  rw [ByKind.get_zipWith, EntityTable.get?_overlay]
  exact congrFun (congrFun h.find? kind) id

theorem list (h : Copies s st copy) (kind : Kind) :
    st.list kind = (copy.entities.get kind).rows := by
  rw [Staging.list, ← h.entities, ByKind.get_zipWith]

theorem takeId (h : Copies s st copy) (kind : Kind) :
    Copies s (st.takeId kind).2 { copy with nextIds := copy.nextIds.modify kind (· + 1) } where
  writable := h.writable
  records := ⟨h.records.entities, h.records.modifications, h.records.additions⟩
  nextIds := congrArg (·.modify kind (· + 1)) h.nextIds
  find? := h.find?
  modifications := h.modifications
  additions := h.additions

/-- A staged entity is written at once on the copy. -/
theorem stage (h : Copies s st copy) (e : Entity) : Copies s (st.stage e) (copy.write e) where
  writable := h.writable
  records := h.records
  nextIds := h.nextIds
  find? := by
    funext kind id
    rw [find?_stage, h.find?, Store.find?_write]
  modifications := h.modifications
  additions := h.additions

theorem appendModification (h : Copies s st copy) (m : Modification) :
    Copies s { st with modifications := st.modifications ++ [m] }
      { copy with modifications := copy.modifications.place m } where
  writable := h.writable
  records := h.records
  nextIds := h.nextIds
  find? := h.find?
  modifications := by
    rw [List.foldl_concat, h.modifications]
  additions := h.additions

theorem appendAddition (h : Copies s st copy) (a : Addition) :
    Copies s { st with additions := st.additions ++ [a] }
      { copy with additions := copy.additions.place a } where
  writable := h.writable
  records := h.records
  nextIds := h.nextIds
  find? := h.find?
  modifications := h.modifications
  additions := by
    rw [List.foldl_concat, h.additions]

/-- An entity that is required is found in the staging if the copy has it. -/
theorem onEntity (h : Copies s st copy) (kind : Kind) (id : Int) {st' : Staging} {copy' : Store}
    (h' : Copies s st' copy') :
    let answered : Except Error Unit × Staging :=
      match st.requireEntity kind id with
      | .error e => (.error e, st)
      | .ok () => (.ok (), st')
    answered.1 = (copy.onEntity kind id copy').1 ∧
      Copies s answered.2 (copy.onEntity kind id copy').2 := by
  cases hfound : (copy.find? kind id).isSome with
  | true =>
    simp only [requireEntity, Store.onEntity, h.find?, hfound, if_true]
    exact ⟨trivial, h'⟩
  | false =>
    simp only [requireEntity, Store.onEntity, h.find?, hfound]
    exact ⟨rfl, h⟩

theorem insert (h : Copies s st copy) (kind : Kind) (attributes : Value) :
    (st.insert kind attributes).1 = (s.carryOut copy (.insertEntity kind attributes)).1 ∧
      Copies s (st.insert kind attributes).2
        (s.carryOut copy (.insertEntity kind attributes)).2 := by
  have hid : (st.takeId kind).1 = copy.nextIds.get kind := by rw [h.nextIds]; rfl
  rw [Staging.insert, Store.carryOut]
  cases Attributes.ofValue? attributes with
  | none => exact ⟨rfl, h.takeId kind⟩
  | some attributes =>
    simp only [hid]
    exact ⟨trivial, (h.takeId kind).stage _⟩

/-- A step is answered as on the copy, and keeps the copy. -/
theorem perform (h : Copies s st copy) (step : Step) :
    (st.perform step).1 = (s.carryOut copy step).1 ∧
      Copies s (st.perform step).2 (s.carryOut copy step).2 := by
  have hwritable : ¬ st.readOnly = true := by simp [h.writable]
  cases step with
  | getEntity kind id => exact ⟨congrArg Except.ok (congrFun (congrFun h.find? kind) id), h⟩
  | listEntities kind => exact ⟨congrArg Except.ok (h.list kind), h⟩
  | insertEntity kind attributes =>
    rw [Staging.perform, if_neg hwritable]
    exact h.insert kind attributes
  | saveEntity e =>
    rw [Staging.perform, if_neg hwritable]
    exact h.onEntity e.kind e.id (h.stage e)
  | appendModification m =>
    rw [Staging.perform, if_neg hwritable]
    exact h.onEntity m.kind m.entityId (h.appendModification m)
  | appendAddition a =>
    rw [Staging.perform, if_neg hwritable]
    exact h.onEntity a.kind a.entityId (h.appendAddition a)
  | modifications kind filter =>
    exact ⟨congrArg (·.entries kind filter) h.records.modifications, h⟩
  | additions kind since => exact ⟨congrArg (·.entries kind since) h.records.additions, h⟩

/-- A program comes to the same on a transaction and on its copy, by the same steps, and keeps the
copy. -/
theorem run {α : Type} (program : Program α) (s : Store) :
    (Staging.run program (.start s .transaction)).1 = (program.runWith s.carryOut s).1 ∧
      program.takenWith Staging.perform (.start s .transaction) =
        program.takenWith s.carryOut s ∧
      Copies s (Staging.run program (.start s .transaction)).2
        (program.runWith s.carryOut s).2 := by
  rw [run_eq_runWith]
  exact Program.runWith_alike (fun _ _ step h => h.perform step) program (copies_start s)

/-- Where no entry knows an offset, what is published is the copy. -/
theorem publish (h : Copies s st copy) (hs : s.Naive)
    (hmodifications : ∀ m ∈ st.modifications, m.timestamp.isAware = false)
    (hadditions : ∀ a ∈ st.additions, a.timestamp.isAware = false) :
    st.publish = (copy, none) := by
  have hlog : appendAll ModificationLog.append st.store.modifications st.modifications =
      (copy.modifications, none) := by
    rw [h.records.modifications, h.modifications]
    exact appendAll_modifications_eq hs.modifications hmodifications
  have hlog' : appendAll AdditionLog.append st.store.additions st.additions =
      (copy.additions, none) := by
    rw [h.records.additions, h.additions]
    exact appendAll_additions_eq hs.additions hadditions
  refine (publish_eq h.entities hlog hlog').trans ?_
  simp only [← h.nextIds]

end Copies

end Staging

/-! ## What a step is answered -/

namespace Store

/-- The entities of the copy are overwritten by what a step has written. -/
theorem find?_carryOut (s copy : Store) (step : Step) :
    (s.carryOut copy step).2.find? =
      Taken.overwrite copy.find? ⟨step, (s.carryOut copy step).1⟩ := by
  cases step with
  | getEntity | listEntities | modifications | additions => rfl
  | insertEntity kind attributes =>
    rw [carryOut]
    cases Attributes.ofValue? attributes with
    | none => rfl
    | some attributes => exact find?_write _ _
  | saveEntity e =>
    simp only [carryOut, onEntity]
    split
    · exact find?_write copy e
    · rfl
  | appendModification | appendAddition =>
    simp only [carryOut, onEntity]
    split <;> rfl

end Store

/-- What a step is answered where certain entities are seen: entities and their absence by what is
seen, log entries by the store. -/
def Step.AnsweredFrom (s : Store) (view : Kind → Int → Option Entity) :
    (step : Step) → Except Error step.Answer → Prop
  | .getEntity kind id _, answer => answer = .ok (view kind id)
  | .listEntities kind, answer => ∃ es, answer = .ok es ∧
      es.Pairwise (fun a b => a.id < b.id) ∧ ∀ id e, view kind id = some e ↔ e ∈ es ∧ e.id = id
  | .insertEntity kind attributes, answer =>
    match Attributes.ofValue? attributes with
    | some attributes => ∃ id, answer = .ok ⟨id, kind, attributes⟩
    | none => answer = .error (.invalid [⟨["attributes"], .notAnObject⟩])
  | .saveEntity e, answer => answer =
      if (view e.kind e.id).isSome then .ok () else .error (.unknownEntity e.kind.name e.id)
  | .appendModification m, answer => answer =
      if (view m.kind m.entityId).isSome then .ok ()
      else .error (.unknownEntity m.kind.name m.entityId)
  | .appendAddition a, answer => answer =
      if (view a.kind a.entityId).isSome then .ok ()
      else .error (.unknownEntity a.kind.name a.entityId)
  | .modifications kind filter, answer => answer = s.modifications.entries kind filter
  | .additions kind since, answer => answer = s.additions.entries kind since

/-- A step is answered from the entities of the copy and the logs of the store. -/
theorem Store.answeredFrom_carryOut (s copy : Store) (step : Step) :
    step.AnsweredFrom s copy.find? (s.carryOut copy step).1 := by
  cases step with
  | getEntity | modifications | additions => rfl
  | listEntities kind =>
    exact ⟨_, rfl, (copy.entities.get kind).ordered, fun id e => EntityTable.get?_eq_some_iff⟩
  | insertEntity kind attributes =>
    simp only [Step.AnsweredFrom, carryOut]
    cases Attributes.ofValue? attributes with
    | none => rfl
    | some attributes => exact ⟨_, rfl⟩
  | saveEntity | appendModification | appendAddition =>
    simp only [Step.AnsweredFrom, carryOut, onEntity]
    split <;> rfl

end Chronicle
